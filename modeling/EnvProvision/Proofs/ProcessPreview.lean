import EnvProvision.Proofs.Guard
import EnvProvision.Proofs.Preview
import EnvProvision.Proofs.ProcessVariables

namespace EnvProvision

namespace Error

-- The errors of writes that the variables of a process refuse.
def isRefusal : Error → Bool
  | environment _ .invalidName | environment _ .nulInValue => true
  | _ => false

end Error

namespace ProcessVariables

-- The error that a write of `value` to `name` ends with.
def refusal? (name value : String) : Option Error :=
  (fault? name value).map (.environment name)

theorem refusal?_eq_none_iff {name value : String} :
    refusal? name value = none ↔ fault? name value = none :=
  Option.map_eq_none_iff

theorem isRefusal_of_refusal? {name value : String} {e : Error}
    (h : refusal? name value = some e) : e.isRefusal := by
  obtain ⟨fault, hf, rfl⟩ := Option.map_eq_some_iff.mp h
  unfold fault? at hf
  split at hf
  case isTrue => cases hf; rfl
  case isFalse =>
    split at hf
    case isTrue => cases hf; rfl
    case isFalse => cases hf

-- The variables hold `writes`, and for the rest what `base` holds.
structure Extends (base : ProcessVariables) (writes : List (String × String))
    (env : ProcessVariables) : Prop where
  written : ∀ write ∈ writes, env.bytes? (.ofText write.1) = some (.ofText write.2)
  kept : ∀ name, (∀ write ∈ writes, name ≠ .ofText write.1) → env.bytes? name = base.bytes? name

theorem extends_nil (env : ProcessVariables) : env.Extends [] env where
  written _ h := nomatch h
  kept _ _ := rfl

end ProcessVariables

namespace Overlay

open ProcessVariables

-- The overlay is one over `base`, and the variables hold what was written to it.
structure Shows (base : ProcessVariables) (overlay : Overlay ProcessVariables)
    (env : ProcessVariables) : Prop where
  base_eq : overlay.base = base
  isValidName : ∀ write ∈ overlay.written.entries, isValidName write.1
  extends_written : base.Extends overlay.written.entries env

theorem shows_ofBase (env : ProcessVariables) : Shows env (ofBase env) env where
  base_eq := rfl
  isValidName _ h := nomatch h
  extends_written := extends_nil env

variable {base env : ProcessVariables} {overlay : Overlay ProcessVariables} {name value : String}

theorem Shows.value?_eq (h : Shows base overlay env) :
    Variables.value? overlay = Variables.value? env := by
  funext name
  simp only [Variables.value?]
  split
  case h_1 value hw =>
    have hm := Table.get?_eq_some_iff.mp hw
    exact (value?_of_text (h.isValidName _ hm) (h.extends_written.written _ hm)
      (Bytes.text?_ofText value)).symm
  case h_2 hw =>
    have hkept : env.bytes? (.ofText name) = base.bytes? (.ofText name) := by
      refine h.extends_written.kept _ fun write hm heq => ?_
      obtain ⟨key, value⟩ := write
      obtain rfl := Bytes.ofText_inj heq
      exact Table.get?_eq_none_iff.mp hw value hm
    unfold ProcessVariables.value?
    rw [hkept, h.base_eq]

theorem Shows.insert (h : Shows base overlay env) (hf : fault? name value = none) :
    Shows base { overlay with written := overlay.written.insert name value }
      (env.setBytes (.ofText name) (.ofText value)) where
  base_eq := h.base_eq
  isValidName write hm := by
    obtain ⟨rfl, _⟩ | ⟨_, hm⟩ := Table.mem_entries_insert_iff.mp hm
    case inl => exact isValidName_of_no_fault hf
    case inr => exact h.isValidName _ hm
  extends_written.written write hm := by
    rw [bytes?_setBytes]
    obtain ⟨hn, hv⟩ | ⟨hne, hm⟩ := Table.mem_entries_insert_iff.mp hm
    case inl => rw [if_pos (congrArg _ hn), hv]
    case inr =>
      rw [if_neg fun heq => hne (Bytes.ofText_inj heq)]
      exact h.extends_written.written _ hm
  extends_written.kept n hn := by
    have hnew : n ≠ .ofText name :=
      hn (name, value) (Table.mem_entries_insert_iff.mpr (.inl ⟨rfl, rfl⟩))
    rw [bytes?_setBytes, if_neg hnew]
    refine h.extends_written.kept n fun write hm heq => ?_
    have hne : write.1 ≠ name := fun hk => hnew (heq.trans (congrArg _ hk))
    exact hn write (Table.mem_entries_insert_iff.mpr (.inr ⟨hne, hm⟩)) heq

theorem restriction_shows (base : ProcessVariables) :
    Restriction (Shows base) ProcessVariables.refusal? where
  value? h := h.value?_eq
  assign_error _ ha := nomatch ha
  accepted h hf ha := by
    cases ha
    rw [refusal?_eq_none_iff] at hf
    exact ⟨_, assign_of_no_fault hf, h.insert hf⟩
  refused h := by
    obtain ⟨fault, hf, rfl⟩ := Option.map_eq_some_iff.mp h
    exact assign_of_fault hf

theorem not_isRefusal_of_value? {overlay : Overlay ProcessVariables} {name : String} {e : Error}
    (h : Variables.value? overlay name = .error e) : ¬e.isRefusal := by
  rw [ProcessVariables.error_of_value? (error_of_value? h)]
  exact Bool.false_ne_true

end Overlay

namespace Batch

variable {batch : Batch} {record : Record} {value? : Option String} {visits : List Visit}
  {e : Error} {events : List Event}

theorem resolveRecord_not_isRefusal (batch : Batch) [LawfulStorage batch.storage]
    (overlay : Overlay ProcessVariables) (record : Record) :
    ¬(batch.resolveRecord (Variables.value? overlay) record).FailsWith (·.isRefusal) := by
  obtain ⟨e, he, hguard⟩ | ht :=
    batch.evaluatesWithin_resolveWithin (Variables.value? overlay) depthLimit [] record
  case inl =>
    rintro ⟨_, he', hrefusal⟩
    obtain rfl := Except.error.inj (he.symm.trans he')
    cases e <;> simp [Error.isGuard, Error.isRefusal] at hguard hrefusal
  case inr =>
    refine ht.not_failsWith (fun _ => Bool.false_ne_true)
      (fun _ _ he => Overlay.not_isRefusal_of_value? he) fun _ _ he => ?_
    obtain ⟨_, _, _, _, rfl⟩ := LawfulStorage.error_of_retrieve he
    exact Bool.false_ne_true

theorem Stop.not_isRefusal [LawfulStorage batch.storage] {overlay : Overlay ProcessVariables}
    (h : batch.Stop overlay record e events) : ¬e.isRefusal := by
  cases h with
  | unreadable hset =>
    cases hv : Variables.value? overlay record.key with
    | ok value? => rw [Variables.isSet, hv] at hset; cases hset
    | error e' =>
      rw [Variables.isSet, hv] at hset
      cases hset
      exact Overlay.not_isRefusal_of_value? hv
  | unresolved _ hres =>
    have hfails := batch.resolveRecord_not_isRefusal overlay record
    rwa [hres, Traced.failsWith_error] at hfails
  | unwritable _ _ ha => cases ha

end Batch

namespace Loader

theorem lawfulStorage_of_batch {loader : Loader} {files : Files} {environment : String}
    {batch : Batch} (hs : ∀ store ∈ loader.source.store, LawfulStore store)
    (hb : (loader.batch files environment).outcome = .ok batch) : LawfulStorage batch.storage := by
  obtain ⟨found, _, storage, hsetup, rfl⟩ := batch_eq_ok_iff.mp hb
  have := StorageSource.lawfulStorage_of_setup hs hsetup
  infer_instance

theorem load_shows (loader : Loader) (files : Files) (environment : String)
    (env : ProcessVariables) :
    let dry := loader.load files environment (Overlay.ofBase env)
    Accepted ProcessVariables.refusal? dry.env.written.entries →
      dry.Matches (Overlay.Shows env) (loader.load files environment env) := by
  intro dry hw
  cases hb : (loader.batch files environment).outcome with
  | error e => exact load_matches_of_error hb (Overlay.shows_ofBase env)
  | ok batch =>
    obtain ⟨visits, _, hr, hsteps, _, haccepted, _⟩ :=
      (Overlay.restriction_shows env).load (Overlay.shows_ofBase env) hb
    rw [hsteps.entries_written (nodup_keys_of_passed hr)] at hw
    exact (haccepted hw).left

-- The load into the overlay never ends with a refusal, unless a store brings one up, so it cannot
-- end as this load does.
theorem load_of_refused (loader : Loader) (files : Files) (environment : String)
    (env : ProcessVariables) :
    let dry := loader.load files environment (Overlay.ofBase env)
    let real := loader.load files environment env
    ∀ before key value after e, dry.env.written.entries = before ++ (key, value) :: after →
      Accepted ProcessVariables.refusal? before →
      ProcessVariables.refusal? key value = some e →
      real.outcome = .error e ∧ env.Extends before real.env ∧
        ((∀ store ∈ loader.source.store, LawfulStore store) →
          ∀ e', dry.outcome = .error e' → ¬e'.isRefusal) := by
  intro dry real before key value after e hw hb he
  cases hbatch : (loader.batch files environment).outcome with
  | error e' =>
    rw [(load_of_error hbatch).right] at hw
    cases before <;> cases hw
  | ok batch =>
    obtain ⟨visits, _, hr, hsteps, _, _, hrefused⟩ :=
      (Overlay.restriction_shows env).load (Overlay.shows_ofBase env) hbatch
    have hd := nodup_keys_of_passed hr
    rw [hsteps.entries_written hd] at hw
    obtain ⟨hout, earlier, later, mid, _, rfl, rfl, hearlier, hmid, _⟩ :=
      hrefused before key value after e hw hb he
    refine ⟨hout, ?_, fun hstore e' he' => ?_⟩
    · rw [List.map_append, List.map_append] at hd
      rw [← hearlier.entries_written (List.nodup_append.mp hd).left]
      exact hmid.extends_written
    · obtain ⟨_, _, _, _, _, ⟨_, hok⟩ | ⟨_, _, _, _, _, hstop, hout'⟩⟩ :=
        exists_steps_of_load hbatch (Overlay.ofBase env)
      case inl => cases he'.symm.trans hok
      case inr =>
        cases he'.symm.trans hout'
        have := lawfulStorage_of_batch hstore hbatch
        exact hstop.not_isRefusal

-- A preview over the variables of a process and the load agree if no write of the preview is one
-- that these variables refuse, and then the load sets what the preview lists. They agree only then,
-- unless a store fails with the error of a refusal itself. If a write is refused, the load ends
-- with the first refusal, and leaves the writes before it.
theorem preview_eq_load_iff_accepted (loader : Loader) (files : Files) (environment : String)
    (env : ProcessVariables) :
    let real := loader.load files environment env
    let dry := loader.load files environment (Overlay.ofBase env)
    let preview := loader.preview files environment env
    let writes := dry.env.written.entries
    ((∀ store ∈ loader.source.store, LawfulStore store) →
        (preview.outcome.map Table.keys = real.outcome.map Report.exported ↔
          Accepted ProcessVariables.refusal? writes)) ∧
      (Accepted ProcessVariables.refusal? writes →
        preview.outcome.map Table.keys = real.outcome.map Report.exported ∧
        preview.events = real.events ∧ env.Extends writes real.env) ∧
      (∀ pairs, preview.outcome = .ok pairs → pairs.entries = writes) ∧
      ∀ before key value after e, writes = before ++ (key, value) :: after →
        Accepted ProcessVariables.refusal? before →
        ProcessVariables.refusal? key value = some e →
        real.outcome = .error e ∧ env.Extends before real.env := by
  intro real dry preview writes
  obtain ⟨hkeys, hpairs⟩ : preview.outcome.map Table.keys = dry.outcome.map Report.exported ∧ _ :=
    loader.preview_eq_dry files environment env
  have haccepted := loader.load_shows files environment env
  have hrefused := loader.load_of_refused files environment env
  have hagree (hw : Accepted ProcessVariables.refusal? writes) :
      preview.outcome.map Table.keys = real.outcome.map Report.exported := by
    rw [hkeys, (haccepted hw).outcome]
  refine ⟨fun hstore => ⟨fun heq => ?only, hagree⟩, fun hw => ?accepted,
    fun pairs h => (hpairs pairs h).right, ?refused⟩
  case only =>
    by_contra hw
    obtain ⟨before, key, value, after, e, hw, hb, he⟩ := exists_refused_of_not_accepted hw
    obtain ⟨hreal, _, hdry⟩ := hrefused before key value after e hw hb he
    rw [hkeys, hreal] at heq
    cases hout : dry.outcome with
    | ok report => rw [hout] at heq; cases heq
    | error e' =>
      rw [hout] at heq
      cases heq
      exact hdry hstore e hout (ProcessVariables.isRefusal_of_refusal? he)
  case accepted =>
    exact ⟨hagree hw, (haccepted hw).events, (haccepted hw).env.extends_written⟩
  case refused =>
    intro before key value after e hw hb he
    obtain ⟨hreal, hext, _⟩ := hrefused before key value after e hw hb he
    exact ⟨hreal, hext⟩

-- The overlay takes a name that no variable of a process has.
theorem preview_ok_of_load_error :
    let loader := ofBindings [("A=B", "x")]
    let env := ProcessVariables.ofList []
    (loader.preview ⟨[], []⟩ "dev" env).outcome = .ok (.ofList [("A=B", "x")]) ∧
      (loader.load ⟨[], []⟩ "dev" env).outcome = .error (.environment "A=B" .invalidName) := by
  decide +kernel

end Loader

end EnvProvision
