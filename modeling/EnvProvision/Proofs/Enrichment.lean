import EnvProvision.Proofs.Concealment
import Mathlib.Control.Monad.Basic

namespace EnvProvision

-- Where the first outcome is a value, the second is one that is related to it.
def Upholds {α β : Type} (R : α → β → Prop) (first : Except Error α) (second : Except Error β) :
    Prop :=
  ∀ a, first = .ok a → ∃ b, second = .ok b ∧ R a b

-- The second value counts if the first one does.
def Richer (value? value?' : Option String) : Prop :=
  nonEmpty value? ≠ none → nonEmpty value?' ≠ none

-- What is found is never empty. The second search finds something where the first one does.
inductive FindsMore : Option String → Option String → Prop
  | neither : FindsMore none none
  | gained {value} : value ≠ "" → FindsMore none (some value)
  | both {value value'} : value ≠ "" → value' ≠ "" → FindsMore (some value) (some value')

theorem Richer.findsMore {a b : Option String} (h : Richer a b) :
    FindsMore (nonEmpty a) (nonEmpty b) := by
  unfold Richer at h
  cases ha : nonEmpty a with
  | none =>
    cases hb : nonEmpty b with
    | none => exact .neither
    | some value => exact .gained (nonEmpty_eq_some_iff.mp hb).right
  | some value =>
    cases hb : nonEmpty b with
    | none => exact absurd hb (h (by simp [ha]))
    | some value' =>
      exact .both (nonEmpty_eq_some_iff.mp ha).right (nonEmpty_eq_some_iff.mp hb).right

theorem FindsMore.some_of {a b : Option String} (h : FindsMore a b) {value : String}
    (hne : value ≠ "") : FindsMore a (some value) := by
  cases h with
  | neither | gained => exact .gained hne
  | both ha => exact .both ha hne

theorem Richer.refl (value? : Option String) : Richer value? value? :=
  id

theorem SameEmptiness.richer {a b : String} (h : SameEmptiness a b) :
    Richer (some a) (some b) := by
  unfold SameEmptiness at h
  unfold Richer
  rw [Ne, nonEmpty_some_eq_none_iff, Ne, nonEmpty_some_eq_none_iff, h]
  exact id

namespace Upholds

variable {α β γ δ : Type} {R : α → β → Prop} {S : γ → δ → Prop} {t : Traced α} {u : Traced β}

theorem ok {a : α} {b : β} (h : R a b) : Upholds R (.ok a) (.ok b) := by
  rintro _ ⟨⟩
  exact ⟨b, rfl, h⟩

theorem of_error {e : Error} {second : Except Error β} : Upholds R (.error e) second :=
  fun _ h => nomatch h

theorem refl {R : α → α → Prop} (h : ∀ a, R a a) (outcome : Except Error α) :
    Upholds R outcome outcome :=
  fun a ha => ⟨a, ha, h a⟩

theorem map {a : Except Error α} {b : Except Error β} {f : α → γ} {g : β → δ}
    (h : Upholds R a b) (hf : ∀ a b, R a b → S (f a) (g b)) : Upholds S (a.map f) (b.map g) := by
  cases a with
  | error e => exact .of_error
  | ok x =>
    obtain ⟨y, rfl, hr⟩ := h x rfl
    exact .ok (hf x y hr)

protected theorem bind {f : α → Traced γ} {g : β → Traced δ} (h : Upholds R t.outcome u.outcome)
    (hf : ∀ a b, R a b → Upholds S (f a).outcome (g b).outcome) :
    Upholds S (t >>= f).outcome (u >>= g).outcome := by
  intro c hc
  obtain ⟨a, ha, hc⟩ := Traced.bind_eq_ok_iff.mp hc
  obtain ⟨b, hb, hr⟩ := h a ha
  obtain ⟨d, hd, hs⟩ := hf a b hr c hc
  exact ⟨d, Traced.bind_eq_ok_iff.mpr ⟨b, hb, hd⟩, hs⟩

-- Where only the second search finds something at once, the first one goes on, and the second need
-- not do so.
theorem orNext {t u : Traced (Option String)} {f g : Unit → Traced (Option String)}
    (h : Upholds FindsMore t.outcome u.outcome)
    (hf : Upholds FindsMore (f ()).outcome (g ()).outcome) :
    Upholds FindsMore (t.orNext f).outcome (u.orNext g).outcome := by
  unfold Traced.orNext
  intro found hfound
  obtain ⟨a, ha, hfound⟩ := Traced.bind_eq_ok_iff.mp hfound
  obtain ⟨b, hb, hab⟩ := h a ha
  cases hab with
  | neither =>
    obtain ⟨found', hg, hmore⟩ := hf found hfound
    exact ⟨found', Traced.bind_eq_ok_iff.mpr ⟨none, hb, hg⟩, hmore⟩
  | @gained value hne =>
    obtain ⟨_, _, hmore⟩ := hf found hfound
    exact ⟨some value, Traced.bind_eq_ok_iff.mpr ⟨some value, hb, rfl⟩, hmore.some_of hne⟩
  | @both value value' hne hne' =>
    cases hfound
    exact ⟨some value', Traced.bind_eq_ok_iff.mpr ⟨some value', hb, rfl⟩, .both hne hne'⟩

end Upholds

theorem upholds_lifting : Lifting (fun t u => Upholds FindsMore t.outcome u.outcome)
    (fun t u => Upholds SameEmptiness t.outcome u.outcome) where
  absent := .ok .neither
  orNext h hf := .orNext h hf
  orMissing inner _ _ h := h.bind fun _ _ hab => by
    cases hab with
    | neither | gained => exact .of_error
    | both ha hb => exact .ok (iff_of_false ha hb)
  asSibling candidate t u h := by
    rw [Traced.outcome_asSibling, Traced.outcome_asSibling]
    exact h.map fun _ _ hv => hv.richer.findsMore
  text _ := .ok Iff.rfl
  append h h' := h.bind fun _ _ hr => h'.bind fun _ _ hs => .ok (hr.append hs)
  fail _ := .of_error

-- The second backend answers with a value that counts wherever the first one does, and fails only
-- where the first one does.
def Storage.EnrichedBy (storage storage' : Storage) : Prop :=
  ∀ key, Upholds Richer (storage.retrieve key) (storage'.retrieve key)

namespace Batch

-- The same records, over a backend that offers at least as much.
structure EnrichedBy (batch batch' : Batch) : Prop where
  get? (key : String) : batch'.get? key = batch.get? key
  storage : batch.storage.EnrichedBy batch'.storage

theorem EnrichedBy.refl (batch : Batch) : batch.EnrichedBy batch where
  get? _ := rfl
  storage _ := .refl Richer.refl _

section

variable {batch batch' : Batch} {env env' : Reader}

theorem upholds_fromEnvironment (h : ∀ c, Upholds Richer (env c) (env' c)) (candidate : String) :
    Upholds FindsMore (fromEnvironment env candidate).outcome
      (fromEnvironment env' candidate).outcome := by
  rw [outcome_fromEnvironment, outcome_fromEnvironment]
  exact (h candidate).map fun _ _ => Richer.findsMore

theorem EnrichedBy.fromStorage (hb : batch.EnrichedBy batch') (candidate : String) :
    Upholds FindsMore (batch.fromStorage candidate).outcome
      (batch'.fromStorage candidate).outcome := by
  rw [fromStorage_eq, fromStorage_eq]
  exact (hb.storage candidate).map fun _ _ => Richer.findsMore

-- The second resolution goes into no record that the first one does not go into.
theorem EnrichedBy.resolveWithin (hb : batch.EnrichedBy batch')
    (he : ∀ c, Upholds Richer (env c) (env' c)) (room : Nat) (chain : List String)
    (record : Record) :
    Upholds SameEmptiness (batch.resolveWithin env room chain record).outcome
      (batch'.resolveWithin env' room chain record).outcome :=
  upholds_lifting.resolveWithin (fun h current c => upholds_lifting.find
    (upholds_fromEnvironment he c) (hb.get? c).symm (fun sibling _ => h sibling) (hb.fromStorage c)
    current) room chain record

end

end Batch

-- Every name that is set in the first is set in the second, and counts there if it counts in the
-- first. What the second has beside these counts.
structure MemoryVariables.EnrichedBy (env env' : MemoryVariables) : Prop where
  set {name value : String} :
    env.get? name = some value → ∃ value', env'.get? name = some value' ∧ (value ≠ "" → value' ≠ "")
  added {name value : String} :
    env.get? name = none → env'.get? name = some value → value ≠ ""

namespace MemoryVariables.EnrichedBy

variable {env env' : MemoryVariables}

theorem upholds (h : env.EnrichedBy env') (name : String) :
    Upholds Richer (Variables.value? env name) (Variables.value? env' name) := by
  refine .ok ?_
  unfold Richer
  intro hcounts
  cases hv : env.get? name with
  | none =>
    rw [hv] at hcounts
    exact absurd rfl hcounts
  | some value =>
    obtain ⟨value', hv', hne⟩ := h.set hv
    rw [hv, Ne, nonEmpty_some_eq_none_iff] at hcounts
    rw [hv', Ne, nonEmpty_some_eq_none_iff]
    exact hne hcounts

-- A name that both lack is set to values of which both or neither is empty.
theorem set_both (h : env.EnrichedBy env') {a b : String} (hv : SameEmptiness a b) (name : String) :
    (env.set name a).EnrichedBy (env'.set name b) where
  set {n value} hn := by
    rw [get?_set] at *
    split at hn
    case isTrue heq =>
      cases hn
      exact ⟨b, if_pos heq, mt hv.mpr⟩
    case isFalse heq =>
      rw [if_neg heq]
      exact h.set hn
  added {n value} hn hn' := by
    rw [get?_set] at hn hn'
    split at hn
    case isTrue => cases hn
    case isFalse heq =>
      rw [if_neg heq] at hn'
      exact h.added hn hn'

-- A name that only the first lacks may be set there to any value.
theorem set_first (h : env.EnrichedBy env') {name : String} (hunset : env.get? name = none)
    {value' : String} (hset : env'.get? name = some value') (value : String) :
    (env.set name value).EnrichedBy env' where
  set {n v} hn := by
    rw [get?_set] at hn
    split at hn
    case isTrue heq =>
      subst heq
      exact ⟨value', hset, fun _ => h.added hunset hset⟩
    case isFalse => exact h.set hn
  added {n v} hn hn' := by
    rw [get?_set] at hn
    split at hn
    case isTrue => cases hn
    case isFalse => exact h.added hn hn'

end MemoryVariables.EnrichedBy

namespace Batch

variable {batch batch' : Batch} {env env' after : MemoryVariables} {record : Record}
  {value? : Option String} {visits : List Visit} {events : List Event}

-- A step over a record in the first world is matched by a step over it in the second one, which
-- skips the record if it is set there.
theorem Step.enriched (h : batch.Step env record value? after events)
    (hb : batch.EnrichedBy batch') (he : env.EnrichedBy env') :
    ∃ value?' after' events', batch'.Step env' record value?' after' events' ∧
      after.EnrichedBy after' := by
  cases h with
  | skipped hset =>
    obtain ⟨value, hv⟩ : ∃ value, env.get? record.key = some value := by
      simpa [Option.isSome_iff_exists] using hset
    obtain ⟨value', hv', _⟩ := he.set hv
    exact ⟨none, env', _, .skipped (by simp [hv']), he⟩
  | @exported value _ _ hset hr ha =>
    cases ha
    have hunset : env.get? record.key = none := by simpa using hset
    cases hv' : env'.get? record.key with
    | some value' =>
      exact ⟨none, env', _, .skipped (by simp [hv']), he.set_first hunset hv' value⟩
    | none =>
      have hres := hb.resolveWithin he.upholds depthLimit [] record
      obtain ⟨value', hr', hsame⟩ := hres value (congrArg Traced.outcome hr)
      cases hres' : batch'.resolveRecord (Variables.value? env') record with | mk outcome events'
      obtain rfl : outcome = .ok value' := (congrArg Traced.outcome hres').symm.trans hr'
      exact ⟨some value', _, _, .exported (by simp [hv']) hres' rfl, he.set_both hsame record.key⟩

theorem Steps.enriched (h : batch.Steps env visits after events) (hb : batch.EnrichedBy batch')
    (he : env.EnrichedBy env') :
    ∃ visits' after' events', visits'.map Prod.fst = visits.map Prod.fst ∧
      batch'.Steps env' visits' after' events' ∧ after.EnrichedBy after' := by
  induction h generalizing env' with
  | nil => exact ⟨[], env', [], rfl, .nil, he⟩
  | cons hs _ ih =>
    obtain ⟨value?', mid', _, hs', he'⟩ := hs.enriched hb he
    obtain ⟨visits', after', _, hv, hsteps', he''⟩ := ih he'
    exact ⟨(_, value?') :: visits', after', _, congrArg (_ :: ·) hv, .cons hs' hsteps', he''⟩

end Batch

namespace Loader

variable {loader loader' : Loader} {files files' : Files} {environment : String}
  {found found' : Section}

theorem exists_batch_of_enriched {batch : Batch}
    (hfound : loader.configuration.section? environment = some found)
    (hfound' : loader'.configuration.section? environment = some found')
    (hbindings : found'.bindings = found.bindings)
    (hs : Upholds Storage.EnrichedBy (loader.source.setup files found.storage).outcome
      (loader'.source.setup files' found'.storage).outcome)
    (hb : (loader.batch files environment).outcome = .ok batch) :
    ∃ batch', (loader'.batch files' environment).outcome = .ok batch' ∧
      batch.EnrichedBy batch' := by
  obtain ⟨_, hf, storage, hst, rfl⟩ := batch_eq_ok_iff.mp hb
  obtain rfl := Option.some.inj (hfound.symm.trans hf)
  obtain ⟨storage', hst', henriched⟩ := hs storage hst
  refine ⟨_, batch_eq_ok_iff.mpr ⟨found', hfound', storage', hst', rfl⟩, fun key => ?_, ?_⟩
  · rw [hbindings, Batch.get?, Batch.get?, Batch.table_ofEntries storage' storage]
  · rw [Batch.storage_ofEntries, Batch.storage_ofEntries]
    exact henriched

theorem records_of_bindings
    (hfound : loader.configuration.section? environment = some found)
    (hfound' : loader'.configuration.section? environment = some found')
    (hbindings : found'.bindings = found.bindings) :
    loader'.records environment = loader.records environment := by
  unfold records
  rw [hfound, hfound', Option.map_some, Option.map_some, Section.records, Section.records,
    hbindings]

-- A load that succeeds also succeeds, for a section that declares the same, where more variables
-- are set and the backend has more secrets, whatever their values.
theorem load_enriched {env env' : MemoryVariables} {report : Report}
    (hfound : loader.configuration.section? environment = some found)
    (hfound' : loader'.configuration.section? environment = some found')
    (hbindings : found'.bindings = found.bindings)
    (hs : Upholds Storage.EnrichedBy (loader.source.setup files found.storage).outcome
      (loader'.source.setup files' found'.storage).outcome)
    (he : env.EnrichedBy env')
    (hload : (loader.load files environment env).outcome = .ok report) :
    (∃ report', (loader'.load files' environment env').outcome = .ok report') ∧
      (loader.load files environment env).env.EnrichedBy
        (loader'.load files' environment env').env := by
  obtain ⟨batch, visits, _, hb, hr, hsteps, rfl⟩ := exists_steps_of_load_ok hload
  obtain ⟨batch', hb', henriched⟩ := exists_batch_of_enriched hfound hfound' hbindings hs hb
  obtain ⟨visits', env₂, _, hv, hsteps', hafter⟩ := hsteps.enriched henriched he
  rw [← records_of_bindings hfound hfound' hbindings, ← hv] at hr
  obtain ⟨hout, henv⟩ := load_of_steps hb' hr hsteps'
  rw [henv]
  exact ⟨⟨_, hout⟩, hafter⟩

-- `A` comes to its value over `B` in the first world, and from a secret in the second, where `B` is
-- set.
theorem load_enriched_elsewhere :
    let found := Section.remote [("A", "#\x7bX || B\x7d!"), ("B", "#\x7bKEY || A\x7d")]
    let loader := ofSecrets found [("KEY", "s3cret")]
    let loader' := ofSecrets found [("KEY", "0ther"), ("X", "x")]
    let first := loader.load ⟨[], []⟩ "dev" (MemoryVariables.ofList [])
    let second := loader'.load ⟨[], []⟩ "dev" (MemoryVariables.ofList [("B", "own")])
    first.outcome = .ok ⟨"dev", ["A", "B"], []⟩ ∧ first.env.get? "A" = some "s3cret!" ∧
      (∃ report, second.outcome = .ok report) ∧ second.env.get? "A" = some "x!" ∧
      first.env.EnrichedBy second.env := by
  intro found loader loader' first second
  have hfound : loader.configuration.section? "dev" = some found := rfl
  have hfound' : loader'.configuration.section? "dev" = some found := rfl
  have hsecrets (key : String) :
      Richer ((Table.ofList [("KEY", "s3cret")]).get? key)
        ((Table.ofList [("KEY", "0ther"), ("X", "x")]).get? key) := by
    unfold Richer
    by_cases hk : key = "KEY" <;> simp [Table.ofList, hk, nonEmpty]
  have hs : Upholds Storage.EnrichedBy (loader.source.setup ⟨[], []⟩ found.storage).outcome
      (loader'.source.setup ⟨[], []⟩ found.storage).outcome :=
    .ok fun key => .ok (hsecrets _)
  have he : (MemoryVariables.ofList []).EnrichedBy (.ofList [("B", "own")]) :=
    { set := by rintro _ _ ⟨⟩
      added := fun _ hn => by
        simp only [MemoryVariables.ofList, MemoryVariables.get?, Table.ofList, List.foldl,
          Table.get?_insert, Table.get?_empty] at hn
        split at hn <;> cases hn
        decide }
  have hload : first.outcome = .ok ⟨"dev", ["A", "B"], []⟩ := by decide +kernel
  obtain ⟨hsecond, hafter⟩ := load_enriched hfound hfound' rfl hs he hload
  exact ⟨hload, by decide +kernel, hsecond, by decide +kernel, hafter⟩

end Loader

end EnvProvision
