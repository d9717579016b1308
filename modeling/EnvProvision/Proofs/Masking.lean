import EnvProvision.Proofs.Frame
import EnvProvision.Proofs.Evaluation
import EnvProvision.Proofs.Lifting
import Mathlib.Data.List.Forall2

namespace EnvProvision

-- The same section with another template for one variable.
def Section.withTemplate (found : Section) (key template : String) : Section where
  storage := found.storage
  bindings := found.bindings.insert key template

-- The variable has a value that counts.
def Overridden (env : Reader) (key : String) : Prop :=
  ∃ value, env key = .ok (some value) ∧ value ≠ ""

theorem Overridden.isSet {env : MemoryVariables} {key : String}
    (h : Overridden (Variables.value? env) key) : Variables.isSet env key = .ok true := by
  obtain ⟨value, hv, _⟩ := h
  have hset : env.get? key = some value := Except.ok.inj hv
  rw [MemoryVariables.isSet_eq, hset, Option.isSome_some]

namespace Batch

-- The batches differ in nothing but their records of this key.
structure AlikeBut (key : String) (batch batch' : Batch) : Prop where
  storage : batch'.storage = batch.storage
  get? {candidate : String} : candidate ≠ key → batch'.get? candidate = batch.get? candidate

section

variable {batch batch' : Batch} {env : Reader} {key : String}

theorem AlikeBut.find_eq (h : AlikeBut key batch batch') (hset : Overridden env key)
    (resolve : Record → Traced String) (current candidate : String) :
    batch'.find env resolve current candidate = batch.find env resolve current candidate := by
  by_cases hc : candidate = key
  case pos =>
    -- The search ends in the environment, before it would get to the records.
    obtain ⟨value, hv, hne⟩ := hset
    rw [← hc] at hv
    rw [find_environment hv hne, find_environment hv hne]
  case neg =>
    have hsibling : batch'.fromSibling resolve current candidate =
        batch.fromSibling resolve current candidate := by
      rw [fromSibling, fromSibling, h.get? hc]
    have hstorage : batch'.fromStorage candidate = batch.fromStorage candidate := by
      rw [fromStorage, fromStorage, h.storage]
    rw [find, find, hsibling, hstorage]

theorem AlikeBut.resolveWithin_eq (h : AlikeBut key batch batch') (hset : Overridden env key)
    (room : Nat) (chain : List String) (record : Record) :
    batch'.resolveWithin env room chain record = batch.resolveWithin env room chain record :=
  Lifting.eq.resolveWithin (fun hresolve current candidate => by
    obtain rfl := funext hresolve
    exact h.find_eq hset _ current candidate) room chain record

end

section

variable {batch batch' : Batch} {key : String} {env env' : MemoryVariables}
  {record : Record} {value? : Option String} {e : Error} {events : List Event}

theorem AlikeBut.step (h : AlikeBut key batch batch')
    (hset : Overridden (Variables.value? env) key)
    (hs : batch.Step env record value? env' events) :
    batch'.Step env record value? env' events := by
  have hres := h.resolveWithin_eq hset depthLimit [] record
  cases hs with
  | skipped hs => exact .skipped hs
  | exported hs hr ha => exact .exported hs (hres.trans hr) ha

theorem AlikeBut.stop (h : AlikeBut key batch batch')
    (hset : Overridden (Variables.value? env) key) (hs : batch.Stop env record e events) :
    batch'.Stop env record e events := by
  have hres := h.resolveWithin_eq hset depthLimit [] record
  cases hs with
  | unreadable hs => exact .unreadable hs
  | unresolved hs hr => exact .unresolved hs (hres.trans hr)
  | unwritable hs hr ha => exact .unwritable hs (hres.trans hr) ha

theorem Step.overridden (h : batch.Step env record value? env' events)
    (hset : Overridden (Variables.value? env) key) :
    Overridden (Variables.value? env') key := by
  obtain ⟨value, hv, hne⟩ := hset
  have hv' : env'.get? key = some value := h.get?_of_set (Except.ok.inj hv)
  exact ⟨value, congrArg Except.ok hv', hne⟩

end

-- The records have the same key, and the same template unless the key is this one.
def Masked (key : String) (record record' : Record) : Prop :=
  record'.key = record.key ∧ (record.key ≠ key → record' = record)

-- The variable stays set, so a pass that comes to a record of which the template may differ skips
-- it.
theorem AlikeBut.exportAll_eq {batch batch' : Batch} {key : String} {env : MemoryVariables}
    {records records' : List Record} (h : AlikeBut key batch batch')
    (hrecords : List.Forall₂ (Masked key) records records')
    (hset : Overridden (Variables.value? env) key) (report : Report) :
    batch'.exportAll env report records' = batch.exportAll env report records := by
  induction hrecords generalizing env report with
  | nil => rw [exportAll, exportAll, h.storage]
  | @cons record record' rest rest' hmasked _ ih =>
    obtain ⟨hkey, hsame⟩ := hmasked
    by_cases hk : record.key = key
    case pos =>
      have hskip : Variables.isSet env record.key = .ok true := hk ▸ hset.isSet
      simp only [exportAll, hkey, hskip, ih hset]
    case neg =>
      obtain rfl := hsame hk
      obtain ⟨value?, env', events, hs⟩ | ⟨e, events, hs⟩ := batch.step_or_stop env record'
      case inl =>
        rw [exportAll_of_step hs, exportAll_of_step (h.step hset hs), ih (hs.overridden hset)]
      case inr => rw [exportAll_of_stop hs, exportAll_of_stop (h.stop hset hs)]

end Batch

theorem Table.insert.forall₂_go {key value : String} {es : List (String × String)}
    (h : key ∈ es.map Prod.fst) :
    List.Forall₂ (fun e e' => e'.1 = e.1 ∧ (e.1 ≠ key → e' = e)) es (go key value es) := by
  induction es with
  | nil => cases h
  | cons e rest ih =>
    obtain ⟨k, v⟩ := e
    unfold go
    split
    case isTrue hk =>
      have hrest : List.Forall₂ (fun e e' => e'.1 = e.1 ∧ (e.1 ≠ key → e' = e)) rest rest :=
        List.forall₂_same.mpr fun _ _ => ⟨rfl, fun _ => rfl⟩
      exact .cons ⟨hk, fun hne => absurd hk.symm hne⟩ hrest
    case isFalse hk =>
      have hm : key ∈ rest.map Prod.fst := (List.mem_cons.mp h).resolve_left hk
      exact .cons ⟨rfl, fun _ => rfl⟩ (ih hm)

namespace Section

theorem masked_records {found : Section} {key : String} (h : key ∈ found.bindings.keys)
    (template : String) :
    List.Forall₂ (Batch.Masked key) found.records (found.withTemplate key template).records := by
  unfold records
  rw [List.forall₂_map_left_iff, List.forall₂_map_right_iff]
  refine (Table.insert.forall₂_go h).imp fun e e' ⟨hk, hsame⟩ => ⟨hk, fun hne => ?_⟩
  rw [hsame hne]

theorem alikeBut_ofEntries (found : Section) (storage : Storage) (key template : String) :
    Batch.AlikeBut key (.ofEntries storage found.bindings.entries)
      (.ofEntries storage (found.withTemplate key template).bindings.entries) where
  storage := by simp
  get? {candidate} hne := by
    rw [Batch.get?_ofEntries, Batch.get?_ofEntries, withTemplate, Table.get?_insert, if_neg hne]

end Section

namespace Loader

variable {loader loader' : Loader} {files : Files} {environment key template : String}
  {found : Section}

-- A load goes the same way with any template of a variable that is set and not empty: it leaves the
-- same variables, and has the same outcome and the same trace.
theorem load_withTemplate {env : MemoryVariables} {value : String}
    (hsource : loader'.source = loader.source)
    (hfound : loader.configuration.section? environment = some found)
    (hfound' : loader'.configuration.section? environment = some (found.withTemplate key template))
    (hkey : key ∈ found.bindings.keys) (hset : env.get? key = some value) (hne : value ≠ "") :
    loader'.load files environment env = loader.load files environment env := by
  have hb := batch_of_section files hfound
  have hb' := batch_of_section files hfound'
  have hstorage : (found.withTemplate key template).storage = found.storage := rfl
  rw [hsource, hstorage] at hb'
  cases hs : loader.source.setup files found.storage with | mk outcome setup
  rw [hs] at hb hb'
  cases outcome with
  | error e => rw [load, load, hb, hb', Except.map, Except.map]
  | ok storage =>
    have hrecords := found.masked_records hkey template
    have halike := found.alikeBut_ofEntries storage key template
    have hover : Overridden (Variables.value? env) key := ⟨value, congrArg Except.ok hset, hne⟩
    have hpass := halike.exportAll_eq hrecords hover ⟨environment, [], []⟩
    rw [load_of_batch hb, load_of_batch hb', records, records, hfound, hfound']
    exact congrArg (LoadResult.after setup) hpass

-- `A` refers to `K`, which is set. The other template of `K` would make them refer to each other.
theorem load_withTemplate_cyclic :
    let found := Section.remote [("A", "#\x7bK\x7d!"), ("K", "#\x7bKEY\x7d")]
    let env := MemoryVariables.ofList [("K", "own")]
    let result := (ofSecrets found []).load ⟨[], []⟩ "dev" env
    let result' :=
      (ofSecrets (found.withTemplate "K" "#\x7bA\x7d#\x7bK\x7d") []).load ⟨[], []⟩ "dev" env
    result.outcome = .ok ⟨"dev", ["A"], ["K"]⟩ ∧ result.env.get? "A" = some "own!" ∧
      result' = result := by
  intro found env result result'
  have hkey : "K" ∈ found.bindings.keys := by decide +kernel
  have hset : env.get? "K" = some "own" := by decide +kernel
  have hsame : result' = result := load_withTemplate rfl rfl rfl hkey hset (by decide)
  exact ⟨by decide +kernel, by decide +kernel, hsame⟩

end Loader

end EnvProvision
