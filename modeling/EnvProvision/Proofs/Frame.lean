import EnvProvision.Proofs.Pass
import EnvProvision.Variables.Memory

namespace EnvProvision

namespace MemoryVariables

def extend (env : MemoryVariables) (pairs : List (String × String)) : MemoryVariables :=
  pairs.foldl (fun env (name, value) => env.set name value) env

theorem extend_cons (env : MemoryVariables) (name value : String)
    (pairs : List (String × String)) :
    env.extend ((name, value) :: pairs) = (env.set name value).extend pairs :=
  rfl

theorem extend_append (env : MemoryVariables) (ps qs : List (String × String)) :
    env.extend (ps ++ qs) = (env.extend ps).extend qs :=
  List.foldl_append

-- Pairs with distinct names, none of which is set, are what an extension by them adds.
theorem get?_extend_eq_some_iff {env : MemoryVariables} {pairs : List (String × String)}
    (hd : (pairs.map Prod.fst).Nodup) (hu : ∀ name ∈ pairs.map Prod.fst, env.get? name = none)
    {name value : String} :
    (env.extend pairs).get? name = some value ↔
      env.get? name = some value ∨ (name, value) ∈ pairs := by
  induction pairs generalizing env with
  | nil => simp [extend]
  | cons pair rest ih =>
    obtain ⟨n, v⟩ := pair
    rw [List.map_cons, List.nodup_cons] at hd
    have hn := hu n List.mem_cons_self
    have hrest m (hm : m ∈ rest.map Prod.fst) : (env.set n v).get? m = none := by
      rw [get?_set, if_neg (ne_of_mem_of_not_mem hm hd.left)]
      exact hu m (List.mem_cons_of_mem _ hm)
    rw [extend_cons, ih hd.right hrest, get?_set, List.mem_cons, Prod.mk.injEq]
    by_cases hname : name = n
    case pos => simp [hname, hn, eq_comm]
    case neg => simp [hname]

@[simp]
theorem isSet_eq (env : MemoryVariables) (name : String) :
    Variables.isSet env name = .ok (env.get? name).isSome :=
  rfl

end MemoryVariables

namespace Batch

variable {batch : Batch} {env env' : MemoryVariables} {record : Record} {value? : Option String}
  {visits : List Visit} {events : List Event}

theorem Step.eq_extend (h : batch.Step env record value? env' events) :
    env' = env.extend (Visit.additions [(record, value?)]) := by
  cases h with
  | skipped => rfl
  | exported _ _ ha => cases ha; rfl

theorem Step.isNone_eq (h : batch.Step env record value? env' events) :
    value?.isNone = (env.get? record.key).isSome := by
  cases h with
  | skipped hs => exact (Except.ok.inj hs).symm
  | exported hs => exact (Except.ok.inj hs).symm

theorem Step.get?_of_ne {name : String} (h : batch.Step env record value? env' events)
    (hne : name ≠ record.key) : env'.get? name = env.get? name := by
  cases h with
  | skipped => rfl
  | exported _ _ ha => cases ha; rw [MemoryVariables.get?_set, if_neg hne]

theorem Step.get?_of_set {name value : String} (h : batch.Step env record value? env' events)
    (hset : env.get? name = some value) : env'.get? name = some value := by
  cases h with
  | skipped => exact hset
  | exported hs _ ha =>
    cases ha
    have hne : name ≠ record.key := by
      rintro rfl
      simp [hset] at hs
    rw [MemoryVariables.get?_set, if_neg hne, hset]

theorem Steps.eq_extend (h : batch.Steps env visits env' events) :
    env' = env.extend (Visit.additions visits) := by
  induction h with
  | nil => rfl
  | @cons _ _ _ record value? visits _ _ hs _ ih =>
    rw [ih, hs.eq_extend, ← MemoryVariables.extend_append, ← Visit.additions_append]
    rfl

-- Earlier steps set other names only, so a record is skipped if its name was set from the start.
theorem Steps.isNone_eq (h : batch.Steps env visits env' events)
    (hd : ((visits.map Prod.fst).map Record.key).Nodup) :
    ∀ visit ∈ visits, visit.2.isNone = (env.get? visit.1.key).isSome := by
  induction h with
  | nil => exact fun _ hv => nomatch hv
  | cons hs hsteps ih =>
    rw [List.map_cons, List.map_cons, List.nodup_cons] at hd
    intro visit hv
    obtain rfl | hv := List.mem_cons.mp hv
    case inl => exact hs.isNone_eq
    case inr =>
      have hne := ne_of_mem_of_not_mem (Visit.key_mem hv) hd.left
      rw [ih hd.right visit hv, hs.get?_of_ne hne]

theorem Steps.resolveRecord_eq (h : batch.Steps env visits env' events)
    {before after : List (String × String)} {key value : String}
    (ha : Visit.additions visits = before ++ (key, value) :: after) :
    ∃ record ∈ visits.map Prod.fst, record.key = key ∧
      (batch.resolveRecord (Variables.value? (env.extend before)) record).outcome = .ok value := by
  obtain ⟨earlier, record, later, rfl, rfl, rfl⟩ := Visit.additions_eq_append_cons ha
  obtain ⟨mid, _, _, he, hl⟩ := h.append_inv
  obtain rfl := he.eq_extend
  cases hl with
  | cons hs _ =>
    cases hs with
    | exported _ hr _ => exact ⟨record, by simp, rfl, by rw [hr]⟩

theorem Steps.keys_additions (h : batch.Steps env visits env' events)
    (hd : ((visits.map Prod.fst).map Record.key).Nodup) :
    (Visit.additions visits).map Prod.fst =
      ((visits.map Prod.fst).filter fun r => (env.get? r.key).isNone).map Record.key := by
  rw [Visit.keys_additions (fun r => (env.get? r.key).isSome) (h.isNone_eq hd)]
  simp

theorem Steps.skipped_eq (h : batch.Steps env visits env' events)
    (hd : ((visits.map Prod.fst).map Record.key).Nodup) :
    Visit.skipped visits =
      ((visits.map Prod.fst).filter fun r => (env.get? r.key).isSome).map Record.key :=
  Visit.skipped_eq _ (h.isNone_eq hd)

theorem Steps.perm_keys (h : batch.Steps env visits env' events)
    (hd : ((visits.map Prod.fst).map Record.key).Nodup) :
    ((Visit.additions visits).map Prod.fst ++ Visit.skipped visits).Perm
      ((visits.map Prod.fst).map Record.key) := by
  let set (r : Record) := (env.get? r.key).isSome
  rw [Visit.keys_additions set (h.isNone_eq hd), Visit.skipped_eq set (h.isNone_eq hd),
    ← List.map_append]
  exact (List.perm_append_comm.trans (List.filter_append_perm ..)).map _

theorem Steps.nodup_additions (h : batch.Steps env visits env' events)
    (hd : ((visits.map Prod.fst).map Record.key).Nodup) :
    ((Visit.additions visits).map Prod.fst).Nodup := by
  have hd := (h.perm_keys hd).nodup_iff.mpr hd
  exact (List.nodup_append.mp hd).left

theorem Steps.get?_of_mem_additions (h : batch.Steps env visits env' events)
    (hd : ((visits.map Prod.fst).map Record.key).Nodup) {name : String}
    (hm : name ∈ (Visit.additions visits).map Prod.fst) : env.get? name = none := by
  rw [h.keys_additions hd] at hm
  obtain ⟨r, hr, rfl⟩ := List.mem_map.mp hm
  simpa using (List.mem_filter.mp hr).right

theorem Steps.get?_eq_some_iff (h : batch.Steps env visits env' events)
    (hd : ((visits.map Prod.fst).map Record.key).Nodup) {name value : String} :
    env'.get? name = some value ↔
      env.get? name = some value ∨ (name, value) ∈ Visit.additions visits := by
  rw [h.eq_extend]
  exact MemoryVariables.get?_extend_eq_some_iff (h.nodup_additions hd)
    fun _ => h.get?_of_mem_additions hd

theorem Step.get?_eq_none_iff {name : String} (h : batch.Step env record value? env' events) :
    env'.get? name = none ↔ env.get? name = none ∧ name ≠ record.key := by
  cases h with
  | skipped hs =>
    have hset : env.get? record.key ≠ none := by simpa [Option.ne_none_iff_isSome] using hs
    constructor
    · intro hn
      refine ⟨hn, ?_⟩
      rintro rfl
      exact hset hn
    · exact And.left
  | exported _ _ ha =>
    cases ha
    rw [MemoryVariables.get?_set]
    split <;> simp [*]

theorem Steps.get?_eq_none_iff {name : String} (h : batch.Steps env visits env' events) :
    env'.get? name = none ↔
      env.get? name = none ∧ name ∉ (visits.map Prod.fst).map Record.key := by
  induction h with
  | nil => simp
  | cons hs _ ih =>
    rw [ih, hs.get?_eq_none_iff, List.map_cons, List.map_cons, List.mem_cons, not_or, and_assoc]

theorem Steps.get?_ne_none (h : batch.Steps env visits env' events) :
    ∀ r ∈ visits.map Prod.fst, env'.get? r.key ≠ none := by
  intro r hr hnone
  have hn := (h.get?_eq_none_iff.mp hnone).right
  exact hn (List.mem_map_of_mem hr)

theorem Stop.resolveRecord_eq {e : Error} (h : batch.Stop env record e events) :
    env.get? record.key = none ∧
      (batch.resolveRecord (Variables.value? env) record).outcome = .error e := by
  cases h with
  | unreadable hs => cases hs
  | unresolved hs hr => exact ⟨by simpa using hs, by rw [hr]⟩
  | unwritable _ _ ha => cases ha

end Batch

namespace Loader

-- A load passes a prefix of the section. The variables it leaves are those it found and one more
-- for each record of the prefix that was not set, whose value is what the record resolves to over
-- the additions before it.
theorem load_frame (loader : Loader) (files : Files) (environment : String)
    (env : MemoryVariables) :
    let result := loader.load files environment env
    ∃ (passed rest : List Record) (added : List (String × String)),
      loader.records environment = passed ++ rest ∧
      added.map Prod.fst = (passed.filter fun r => (env.get? r.key).isNone).map Record.key ∧
      (added.map Prod.fst).Nodup ∧
      (∀ name value, result.env.get? name = some value ↔
        env.get? name = some value ∨ (name, value) ∈ added) ∧
      (∀ batch, (loader.batch files environment).outcome = .ok batch →
        ∀ before key value after, added = before ++ (key, value) :: after →
          ∃ record ∈ passed, record.key = key ∧
            (batch.resolveRecord (Variables.value? (env.extend before)) record).outcome =
              .ok value) ∧
      (∀ e, (loader.batch files environment).outcome = .error e →
        result.outcome = .error e ∧ passed = []) ∧
      (∀ report, result.outcome = .ok report →
        rest = [] ∧ report.environment = environment ∧ report.exported = added.map Prod.fst ∧
        report.skipped = (passed.filter fun r => (env.get? r.key).isSome).map Record.key ∧
        (report.exported ++ report.skipped).Nodup ∧
        ∀ key, key ∈ report.exported ++ report.skipped ↔
          key ∈ (loader.records environment).map Record.key) ∧
      ∀ batch e, (loader.batch files environment).outcome = .ok batch →
        result.outcome = .error e →
        ∃ record tail, rest = record :: tail ∧ result.env.get? record.key = none ∧
          (batch.resolveRecord (Variables.value? result.env) record).outcome = .error e := by
  intro result
  cases hb : (loader.batch files environment).outcome with
  | error e =>
    obtain ⟨hout, henv⟩ : result.outcome = _ ∧ result.env = env := load_of_error hb
    refine ⟨[], _, [], rfl, rfl, .nil, by simp [henv], fun _ h => (nomatch h), ?_, ?_,
      fun _ _ h => (nomatch h)⟩
    · rintro _ ⟨⟩
      exact ⟨hout, rfl⟩
    · intro report h
      rw [hout] at h
      cases h
  | ok batch =>
    obtain ⟨visits, rest, _, hr, hsteps, hend⟩ := exists_steps_of_load hb env
    have hkeys := loader.nodup_keys_records environment
    rw [hr, List.map_append] at hkeys
    have hd := (List.nodup_append.mp hkeys).left
    refine ⟨_, rest, _, hr, hsteps.keys_additions hd, hsteps.nodup_additions hd,
      fun _ _ => hsteps.get?_eq_some_iff hd, ?_, fun _ h => (nomatch h), ?_, ?_⟩
    · rintro _ ⟨⟩ before key value after ha
      exact hsteps.resolveRecord_eq ha
    · intro report h
      obtain ⟨rfl, hout⟩ | ⟨_, _, _, _, _, _, hout⟩ := hend
      case inr => cases h.symm.trans hout
      case inl =>
        obtain rfl := Except.ok.inj (h.symm.trans hout)
        have hperm := hsteps.perm_keys hd
        rw [List.append_nil] at hr
        rw [hr]
        exact ⟨rfl, rfl, rfl, hsteps.skipped_eq hd, hperm.nodup_iff.mpr hd,
          fun _ => hperm.mem_iff⟩
    · rintro _ e ⟨⟩ h
      obtain ⟨_, hout⟩ | ⟨record, tail, _, _, rfl, hstop, hout⟩ := hend
      case inl => cases h.symm.trans hout
      case inr =>
        cases h.symm.trans hout
        exact ⟨record, tail, rfl, hstop.resolveRecord_eq⟩

end Loader

end EnvProvision
