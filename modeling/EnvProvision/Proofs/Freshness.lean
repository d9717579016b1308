import EnvProvision.Proofs.Enrichment
import EnvProvision.Proofs.Unfolding

namespace EnvProvision

namespace MemoryVariables

def erase (env : MemoryVariables) (name : String) : MemoryVariables :=
  ⟨env.table.erase name⟩

@[simp]
theorem get?_erase (env : MemoryVariables) (name n : String) :
    (env.erase name).get? n = if n = name then none else env.get? n :=
  Table.get?_erase ..

end MemoryVariables

namespace Batch

variable {batch : Batch} {m : Nat} {base env : Reader} {record : Record} {value : String}

theorem Unfolds.upholds (h : batch.Unfolds m base env) (name : String) :
    Upholds Richer (base name) (env name) := by
  obtain heq | ⟨value, hb, he, _⟩ := h name
  case inl =>
    rw [heq]
    exact .refl Richer.refl _
  case inr =>
    rw [hb, he]
    exact .ok fun hcounts => absurd rfl hcounts

-- A record that resolves without some exports resolves over them as well, and to the same value,
-- since both values are what it evaluates to without them.
theorem Unfolds.resolveRecord_ok (h : batch.Unfolds m base env) (ha : Absent env record.key)
    (hr : (batch.resolveRecord base record).outcome = .ok value) :
    (batch.resolveRecord env record).outcome = .ok value := by
  have hres := (EnrichedBy.refl batch).resolveWithin h.upholds depthLimit [] record
  obtain ⟨value', hr', _⟩ := hres value hr
  cases hb : batch.resolveRecord base record with | mk outcome events
  cases he : batch.resolveRecord env record with | mk outcome' events'
  rw [hb] at hr
  rw [← resolveRecord, he] at hr'
  obtain rfl : outcome = .ok value := hr
  obtain rfl : outcome' = .ok value' := hr'
  have ht := evaluatesWithin_of_resolveRecord hb
  have ht' := evaluatesWithin_of_resolveRecord he
  obtain ⟨_, ht'⟩ := ht'.interchange h.interchange_symm ha (h.absent_base ha)
  exact congrArg Traced.outcome (Evaluates.unique ⟨_, ht'⟩ ⟨_, ht⟩)

theorem Unfolds.erase {env : MemoryVariables} {name : String}
    (h : batch.Unfolds m base (Variables.value? env)) (hb : base name = .ok none) :
    batch.Unfolds m base (Variables.value? (env.erase name)) := by
  intro n
  by_cases hn : n = name
  case pos =>
    have hnone : Variables.value? (env.erase name) n = .ok none :=
      congrArg Except.ok (by rw [MemoryVariables.get?_erase, if_pos hn])
    exact .inl (by rw [hnone, hn, hb])
  case neg =>
    have heq : Variables.value? (env.erase name) n = Variables.value? env n :=
      congrArg Except.ok (by rw [MemoryVariables.get?_erase, if_neg hn])
    rw [heq]
    exact h n

-- The exports behind a record unfold what it was resolved over, once its own is taken away.
theorem Steps.resolve_erase {env final : MemoryVariables} {visits : List Visit}
    {events : List Event} {key : String} (h : batch.Steps env visits final events)
    (hg : ∀ r ∈ visits.map Prod.fst, batch.get? r.key = some r)
    (hm : (key, value) ∈ Visit.additions visits) :
    (batch.resolve (Variables.value? (final.erase key)) key).outcome = .ok (some value) := by
  obtain ⟨before, after, ha⟩ := List.append_of_mem hm
  obtain ⟨earlier, record, later, rfl, _, rfl⟩ := Visit.additions_eq_append_cons ha
  obtain ⟨mid, _, _, _, htail⟩ := h.append_inv
  rw [List.map_append] at hg
  have hgtail := (List.forall_mem_append.mp hg).right
  obtain ⟨n, hu⟩ := htail.exists_unfolds hgtail (.refl batch _)
  cases htail with
  | cons hs _ =>
    cases hs with
    | exported hset hr _ =>
      have hunset : mid.get? record.key = none := by simpa using hset
      have hnone : Variables.value? mid record.key = .ok none := congrArg Except.ok hunset
      have herased : Variables.value? (final.erase record.key) record.key = .ok none :=
        congrArg Except.ok (by simp)
      have hres := (hu.erase hnone).resolveRecord_ok (absent_none herased)
        (congrArg Traced.outcome hr)
      rw [outcome_resolve _ (hgtail record List.mem_cons_self), hres]
      rfl

end Batch

namespace Loader

-- Each variable that a load exported has the value that its record resolves to over all the
-- variables that the load left, but for this one.
theorem load_up_to_date {loader : Loader} {files : Files} {environment : String}
    {env : MemoryVariables} {report : Report} {key : String}
    (h : (loader.load files environment env).outcome = .ok report) (hk : key ∈ report.exported) :
    let final := (loader.load files environment env).env
    ∃ batch value, (loader.batch files environment).outcome = .ok batch ∧
      final.get? key = some value ∧
      (batch.resolve (Variables.value? (final.erase key)) key).outcome = .ok (some value) := by
  intro final
  obtain ⟨batch, visits, _, hb, hr, hsteps, rfl⟩ := exists_steps_of_load_ok h
  have hd := nodup_keys_of_passed ⟨[], (List.append_nil _).trans hr.symm⟩
  have hg : ∀ r ∈ visits.map Prod.fst, batch.get? r.key = some r :=
    fun r hm => get?_of_mem_records hb (hr ▸ hm)
  rw [Report.addVisits, List.nil_append] at hk
  obtain ⟨⟨_, value⟩, hm, rfl⟩ := List.mem_map.mp hk
  exact ⟨batch, value, hb, (hsteps.get?_eq_some_iff hd).mpr (.inr hm), hsteps.resolve_erase hg hm⟩

-- `A` reaches `C` over `B`, both of which are exported after it, and finds nothing in `E`, which is
-- empty. `C` refers to the secret of its own name.
theorem load_up_to_date_behind :
    let found := Section.remote
      [("A", "#\x7bE || B\x7d!"), ("B", "#\x7bC || A\x7d"), ("C", "#\x7bC\x7d"), ("E", "")]
    let loader := ofSecrets found [("C", "s3cret")]
    let result := loader.load ⟨[], []⟩ "dev" (MemoryVariables.ofList [])
    result.outcome = .ok ⟨"dev", ["A", "B", "C", "E"], []⟩ ∧
      ∃ batch value, (loader.batch ⟨[], []⟩ "dev").outcome = .ok batch ∧
        result.env.get? "A" = some value ∧
        (batch.resolve (Variables.value? (result.env.erase "A")) "A").outcome =
          .ok (some value) := by
  intro found loader result
  have hload : result.outcome = .ok ⟨"dev", ["A", "B", "C", "E"], []⟩ := by decide +kernel
  exact ⟨hload, load_up_to_date hload List.mem_cons_self⟩

end Loader

end EnvProvision
