import EnvProvision.Proofs.Unfolding
import Mathlib.Control.Monad.Basic

namespace EnvProvision

namespace Batch

theorem alike_of_perm {batch batch' : Batch} (hs : batch'.storage = batch.storage)
    (hp : batch.table.entries.Perm batch'.table.entries) : Alike batch batch' where
  storage := hs
  get? := Table.get?_eq_of_perm hp

theorem Yields.alike {batch batch' : Batch} {env : Reader} {n : Nat} {name value : String}
    (h : batch.Yields env n name value) (ha : Alike batch batch') :
    batch'.Yields env n name value := by
  obtain ⟨record, events, hg, ht⟩ := h
  exact ⟨record, events, (ha.get? name).trans hg, ht.alike ha⟩

section Memory

variable {batch batch' : Batch} {base env env' : MemoryVariables} {m n : Nat}
  {visits visits' : List Visit} {events events' : List Event} {name value : String}

theorem Unfolds.get?_of_set
    (h : batch.Unfolds n (Variables.value? base) (Variables.value? env))
    (hb : base.get? name = some value) : env.get? name = some value := by
  obtain heq | ⟨_, hn, _⟩ := h name
  case inl => exact (Except.ok.inj heq).trans hb
  case inr => cases hb.symm.trans (Except.ok.inj hn)

theorem Unfolds.yields (h : batch.Unfolds n (Variables.value? base) (Variables.value? env))
    (hb : base.get? name = none) (he : env.get? name = some value) :
    batch.Yields (Variables.value? base) n name value := by
  obtain heq | ⟨_, _, hv, hy⟩ := h name
  case inl => cases (hb.symm.trans (Except.ok.inj heq).symm).trans he
  case inr =>
    cases he.symm.trans (Except.ok.inj hv)
    exact hy

-- Both passes leave a name unset, or both set it to the one value that its record evaluates to.
theorem Steps.get?_eq_of_perm (h : batch.Steps base visits env events)
    (h' : batch'.Steps base visits' env' events')
    (hu : batch.Unfolds m (Variables.value? base) (Variables.value? env))
    (hu' : batch'.Unfolds n (Variables.value? base) (Variables.value? env'))
    (ha : Alike batch batch') (hp : (visits.map Prod.fst).Perm (visits'.map Prod.fst))
    (name : String) : env'.get? name = env.get? name := by
  cases hb : base.get? name with
  | some value => rw [hu.get?_of_set hb, hu'.get?_of_set hb]
  | none =>
    have hnone : env'.get? name = none ↔ env.get? name = none := by
      rw [h.get?_eq_none_iff, h'.get?_eq_none_iff, (hp.map Record.key).mem_iff]
    cases he : env.get? name with
    | none => exact hnone.mpr he
    | some value =>
      cases he' : env'.get? name with
      | none => cases he.symm.trans (hnone.mp he')
      | some value' => rw [((hu.yields hb he).alike ha).unique (hu'.yields hb he')]

-- A pass over exports stops at a record that evaluates to a value without them only for the limit.
theorem Stop.eq_referenceDepthExceeded {record : Record} {e : Error}
    (h : batch.Stop env record e events) (hg : batch.get? record.key = some record)
    (hu : batch.Unfolds m (Variables.value? base) (Variables.value? env))
    (hy : batch.Yields (Variables.value? base) n record.key value) :
    ∃ key, e = .referenceDepthExceeded key depthLimit := by
  obtain ⟨hunset, hout⟩ := h.resolveRecord_eq
  have habs : Absent (Variables.value? env) record.key := absent_none (congrArg Except.ok hunset)
  obtain ⟨found, _, hf, ht⟩ := hy
  obtain rfl := Option.some.inj (hf.symm.trans hg)
  obtain ⟨_, ht⟩ := ht.interchange hu.interchange (hu.absent_base habs) habs
  obtain heq | ⟨e', he', _, hd⟩ :=
    ht.resolveWithin_eq depthLimit (fits_of_get? hg) List.not_mem_nil TooDeep.nil
  case inl =>
    rw [resolveRecord, heq] at hout
    cases hout
  case inr =>
    obtain rfl := Except.error.inj (he'.symm.trans hout)
    exact hd

end Memory

end Batch

-- The section declares the same over the same storage, in another order.
def Section.Reorders (found' found : Section) : Prop :=
  found'.storage = found.storage ∧ found.bindings.entries.Perm found'.bindings.entries

namespace Loader

variable {loader loader' : Loader} {files : Files} {environment : String}
  {found found' : Section}

theorem exists_batch_of_reorders {batch : Batch}
    (hsource : loader'.source = loader.source)
    (hfound : loader.configuration.section? environment = some found)
    (hfound' : loader'.configuration.section? environment = some found')
    (hre : found'.Reorders found) (hb : (loader.batch files environment).outcome = .ok batch) :
    ∃ batch', (loader'.batch files environment).outcome = .ok batch' ∧
      Batch.Alike batch batch' := by
  obtain ⟨_, hf, storage, hst, rfl⟩ := batch_eq_ok_iff.mp hb
  obtain rfl := Option.some.inj (hfound.symm.trans hf)
  rw [← hre.left, ← hsource] at hst
  refine ⟨_, batch_eq_ok_iff.mpr ⟨found', hfound', storage, hst, rfl⟩,
    Batch.alike_of_perm (by simp) ?_⟩
  rw [Batch.entries_ofEntries, Batch.entries_ofEntries]
  exact hre.right.map _

theorem records_perm
    (hfound : loader.configuration.section? environment = some found)
    (hfound' : loader'.configuration.section? environment = some found')
    (hre : found'.Reorders found) :
    (loader.records environment).Perm (loader'.records environment) := by
  unfold records
  rw [hfound, hfound']
  exact hre.right.map _

-- If a load succeeds with one order of the records, then with another order it leaves the same
-- variables and reports the same keys, or it stops at the limit on chains of references.
theorem load_reordered {env : MemoryVariables} {report : Report}
    (hsource : loader'.source = loader.source)
    (hfound : loader.configuration.section? environment = some found)
    (hfound' : loader'.configuration.section? environment = some found')
    (hre : found'.Reorders found)
    (hload : (loader.load files environment env).outcome = .ok report) :
    (∃ report', (loader'.load files environment env).outcome = .ok report' ∧
      report'.exported.Perm report.exported ∧
      report'.skipped.Perm report.skipped ∧
      ∀ name, (loader'.load files environment env).env.get? name =
        (loader.load files environment env).env.get? name) ∨
    ∃ key, (loader'.load files environment env).outcome =
      .error (.referenceDepthExceeded key Batch.depthLimit) := by
  obtain ⟨batch, visits, _, hb, hr, hsteps, rfl⟩ := exists_steps_of_load_ok hload
  obtain ⟨batch', hb', ha⟩ := exists_batch_of_reorders hsource hfound hfound' hre hb
  obtain ⟨visits', rest, _, hr', hsteps', hend⟩ := exists_steps_of_load hb' env
  have hperm := records_perm hfound hfound' hre
  obtain ⟨m, hu⟩ := hsteps.exists_unfolds
    (fun r hm => get?_of_mem_records hb (hr ▸ hm)) (.refl batch _)
  obtain ⟨n, hu'⟩ := hsteps'.exists_unfolds
    (fun r hm => get?_of_mem_records hb' (hr' ▸ List.mem_append_left _ hm)) (.refl batch' _)
  obtain ⟨rfl, hout⟩ | ⟨record, tail, e, _, rfl, hstop, hout⟩ := hend
  case inl =>
    rw [List.append_nil] at hr'
    have hd := loader.nodup_keys_records environment
    have hd' := loader'.nodup_keys_records environment
    rw [hr] at hd
    rw [hr'] at hd'
    rw [hr, hr'] at hperm
    refine .inl ⟨_, hout, ?_, ?_, hsteps.get?_eq_of_perm hsteps' hu hu' ha hperm⟩
    · simp only [Report.addVisits, List.nil_append]
      rw [hsteps.keys_additions hd, hsteps'.keys_additions hd']
      exact ((hperm.filter _).map _).symm
    · simp only [Report.addVisits, List.nil_append]
      rw [hsteps.skipped_eq hd, hsteps'.skipped_eq hd']
      exact ((hperm.filter _).map _).symm
  case inr =>
    have hmem' : record ∈ loader'.records environment := by
      rw [hr']
      exact List.mem_append_right _ List.mem_cons_self
    have hmem : record ∈ visits.map Prod.fst := by
      rw [← hr]
      exact hperm.mem_iff.mpr hmem'
    have hunset := (hsteps'.get?_eq_none_iff.mp hstop.resolveRecord_eq.left).left
    -- The first order got past this record, so it set the name, to what the record evaluates to.
    cases hv : (loader.load files environment env).env.get? record.key with
    | none => exact absurd (List.mem_map_of_mem hmem) (hsteps.get?_eq_none_iff.mp hv).right
    | some value =>
      obtain ⟨key, rfl⟩ := hstop.eq_referenceDepthExceeded (get?_of_mem_records hb' hmem') hu'
        ((hu.yields hunset hv).alike ha)
      exact .inr ⟨key, hout⟩

-- `A` refers to `B`, which refers to a secret.
def referenceFirst : Section :=
  .remote [("A", "#\x7bB\x7d!"), ("B", "#\x7bKEY\x7d")]

def referenceLast : Section :=
  .remote [("B", "#\x7bKEY\x7d"), ("A", "#\x7bB\x7d!")]

def ofSection (found : Section) : Loader :=
  ofSecrets found [("KEY", "s3cret")]

theorem load_referenceLast :
    let first := (ofSection referenceFirst).load ⟨[], []⟩ "dev" (MemoryVariables.ofList [])
    let last := (ofSection referenceLast).load ⟨[], []⟩ "dev" (MemoryVariables.ofList [])
    first.outcome = .ok ⟨"dev", ["A", "B"], []⟩ ∧
      last.outcome = .ok ⟨"dev", ["B", "A"], []⟩ ∧
      ∀ name, last.env.get? name = first.env.get? name := by
  intro first last
  have hsource : (ofSection referenceLast).source = (ofSection referenceFirst).source := rfl
  have hre : referenceLast.Reorders referenceFirst := ⟨rfl, by decide +kernel⟩
  have hfirst : first.outcome = .ok ⟨"dev", ["A", "B"], []⟩ := by decide +kernel
  have hlast : last.outcome = .ok ⟨"dev", ["B", "A"], []⟩ := by decide +kernel
  obtain ⟨_, _, _, _, henv⟩ | ⟨_, hdepth⟩ := load_reordered hsource rfl rfl hre hfirst
  case inl => exact ⟨hfirst, hlast, henv⟩
  case inr => cases hlast.symm.trans hdepth

end Loader

end EnvProvision
