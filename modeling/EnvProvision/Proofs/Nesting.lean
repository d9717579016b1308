import EnvProvision.Proofs.Descent
import EnvProvision.Proofs.Freshness
import Mathlib.Data.List.Perm.Subperm

namespace EnvProvision

namespace Batch

theorem length_le_size {batch : Batch} {keys : List String} (hd : keys.Nodup)
    (h : ∀ key ∈ keys, ∃ record, batch.get? key = some record) : keys.length ≤ batch.size := by
  have hsub : keys ⊆ batch.table.keys := by
    intro key hk
    obtain ⟨record, hr⟩ := h key hk
    have hm : (key, record) ∈ batch.table.entries := Table.get?_eq_some_iff.mp hr
    exact List.mem_map_of_mem hm
  have hle : keys.length ≤ batch.table.keys.length := (hd.subperm hsub).length_le
  simpa [size, Table.size, Table.keys] using hle

-- Where the resolution goes on to a sibling, one more of the keys that it may have is in use.
theorem wellFounded_descends (batch : Batch) (env : Reader) :
    WellFounded fun next point : List String × Record =>
      next.1 = point.1 ++ [point.2.key] ∧ batch.Descends env point.1 point.2 next.2 := by
  apply Subrelation.wf _ (measure fun point => depthLimit - point.1.length).wf
  rintro next point ⟨hchain, hd⟩
  have hroom : point.1.length < depthLimit := hd.room
  have hlength : next.1.length = point.1.length + 1 := by simp [hchain]
  show depthLimit - next.1.length < depthLimit - point.1.length
  omega

namespace Visits

variable {batch : Batch} {env : Reader} {top : Record} {above : List Record} {record : Record}

-- The records above a new one are not more than the batch has.
theorem length_le_size (h : batch.Visits env top above record)
    (hnew : record.key ∉ above.map Record.key) : above.length ≤ batch.size := by
  obtain ⟨path, heq, hp⟩ := h.path
  have hd : (path.map Record.key).Nodup := by
    have hall := h.nested.nodup_append hnew
    rw [heq, List.map_cons, List.nodup_cons] at hall
    exact hall.right
  have hstored : ∀ key ∈ path.map Record.key, ∃ r, batch.get? key = some r :=
    List.forall_mem_map.mpr fun r hr => ⟨r, hp.stored r hr⟩
  have hlength : above.length = path.length := by simpa using congrArg List.length heq
  simpa [hlength] using Batch.length_le_size hd hstored

-- They are fewer if the first of them is one of the batch as well.
theorem length_lt_size (h : batch.Visits env top above record)
    (hnew : record.key ∉ above.map Record.key) (htop : batch.get? top.key = some top) :
    above.length < batch.size := by
  obtain ⟨path, heq, hp⟩ := h.path
  have hd : ((above ++ [record]).map Record.key).Nodup := h.nested.nodup_append hnew
  have hstored : ∀ r ∈ above ++ [record], batch.get? r.key = some r := by
    rw [heq]
    exact List.forall_mem_cons.mpr ⟨htop, hp.stored⟩
  have hle := Batch.length_le_size hd (List.forall_mem_map.mpr fun r hr => ⟨r, hstored r hr⟩)
  simpa [Nat.succ_le_iff] using hle

end Visits

section

variable {σ : Type} [Variables σ] [LawfulVariables σ] {batch : Batch} [LawfulStorage batch.storage]
  {env : σ} {top : Record} {key : String} {limit : Nat}

-- The limit is exceeded at a new record below as many others as the limit allows.
theorem exists_visits_of_depthExceeded
    (h : (batch.resolveRecord (Variables.value? env) top).outcome =
      .error (.referenceDepthExceeded key limit)) :
    ∃ above record, batch.Visits (Variables.value? env) top above record ∧
      record.key ∉ above.map Record.key ∧ 64 ≤ above.length := by
  obtain ⟨above, record, hv, hr⟩ := Visits.exists_rejects .top rfl h
  cases hr with
  | depth hnew hfull => exact ⟨above, record, hv, hnew, by simpa [depthLimit] using hfull⟩

theorem size_of_depthExceeded
    (h : (batch.resolveRecord (Variables.value? env) top).outcome =
      .error (.referenceDepthExceeded key limit)) :
    64 ≤ batch.size ∧ (batch.get? top.key = some top → 64 < batch.size) := by
  obtain ⟨above, record, hv, hnew, hfull⟩ := exists_visits_of_depthExceeded h
  constructor
  · exact Nat.le_trans hfull (hv.length_le_size hnew)
  · intro htop
    exact Nat.lt_of_le_of_lt hfull (hv.length_lt_size hnew htop)

end

-- Every descent of a resolution ends. The records under expansion at any of its points are nested,
-- also once the record of that point is expanded, and these points are all that there is to the
-- resolution. With 64 records in the batch, or 63 and another one that refers to them, the nesting
-- does not come to the limit, so only variables or storage could bring up an error that tells so.
theorem resolveRecord_nests {σ : Type} [Variables σ] (batch : Batch) (env : σ) :
    let reader := Variables.value? env
    (WellFounded fun next point : List String × Record =>
      next.1 = point.1 ++ [point.2.key] ∧ batch.Descends reader point.1 point.2 next.2) ∧
    (∀ top above record, batch.Visits reader top above record →
      batch.Nested above ∧
        (record.key ∉ above.map Record.key → above.length < 64 →
          batch.Nested (above ++ [record]))) ∧
    (∀ top resolve,
      (∀ above record, batch.Visits reader top above record →
        resolve (above.map Record.key) record =
          batch.resolveBy reader resolve (above.map Record.key) record) →
      resolve [] top = batch.resolveRecord reader top) ∧
    (LawfulVariables σ → LawfulStorage batch.storage →
      (batch.size ≤ 64 → ∀ key name limit,
        (batch.resolve reader key).outcome ≠ .error (.referenceDepthExceeded name limit)) ∧
      (batch.size ≤ 63 → ∀ record name limit,
        (batch.resolveRecord reader record).outcome ≠
          .error (.referenceDepthExceeded name limit))) := by
  intro reader
  refine ⟨wellFounded_descends batch reader, ?nested, ?all, fun _ _ => ⟨?stored, ?foreign⟩⟩
  case nested =>
    intro top above record hv
    exact ⟨hv.nested, fun hnew hroom => hv.nested.append hnew hroom hv.stored⟩
  case all =>
    intro top resolve hresolve
    exact Visits.resolve_eq hresolve .top
  case stored =>
    intro hsize key name limit h
    cases hg : batch.get? key with
    | none => simp [resolve, hg] at h
    | some record =>
      rw [outcome_resolve reader hg] at h
      have hrecord : (batch.resolveRecord reader record).outcome =
          .error (.referenceDepthExceeded name limit) := by
        cases hr : (batch.resolveRecord reader record).outcome <;> simp_all [Except.map]
      have htop : batch.get? record.key = some record := by rw [key_of_get? hg, hg]
      have hlt := (size_of_depthExceeded hrecord).right htop
      omega
  case foreign =>
    intro hsize record name limit h
    have hle := (size_of_depthExceeded h).left
    omega

-- Three records in a ring.
def ring : Batch :=
  .ofEntries (.remote "" (.sealed [("Z", none)]))
    [("A", "#\x7bB\x7d"), ("B", "#\x7bZ || C\x7d"), ("C", "#\x7bA\x7d")]

instance : LawfulStorage ring.storage :=
  inferInstanceAs (LawfulStorage (ofEntries ..).storage)

theorem ring_nests :
    ring.size = 3 ∧ ∀ record name limit,
      (ring.resolveRecord (Variables.value? (MemoryVariables.ofList [])) record).outcome ≠
        .error (.referenceDepthExceeded name limit) := by
  have hsize : ring.size = 3 := by decide +kernel
  have hnests := resolveRecord_nests ring (MemoryVariables.ofList [])
  obtain ⟨-, hforeign⟩ := hnests.right.right.right inferInstance inferInstance
  exact ⟨hsize, hforeign (by simp [hsize])⟩

-- Records in a row, each of which refers to the next one.
def row (n : Nat) : Batch :=
  .ofEntries (.file "" .empty)
    ((List.range n).map fun i => (toString i, "#\x7b" ++ toString (i + 1) ++ "\x7d"))

-- One more record than in the theorem exceeds the limit.
example :
    ((row 65).resolve (Variables.value? (MemoryVariables.ofList [])) "0").outcome =
      .error (.referenceDepthExceeded "64" 64) := by
  decide +kernel

end Batch

end EnvProvision
