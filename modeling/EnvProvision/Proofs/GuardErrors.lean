import EnvProvision.Proofs.Nesting

namespace EnvProvision

namespace Batch

section

variable {batch : Batch} {env : Reader} {top : Record} {above : List Record} {record : Record}

theorem Visits.path_of_ne_nil (h : batch.Visits env top above record) (hne : above ≠ []) :
    ∃ between, above = top :: between ∧ batch.References env top (between ++ [record]) := by
  obtain ⟨path, heq, hp⟩ := h.path
  cases above with
  | nil => simp at hne
  | cons first between =>
    obtain ⟨rfl, rfl⟩ : first = top ∧ between ++ [record] = path := by simpa using heq
    exact ⟨between, rfl, hp⟩

-- A record is never found to be within itself by its own reference to itself.
theorem Visits.mem_dropLast (h : batch.Visits env top above record)
    (hmem : record.key ∈ above.map Record.key) :
    record.key ∈ (above.map Record.key).dropLast := by
  cases h with
  | top => simp at hmem
  | sibling _ hd => simpa [hd.ne] using hmem

end

-- A cycle is told as the keys along a path of references from the record that was asked for, all of
-- them different but the last, which is one of those before, and not the one right before. The
-- limit is told at the end of such a path that returns nowhere.
theorem resolveRecord_tells_references {σ : Type} [Variables σ] [LawfulVariables σ] (batch : Batch)
    [LawfulStorage batch.storage] (env : σ) (top : Record) :
    let outcome := (batch.resolveRecord (Variables.value? env) top).outcome
    (∀ chain, outcome = .error (.cyclicReference chain) →
      ∃ between last,
        let keys := (top :: between).map Record.key
        chain = keys ++ [last.key] ∧ 2 ≤ keys.length ∧ keys.length ≤ 64 ∧ keys.Nodup ∧
          last.key ∈ keys.dropLast ∧
          batch.References (Variables.value? env) top (between ++ [last])) ∧
    (∀ key limit, outcome = .error (.referenceDepthExceeded key limit) →
      ∃ between last,
        let keys := (top :: between).map Record.key
        key = last.key ∧ limit = 64 ∧ keys.length = 64 ∧ keys.Nodup ∧ last.key ∉ keys ∧
          batch.References (Variables.value? env) top (between ++ [last])) := by
  constructor
  case left =>
    intro chain h
    obtain ⟨above, last, hv, hr⟩ := Visits.exists_rejects .top rfl h
    cases hr with
    | cycle hmem =>
      have hlast := hv.mem_dropLast hmem
      obtain ⟨between, rfl, hp⟩ := hv.path_of_ne_nil (by rintro rfl; simp at hmem)
      have htwo : 1 < ((top :: between).map Record.key).length := by
        have hpos := List.length_pos_of_mem hlast
        rw [List.length_dropLast] at hpos
        omega
      have hle : ((top :: between).map Record.key).length ≤ 64 := by
        simpa [depthLimit] using hv.nested.length_le
      exact ⟨between, last, rfl, htwo, hle, hv.nested.distinct, hlast, hp⟩
  case right =>
    intro key limit h
    obtain ⟨above, last, hv, hr⟩ := Visits.exists_rejects .top rfl h
    cases hr with
    | depth hnew hfull =>
      obtain ⟨between, rfl, hp⟩ := hv.path_of_ne_nil (by rintro rfl; simp [depthLimit] at hfull)
      have hlength : ((top :: between).map Record.key).length = 64 := by
        have hle := hv.nested.length_le
        simp [depthLimit] at hfull hle ⊢
        omega
      exact ⟨between, last, rfl, rfl, hlength, hv.nested.distinct, hnew, hp⟩

-- The ring is entered at `A`, behind a placeholder that the environment fills.
theorem ring_tells_references :
    let env := MemoryVariables.ofList [("E", "set")]
    let top : Record := ⟨"OUT", "#\x7bE\x7d #\x7bZ || A\x7d"⟩
    (ring.resolveRecord (Variables.value? env) top).outcome =
      .error (.cyclicReference ["OUT", "A", "B", "C", "A"]) ∧
    ∃ between last,
      ["OUT", "A", "B", "C"] = (top :: between).map Record.key ∧ last.key = "A" ∧
        ring.References (Variables.value? env) top (between ++ [last]) := by
  intro env top
  have hcycle : (ring.resolveRecord (Variables.value? env) top).outcome =
      .error (.cyclicReference ["OUT", "A", "B", "C", "A"]) := by decide +kernel
  obtain ⟨between, last, hchain, _, _, _, _, hp⟩ :=
    (resolveRecord_tells_references ring env top).left _ hcycle
  have hsplit : ["OUT", "A", "B", "C"] ++ ["A"] = (top :: between).map Record.key ++ [last.key] :=
    hchain
  obtain ⟨hkeys, hlast⟩ := List.append_inj' hsplit rfl
  exact ⟨hcycle, between, last, hkeys, by simpa using hlast.symm, hp⟩

end Batch

end EnvProvision
