import EnvProvision.Proofs.Composition
import EnvProvision.Proofs.Grammar

namespace EnvProvision

namespace Template

theorem segments_eq_nil_iff {cs : List Char} : segments cs = [] ↔ cs = [] := by
  constructor
  case mp =>
    intro h
    have hrender := (reads_segments cs).render_eq
    rwa [h, eq_comm] at hrender
  case mpr =>
    rintro rfl
    exact reads_nil_iff.mp (reads_segments [])

theorem text_ne_nil_of_mem_segments {cs text : List Char} (h : .literal text ∈ segments cs) :
    text ≠ [] := by
  rintro rfl
  exact (reads_segments cs).literal_nil h

theorem Contributes.ne_empty {Offers : String → Option String → Prop} {segment : Segment}
    {value : String} (h : Contributes Offers segment value)
    (hliteral : ∀ text, segment = .literal text → text ≠ [])
    (hoffers : ∀ c found, Offers c (some found) → found ≠ "") : value ≠ "" := by
  cases h with
  | literal text => exact mt String.ofList_eq_empty_iff.mp (hliteral text rfl)
  | reference _ _ hc => exact hoffers _ _ hc

theorem eq_empty_iff_of_expand {find : String → Traced (Option String)} {segments : List Segment}
    {value : String} (hliteral : ∀ text, .literal text ∈ segments → text ≠ [])
    (hfind : ∀ c found, (find c).outcome = .ok (some found) → found ≠ "")
    (h : (expand find segments).outcome = .ok value) : value = "" ↔ segments = [] := by
  obtain ⟨pieces, rfl, hpieces⟩ := expand_eq_ok_iff.mp h
  cases hpieces with
  | nil => simp
  | @cons segment piece rest pieces hpiece _ =>
    have hfirst (text) (heq : segment = .literal text) : text ≠ [] :=
      hliteral text (heq ▸ List.mem_cons_self)
    have hne : piece ≠ "" := hpiece.ne_empty hfirst hfind
    simp [String.join_cons, hne]

end Template

namespace Batch

variable {batch : Batch} {env : Reader} {resolve : Record → Traced String}
  {key candidate value : String}

theorem ne_empty_of_find
    (h : (batch.find env resolve key candidate).outcome = .ok (some value)) : value ≠ "" := by
  have hf := finds batch env resolve key candidate
  generalize batch.find env resolve key candidate = t at h hf
  cases hf with
  | unreadable | siblingFails => cases h
  | environment _ hne | sibling _ _ _ hne =>
    cases h
    exact hne
  | siblingEmpty | storage =>
    obtain ⟨_, _, hanswer⟩ := Traced.map_eq_ok_iff.mp h
    exact (nonEmpty_eq_some_iff.mp hanswer).right

theorem ne_empty_of_fill {inner : List Char}
    (h : (Template.fill (batch.find env resolve key) inner).outcome = .ok value) : value ≠ "" := by
  have hnone (text) (heq : Segment.reference inner = .literal text) : text ≠ [] := by cases heq
  have hfind (c found) (hc : (batch.find env resolve key c).outcome = .ok (some found)) :
      found ≠ "" := ne_empty_of_find hc
  exact (Template.contributes_reference_iff.mpr h).ne_empty hnone hfind

theorem eq_empty_iff_of_resolveWithin {room : Nat} {chain : List String} {record : Record}
    (h : (batch.resolveWithin env room chain record).outcome = .ok value) :
    value = "" ↔ record.template = "" := by
  have hnew : record.key ∉ chain := by
    intro hmem
    cases room <;> simp [resolveWithin, hmem, Traced.fail] at h
  cases room with
  | zero => simp [resolveWithin, hnew, Traced.fail] at h
  | succ room =>
    rw [resolveWithin_succ hnew] at h
    have hiff := Template.eq_empty_iff_of_expand
      (fun _ => Template.text_ne_nil_of_mem_segments) (fun _ _ => ne_empty_of_find) h
    rw [hiff, Template.segments_eq_nil_iff, String.toList_eq_nil_iff]

-- Whatever is under expansion around it, a record that resolves has the empty value only if its
-- template is empty. A placeholder is never filled with nothing, be there empty variables, empty
-- siblings, which may resolve in any way, or empty secrets.
theorem resolveWithin_eq_empty_iff {σ : Type} [Variables σ] (batch : Batch) (env : σ) :
    let reader := Variables.value? env
    (∀ room chain record value, (batch.resolveWithin reader room chain record).outcome = .ok value →
      (value = "" ↔ record.template = "")) ∧
    ∀ resolve key inner value,
      (Template.fill (batch.find reader resolve key) inner).outcome = .ok value → value ≠ "" := by
  intro reader
  constructor
  case left =>
    intro room chain record value h
    exact eq_empty_iff_of_resolveWithin h
  case right =>
    intro resolve key inner value h
    exact ne_empty_of_fill h

-- `T` is nested in `TOP`, and all that it names before `V` is there but empty.
theorem resolveWithin_eq_empty_iff_fallback :
    let nested : Record := ⟨"T", "#\x7bE || S || K || V\x7d"⟩
    let batch := ofEntries (.file "" (.ofList [("K", ""), ("V", "v")]))
      [("TOP", "#\x7bT\x7d"), ("S", ""), (nested.key, nested.template)]
    let reader := Variables.value? (MemoryVariables.ofList [("E", "")])
    (batch.resolveWithin reader 63 ["TOP"] nested).outcome = .ok "v" ∧
      ("v" = "" ↔ nested.template = "") := by
  intro nested batch reader
  have hvalue : (batch.resolveWithin reader 63 ["TOP"] nested).outcome = .ok "v" := by
    decide +kernel
  exact ⟨hvalue, (resolveWithin_eq_empty_iff batch _).left 63 ["TOP"] nested "v" hvalue⟩

end Batch

end EnvProvision
