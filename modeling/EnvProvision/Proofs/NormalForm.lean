import EnvProvision.Proofs.Alternatives
import EnvProvision.Proofs.Composition
import EnvProvision.Proofs.Grammar

namespace EnvProvision

namespace Template

-- The first name that a placeholder offers.
def firstName (inner : List Char) : String :=
  (candidates inner).head (candidates_ne_nil inner)

end Template

open Template

-- A placeholder that offers nothing but its first name.
def Segment.normalize : Segment → Segment
  | .literal text => .literal text
  | .reference inner => .reference (firstName inner).toList

namespace Template

def normalize (cs : List Char) : List Char :=
  render ((segments cs).map Segment.normalize)

section

variable {cs ds text inner after : List Char} {c : Char} {parts : List Segment}

theorem exists_alternatives_eq (inner : List Char) :
    ∃ first more, alternatives inner = first :: more ∧
      (firstName inner).toList = Text.trim first := by
  obtain ⟨first, more, h⟩ := List.exists_cons_of_ne_nil (alternatives_ne_nil inner)
  exact ⟨first, more, h, by simp [firstName, candidates, h]⟩

theorem candidates_eq_cons (inner : List Char) :
    ∃ more, candidates inner = firstName inner :: more :=
  ⟨_, (List.cons_head_tail (candidates_ne_nil inner)).symm⟩

theorem isInfix_firstName (inner : List Char) : (firstName inner).toList <:+: inner := by
  obtain ⟨first, more, hfirst, hname⟩ := exists_alternatives_eq inner
  rw [hname]
  exact (Text.isInfix_trim first).trans (prefix_of_alternatives hfirst).isInfix

theorem isInner_firstName (h : IsInner inner) : IsInner (firstName inner).toList := by
  have hsubset := (isInfix_firstName inner).subset
  exact ⟨fun hm => h.left (hsubset hm), fun hm => h.right (hsubset hm)⟩

-- A name offers itself.
theorem candidates_firstName (inner : List Char) :
    candidates (firstName inner).toList = [firstName inner] := by
  obtain ⟨first, more, hfirst, hname⟩ := exists_alternatives_eq inner
  have hcut : ¬separator <:+: Text.trim first := by
    intro h
    have hmem : first ∈ alternatives inner := by simp [hfirst]
    exact not_separator_infix_of_mem hmem (h.trans (Text.isInfix_trim first))
  rw [candidates, hname, alternatives_eq_singleton hcut, List.map_singleton,
    Text.trim_of_trimmed (Text.trimmed_trim first), ← hname, String.ofList_toList]

theorem firstName_firstName (inner : List Char) :
    firstName (firstName inner).toList = firstName inner := by
  obtain ⟨more, h⟩ := candidates_eq_cons (firstName inner).toList
  rw [candidates_firstName] at h
  exact (List.cons.inj h).left.symm

theorem firstName_eq_iff :
    (firstName inner).toList = inner ↔ (candidates inner).length = 1 ∧ Text.Trimmed inner := by
  obtain ⟨first, more, hfirst, hname⟩ := exists_alternatives_eq inner
  have hjoin := intercalate_alternatives inner
  rw [hname, candidates, List.length_map, hfirst]
  rw [hfirst] at hjoin
  cases more with
  | nil =>
    obtain rfl : first = inner := by simpa using hjoin
    constructor
    case mp =>
      intro h
      rw [← h]
      exact ⟨rfl, Text.trimmed_trim first⟩
    case mpr =>
      rintro ⟨_, h⟩
      exact Text.trim_of_trimmed h
  | cons second more =>
    have hlength : (Text.trim first).length ≤ first.length := (Text.isInfix_trim first).length_le
    have hshort : first.length < inner.length := by
      rw [← hjoin, List.intercalate_cons_cons]
      simp only [separator, List.length_append, List.length_cons]
      omega
    have hne : Text.trim first ≠ inner := by
      intro h
      rw [h] at hlength
      omega
    simp [hne]

theorem isSome_closed?_append (text : List Char) (h : (closed? cs).isSome = (closed? ds).isSome) :
    (closed? (text ++ cs)).isSome = (closed? (text ++ ds)).isSome := by
  induction text with
  | nil => exact h
  | cons c rest ih =>
    simp only [List.cons_append, closed?]
    split
    case isTrue => rfl
    case isFalse => split <;> simp [ih]

theorem isSome_closed?_render_normalize
    (h : ∀ inner, .reference inner ∈ parts → IsInner inner) :
    (closed? (render (parts.map Segment.normalize))).isSome = (closed? (render parts)).isSome := by
  induction parts with
  | nil => rfl
  | cons part rest ih =>
    have hrest := ih fun inner hm => h inner (List.mem_cons_of_mem _ hm)
    cases part with
    | literal text => exact isSome_closed?_append text hrest
    | reference inner =>
      have hinner : IsInner inner := h inner List.mem_cons_self
      have hopening (inner : List Char) (hinner : IsInner inner) :
          IsInner ('#' :: '{' :: inner) := by
        simpa [IsInner] using hinner
      rw [List.map_cons, Segment.normalize, render_reference, render_reference,
        closed?_append (hopening _ (isInner_firstName hinner)), closed?_append (hopening _ hinner)]
      rfl

-- Whether a literal character starts a placeholder can be told from the literal it belongs to and
-- from where the next placeholders are, whatever these hold.
theorem isSome_placeholder?_render_normalize (c : Char) (hnil : .literal [] ∉ parts)
    (h : ∀ inner, .reference inner ∈ parts → IsInner inner) :
    (placeholder? (c :: render (parts.map Segment.normalize))).isSome =
      (placeholder? (c :: render parts)).isSome := by
  cases parts with
  | nil => rfl
  | cons part rest =>
    cases part with
    | reference inner =>
      rw [List.map_cons, Segment.normalize, render_reference, render_reference]
      simp [placeholder?]
    | literal text =>
      cases text with
      | nil => exact absurd List.mem_cons_self hnil
      | cons d text =>
        have hrest := isSome_closed?_render_normalize fun inner hm =>
          h inner (List.mem_cons_of_mem _ hm)
        have htext := isSome_closed?_append text hrest
        by_cases hopening : c = '#' ∧ d = '{'
        case pos =>
          obtain ⟨rfl, rfl⟩ := hopening
          exact htext
        case neg =>
          simp_all [placeholder?, render, Segment.normalize, Segment.written]

theorem map_normalize_pushLiteral (c : Char) (parts : List Segment) :
    (pushLiteral c parts).map Segment.normalize =
      pushLiteral c (parts.map Segment.normalize) := by
  cases parts with
  | nil => rfl
  | cons part rest => cases part <;> rfl

theorem reads_normalize (cs : List Char) :
    Reads (normalize cs) ((segments cs).map Segment.normalize) := by
  unfold normalize
  fun_induction segments cs with
  | case1 cs inner after hplaceholder _ ih =>
    obtain ⟨hinner, rfl⟩ := placeholder?_eq_some_iff.mp hplaceholder
    rw [List.map_cons, Segment.normalize, render_reference]
    exact ih.reference (isInner_firstName hinner)
  | case2 => exact reads_nil_iff.mpr rfl
  | case3 c rest hplaceholder ih =>
    have hreads := reads_segments rest
    have hsome := isSome_placeholder?_render_normalize c hreads.literal_nil hreads.isInner
    rw [hreads.render_eq, hplaceholder, Option.isSome_none, Option.isSome_eq_false_iff,
      Option.isNone_iff_eq_none, placeholder?_eq_none_iff] at hsome
    rw [map_normalize_pushLiteral, render_pushLiteral]
    exact ih.pushLiteral hsome

theorem segments_normalize (cs : List Char) :
    segments (normalize cs) = (segments cs).map Segment.normalize :=
  (reads_normalize cs).eq_segments.symm

theorem normalize_normalize (cs : List Char) : normalize (normalize cs) = normalize cs := by
  have hsegment (part : Segment) : part.normalize.normalize = part.normalize := by
    cases part <;> simp [Segment.normalize, firstName_firstName]
  have hparts : ((segments cs).map Segment.normalize).map Segment.normalize =
      (segments cs).map Segment.normalize := by
    rw [List.map_map]
    exact List.map_congr_left fun part _ => hsegment part
  rw [normalize, segments_normalize, hparts, normalize]

theorem normalize_eq_self_iff :
    normalize cs = cs ↔
      ∀ inner, .reference inner ∈ segments cs →
        (candidates inner).length = 1 ∧ Text.Trimmed inner := by
  have hfixed : normalize cs = cs ↔ ∀ part ∈ segments cs, part.normalize = part := by
    rw [← List.map_eq_map_iff (g := fun part => part), List.map_id_fun', id]
    constructor
    case mp =>
      intro h
      rw [← segments_normalize, h]
    case mpr =>
      intro h
      rw [normalize, h, (reads_segments cs).render_eq]
  rw [hfixed]
  constructor
  case mp =>
    intro h inner hm
    exact firstName_eq_iff.mp (Segment.reference.inj (h _ hm))
  case mpr =>
    intro h part hm
    cases part with
    | literal text => rfl
    | reference inner => exact congrArg Segment.reference (firstName_eq_iff.mpr (h inner hm))

theorem outcome_expand_of_fill {find : String → Traced (Option String)}
    (h : ∀ inner, .reference inner ∈ parts →
      (fill find inner).outcome = .ok (placeholder (firstName inner))) :
    (expand find parts).outcome =
      .ok (String.ofList (render (parts.map Segment.normalize))) := by
  induction parts with
  | nil => rfl
  | cons part rest ih =>
    have hrest := ih fun inner hm => h inner (List.mem_cons_of_mem _ hm)
    cases part with
    | literal text =>
      refine Traced.bind_eq_ok_iff.mpr ⟨_, hrest, ?_⟩
      simp [render, Segment.normalize, Segment.written]
    | reference inner =>
      have hfill := h inner List.mem_cons_self
      refine Traced.bind_eq_ok_iff.mpr ⟨_, hfill, Traced.bind_eq_ok_iff.mpr ⟨_, hrest, ?_⟩⟩
      rw [List.map_cons, Segment.normalize, render_reference]
      apply congrArg Except.ok
      apply String.toList_inj.mp
      simp [placeholder]

end

end Template

namespace Batch

-- Neither a variable nor another record has a value for the first name of a placeholder.
def LeavesToStorage (batch : Batch) (env : Reader) (record : Record) : Prop :=
  ∀ inner, .reference inner ∈ segments record.template.toList →
    Absent env (firstName inner) ∧
      (firstName inner = record.key ∨ batch.get? (firstName inner) = none)

variable {batch : Batch} {env : Reader} {record : Record}

theorem outcome_fill_of_plain {resolve : Record → Traced String} {key : String} {inner : List Char}
    (hstorage : batch.storage = .plain "") (ha : Absent env (firstName inner))
    (hs : firstName inner = key ∨ batch.get? (firstName inner) = none) :
    (fill (batch.find env resolve key) inner).outcome = .ok (placeholder (firstName inner)) := by
  have hsibling : batch.sibling? key (firstName inner) = none := by
    obtain hkey | hget := hs
    case inl => simp [sibling?, hkey]
    case inr => simp [sibling?, hget]
  have hne : placeholder (firstName inner) ≠ "" := by
    simp [placeholder]
  have hfind : (batch.find env resolve key (firstName inner)).outcome =
      .ok (some (placeholder (firstName inner))) := by
    rw [find_storage ha hsibling, hstorage]
    simp [Storage.retrieve, Storage.fullKey, Except.map, nonEmpty_some hne]
  obtain ⟨more, hnames⟩ := candidates_eq_cons inner
  exact fill_eq_ok_iff.mpr (firstPresent_eq_some_iff.mpr
    ⟨[], _, more, hnames, List.forall_mem_nil _, hfind⟩)

theorem LeavesToStorage.outcome_eq (hstorage : batch.storage = .plain "")
    (h : batch.LeavesToStorage env record) :
    (batch.resolveRecord env record).outcome =
      .ok (String.ofList (normalize record.template.toList)) := by
  rw [resolveRecord_eq]
  apply outcome_expand_of_fill
  intro inner hm
  exact outcome_fill_of_plain hstorage (h inner hm).left (h inner hm).right

theorem LeavesToStorage.normalize (h : batch.LeavesToStorage env record) :
    batch.LeavesToStorage env
      { record with template := String.ofList (normalize record.template.toList) } := by
  intro inner hm
  rw [String.toList_ofList, segments_normalize, List.mem_map] at hm
  obtain ⟨part, hpart, heq⟩ := hm
  cases part with
  | literal text => cases heq
  | reference inner' =>
    obtain rfl : (firstName inner').toList = inner := Segment.reference.inj heq
    rw [firstName_firstName]
    exact h inner' hpart

-- Over plain storage without a scope, where neither variables nor other records have values for the
-- first names, a template resolves to its normal form. That resolves to itself, and it is the
-- template itself just if each of the placeholders offers one name and no white space around it.
theorem resolveRecord_normalizes {σ : Type} [Variables σ] (batch : Batch) (env : σ)
    (record : Record) (hstorage : batch.storage = .plain "")
    (hleaves : batch.LeavesToStorage (Variables.value? env) record) :
    let reader := Variables.value? env
    let result := String.ofList (Template.normalize record.template.toList)
    (batch.resolveRecord reader record).outcome = .ok result ∧
      (batch.resolveRecord reader { record with template := result }).outcome = .ok result ∧
      (result = record.template ↔
        ∀ inner, .reference inner ∈ segments record.template.toList →
          (candidates inner).length = 1 ∧ Text.Trimmed inner) := by
  intro reader result
  refine ⟨hleaves.outcome_eq hstorage, ?_, ?_⟩
  · have hagain := hleaves.normalize.outcome_eq hstorage
    rw [String.toList_ofList, normalize_normalize] at hagain
    exact hagain
  · rw [← normalize_eq_self_iff, ← String.toList_inj, String.toList_ofList]

-- The record names itself, an empty name, and in second place a variable and another record. An
-- opening that is cut off by the end of its line stands right in front of a placeholder.
theorem resolveRecord_normalizes_once :
    let record : Record := ⟨"A", "#\x7b A || B || C \x7d-#\x7b\n#\x7b || x\x7d#"⟩
    let batch := ofEntries (.plain "") [("A", "a"), ("C", "c")]
    let reader := Variables.value? (MemoryVariables.ofList [("A", ""), ("B", "b")])
    let result := "#\x7bA\x7d-#\x7b\n#\x7b\x7d#"
    batch.storage = .plain "" ∧ batch.LeavesToStorage reader record ∧
      (batch.resolveRecord reader record).outcome = .ok result ∧
      (batch.resolveRecord reader { record with template := result }).outcome = .ok result ∧
      (result = record.template ↔
        ∀ inner, .reference inner ∈ segments record.template.toList →
          (candidates inner).length = 1 ∧ Text.Trimmed inner) := by
  intro record batch reader result
  have hstorage : batch.storage = .plain "" := rfl
  have hparts : segments record.template.toList =
      [.reference " A || B || C ".toList, .literal "-#\x7b\n".toList, .reference " || x".toList,
        .literal ['#']] := by
    decide +kernel
  have hleaves : batch.LeavesToStorage reader record := by
    intro inner hm
    simp only [hparts, List.mem_cons, List.not_mem_nil, Segment.reference.injEq, reduceCtorEq,
      false_or, or_false] at hm
    obtain rfl | rfl := hm
    case inl => exact ⟨⟨some "", by decide +kernel, rfl⟩, .inl (by decide +kernel)⟩
    case inr => exact ⟨⟨none, by decide +kernel, rfl⟩, .inr (by decide +kernel)⟩
  have hresult : String.ofList (Template.normalize record.template.toList) = result := by
    decide +kernel
  have h := resolveRecord_normalizes batch (MemoryVariables.ofList [("A", ""), ("B", "b")]) record
    hstorage hleaves
  rw [hresult] at h
  exact ⟨hstorage, hleaves, h⟩

end Batch

end EnvProvision
