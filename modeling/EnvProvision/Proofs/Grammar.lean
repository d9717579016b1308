import EnvProvision.Template
import Mathlib.Data.List.Chain

namespace EnvProvision

namespace Segment

-- How a segment is written in a template.
def written : Segment → List Char
  | .literal text => text
  | .reference inner => '#' :: '{' :: inner ++ ['}']

def isLiteral : Segment → Bool
  | .literal _ => true
  | .reference _ => false

end Segment

namespace Template

def render (parts : List Segment) : List Char :=
  parts.flatMap Segment.written

-- What can stand in a placeholder, between `#{` and `}`.
def IsInner (inner : List Char) : Prop :=
  '}' ∉ inner ∧ '\n' ∉ inner

-- The text starts with a placeholder that is closed, on the same line.
def StartsClosed (cs : List Char) : Prop :=
  ∃ inner after, IsInner inner ∧ cs = '#' :: '{' :: inner ++ '}' :: after

-- No two literals are next to each other.
def Separated (parts : List Segment) : Prop :=
  parts.IsChain fun a b => !(a.isLiteral && b.isLiteral)

-- Whether the character at a place of the written segments belongs to a literal.
def inLiteral : List Segment → Nat → Bool
  | [], _ => false
  | part :: rest, place =>
    if place < part.written.length then part.isLiteral
    else inLiteral rest (place - part.written.length)

-- The segments are a reading of the text: they are what is written there, literals are as long as
-- they can be, and no placeholder is taken for a literal or cut short by one.
structure Reads (cs : List Char) (parts : List Segment) : Prop where
  render_eq : render parts = cs
  literal_nil : .literal [] ∉ parts
  separated : Separated parts
  isInner : ∀ inner, .reference inner ∈ parts → IsInner inner
  not_startsClosed : ∀ place, inLiteral parts place → ¬StartsClosed (cs.drop place)

variable {cs inner inner' after : List Char} {c : Char} {parts : List Segment}

theorem closed?_append (h : IsInner inner) (after : List Char) :
    closed? (inner ++ '}' :: after) = some (inner, after) := by
  induction inner with
  | nil => simp [closed?]
  | cons c rest ih =>
    have hbrace : '}' ≠ c ∧ '}' ∉ rest := by simpa using h.left
    have hfeed : '\n' ≠ c ∧ '\n' ∉ rest := by simpa using h.right
    have hrest := ih ⟨hbrace.right, hfeed.right⟩
    simp [closed?, hbrace.left.symm, hfeed.left.symm, hrest]

theorem isInner_of_closed? (h : closed? cs = some (inner, after)) : IsInner inner := by
  induction cs generalizing inner with
  | nil => simp [closed?] at h
  | cons c rest ih =>
    by_cases hbrace : c = '}'
    case pos =>
      obtain ⟨rfl, -⟩ : [] = inner ∧ rest = after := by simpa [closed?, hbrace] using h
      simp [IsInner]
    case neg =>
      have hfeed : c ≠ '\n' := by
        rintro rfl
        simp [closed?] at h
      obtain ⟨inner', hrest, rfl⟩ : ∃ a, closed? rest = some (a, after) ∧ c :: a = inner := by
        simpa [closed?, hbrace, hfeed] using h
      have hinner := ih hrest
      simp [IsInner, Ne.symm hbrace, Ne.symm hfeed, hinner.left, hinner.right]

theorem placeholder?_eq_some_iff :
    placeholder? cs = some (inner, after) ↔
      IsInner inner ∧ cs = '#' :: '{' :: inner ++ '}' :: after := by
  constructor
  case mp =>
    intro h
    refine ⟨?_, placeholder?_eq_some h⟩
    rw [placeholder?_eq_some h] at h
    exact isInner_of_closed? h
  case mpr =>
    rintro ⟨hinner, rfl⟩
    exact closed?_append hinner after

theorem placeholder?_eq_none_iff : placeholder? cs = none ↔ ¬StartsClosed cs := by
  simp only [StartsClosed, ← placeholder?_eq_some_iff, Option.eq_none_iff_forall_ne_some,
    Prod.forall, not_exists, ne_eq]

theorem inner_unique {after' : List Char} (h : IsInner inner) (h' : IsInner inner')
    (heq : '#' :: '{' :: inner ++ '}' :: after = '#' :: '{' :: inner' ++ '}' :: after') :
    inner = inner' ∧ after = after' := by
  have hread : placeholder? ('#' :: '{' :: inner ++ '}' :: after) = some (inner, after) :=
    placeholder?_eq_some_iff.mpr ⟨h, rfl⟩
  rw [placeholder?_eq_some_iff.mpr ⟨h', heq⟩] at hread
  simpa [eq_comm] using hread

theorem render_reference (inner : List Char) (parts : List Segment) :
    render (.reference inner :: parts) = '#' :: '{' :: inner ++ '}' :: render parts := by
  simp [render, Segment.written]

theorem inLiteral_reference (inner : List Char) (parts : List Segment) (place : Nat) :
    inLiteral (.reference inner :: parts) place =
      (decide (inner.length + 3 ≤ place) && inLiteral parts (place - (inner.length + 3))) := by
  by_cases h : inner.length + 3 ≤ place
  case pos => simp [inLiteral, Segment.written, h, Nat.not_lt.mpr h]
  case neg => simp [inLiteral, Segment.written, Segment.isLiteral, h, Nat.not_le.mp h]

theorem drop_reference (inner after : List Char) (place : Nat) :
    ('#' :: '{' :: inner ++ '}' :: after).drop (inner.length + 3 + place) = after.drop place := by
  have h : '#' :: '{' :: inner ++ '}' :: after = Segment.written (.reference inner) ++ after := by
    simp [Segment.written]
  have hlength : (Segment.written (.reference inner)).length = inner.length + 3 := by
    simp [Segment.written]
  rw [h, ← hlength, List.drop_length_add_append]

theorem Reads.reference (h : Reads after parts) (hinner : IsInner inner) :
    Reads ('#' :: '{' :: inner ++ '}' :: after) (.reference inner :: parts) where
  render_eq := by rw [render_reference, h.render_eq]
  literal_nil := by simp [h.literal_nil]
  separated := List.isChain_cons.mpr ⟨by simp [Segment.isLiteral], h.separated⟩
  isInner := by simpa [hinner] using h.isInner
  not_startsClosed place hplace := by
    rw [inLiteral_reference, Bool.and_eq_true, decide_eq_true_eq] at hplace
    obtain ⟨place, rfl⟩ := Nat.exists_eq_add_of_le hplace.left
    rw [Nat.add_sub_cancel_left] at hplace
    rw [drop_reference]
    exact h.not_startsClosed place hplace.right

theorem Reads.of_reference
    (h : Reads ('#' :: '{' :: inner ++ '}' :: after) (.reference inner :: parts)) :
    Reads after parts where
  render_eq := by simpa [render_reference] using h.render_eq
  literal_nil hm := h.literal_nil (List.mem_cons_of_mem _ hm)
  separated := h.separated.tail
  isInner inner' hm := h.isInner inner' (List.mem_cons_of_mem _ hm)
  not_startsClosed place hplace := by
    rw [← drop_reference inner]
    apply h.not_startsClosed
    simpa [inLiteral_reference] using hplace

-- A reading of a text that starts with a placeholder starts with it.
theorem Reads.exists_of_startsClosed (h : Reads ('#' :: '{' :: inner ++ '}' :: after) parts)
    (hinner : IsInner inner) : ∃ rest, parts = .reference inner :: rest ∧ Reads after rest := by
  cases parts with
  | nil => cases h.render_eq
  | cons part rest =>
    cases part with
    | literal text =>
      have hne : text ≠ [] := by
        rintro rfl
        exact h.literal_nil List.mem_cons_self
      have hplace : inLiteral (.literal text :: rest) 0 := by
        simp [inLiteral, Segment.written, Segment.isLiteral, List.length_pos_iff.mpr hne]
      exact absurd ⟨inner, after, hinner, rfl⟩ (h.not_startsClosed 0 hplace)
    | reference inner' =>
      have hinner' := h.isInner inner' List.mem_cons_self
      have heq := h.render_eq
      rw [render_reference] at heq
      obtain ⟨rfl, rfl⟩ := inner_unique hinner' hinner heq
      exact ⟨rest, rfl, h.of_reference⟩

theorem render_pushLiteral (c : Char) (parts : List Segment) :
    render (pushLiteral c parts) = c :: render parts := by
  unfold pushLiteral
  split <;> simp [render, Segment.written]

theorem inLiteral_pushLiteral_succ (c : Char) (parts : List Segment) (place : Nat) :
    inLiteral (pushLiteral c parts) (place + 1) = inLiteral parts place := by
  unfold pushLiteral
  split
  case h_1 =>
    simp only [inLiteral, Segment.written, List.length_cons, Nat.add_lt_add_iff_right,
      Nat.add_sub_add_right]
    rfl
  case h_2 => simp [inLiteral, Segment.written]

theorem mem_pushLiteral_reference :
    .reference inner ∈ pushLiteral c parts ↔ .reference inner ∈ parts := by
  unfold pushLiteral
  split <;> simp

theorem literal_nil_notMem_pushLiteral (h : .literal [] ∉ parts) :
    .literal [] ∉ pushLiteral c parts := by
  unfold pushLiteral
  split <;> simp_all

theorem Separated.literal {text : List Char} (h : Separated (.literal text :: parts))
    (text' : List Char) : Separated (.literal text' :: parts) :=
  List.isChain_cons.mpr (List.isChain_cons.mp h)

theorem Separated.pushLiteral (h : Separated parts) : Separated (pushLiteral c parts) := by
  cases parts with
  | nil => exact .singleton _
  | cons part rest =>
    cases part with
    | literal text => exact h.literal (c :: text)
    | reference inner => exact .cons_cons rfl h

theorem pushLiteral_of_separated {text : List Char} (h : Separated (.literal text :: parts))
    (c : Char) : pushLiteral c parts = .literal [c] :: parts := by
  cases parts with
  | nil => rfl
  | cons part rest =>
    cases part with
    | literal text => simp [Separated, Segment.isLiteral] at h
    | reference inner => rfl

-- The first character of a literal in front can be taken away, and the literal with it if it has no
-- other.
theorem exists_eq_pushLiteral {text : List Char} (hnil : .literal [] ∉ .literal text :: parts)
    (hseparated : Separated (.literal text :: parts)) :
    ∃ c rest, .literal text :: parts = pushLiteral c rest ∧ .literal [] ∉ rest ∧
      Separated rest := by
  have hparts : .literal [] ∉ parts := fun hm => hnil (List.mem_cons_of_mem _ hm)
  cases text with
  | nil => exact absurd List.mem_cons_self hnil
  | cons c text =>
    cases text with
    | nil =>
      exact ⟨c, parts, (pushLiteral_of_separated hseparated c).symm, hparts, hseparated.tail⟩
    | cons d text =>
      exact ⟨c, .literal (d :: text) :: parts, rfl, by simpa using hparts,
        hseparated.literal (d :: text)⟩

-- A character that no placeholder starts with goes into the literal in front.
theorem Reads.pushLiteral (h : Reads cs parts) (hc : ¬StartsClosed (c :: cs)) :
    Reads (c :: cs) (pushLiteral c parts) where
  render_eq := by rw [render_pushLiteral, h.render_eq]
  literal_nil := literal_nil_notMem_pushLiteral h.literal_nil
  separated := h.separated.pushLiteral
  isInner inner hm := h.isInner inner (mem_pushLiteral_reference.mp hm)
  not_startsClosed place hplace := by
    cases place with
    | zero => exact hc
    | succ place =>
      rw [inLiteral_pushLiteral_succ] at hplace
      exact h.not_startsClosed place hplace

theorem Reads.of_pushLiteral (h : Reads (c :: cs) (Template.pushLiteral c parts))
    (hnil : .literal [] ∉ parts) (hseparated : Separated parts) : Reads cs parts where
  render_eq := by simpa [render_pushLiteral] using h.render_eq
  literal_nil := hnil
  separated := hseparated
  isInner inner hm := h.isInner inner (mem_pushLiteral_reference.mpr hm)
  not_startsClosed place hplace := by
    rw [← inLiteral_pushLiteral_succ c] at hplace
    exact h.not_startsClosed (place + 1) hplace

-- A reading of a text that does not start with a placeholder starts with a literal.
theorem Reads.exists_of_not_startsClosed (h : Reads (c :: cs) parts)
    (hc : ¬StartsClosed (c :: cs)) :
    ∃ rest, parts = Template.pushLiteral c rest ∧ Reads cs rest := by
  have heq := h.render_eq
  cases parts with
  | nil => cases heq
  | cons part rest =>
    cases part with
    | reference inner =>
      have hinner := h.isInner inner List.mem_cons_self
      rw [render_reference] at heq
      exact absurd ⟨inner, render rest, hinner, heq.symm⟩ hc
    | literal text =>
      obtain ⟨d, rest', hparts, hnil, hseparated⟩ :=
        exists_eq_pushLiteral h.literal_nil h.separated
      rw [hparts, render_pushLiteral] at heq
      obtain rfl : d = c := (List.cons.inj heq).left
      rw [hparts] at h ⊢
      exact ⟨rest', rfl, h.of_pushLiteral hnil hseparated⟩

theorem reads_nil_iff : Reads [] parts ↔ parts = [] := by
  constructor
  case mp =>
    intro h
    have heq := h.render_eq
    cases parts with
    | nil => rfl
    | cons part rest =>
      cases part with
      | reference inner => cases heq
      | literal text =>
        obtain rfl : text = [] := (List.append_eq_nil_iff.mp heq).left
        exact absurd List.mem_cons_self h.literal_nil
  case mpr =>
    rintro rfl
    exact ⟨rfl, List.not_mem_nil, .nil, nofun, nofun⟩

theorem reads_segments (cs : List Char) : Reads cs (segments cs) := by
  fun_induction segments cs with
  | case1 cs inner after hplaceholder _ ih =>
    obtain ⟨hinner, rfl⟩ := placeholder?_eq_some_iff.mp hplaceholder
    exact ih.reference hinner
  | case2 => exact reads_nil_iff.mpr rfl
  | case3 c rest hplaceholder ih => exact ih.pushLiteral (placeholder?_eq_none_iff.mp hplaceholder)

theorem Reads.eq_segments (h : Reads cs parts) : parts = segments cs := by
  fun_induction segments cs generalizing parts with
  | case1 cs inner after hplaceholder _ ih =>
    obtain ⟨hinner, rfl⟩ := placeholder?_eq_some_iff.mp hplaceholder
    obtain ⟨rest, rfl, hrest⟩ := h.exists_of_startsClosed hinner
    rw [ih hrest]
  | case2 => exact reads_nil_iff.mp h
  | case3 c rest hplaceholder ih =>
    have hc : ¬StartsClosed (c :: rest) := placeholder?_eq_none_iff.mp hplaceholder
    obtain ⟨parts, rfl, hparts⟩ := h.exists_of_not_startsClosed hc
    rw [ih hparts]

-- The segments of a text are its one reading: written in a row they are the text, no literal is
-- empty or next to another one, placeholders end at their first `}` and within their line, and none
-- that is closed starts within a literal.
theorem reads_iff {cs : List Char} {parts : List Segment} :
    Reads cs parts ↔ parts = segments cs := by
  constructor
  case mp => exact Reads.eq_segments
  case mpr =>
    rintro rfl
    exact reads_segments cs

-- An opening within a placeholder belongs to it, one whose line ends first is literal.
example : segments "#\x7b\n#\x7b#\x7ba\x7d\x7d".toList =
    [.literal "#\x7b\n".toList, .reference "#\x7ba".toList, .literal ['\x7d']] := by
  decide +kernel

end Template

end EnvProvision
