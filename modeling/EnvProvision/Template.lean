import EnvProvision.Text.Blank

namespace EnvProvision

-- A template is literal text and placeholders. A placeholder is `#{`, then characters other than
-- `}` and line feed, then `}`; its inner text is a list of candidate names separated by `||`. All
-- other text is literal, an opening without its closing on the same line included.
inductive Segment where
  | literal (text : List Char)
  -- A placeholder with its inner text as written.
  | reference (inner : List Char)
  deriving Repr, DecidableEq

namespace Template

-- The text up to the first `}` of the line, and what follows that.
def closed? : List Char → Option (List Char × List Char)
  | [] => none
  | c :: rest =>
    if c = '}' then some ([], rest)
    else if c = '\n' then none
    else (closed? rest).map fun (inner, after) => (c :: inner, after)

-- The inner text of the placeholder that a text starts with, and what follows it.
def placeholder? : List Char → Option (List Char × List Char)
  | '#' :: '{' :: rest => closed? rest
  | _ => none

theorem closed?_eq_some {cs inner after : List Char} (h : closed? cs = some (inner, after)) :
    cs = inner ++ '}' :: after := by
  induction cs generalizing inner with
  | nil => simp [closed?] at h
  | cons c rest ih =>
    by_cases hc : c = '}'
    case pos => simp_all [closed?]
    case neg =>
      by_cases hn : c = '\n'
      case pos => simp [closed?, hn] at h
      case neg =>
        simp only [closed?, hc, hn, if_false, Option.map_eq_some_iff, Prod.mk.injEq] at h
        obtain ⟨⟨i, a⟩, hr, rfl, rfl⟩ := h
        simp [ih hr]

theorem placeholder?_eq_some {cs inner after : List Char}
    (h : placeholder? cs = some (inner, after)) : cs = '#' :: '{' :: inner ++ '}' :: after := by
  unfold placeholder? at h
  split at h
  case h_1 => simp [closed?_eq_some h]
  case h_2 => simp at h

theorem length_lt_of_placeholder? {cs inner after : List Char}
    (h : placeholder? cs = some (inner, after)) : after.length < cs.length := by
  rw [placeholder?_eq_some h]
  simp only [List.cons_append, List.length_cons, List.length_append]
  omega

-- Write a character in front of segments, into the literal they start with if they do.
def pushLiteral (c : Char) : List Segment → List Segment
  | .literal text :: rest => .literal (c :: text) :: rest
  | rest => .literal [c] :: rest

-- Cut a template into literals and placeholders, from left to right. No literal is empty, and
-- between two literals there is a placeholder.
def segments (cs : List Char) : List Segment :=
  match h : placeholder? cs with
  | some (inner, after) =>
    have := length_lt_of_placeholder? h
    .reference inner :: segments after
  | none =>
    match cs with
    | [] => []
    | c :: rest => pushLiteral c (segments rest)
termination_by cs.length

-- Cut a text at each `||`, from left to right.
def alternatives : List Char → List (List Char)
  | [] => [[]]
  | '|' :: '|' :: rest => [] :: alternatives rest
  | c :: rest =>
    match alternatives rest with
    | [] => [[c]]
    | first :: more => (c :: first) :: more

-- The names that a placeholder offers, in the order in which they are tried.
def candidates (inner : List Char) : List String :=
  (alternatives inner).map fun name => String.ofList (Text.trim name)

-- How a placeholder with this inner text is written.
def placeholder (inner : String) : String :=
  "#\x7b" ++ inner ++ "\x7d"

theorem alternatives_ne_nil (cs : List Char) : alternatives cs ≠ [] := by
  fun_cases alternatives cs <;> simp

theorem candidates_ne_nil (inner : List Char) : candidates inner ≠ [] := by
  simp [candidates, alternatives_ne_nil]

example : candidates "a ||| b".toList = ["a", "| b"] := by decide +kernel

end Template

end EnvProvision
