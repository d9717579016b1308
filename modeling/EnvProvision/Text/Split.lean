namespace EnvProvision.Text

-- The pieces between line feeds. A text that ends in a line feed has an empty last piece.
def lines (cs : List Char) : List (List Char) :=
  cs.splitOn '\n'

def splitFirst? (c : Char) : List Char → Option (List Char × List Char)
  | [] => none
  | d :: rest =>
    if d = c then some ([], rest)
    else (splitFirst? c rest).map fun (before, after) => (d :: before, after)

theorem splitFirst?_append {c : Char} {cs : List Char} (h : c ∉ cs) (ds : List Char) :
    splitFirst? c (cs ++ c :: ds) = some (cs, ds) := by
  induction cs with
  | nil => simp [splitFirst?]
  | cons d rest ih =>
    rw [List.mem_cons, not_or] at h
    simp [splitFirst?, Ne.symm h.left, ih h.right]

theorem splitFirst?_eq_none_iff {c : Char} {cs : List Char} :
    splitFirst? c cs = none ↔ c ∉ cs := by
  induction cs with
  | nil => simp [splitFirst?]
  | cons d rest ih =>
    by_cases hd : d = c
    case pos => simp [splitFirst?, hd]
    case neg => simp [splitFirst?, hd, ih, Ne.symm hd]

-- The text up to a place that is counted in bytes, and the text behind it. No character lies across
-- the place, and the text does not end before it.
def splitAtByte? : Nat → List Char → Option (List Char × List Char)
  | 0, cs => some ([], cs)
  | _ + 1, [] => none
  | n + 1, c :: rest =>
    if c.utf8Size ≤ n + 1 then
      (splitAtByte? (n + 1 - c.utf8Size) rest).map fun (before, after) => (c :: before, after)
    else none

end EnvProvision.Text
