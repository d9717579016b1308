import EnvProvision.Yaml.Scalar.Fold

namespace EnvProvision.Yaml.Plain

-- A word of a plain scalar and what is left behind it. In a flow collection a colon before a flow
-- indicator is an error.
def word (inFlow : Bool) : List Char → Option (List Char × List Char)
  | [] => some ([], [])
  | c :: rest =>
    if isGap c || isBreak c || (c == ':' && endsWord rest.head?) then some ([], c :: rest)
    else if inFlow && c == ':' && rest.head?.any ",?[]\x7b\x7d".toList.contains then none
    else if inFlow && ",[]\x7b\x7d".toList.contains c then some ([], c :: rest)
    else (word inFlow rest).map fun (word, left) => (c :: word, left)

-- The text of a plain scalar, the place behind it and the white space after it, and whether there
-- is a line break in that. `gap` is the white space before `c`.
def read (inFlow : Bool) (indent : Nat) (c : Cursor) (text : List Char := []) (gap : Gap := {}) :
    Option (List Char × Cursor × Bool) := do
  if c.atDocumentMark || c.peek == some '#' then return (text, c, gap.broken)
  let (word, left) ← word inFlow c.rest
  let text := if word.isEmpty then text else text ++ gap.text ++ word
  -- An empty word stands before an indicator that ends the scalar; the gap before it counts still.
  let gap := if word.isEmpty then gap else {}
  let d := c.dropTo left
  if !(d.atGap || d.atBreak) then return (text, d, gap.broken)
  let (gap, next) ← Gap.read indent {} d
  if !inFlow && next.column < indent then return (text, next, gap.broken)
  if next.rest.length < c.rest.length then read inFlow indent next text gap else none
termination_by c.rest.length

end EnvProvision.Yaml.Plain
