import EnvProvision.Yaml.Cursor

namespace EnvProvision.Yaml

-- White space between two words of a scalar: the spaces of one line, or a first line break and the
-- breaks of the empty lines after it.
structure Gap where
  broken : Bool := false
  spaces : List Char := []
  first : List Char := []
  more : List Char := []

namespace Gap

def escaped : Gap :=
  { broken := true }

def text (gap : Gap) : List Char :=
  if !gap.broken then gap.spaces
  else if gap.first == ['\n'] then (if gap.more.isEmpty then [' '] else gap.more)
  else gap.first ++ gap.more

-- Read the rest of a gap. A tab that stands left of `indent` after a break is an error.
def read (indent : Nat) (gap : Gap) (c : Cursor) : Option (Gap × Cursor) :=
  if h : c.atBreak then
    let mark := c.takeBreak.1
    have := Cursor.length_dropBreak_lt h
    if gap.broken then read indent { gap with more := gap.more ++ mark } c.dropBreak
    else read indent { broken := true, first := mark } c.dropBreak
  else
    match _hc : c.rest with
    | d :: _ =>
      if isGap d then
        if gap.broken && c.column < indent && d == '\t' then none
        else if gap.broken then read indent gap (c.drop 1)
        else read indent { gap with spaces := gap.spaces ++ [d] } (c.drop 1)
      else some (gap, c)
    | [] => some (gap, c)
termination_by c.rest.length
decreasing_by all_goals simp_all [Cursor.drop]

end Gap

end EnvProvision.Yaml
