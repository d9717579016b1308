import EnvProvision.Yaml.Cursor

namespace EnvProvision.Yaml.Block

-- What becomes of the line breaks at the end: all go, one stays, or all stay.
inductive Chomping where
  | strip
  | clip
  | keep
  deriving DecidableEq

-- The first line of a block scalar, which may fix the indentation of those below it.
structure Header where
  chomping : Chomping := .clip
  indentation : Nat := 0

def chomping? : Option Char → Option Chomping
  | some '+' => some .keep
  | some '-' => some .strip
  | _ => none

def readIndentation (c : Cursor) : Option (Nat × Cursor) :=
  match c.peek with
  | some d =>
    if d == '0' then none
    else if d.isDigit then some (d.toNat - '0'.toNat, c.drop 1)
    else some (0, c)
  | none => some (0, c)

def readHeader (c : Cursor) : Option (Header × Cursor) := do
  let (header, c) ←
    match chomping? c.peek with
    | some chomping => do
      let (indentation, c) ← readIndentation (c.drop 1)
      pure ({ chomping, indentation : Header }, c)
    | none => do
      let (indentation, c) ← readIndentation c
      match chomping? c.peek with
      | some chomping => pure ({ chomping, indentation : Header }, c.drop 1)
      | none => pure ({ indentation }, c)
  let c := c.dropWhile isGap
  let c := if c.peek == some '#' then c.dropWhile (!isBreak ·) else c
  if c.atEnd || c.atBreak then some (header, c.dropBreak) else none

-- Pass the spaces of the indentation; before it is known, all spaces belong to it.
def dropIndent (indent : Nat) (c : Cursor) : Cursor :=
  let spaces := (c.rest.takeWhile (· == ' ')).length
  c.drop (if indent = 0 then spaces else min spaces (indent - c.column))

-- Pass empty lines: their breaks, the place at the first other line, and the widest column seen. A
-- tab within the indentation is an error.
def readEmptyLines (indent : Nat) (c : Cursor) (breaks : List Char) (widest : Nat) :
    Option (List Char × Cursor × Nat) :=
  let d := dropIndent indent c
  let widest := max widest d.column
  if (indent = 0 || d.column < indent) && d.peek == some '\t' then none
  else if h : d.atBreak then
    have := Nat.lt_of_lt_of_le (Cursor.length_dropBreak_lt h) (c.length_drop_le _)
    readEmptyLines indent d.dropBreak (breaks ++ d.takeBreak.1) widest
  else some (breaks, d, widest)
termination_by c.rest.length

-- The lines of a scalar so far, the break of the last one, and the empty lines after it.
structure Lines where
  text : List Char := []
  last : List Char := []
  empty : List Char := []
  spaced : Bool := false

namespace Lines

-- Add a line. In a folded scalar the break before it becomes a space, or nothing before empty
-- lines, unless one of the two lines starts with white space.
def add (folded : Bool) (lines : Lines) (line : List Char) : Lines :=
  let spaced := line.head?.any isGap
  let joint :=
    if folded && lines.last == ['\n'] && !lines.spaced && !spaced then
      if lines.empty.isEmpty then [' '] else []
    else lines.last
  { text := lines.text ++ joint ++ lines.empty ++ line, spaced }

def chomp (chomping : Chomping) (lines : Lines) : List Char :=
  match chomping with
  | .strip => lines.text
  | .clip => lines.text ++ lines.last
  | .keep => lines.text ++ lines.last ++ lines.empty

end Lines

def readLines (folded : Bool) (indent : Nat) (lines : Lines) (c : Cursor) :
    Option (Lines × Cursor) := do
  if c.column = indent && !c.atEnd then
    let (line, d) := c.takeWhile (!isBreak ·)
    let lines := lines.add folded line
    let (empty, next, _) ← readEmptyLines indent d.dropBreak [] 0
    if next.rest.length < c.rest.length then
      readLines folded indent { lines with last := d.takeBreak.1, empty } next
    else none
  else return (lines, c)
termination_by c.rest.length

-- The text of a scalar from behind its indicator. `inner` is the least column of content in the
-- enclosing block.
def read (folded : Bool) (inner : Nat) (c : Cursor) : Option (List Char × Cursor) := do
  let (header, c) ← readHeader c
  let given := if header.indentation = 0 then 0 else inner - 1 + header.indentation
  -- Empty lines may be wider than the first line; the scalar is then indented as far as they are.
  let (empty, c, widest) ← readEmptyLines given c [] 0
  let indent := if given = 0 then max (max widest inner) 1 else given
  let (lines, c) ← readLines folded indent { empty } c
  return (lines.chomp header.chomping, c)

end EnvProvision.Yaml.Block
