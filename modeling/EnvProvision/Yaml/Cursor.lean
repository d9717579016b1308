import EnvProvision.Yaml.Character

namespace EnvProvision.Yaml

structure Cursor where
  rest : List Char
  offset : Nat := 0
  line : Nat := 0
  column : Nat := 0

namespace Cursor

def peek (c : Cursor) : Option Char :=
  c.rest.head?

def atEnd (c : Cursor) : Bool :=
  c.rest.isEmpty

def atBreak (c : Cursor) : Bool :=
  c.peek.any isBreak

def atGap (c : Cursor) : Bool :=
  c.peek.any isGap

def byteCount (cs : List Char) : Nat :=
  cs.foldl (fun n c => n + c.utf8Size) 0

def drop (c : Cursor) (n : Nat) : Cursor where
  rest := c.rest.drop n
  offset := c.offset + byteCount (c.rest.take n)
  line := c.line
  column := c.column + n

-- Go to a place further on in the same line, given by what is left there.
def dropTo (c : Cursor) (rest : List Char) : Cursor :=
  c.drop (c.rest.length - rest.length)

-- The characters from here on that satisfy `p`, and the place behind them. None of them may be a
-- line break.
def takeWhile (c : Cursor) (p : Char → Bool) : List Char × Cursor :=
  let taken := c.rest.takeWhile p
  (taken, c.drop taken.length)

def dropWhile (c : Cursor) (p : Char → Bool) : Cursor :=
  (c.takeWhile p).2

-- Pass a line break. A carriage return with its line feed is one, and all breaks read as a line
-- feed but for the two separators, which stay what they are.
def takeBreak (c : Cursor) : List Char × Cursor :=
  match c.rest with
  | '\r' :: '\n' :: rest => (['\n'], ⟨rest, c.offset + 2, c.line + 1, 0⟩)
  | d :: rest =>
    let next : Cursor := ⟨rest, c.offset + d.utf8Size, c.line + 1, 0⟩
    if d == '\u2028' || d == '\u2029' then ([d], next)
    else if isBreak d then (['\n'], next)
    else ([], c)
  | [] => ([], c)

def dropBreak (c : Cursor) : Cursor :=
  c.takeBreak.2

-- Whether the line starts here with `---` or `...` as a word of its own.
def atDocumentMark (c : Cursor) : Bool :=
  c.column == 0 && (c.rest.take 3 == ['-', '-', '-'] || c.rest.take 3 == ['.', '.', '.']) &&
    endsWord c.rest[3]?

theorem length_drop_le (c : Cursor) (n : Nat) : (c.drop n).rest.length ≤ c.rest.length := by
  simp [drop]

theorem length_dropWhile_le (c : Cursor) (p : Char → Bool) :
    (c.dropWhile p).rest.length ≤ c.rest.length :=
  c.length_drop_le _

theorem length_dropBreak_lt {c : Cursor} (h : c.atBreak) :
    c.dropBreak.rest.length < c.rest.length := by
  unfold dropBreak takeBreak
  split
  case h_1 heq => simp only [heq, List.length_cons]; omega
  case h_2 d rest _ heq =>
    simp only [atBreak, peek, heq, List.head?_cons, Option.any_some] at h
    split <;> simp [heq]
  case h_3 heq => simp [atBreak, peek, heq] at h

end Cursor

end EnvProvision.Yaml
