import EnvProvision.Text.Hexadecimal
import EnvProvision.Yaml.Scalar.Fold

namespace EnvProvision.Yaml.Quoted

def shortEscape? : Char → Option Char
  | '0' => some '\x00'
  | 'a' => some '\x07'
  | 'b' => some '\x08'
  | 't' => some '\t'
  | '\t' => some '\t'
  | 'n' => some '\n'
  | 'v' => some '\x0b'
  | 'f' => some '\x0c'
  | 'r' => some '\r'
  | 'e' => some '\x1b'
  | ' ' => some ' '
  | '"' => some '"'
  | '/' => some '/'
  | '\\' => some '\\'
  | 'N' => some '\u0085'
  | '_' => some '\u00a0'
  | 'L' => some '\u2028'
  | 'P' => some '\u2029'
  | _ => none

def escapeDigits? : Char → Option Nat
  | 'x' => some 2
  | 'u' => some 4
  | 'U' => some 8
  | _ => none

def hexNumber? (n : Nat) (cs : List Char) : Option Nat :=
  if cs.length < n then none
  else (cs.take n).foldlM (fun value c => (Text.hexDigit? c).map (16 * value + ·)) 0

def charOf? (code : Nat) : Option Char :=
  if h : code.isValidChar then some (Char.ofNatAux code h) else none

-- A word between single quotes and what is left behind it: the closing quote, white space, or
-- nothing.
def singleWord : List Char → List Char × List Char
  | '\'' :: '\'' :: rest =>
    let (word, left) := singleWord rest
    ('\'' :: word, left)
  | c :: rest =>
    if c == '\'' || isGap c || isBreak c then ([], c :: rest)
    else
      let (word, left) := singleWord rest
      (c :: word, left)
  | [] => ([], [])

-- A word between double quotes and what is left behind it: the closing quote, white space, a
-- backslash before a line break, or nothing. It fails on an unknown escape.
def doubleWord (cs : List Char) : Option (List Char × List Char) :=
  match cs with
  | [] => some ([], [])
  | c :: rest =>
    if c == '"' || isGap c || isBreak c then some ([], c :: rest)
    else if c != '\\' then do
      let (word, left) ← doubleWord rest
      return (c :: word, left)
    else
      match rest with
      | [] => none
      | e :: rest =>
        if isBreak e then some ([], c :: e :: rest)
        else do
          let digits := (escapeDigits? e).getD 0
          let d ← if digits = 0 then shortEscape? e else (hexNumber? digits rest).bind charOf?
          let (word, left) ← doubleWord (rest.drop digits)
          return (d :: word, left)
termination_by cs.length
decreasing_by
  · simp
  · simp; omega

def word (quote : Char) (cs : List Char) : Option (List Char × List Char) :=
  if quote == '\'' then some (singleWord cs) else doubleWord cs

-- The text of a scalar from behind its opening quote, and the place behind the closing one.
def read (quote : Char) (c : Cursor) (text : List Char := []) : Option (List Char × Cursor) := do
  if c.atDocumentMark || c.atEnd then none
  let (word, left) ← word quote c.rest
  let text := text ++ word
  let d := c.dropTo left
  if d.peek == some quote then return (text, d.drop 1)
  -- Behind a backslash the line break and the white space after it go without a trace.
  let (gap, next) ←
    if d.peek == some '\\' then Gap.read 0 .escaped (d.drop 1).dropBreak else Gap.read 0 {} d
  if next.rest.length < c.rest.length then read quote next (text ++ gap.text) else none
termination_by c.rest.length

end EnvProvision.Yaml.Quoted
