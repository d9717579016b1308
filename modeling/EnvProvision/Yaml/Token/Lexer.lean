import EnvProvision.Yaml.Token.Basic
import EnvProvision.Yaml.Scalar.Plain
import EnvProvision.Yaml.Scalar.Block

namespace EnvProvision.Yaml

-- A token that is the start of a key if a colon follows on the same line, no more than 1024 bytes
-- further on.
structure PossibleKey where
  position : Nat
  required : Bool
  offset : Nat
  line : Nat
  column : Nat

structure Lexer where
  cursor : Cursor
  tokens : List Token := []
  blocks : List Nat := []
  flow : Nat := 0
  keyAllowed : Bool := true
  possibleKey : Option PossibleKey := none
  outerKeys : List (Option PossibleKey) := []

namespace Lexer

def keyDistance : Nat := 1024

def inFlow (s : Lexer) : Bool :=
  s.flow != 0

def innerColumn (s : Lexer) : Nat :=
  match s.blocks with
  | [] => 0
  | column :: _ => column + 1

def emit (s : Lexer) (token : Token) : Lexer :=
  { s with tokens := token :: s.tokens }

def emitAt (s : Lexer) (position : Nat) (token : Token) : Lexer :=
  let late := s.tokens.length - position
  { s with tokens := s.tokens.take late ++ token :: s.tokens.drop late }

def emitDrop (s : Lexer) (n : Nat) (token : Token) : Lexer :=
  { s.emit token with cursor := s.cursor.drop n }

-- Open a block at `column`, unless the innermost block is as far to the right.
def openBlock (s : Lexer) (column position : Nat) (token : Token) : Lexer :=
  if s.inFlow || column < s.innerColumn then s
  else { s.emitAt position token with blocks := column :: s.blocks }

def closeBlocks (s : Lexer) (left : Nat → Bool) : Lexer :=
  let (closed, blocks) := (s.blocks.takeWhile left, s.blocks.dropWhile left)
  { s with blocks, tokens := closed.map (fun _ => .blockEnd) ++ s.tokens }

-- Close the blocks to the right of `column`; there are no blocks in flow collections.
def closeRightOf (s : Lexer) (column : Nat) : Lexer :=
  if s.inFlow then s else s.closeBlocks (column < ·)

def closeAll (s : Lexer) : Lexer :=
  if s.inFlow then s else s.closeBlocks fun _ => true

def dropKey (s : Lexer) : Option Lexer :=
  if s.possibleKey.any (·.required) then none else some { s with possibleKey := none }

def noteKey (s : Lexer) : Option Lexer :=
  if s.keyAllowed then do
    let s ← s.dropKey
    let c := s.cursor
    let required := !s.inFlow && s.blocks.head? == some c.column
    return { s with
      possibleKey := some ⟨s.tokens.length, required, c.offset, c.line, c.column⟩ }
  else some s

def isStale (c : Cursor) (key : PossibleKey) : Bool :=
  key.line < c.line || key.offset + keyDistance < c.offset

def dropStaleKeys (s : Lexer) : Option Lexer := do
  let fresh (key : Option PossibleKey) : Option (Option PossibleKey) :=
    match key with
    | none => some none
    | some key =>
      if isStale s.cursor key then (if key.required then none else some none)
      else some (some key)
  return { s with possibleKey := ← fresh s.possibleKey, outerKeys := ← s.outerKeys.mapM fresh }

-- Pass a byte order mark at the start of a line. It takes up a column.
def skipMark (c : Cursor) : Cursor :=
  if c.column == 0 && c.peek == some byteOrderMark then c.drop 1 else c

-- Pass white space and a comment. In a block a tab cannot stand where a key can.
def skipInLine (inFlow keyAllowed : Bool) (c : Cursor) : Cursor :=
  let c := (skipMark c).dropWhile fun d => d == ' ' || ((inFlow || !keyAllowed) && d == '\t')
  if c.peek == some '#' then c.dropWhile (!isBreak ·) else c

theorem length_skipMark_le (c : Cursor) : (skipMark c).rest.length ≤ c.rest.length := by
  unfold skipMark
  split
  case isTrue => exact c.length_drop_le 1
  case isFalse => exact Nat.le_refl _

theorem length_skipInLine_le (inFlow keyAllowed : Bool) (c : Cursor) :
    (skipInLine inFlow keyAllowed c).rest.length ≤ c.rest.length := by
  refine Nat.le_trans ?_ (length_skipMark_le c)
  dsimp only [skipInLine]
  split
  case isTrue => exact Nat.le_trans (Cursor.length_dropWhile_le ..) (Cursor.length_dropWhile_le ..)
  case isFalse => exact Cursor.length_dropWhile_le ..

-- Pass white space, comments and line breaks. In a block a new line allows a key.
def skip (inFlow keyAllowed : Bool) (c : Cursor) : Cursor × Bool :=
  if h : (skipInLine inFlow keyAllowed c).atBreak then
    have := Nat.lt_of_lt_of_le (Cursor.length_dropBreak_lt h) (length_skipInLine_le ..)
    skip inFlow (keyAllowed || !inFlow) (skipInLine inFlow keyAllowed c).dropBreak
  else (skipInLine inFlow keyAllowed c, keyAllowed)
termination_by c.rest.length

def readNumber (c : Cursor) : Option (Nat × Cursor) :=
  let (digits, d) := c.takeWhile Char.isDigit
  if digits.isEmpty || digits.length > 9 then none
  else some (digits.foldl (fun n c => 10 * n + (c.toNat - '0'.toNat)) 0, d)

def readVersion (c : Cursor) : Option (Token × Cursor) := do
  let (major, c) ← readNumber (c.dropWhile isGap)
  if c.peek != some '.' then none
  let (minor, c) ← readNumber (c.drop 1)
  return (.version major minor, c)

def readHandle (c : Cursor) : Option (Token × Cursor) := do
  let (handle, c) ← Tag.readHandle (c.dropWhile isGap)
  if handle.length > 1 && handle.getLast? != some '!' then none
  if !c.atGap then none
  let (stem, c) ← Tag.read Tag.isVerbatimChar none (c.dropWhile isGap)
  if !endsWord c.peek then none
  return (.handle (String.ofList handle) stem, c)

def readDirective (c : Cursor) : Option (Token × Cursor) := do
  let (name, c) := c.takeWhile isWord
  if !endsWord c.peek then none
  let (token, c) ←
    match String.ofList name with
    | "YAML" => readVersion c
    | "TAG" => readHandle c
    | _ => none
  let c := c.dropWhile isGap
  let c := if c.peek == some '#' then c.dropWhile (!isBreak ·) else c
  if c.atEnd || c.atBreak then return (token, c.dropBreak) else none

def readName (c : Cursor) : Option (String × Cursor) :=
  let (name, d) := c.takeWhile isWord
  if !name.isEmpty && (endsWord d.peek || d.peek.any "?:,]\x7d%@`".toList.contains) then
    some (String.ofList name, d)
  else none

def readKeyToken (s : Lexer) (read : Cursor → Option (Token × Cursor)) : Option Lexer := do
  let s ← s.noteKey
  let (token, cursor) ← read s.cursor
  return { s.emit token with cursor, keyAllowed := false }

def directive (s : Lexer) : Option Lexer := do
  let s ← s.closeAll.dropKey
  let (token, cursor) ← readDirective (s.cursor.drop 1)
  return { s.emit token with cursor, keyAllowed := false }

def documentMark (s : Lexer) (token : Token) : Option Lexer := do
  let s ← s.closeAll.dropKey
  return { s.emitDrop 3 token with keyAllowed := false }

def openFlow (s : Lexer) (token : Token) : Option Lexer := do
  let s ← s.noteKey
  return { s.emitDrop 1 token with
    flow := s.flow + 1, keyAllowed := true
    possibleKey := none, outerKeys := s.possibleKey :: s.outerKeys }

def closeFlow (s : Lexer) (token : Token) : Option Lexer := do
  let s ← s.dropKey
  let s := { s.emitDrop 1 token with keyAllowed := false }
  match s.outerKeys with
  | [] => return s
  | key :: keys => return { s with flow := s.flow - 1, possibleKey := key, outerKeys := keys }

def comma (s : Lexer) : Option Lexer := do
  let s ← s.dropKey
  return { s.emitDrop 1 .comma with keyAllowed := true }

-- Open a block for an indicator at the cursor, which must stand where a key can.
def openHere (s : Lexer) (token : Token) : Option Lexer :=
  if s.inFlow then some s
  else if s.keyAllowed then some (s.openBlock s.cursor.column s.tokens.length token)
  else none

def item (s : Lexer) : Option Lexer := do
  let s ← (← s.openHere .sequenceStart).dropKey
  return { s.emitDrop 1 .item with keyAllowed := true }

def key (s : Lexer) : Option Lexer := do
  let s ← (← s.openHere .mappingStart).dropKey
  return { s.emitDrop 1 .key with keyAllowed := !s.inFlow }

-- The colon before a value. It makes the possible key one, or stands for an empty key.
def value (s : Lexer) : Option Lexer :=
  match s.possibleKey with
  | some key =>
    -- The block starts where the key does, so its token goes in front of the key mark.
    let s := (s.emitAt key.position .key).openBlock key.column key.position .mappingStart
    some { s.emitDrop 1 .value with possibleKey := none, keyAllowed := false }
  | none => do
    let s ← s.openHere .mappingStart
    return { s.emitDrop 1 .value with keyAllowed := !s.inFlow }

def blockScalar (s : Lexer) (folded : Bool) : Option Lexer := do
  let s ← s.dropKey
  let (text, cursor) ← Block.read folded s.innerColumn (s.cursor.drop 1)
  return { s.emit (.scalar (String.ofList text) false) with cursor, keyAllowed := true }

def plainScalar (s : Lexer) : Option Lexer := do
  let s ← s.noteKey
  let (text, cursor, broken) ← Plain.read s.inFlow s.innerColumn s.cursor
  return { s.emit (.scalar (String.ofList text) true) with cursor, keyAllowed := broken }

def quotedScalar (s : Lexer) (quote : Char) : Option Lexer :=
  s.readKeyToken fun c => do
    let (text, c) ← Quoted.read quote (c.drop 1)
    return (.scalar (String.ofList text) false, c)

def tag (s : Lexer) : Option Lexer :=
  s.readKeyToken fun c => do
    let (handle, tag, c) ← Tag.readProperty c
    if endsWord c.peek || (s.inFlow && c.peek == some ',') then return (.tag handle tag, c)
    else none

def anchor (s : Lexer) (token : String → Token) : Option Lexer :=
  s.readKeyToken fun c => do
    let (name, c) ← readName (c.drop 1)
    return (token name, c)

def startsPlain (inFlow : Bool) (c : Char) (next : Option Char) : Bool :=
  !(isIndicator c || isGap c) || (c == '-' && !next.any isGap) ||
    (!inFlow && (c == '?' || c == ':') && !endsWord next)

def token (s : Lexer) (c : Char) : Option Lexer :=
  let next := s.cursor.rest[1]?
  if s.cursor.column == 0 && c == '%' then s.directive
  else if s.cursor.atDocumentMark then
    s.documentMark (if c == '-' then .documentStart else .documentEnd)
  else if c == '[' then s.openFlow .flowSequenceStart
  else if c == '{' then s.openFlow .flowMappingStart
  else if c == ']' then s.closeFlow .flowSequenceEnd
  else if c == '}' then s.closeFlow .flowMappingEnd
  else if c == ',' then s.comma
  else if c == '-' && endsWord next then s.item
  else if c == '?' && (s.inFlow || endsWord next) then s.key
  else if c == ':' && (s.inFlow || endsWord next) then s.value
  else if c == '*' then s.anchor .alias
  else if c == '&' then s.anchor .anchor
  else if c == '!' then s.tag
  else if c == '|' && !s.inFlow then s.blockScalar false
  else if c == '>' && !s.inFlow then s.blockScalar true
  else if c == '\'' || c == '"' then s.quotedScalar c
  else if startsPlain s.inFlow c next then s.plainScalar
  else none

def run (s : Lexer) : Option (List Token) := do
  let (cursor, keyAllowed) := skip s.inFlow s.keyAllowed s.cursor
  -- Keys go stale before blocks close: a required key without its colon is an error even if its
  -- block ends here.
  let fresh ← dropStaleKeys { s with cursor, keyAllowed }
  let fresh := fresh.closeRightOf cursor.column
  match cursor.peek with
  | none =>
    let last ← fresh.closeAll.dropKey
    return last.tokens.reverse
  | some c =>
    let next ← fresh.token c
    -- Every token takes up at least one character, so this never fails.
    if next.cursor.rest.length < s.cursor.rest.length then run next else none
termination_by s.cursor.rest.length

end Lexer

namespace Token

def ofText? (text : String) : Option (List Token) :=
  let characters := text.toList
  if characters.all isPrintable then Lexer.run { cursor := { rest := characters } } else none

end Token

end EnvProvision.Yaml
