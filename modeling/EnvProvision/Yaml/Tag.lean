import EnvProvision.Text.Bytes
import EnvProvision.Yaml.Scalar.Quoted

namespace EnvProvision.Yaml

-- A tag. Its escapes may write any bytes but NUL, also such as are no text.
structure Tag where
  bytes : Bytes
  deriving Repr, DecidableEq

namespace Tag

def ofText (text : String) : Tag :=
  ⟨.ofText text⟩

def mark : Tag :=
  ofText "!"

def isTagChar (c : Char) : Bool :=
  isWord c || ";/?:@&=+$.%!~*'()".toList.contains c

def isVerbatimChar (c : Char) : Bool :=
  isTagChar c || c == ',' || c == '[' || c == ']'

def escapedByte? : List Char → Option (UInt8 × List Char)
  | '%' :: a :: b :: rest => do
    let high ← Text.hexDigit? a
    let low ← Text.hexDigit? b
    return ((16 * high + low).toUInt8, rest)
  | _ => none

def trailing? (first : UInt8) : Option Nat :=
  if first < 0x80 then some 0
  else if first &&& 0xE0 == 0xC0 then some 1
  else if first &&& 0xF0 == 0xE0 then some 2
  else if first &&& 0xF8 == 0xF0 then some 3
  else none

def trailingBytes? : Nat → List Char → Option (Bytes × List Char)
  | 0, cs => some ([], cs)
  | n + 1, cs => do
    let (byte, rest) ← escapedByte? cs
    if byte &&& 0xC0 != 0x80 then none
    let (bytes, rest) ← trailingBytes? n rest
    return (byte :: bytes, rest)

-- The bytes of a tag up to the first character that it cannot hold, and what is left there.
def readBytes (holds : Char → Bool) (cs : List Char) : Option (Bytes × List Char) :=
  match cs with
  | [] => some ([], [])
  | c :: rest =>
    if !holds c then some ([], c :: rest)
    else if c == '%' then do
      let (first, left) ← escapedByte? (c :: rest)
      let (more, left) ← trailingBytes? (← trailing? first) left
      if left.length ≤ rest.length then
        let (bytes, left) ← readBytes holds left
        return (first :: more ++ bytes, left)
      else none
    else do
      let (bytes, left) ← readBytes holds rest
      return (Bytes.ofText c.toString ++ bytes, left)
termination_by cs.length

def ofBytes (bytes : Bytes) : Tag :=
  ⟨bytes.takeWhile (· != 0)⟩

def read (holds : Char → Bool) (start : Option (List Char)) (c : Cursor) :
    Option (Tag × Cursor) := do
  let (bytes, left) ← readBytes holds c.rest
  if bytes.isEmpty && start.isNone then none
  let head := Bytes.ofText (String.ofList (start.getD []))
  return (ofBytes (head ++ bytes), c.dropTo left)

def append (stem rest : Tag) : Tag :=
  ⟨stem.bytes ++ rest.bytes⟩

-- The name of a tag of the document's own making, one that starts with an exclamation mark, of
-- which up to two do not belong to the name. A tag that is no text has none.
def localName? (tag : Tag) : Option String :=
  match tag.bytes with
  | 0x21 :: rest =>
    let name := if rest.isEmpty then tag.bytes else rest
    match name with
    | 0x21 :: more => if more.isEmpty then Bytes.text? name else Bytes.text? more
    | _ => Bytes.text? name
  | _ => none

def isLocal (tag : Tag) : Bool :=
  tag.bytes.head? == some 0x21

def core (name : String) : Tag :=
  ofText ("tag:yaml.org,2002:" ++ name)

-- A handle: `!`, or `!` with word characters up to another `!`. Without the second `!` the word
-- belongs to the rest of the tag.
def readHandle (c : Cursor) : Option (List Char × Cursor) :=
  if c.peek == some '!' then
    let (word, d) := (c.drop 1).takeWhile isWord
    if d.peek == some '!' then some ('!' :: word ++ ['!'], d.drop 1) else some ('!' :: word, d)
  else none

-- The handle and the rest of a tag. An empty handle says that the rest is the whole tag.
def readProperty (c : Cursor) : Option (String × Tag × Cursor) := do
  let (handle, tag, c) ←
    if c.rest[1]? == some '<' then do
      let (tag, c) ← read isVerbatimChar none (c.drop 2)
      if c.peek != some '>' then none
      pure ("", tag, c.drop 1)
    else do
      let (handle, c) ← readHandle c
      if handle.length > 1 && handle.getLast? == some '!' then
        let (tag, c) ← read isTagChar none c
        pure (String.ofList handle, tag, c)
      else
        let (tag, c) ← read isTagChar (some handle.tail) c
        pure (if tag.bytes.isEmpty then ("", mark, c) else ("!", tag, c))
  return (handle, tag, c)

end Tag

end EnvProvision.Yaml
