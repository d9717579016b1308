namespace EnvProvision.Shell

-- A piece of a word; `quoted` says that it stands within quotes or behind a backslash.
inductive Piece where
  | char (c : Char) (quoted : Bool)
  | parameter (name : String) (quoted : Bool)
  | braces (text : List Char) (quoted : Bool)
  | output (script : List Char) (quoted : Bool)
  | number (expression : List Char) (quoted : Bool)
  -- Quotes open here, so that there is a word even if nothing is within them.
  | quotes
  deriving Repr, DecidableEq

abbrev Word := List Piece

def isNameStart (c : Char) : Bool :=
  c.isAlpha || c == '_'

def isNameChar (c : Char) : Bool :=
  c.isAlphanum || c == '_'

def isName (text : String) : Bool :=
  text.toList.head?.any isNameStart && text.toList.all isNameChar

def isSpecialName (c : Char) : Bool :=
  c.isDigit || "?$#@*!-".toList.contains c

namespace Word

def literal? (word : Word) : Option String :=
  (word.mapM fun (piece : Piece) =>
    match piece with
    | .char c false => some c
    | _ => none).map String.ofList

def assignment? (word : Word) : Option (String × Word) :=
  let name := word.takeWhile fun
    | .char c false => isNameChar c
    | _ => false
  match literal? name, word.drop name.length with
  | some name, .char '=' false :: value => if isName name then some (name, value) else none
  | _, _ => none

end Word

end EnvProvision.Shell
