import EnvProvision.Text.Bytes

namespace EnvProvision.Text.Terminal

inductive Place where
  | outside
  | escape
  | marks
  | control
  | command
  | device
  deriving Repr, DecidableEq

-- The place behind a character that steers nothing by itself. The byte of the string terminator
-- counts wherever it stands.
def Place.next (place : Place) (c : Char) : Place :=
  match place with
  | outside => outside
  | escape =>
    if c = '[' then control
    else if c = ']' then command
    else if c = 'P' || c = 'X' || c = '^' || c = '_' then device
    else if ' ' ≤ c && c ≤ '/' then marks
    else if '0' ≤ c && c ≤ '~' then outside
    else escape
  | marks => if '0' ≤ c && c ≤ '~' then outside else marks
  | control => if '@' ≤ c && c ≤ '~' then outside else control
  | command => if c = '\x07' then outside else command
  | device => if (Bytes.ofText c.toString).contains 0x9C then outside else device

def isSpacing (c : Char) : Bool :=
  c = '\t' || c = '\n' || c = '\x0c' || c = '\r'

-- What is shown from a place on. White space ends a sequence unless it is part of its text.
def shownFrom (place : Place) : List Char → List Char
  | [] => []
  | c :: rest =>
    if c = '\x1b' then shownFrom .escape rest
    else if c = '\x18' || c = '\x1a' then shownFrom .outside rest
    else if isSpacing c && place != .command && place != .device then c :: shownFrom .outside rest
    else if place != .outside then shownFrom (place.next c) rest
    else if c < ' ' || c = '\x7f' then shownFrom .outside rest
    else c :: shownFrom .outside rest

-- What a text shows without a terminal. The control characters other than white space are left out,
-- and so are the sequences that an escape character starts.
def shown (text : String) : String :=
  String.ofList (shownFrom .outside text.toList)

example : shown "a\x1b[1mb\x1b]2;t\x07c\x7f\x1b[3\nd" = "abc\nd" := by cbv

end EnvProvision.Text.Terminal
