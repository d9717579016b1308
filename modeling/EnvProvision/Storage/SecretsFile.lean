import EnvProvision.Text.Blank
import EnvProvision.Text.Split
import EnvProvision.Table

namespace EnvProvision.SecretsFile

-- A line is an entry if it has a `=`, and is cut at the first one. Both sides are trimmed, which
-- also removes a carriage return before the line feed.
inductive Line where
  | blank
  | comment
  | entry (key value : List Char)
  | stray
  deriving Repr, DecidableEq

def Line.ofText (text : List Char) : Line :=
  match Text.trim text with
  | [] => .blank
  | '#' :: _ => .comment
  | c :: rest =>
    match Text.splitFirst? '=' (c :: rest) with
    | some (key, value) => .entry (Text.trim key) (Text.trim value)
    | none => .stray

def Line.entry? : Line → Option (String × String)
  | .entry key value => some (String.ofList key, String.ofList value)
  | _ => none

-- The lines of a file, each with its number from one.
def lines (contents : String) : List (Line × Nat) :=
  ((Text.lines contents.toList).map Line.ofText).zipIdx 1

-- The entries of a file; the last value of a key counts.
def entries (contents : String) : Table String String :=
  Table.ofList ((lines contents).filterMap fun (line, _) => line.entry?)

-- The numbers of the lines that are ignored without being blank or comments.
def strayLines (contents : String) : List Nat :=
  (lines contents).filterMap fun (line, number) => if line = .stray then some number else none

end EnvProvision.SecretsFile
