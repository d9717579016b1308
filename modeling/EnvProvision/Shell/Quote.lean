namespace EnvProvision.Shell

-- The ways in which a chunk can be written: bare, in single quotes or in double quotes. A text is
-- cut into chunks, each of which goes on as long as one way is left.
structure Styles where
  bare : Bool
  single : Bool
  double : Bool
  deriving Repr, DecidableEq

-- The characters that mean nothing to a shell: ASCII letters and digits, and a few marks.
def isBare (c : Char) : Bool :=
  c.isAlphanum || "+-./:@]_".toList.contains c

def singleHolds (c : Char) : Bool :=
  c != '\'' && c != '^' && c != '\\'

-- Whether double quotes can hold a character, be it behind a backslash. The `!` is left out for the
-- sake of shells with a history.
def doubleHolds (c : Char) : Bool :=
  c != '\x60' && c != '$' && c != '!' && c != '^'

namespace Styles

def after (styles : Styles) (c : Char) : Styles :=
  ⟨styles.bare && isBare c, styles.single && singleHolds c, styles.double && doubleHolds c⟩

-- The ways in which a chunk that starts with `c` can be written. Elsewhere in a chunk a `^` is held
-- by nothing, at its start it is held by single quotes.
def start (c : Char) : Styles :=
  if c = '^' then ⟨false, true, false⟩ else after ⟨true, true, true⟩ c

def isNone (styles : Styles) : Bool :=
  !styles.bare && !styles.single && !styles.double

end Styles

-- The rest of a chunk, the ways that are left at its end, and the text behind it.
def restOfChunk (styles : Styles) : List Char → List Char × Styles × List Char
  | [] => ([], styles, [])
  | c :: rest =>
    if (styles.after c).isNone then ([], styles, c :: rest)
    else
      let (chunk, last, left) := restOfChunk (styles.after c) rest
      (c :: chunk, last, left)

theorem length_restOfChunk_le (styles : Styles) (cs : List Char) :
    (restOfChunk styles cs).2.2.length ≤ cs.length := by
  induction cs generalizing styles with
  | nil => simp [restOfChunk]
  | cons c rest ih =>
    by_cases h : (styles.after c).isNone
    case pos => simp [restOfChunk, h]
    case neg => simpa [restOfChunk, h] using Nat.le_succ_of_le (ih (styles.after c))

-- The chunks of a text, each with the ways in which it can be written.
def chunks : List Char → List (Styles × List Char)
  | [] => []
  | c :: rest =>
    have := length_restOfChunk_le (Styles.start c) rest
    match h : restOfChunk (Styles.start c) rest with
    | (chunk, styles, left) =>
      have : left.length ≤ rest.length := by simpa [h] using this
      (styles, c :: chunk) :: chunks left
termination_by cs => cs.length

-- The text within double quotes: a double quote and a backslash stand behind a backslash.
def escapeDouble : List Char → List Char
  | [] => []
  | c :: rest =>
    if c = '"' || c = '\\' then '\\' :: c :: escapeDouble rest else c :: escapeDouble rest

def writeChunk (styles : Styles) (chunk : List Char) : List Char :=
  if styles.bare then chunk
  else if styles.single then '\'' :: chunk ++ ['\'']
  else '"' :: escapeDouble chunk ++ ['"']

def quoteChars (cs : List Char) : List Char :=
  match cs with
  | [] => ['\'', '\'']
  | _ => (chunks cs).flatMap fun (styles, chunk) => writeChunk styles chunk

-- The word that stands for a text. No word can hold a NUL.
def quote? (text : String) : Option String :=
  if text.toList.contains '\x00' then none else some (String.ofList (quoteChars text.toList))

theorem start_isNone (c : Char) : (Styles.start c).isNone = false := by
  unfold Styles.start
  split
  case isTrue => rfl
  case isFalse h =>
    by_cases hs : c = '\'' || c = '\\'
    case pos =>
      rcases Bool.or_eq_true_iff.1 hs with h | h <;>
        simp [of_decide_eq_true h, Styles.isNone, Styles.after, isBare, singleHolds, doubleHolds]
    case neg =>
      simp only [Bool.or_eq_true, decide_eq_true_eq, not_or] at hs
      simp [Styles.isNone, Styles.after, singleHolds, h, hs.1, hs.2]

end EnvProvision.Shell
