namespace EnvProvision.Program

-- Whether a character at a place of a text needs quotes for the sake of a shell.
def needsQuotes (size : Nat) (c : Char) (place : Nat) : Bool :=
  if c = '\x7b' || c = '\x7d' then size = 1
  else if c = '#' || c = '~' then place = 0
  else !(c.isAlphanum || "%+,-./:@]_".toList.contains c)

-- Whether a character at a place of a text means the same in both kinds of quotes.
def isSafeInQuotes (c : Char) (place : Nat) : Bool :=
  c.isAlphanum || "%+,-./:@]_ '".toList.contains c || (place = 0 && (c = '#' || c = '~'))

def escapedChar (c : Char) : List Char :=
  match ['\x07', '\x08', '\t', '\n', '\x0b', '\x0c', '\r'].idxOf? c with
  | some place => ['\\', "abtnvfr".toList.getD place c]
  | none =>
    let digits := Nat.toDigits 8 c.toNat
    '\\' :: List.replicate (3 - digits.length) '0' ++ digits

-- Write characters within single quotes. What is not printed goes into quotes of its own, which are
-- open if `isEscaping` holds; whether they are at the end is given too.
def quotedFrom (isEscaping : Bool) : List Char → List Char × Bool
  | [] => ([], isEscaping)
  | c :: rest =>
    let isUnseen := c < ' ' || '\x7f' ≤ c
    let start :=
      if isUnseen && !isEscaping then "'$'" else if !isUnseen && isEscaping then "''" else ""
    let written :=
      if isUnseen then start.toList ++ escapedChar c
      else if c = '\'' then "'\\''".toList
      else start.toList ++ [c]
    let (more, isEscaping) := quotedFrom isUnseen rest
    (written ++ more, isEscaping)

-- A text as a word in quotes: in double ones for the sake of a quote in it, or in single ones. A
-- text with a quote is gone through twice, the second time from where the first one has ended.
def quotedWord (text : String) : String :=
  let cs := text.toList
  if cs.contains '\'' && cs.zipIdx.all fun (c, place) => isSafeInQuotes c place then
    "\"" ++ text ++ "\""
  else
    let isEscaping := cs.contains '\'' && (quotedFrom false cs).2
    "'" ++ String.ofList (quotedFrom isEscaping cs).1 ++ "'"

def shellWord (text : String) : String :=
  let cs := text.toList
  if !cs.isEmpty && !cs.zipIdx.any fun (c, place) => needsQuotes cs.length c place then text
  else quotedWord text

example : shellWord "a b" = "'a b'" ∧ shellWord "it's" = "\"it's\"" ∧
    shellWord "a\nb" = "'a'$'\\n''b'" := by decide +kernel

end EnvProvision.Program
