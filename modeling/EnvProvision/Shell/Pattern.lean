import EnvProvision.Files

namespace EnvProvision.Shell

-- A character of an expanded word, and whether it was quoted.
structure MarkedChar where
  char : Char
  quoted : Bool
  deriving Repr, DecidableEq

inductive PatternPart where
  | literal (c : Char)
  | anyChar
  | anyText
  | oneOf (negated : Bool) (ranges : List (Char × Char))
  deriving Repr, DecidableEq

abbrev Pattern := List PatternPart

namespace Pattern

def readRanges : List MarkedChar → Option (List (Char × Char) × List MarkedChar)
  | [] => none
  | ⟨']', false⟩ :: rest => some ([], rest)
  | ⟨low, _⟩ :: ⟨'-', false⟩ :: ⟨']', false⟩ :: rest => some ([(low, low), ('-', '-')], rest)
  | ⟨low, _⟩ :: ⟨'-', false⟩ :: ⟨high, _⟩ :: rest => do
    let (ranges, rest) ← readRanges rest
    return ((low, high) :: ranges, rest)
  | ⟨c, _⟩ :: rest => do
    let (ranges, rest) ← readRanges rest
    return ((c, c) :: ranges, rest)

-- A bracket from behind its opening; a closing one at its start belongs to the set.
def readBracket (cs : List MarkedChar) : Option (PatternPart × List MarkedChar) := do
  let (negated, cs) :=
    match cs with
    | ⟨'!', false⟩ :: rest | ⟨'^', false⟩ :: rest => (true, rest)
    | _ => (false, cs)
  match cs with
  | ⟨']', _⟩ :: rest =>
    let (ranges, rest) ← readRanges rest
    return (.oneOf negated ((']', ']') :: ranges), rest)
  | _ =>
    let (ranges, rest) ← readRanges cs
    return (.oneOf negated ranges, rest)

-- Read a pattern. A bracket that is not closed stands for itself.
def ofChars (cs : List MarkedChar) : Pattern :=
  go cs.length cs
where
  go : Nat → List MarkedChar → Pattern
    | _, [] => []
    | 0, _ :: _ => []
    | left + 1, ⟨c, quoted⟩ :: rest =>
      if quoted then .literal c :: go left rest
      else
        match c with
        | '*' => .anyText :: go left rest
        | '?' => .anyChar :: go left rest
        | '[' =>
          match readBracket rest with
          | some (part, rest) => part :: go left rest
          | none => .literal c :: go left rest
        | _ => .literal c :: go left rest

def PatternPart.holds (c : Char) : PatternPart → Bool
  | .literal d => c == d
  | .anyChar | .anyText => true
  | .oneOf negated ranges => ranges.any (fun (low, high) => low ≤ c && c ≤ high) != negated

def isMatch : Pattern → List Char → Bool
  | [], cs => cs.isEmpty
  | .anyText :: rest, cs => (List.range (cs.length + 1)).any fun n => isMatch rest (cs.drop n)
  | part :: rest, cs =>
    match cs with
    | [] => false
    | c :: cs => PatternPart.holds c part && isMatch rest cs

def isPattern (cs : List MarkedChar) : Bool :=
  cs.any fun ⟨c, quoted⟩ => !quoted && (c == '*' || c == '?' || c == '[')

-- The numbers of characters that a pattern can take away from the start of a text, in rising order.
def startLengths (pattern : Pattern) (cs : List Char) : List Nat :=
  (List.range (cs.length + 1)).filter fun n => pattern.isMatch (cs.take n)

def endLengths (pattern : Pattern) (cs : List Char) : List Nat :=
  (List.range (cs.length + 1)).filter fun n => pattern.isMatch (cs.drop (cs.length - n))

-- The names of files that a pattern stands for, part by part of its path. Names that start with a
-- point are left out unless the pattern starts with one.
def expandPath (files : Files) (cs : List MarkedChar) : List String :=
  let parts := cs.splitOnP fun ⟨c, _⟩ => c == '/'
  let text (part : List MarkedChar) : String := String.ofList (part.map (·.char))
  let write (found part : String) : String := if found = "" then part else found ++ part
  let grow (found : List String) (item : List MarkedChar × Nat) : List String :=
    let (part, index) := item
    let separator := if index = 0 then "" else "/"
    if !isPattern part then found.map fun path => write path (separator ++ text part)
    else
      found.flatMap fun path =>
        let directory := if path = "" then (if index = 0 then "." else "/") else path ++ "/"
        match files.placeOf directory with
        | .error _ => []
        | .ok place =>
          if (files.find directory).toOption != some .directory then []
          else
            let hidden := part.head?.any (·.char == '.')
            let present := if hidden then "." :: ".." :: files.names place else files.names place
            let names := present.filter fun name =>
              (hidden || !name.toList.head?.any (· == '.')) && (ofChars part).isMatch name.toList
            names.map fun name => write path (separator ++ name)
  let found := parts.zipIdx.foldl grow [""]
  found.filter fun path => (files.find path).isOk

end Pattern

end EnvProvision.Shell
