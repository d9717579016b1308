import EnvProvision.Text.Bytes

namespace EnvProvision.Program

inductive Expression where
  | nothing
  | char (c : Char)
  | any
  | oneOf (negated : Bool) (ranges : List (Char × Char))
  | start
  | finish
  -- A place where a word starts or ends, as the flags say, or with `negated` any other place.
  | edge (starts ends negated : Bool)
  | sequence (first second : Expression)
  | either (first second : Expression)
  | repeated (least : Nat) (most : Option Nat) (part : Expression)
  | group (number : Nat) (part : Expression)
  | again (number : Nat)
  deriving Repr, DecidableEq

namespace Expression

def classRanges : String → List (Char × Char)
  | "alpha" => [('a', 'z'), ('A', 'Z')]
  | "digit" => [('0', '9')]
  | "alnum" => [('a', 'z'), ('A', 'Z'), ('0', '9')]
  | "upper" => [('A', 'Z')]
  | "lower" => [('a', 'z')]
  | "space" => [(' ', ' '), ('\t', '\r')]
  | "blank" => [(' ', ' '), ('\t', '\t')]
  | "punct" => [('!', '/'), (':', '@'), ('[', '\x60'), ('\x7b', '~')]
  | "xdigit" => [('0', '9'), ('a', 'f'), ('A', 'F')]
  | "print" => [(' ', '~')]
  | "graph" => [('!', '~')]
  | "cntrl" => [('\x00', '\x1f'), ('\x7f', '\x7f')]
  | _ => []

def holds (ranges : List (Char × Char)) (c : Char) : Bool :=
  ranges.any fun (low, high) => low ≤ c && c ≤ high

def wordRanges : List (Char × Char) :=
  [('a', 'z'), ('A', 'Z'), ('0', '9'), ('_', '_')]

-- What a match leaves of a text, and what its groups have matched.
structure Found where
  rest : List Char
  groups : List (Nat × List Char) := []
  deriving Repr, DecidableEq

def distinct (found : List Found) : List Found :=
  found.foldl (fun (kept : List Found) f =>
    if kept.any (·.rest.length = f.rest.length) then kept else kept ++ [f]) []

-- The matches that are reached by up to `most` further steps, each of which takes something off the
-- text. Those with more steps come first.
def closure (step : Found → List Found) : Nat → List Found → List Found
  | 0, found => found
  | most + 1, found =>
    let next := distinct (found.flatMap fun f =>
      (step f).filter (·.rest.length < f.rest.length))
    if next.isEmpty then found else closure step most next ++ found

-- Whether a word starts, and whether one ends, before the last `left` characters of a text.
def edgesAt (text : List Char) (left : Nat) : Bool × Bool :=
  let passed := text.length - left
  let before := passed != 0 && text[passed - 1]?.any (holds wordRanges)
  let behind := text[passed]?.any (holds wordRanges)
  (!before && behind, before && !behind)

-- The matches of an expression from a place in `text` on, the preferred ones first: a part takes as
-- much as it can before those behind it do.
def matchesFrom (text : List Char) : Expression → Found → List Found
  | nothing, f => [f]
  | char c, f => if f.rest.head? == some c then [{ f with rest := f.rest.drop 1 }] else []
  | any, f => if f.rest.isEmpty then [] else [{ f with rest := f.rest.drop 1 }]
  | oneOf negated ranges, f =>
    match f.rest with
    | c :: rest => if holds ranges c != negated then [{ f with rest }] else []
    | [] => []
  | start, f => if f.rest.length = text.length then [f] else []
  | finish, f => if f.rest.isEmpty then [f] else []
  | edge starts ends negated, f =>
    let (isStart, isEnd) := edgesAt text f.rest.length
    if ((starts && isStart) || (ends && isEnd)) != negated then [f] else []
  | sequence first second, f =>
    distinct ((matchesFrom text first f).flatMap (matchesFrom text second))
  | either first second, f => distinct (matchesFrom text first f ++ matchesFrom text second f)
  | repeated least most part, f =>
    let required := (List.range least).foldl
      (fun found _ => distinct (found.flatMap (matchesFrom text part))) [f]
    let further := (most.map (· - least)).getD text.length
    distinct (closure (matchesFrom text part) further required)
  | group number part, f =>
    (matchesFrom text part f).map fun g =>
      let matched := f.rest.take (f.rest.length - g.rest.length)
      { g with groups := (number, matched) :: g.groups.filter (·.1 != number) }
  | again number, f =>
    let matched := (f.groups.lookup number).getD []
    if matched.isPrefixOf f.rest then [{ f with rest := f.rest.drop matched.length }] else []

-- A match in a text: what stands before it, the match, what is behind it, and its groups.
structure Occurrence where
  before : List Char
  matched : List Char
  behind : List Char
  groups : List (Nat × List Char)
  deriving Repr, DecidableEq

-- The first and longest match from a place on, where `cs` is left of a text.
def findFrom? (e : Expression) (text cs : List Char) : Option Occurrence :=
  go cs.length cs
where
  go (size : Nat) (rest : List Char) : Option Occurrence :=
    let found := e.matchesFrom text { rest }
    let longest := found.foldl (fun (best : Option Found) f =>
      if best.all (f.rest.length < ·.rest.length) then some f else best) none
    match longest, rest with
    | some f, _ => some
      { before := cs.take (size - rest.length)
        matched := rest.take (rest.length - f.rest.length)
        behind := f.rest, groups := f.groups }
    | none, [] => none
    | none, _ :: rest => go size rest

def find? (e : Expression) (text : List Char) : Option Occurrence :=
  e.findFrom? text text

def readSet (ranges : List (Char × Char)) : List Char → Option (List (Char × Char) × List Char)
  | [] => none
  | ']' :: rest => some (ranges, rest)
  | '[' :: ':' :: rest =>
    let name := rest.takeWhile Char.isAlpha
    match h : rest.drop name.length with
    | ':' :: ']' :: more =>
      have : more.length < rest.length + 2 := by
        have := congrArg List.length h
        simp only [List.length_drop, List.length_cons] at this
        omega
      readSet (classRanges (String.ofList name) ++ ranges) more
    | _ => none
  | c :: '-' :: ']' :: rest => some (('-', '-') :: (c, c) :: ranges, rest)
  | c :: '-' :: d :: rest => readSet ((c, d) :: ranges) rest
  | c :: rest => readSet ((c, c) :: ranges) rest
termination_by cs => cs.length

-- A bracket from behind its opening; a closing one at its start belongs to the set.
def readBracket (cs : List Char) : Option (Expression × List Char) := do
  let (negated, cs) :=
    match cs with
    | '^' :: rest => (true, rest)
    | _ => (false, cs)
  let (first, cs) :=
    match cs with
    | ']' :: '-' :: rest => ([(']', ']')], '-' :: rest)
    | ']' :: rest => ([(']', ']')], rest)
    | _ => ([], cs)
  let (ranges, rest) ← readSet first cs
  return (oneOf negated ranges, rest)

def readBounds (extended : Bool) (cs : List Char) : Option (Nat × Option Nat × List Char) :=
  let value (digits : List Char) : Nat :=
    digits.foldl (fun n c => 10 * n + (c.toNat - '0'.toNat)) 0
  let low := cs.takeWhile Char.isDigit
  let (high, rest) :=
    match cs.drop low.length with
    | ',' :: rest =>
      let digits := rest.takeWhile Char.isDigit
      (if digits.isEmpty then none else some (value digits), rest.drop digits.length)
    | rest => (some (value low), rest)
  match extended, rest with
  | true, '\x7d' :: rest | false, '\\' :: '\x7d' :: rest => some (value low, high, rest)
  | _, _ => none

-- A mark of the notation, which a backslash makes one in the basic notation, and takes its meaning
-- away in the extended one.
def mark? (extended : Bool) : List Char → Option (Char × List Char)
  | '\\' :: c :: rest =>
    if !extended && "()\x7b|+?".toList.contains c then some (c, rest) else none
  | c :: rest => if extended && "()\x7b|+?".toList.contains c then some (c, rest) else none
  | [] => none

def readRepeats (extended : Bool) : Nat → Expression → List Char → Option (Expression × List Char)
  | 0, _, _ => none
  | fuel + 1, e, cs =>
    match cs, mark? extended cs with
    | '*' :: rest, _ => readRepeats extended fuel (repeated 0 none e) rest
    | _, some ('+', rest) => readRepeats extended fuel (repeated 1 none e) rest
    | _, some ('?', rest) => readRepeats extended fuel (repeated 0 (some 1) e) rest
    | _, some ('\x7b', rest) => do
      let (least, most, rest) ← readBounds extended rest
      readRepeats extended fuel (repeated least most e) rest
    | _, _ => some (e, cs)

-- What a backslash makes of a letter: a class of characters, or an edge of a word.
def letterMark? : Char → Option Expression
  | 'w' => some (oneOf false wordRanges)
  | 'W' => some (oneOf true wordRanges)
  | 's' => some (oneOf false (classRanges "space"))
  | 'S' => some (oneOf true (classRanges "space"))
  | 'b' => some (edge true true false)
  | 'B' => some (edge true true true)
  | '<' => some (edge true false false)
  | '>' => some (edge false true false)
  | 'n' => some (char '\n')
  | 't' => some (char '\t')
  | c => if '1' ≤ c && c ≤ '9' then some (again (c.toNat - '0'.toNat)) else none

-- Read alternatives up to the end, or to a closing parenthesis. Each is a sequence of parts;
-- `atStart` says that nothing of the sequence has been read.
def read (extended : Bool) : Nat → Bool → List Char → Option (Expression × List Char)
  | 0, _, _ => none
  | fuel + 1, atStart, cs => do
    let part (e : Expression) (rest : List Char) : Option (Expression × List Char) := do
      let (e, rest) ← readRepeats extended (rest.length + 1) e rest
      let (more, rest) ← read extended fuel false rest
      match more with
      | nothing => return (e, rest)
      -- Alternatives reach to the start of the sequence.
      | either first second => return (either (sequence e first) second, rest)
      | _ => return (sequence e more, rest)
    match cs, mark? extended cs with
    | [], _ => return (nothing, [])
    | _, some (')', _) => return (nothing, cs)
    | _, some ('|', rest) => do
      let (second, rest) ← read extended fuel true rest
      return (either nothing second, rest)
    | _, some ('(', rest) => do
      let (inner, rest) ← read extended fuel true rest
      match mark? extended rest with
      | some (')', rest) => part (group 0 inner) rest
      | _ => none
    | '^' :: rest, _ => if atStart || extended then part start rest else part (char '^') rest
    | '$' :: rest, _ =>
      if extended || rest.isEmpty || (mark? extended rest).any (")|".toList.contains ·.1) then
        part finish rest
      else part (char '$') rest
    | '*' :: rest, _ => if atStart then part (char '*') rest else none
    | '.' :: rest, _ => part any rest
    | '[' :: rest, _ => do
      let (e, rest) ← readBracket rest
      part e rest
    | '\\' :: c :: rest, _ => part ((letterMark? c).getD (char c)) rest
    | ['\\'], _ => none
    | c :: rest, _ => part (char c) rest

-- Give the groups their numbers, in the order of their opening parentheses from `next` on.
def number (next : Nat) : Expression → Expression × Nat
  | sequence first second =>
    let (first, next) := number next first
    let (second, next) := number next second
    (sequence first second, next)
  | either first second =>
    let (first, next) := number next first
    let (second, next) := number next second
    (either first second, next)
  | repeated least most part =>
    let (part, next) := number next part
    (repeated least most part, next)
  | group _ part =>
    let (inner, after) := number (next + 1) part
    (group next inner, after)
  | e => (e, next)

def ofText? (extended : Bool) (text : String) : Option Expression := do
  match ← read extended (2 * text.length + 2) true text.toList with
  | (e, []) => return (e.number 1).1
  | _ => none

end Expression

end EnvProvision.Program
