import EnvProvision.Program.Filters

namespace EnvProvision.Program

namespace Expression

def ofLiteral (text : String) : Expression :=
  text.toList.foldr (fun c rest => .sequence (.char c) rest) .nothing

def smallLetters (ranges : List (Char × Char)) : List (Char × Char) :=
  let letters := "abcdefghijklmnopqrstuvwxyz".toList
  (letters.filter fun c => holds ranges c.toUpper).map fun c => (c, c)

def lowered : Expression → Expression
  | char c => char c.toLower
  | oneOf negated ranges => oneOf negated (ranges ++ smallLetters ranges)
  | sequence first second => sequence first.lowered second.lowered
  | either first second => either first.lowered second.lowered
  | repeated least most part => repeated least most part.lowered
  | group number part => group number part.lowered
  | e => e

end Expression

structure Search where
  expressions : List Expression
  ignoreCase : Bool
  wholeLines : Bool
  wholeWords : Bool

namespace Search

-- The matches of an expression in what is left of a line, each with its place and its length; whole
-- words on demand.
def findAll (search : Search) (e : Expression) (line : List Char) :
    Nat → List Char → List (Nat × Nat)
  | 0, _ => []
  | left + 1, cs =>
    match e.findFrom? line cs with
    | none => []
    | some found =>
      let passed := line.length - cs.length
      let start := passed + found.before.length
      let before := (line.take start).getLast?
      let isWord := !before.any (Expression.holds Expression.wordRanges) &&
        !found.behind.head?.any (Expression.holds Expression.wordRanges)
      let more :=
        if !found.matched.isEmpty then findAll search e line left found.behind
        else if found.behind.isEmpty then []
        else findAll search e line left (found.behind.drop 1)
      if search.wholeWords && !isWord then more else (start, found.matched.length) :: more

def matchesIn (search : Search) (line : List Char) : List (Nat × Nat) :=
  let seen := if search.ignoreCase then line.map Char.toLower else line
  search.expressions.flatMap fun e =>
    let e := if search.ignoreCase then e.lowered else e
    let e := if search.wholeLines then .sequence .start (.sequence (.group 0 e) .finish) else e
    search.findAll e seen (line.length + 1) seen

end Search

def expressions? (given : GivenOptions) (patterns : List String) : Option (List Expression) :=
  let patterns := patterns.flatMap fun p => (p.toList.splitOn '\n').map String.ofList
  patterns.mapM fun pattern =>
    if given.has 'F' then some (Expression.ofLiteral pattern)
    else Expression.ofText? (given.has 'E') pattern

-- Mark the lines that are at most so many lines behind a selected one, or before it.
def withContext (behind before : Nat) (selected : List Bool) : List Bool :=
  selected.zipIdx.map fun (_, index) =>
    ((selected.take (index + before + 1)).drop (index - behind)).any id

def filesWithin (files : Files) (path : String) : List String :=
  match files.find path, files.placeOf path with
  | .ok .directory, .ok place =>
    let inside := files.entries.filterMap fun (p, entry) =>
      match entry with
      | .file _ =>
        if place.isPrefixOf p then some ("/".intercalate (p.drop place.length)) else none
      | _ => none
    inside.mergeSort.map (Path.join path)
  | _, _ => [path]

def grepOptions : KnownOptions where
  flags := "EFGivcnqsohHlLwxraR"
  valued := "emABC"
  names := [("ignore-case", 'i'), ("invert-match", 'v'), ("count", 'c'), ("line-number", 'n'),
    ("quiet", 'q'), ("only-matching", 'o'), ("fixed-strings", 'F'), ("extended-regexp", 'E'),
    ("word-regexp", 'w'), ("line-regexp", 'x'), ("max-count", 'm'), ("regexp", 'e'),
    ("files-with-matches", 'l'), ("recursive", 'r'), ("after-context", 'A'),
    ("before-context", 'B'), ("context", 'C'), ("no-filename", 'h'), ("with-filename", 'H')]

-- How the selected lines of a text are reported.
structure Report where
  given : GivenOptions
  search : Search
  named : Bool

namespace Report

-- The lines of a text with their numbers, each with what is found in it.
def lines (r : Report) (content : Bytes) : List (Nat × Bytes × List (Nat × Nat)) :=
  (bareLines content).zipIdx.map fun (line, index) =>
    (index + 1, line, r.search.matchesIn (textOf line).toList)

-- For each line whether it is selected. There may be a limit to their number.
def selection (r : Report) (lines : List (Nat × Bytes × List (Nat × Nat))) : List Bool :=
  let all := lines.map fun (_, _, found) => found.isEmpty = r.given.has 'v'
  match (r.given.value? 'm').bind String.toNat? with
  | none => all
  | some most => all.zipIdx.map fun (selected, index) =>
    selected && (all.take index).count true < most

def mark (r : Report) (path : String) (number : Nat) (isSelected : Bool) : String :=
  let separator := if isSelected then ":" else "-"
  let name := if path = "-" then "(standard input)" else path
  (if r.named then name ++ separator else "") ++
    (if r.given.has 'n' then toString number ++ separator else "")

def size (r : Report) (letter : Char) : Nat :=
  (((r.given.value? letter).or (r.given.value? 'C')).bind String.toNat?).getD 0

-- The lines of a report. Between lines that do not follow each other there is a mark, if there are
-- lines around the selected ones.
def write (r : Report) (path : String) (content : Bytes) : Bytes :=
  let lines := r.lines content
  let selected := r.selection lines
  let (behind, before) := (r.size 'A', r.size 'B')
  let shown := (lines.zip (selected.zip (withContext behind before selected))).filter (·.2.2)
  let written := shown.map fun ((number, line, found), isSelected, _) =>
    let start := Bytes.ofUnits (r.mark path number isSelected)
    let cs := (textOf line).toList
    let part (place size : Nat) : Bytes := .ofUnits (String.ofList ((cs.drop place).take size))
    (number, if r.given.has 'o' then
        (found.filter (·.2 != 0)).flatMap fun (place, size) => start ++ part place size ++ [0x0A]
      else start ++ line ++ [0x0A])
  (written.foldl (fun (output, last) (number, bytes) =>
    let gap := (behind + before > 0) && last != 0 && number != last + 1
    (output ++ (if gap then Bytes.ofUnits "--\n" else []) ++ bytes, number))
    (([] : Bytes), 0)).1

def ofText (r : Report) (path : String) (content : Bytes) : Bytes :=
  let count := (r.selection (r.lines content)).count true
  let name := if path = "-" then "(standard input)" else path
  if r.given.has 'q' then []
  else if r.given.has 'l' then if count = 0 then [] else Bytes.ofUnits (name ++ "\n")
  else if r.given.has 'L' then if count = 0 then Bytes.ofUnits (name ++ "\n") else []
  else if r.given.has 'c' then
    Bytes.ofUnits ((if r.named then name ++ ":" else "") ++ toString count ++ "\n")
  else r.write path content

end Report

-- Print the lines in which a pattern is found, or what else is asked about them.
def grep : Program :=
  withOptions grepOptions 2 fun given i =>
    let (patterns, paths) :=
      match given.values 'e', given.operands with
      | [], pattern :: paths => ([pattern], paths)
      | patterns, paths => (patterns, paths)
    let within := given.has 'r' || given.has 'R'
    let paths := if within && paths.isEmpty then ["."] else paths
    match patterns, expressions? given patterns with
    | [], _ | _, none => .failure 2
    | _, some expressions =>
      let search : Search := ⟨expressions, given.has 'i', given.has 'x', given.has 'w'⟩
      let found := if within then paths.flatMap (filesWithin i.files) else paths
      let s := sourcesWith (fun path fault => path ++ ": " ++ fault.reason) i found
      let named := (paths.length > 1 || found != paths || given.has 'H') && !given.has 'h'
      let r : Report := { given, search, named }
      let any := s.contents.any fun (_, content) => (r.selection (r.lines content)).contains true
      let code := if !s.complete && !(any && given.has 'q') then 2 else if any then 0 else 1
      let complaints := if given.has 's' then [] else s.complaints
      let output := s.contents.flatMap fun (path, content) => r.ofText path content
      { s.finish output 2 with
        written := (complaints.map fun line => (.errors, Bytes.ofUnits line)) ++ [(.output, output)]
        ending := .exited code }

end EnvProvision.Program
