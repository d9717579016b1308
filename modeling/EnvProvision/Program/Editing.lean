import EnvProvision.Program.Selection

namespace EnvProvision.Program

inductive Address where
  | line (number : Nat)
  | every (first step : Nat)
  | last
  | found (e : Expression)
  deriving Repr, DecidableEq

inductive Edit where
  | print
  | printFirst
  | printNumber
  -- Print the pattern space in a form that can be seen, in lines of a length.
  | printVisibly (length : Nat)
  | delete
  -- Delete the first line of the pattern space, and start again if there is another one.
  | deleteFirst
  | empty
  | quit (quietly : Bool)
  | substitute (e : Expression) (replacement : List Char) (first : Nat)
      (everywhere printed : Bool)
  | exchange (set replacement : List Char)
  | append (text : List Char)
  | insert (text : List Char)
  | change (text : List Char)
  -- Go on with the next line, or with `joined` put it behind the pattern space.
  | next (joined : Bool)
  | hold (appended : Bool)
  | get (appended : Bool)
  | swap
  | label (name : List Char)
  -- Go to a label, or to the end; on demand only if there was a substitution, or if there was none.
  | branch (name : List Char) (ifSubstituted : Option Bool)
  | openBlock
  | closeBlock
  deriving Repr, DecidableEq

-- An edit and the lines it is for: all, some, or a range of them; or all others.
structure AddressedEdit where
  first : Option Address
  last : Option Address
  negated : Bool
  edit : Edit
  deriving Repr, DecidableEq

namespace Edit

def readUntil (delimiter : Char) : List Char → Option (List Char × List Char)
  | [] => none
  | '\\' :: c :: rest => do
    let (text, rest) ← readUntil delimiter rest
    return (if c == delimiter then c :: text else '\\' :: c :: text, rest)
  | c :: rest =>
    if c == delimiter then some ([], rest)
    else do
      let (text, rest) ← readUntil delimiter rest
      return (c :: text, rest)

def readNumber (cs : List Char) : Option (Nat × List Char) :=
  let digits := cs.takeWhile Char.isDigit
  if digits.isEmpty then none else some (digitsValue 10 digits, cs.drop digits.length)

-- Put in the characters that are written as numbers, or by letters that mean control characters. A
-- number of a mark can be kept from meaning anything else.
def readEscapes (literally : Bool) (cs : List Char) : List Char :=
  go 0 cs
where
  go (digits : Nat) : List Char → List Char
    | [] => []
    | c :: rest =>
      match digits, c, rest with
      | left + 1, _, _ => go left rest
      | 0, '\\', letter :: behind =>
        let numbered (base size : Nat) : List Char :=
          let digits := (behind.take size).takeWhile fun d => (Text.hexDigit? d).any (· < base)
          let made := Char.ofNat (digitsValue base digits % 256)
          if digits.isEmpty then '\\' :: letter :: go 1 rest
          else if literally && "&\\".toList.contains made then
            '\\' :: made :: go (digits.length + 1) rest
          else made :: go (digits.length + 1) rest
        match letter with
        | 'x' => numbered 16 2
        | 'o' => numbered 8 3
        | 'd' => numbered 10 3
        | 'a' => '\x07' :: go 1 rest
        | 'f' => '\x0c' :: go 1 rest
        | 'v' => '\x0b' :: go 1 rest
        | 'r' => '\r' :: go 1 rest
        | _ => '\\' :: letter :: go 1 rest
      | 0, _, _ => c :: go 0 rest

def readAddress (extended : Bool) (cs : List Char) : Option (Option Address × List Char) :=
  match cs with
  | '$' :: rest => some (some .last, rest)
  | '/' :: rest => do
    let (pattern, rest) ← readUntil '/' rest
    let e ← Expression.ofText? extended (String.ofList (readEscapes false pattern))
    match rest with
    | 'I' :: rest => return (some (.found e.lowered), rest)
    | _ => return (some (.found e), rest)
  | _ =>
    match readNumber cs with
    | none => some (none, cs)
    | some (n, '~' :: rest) => do
      let (step, rest) ← readNumber rest
      return (some (.every n step), rest)
    | some (n, rest) => some (some (.line n), rest)

-- The text behind a command: to the end of the line, where a backslash takes the meaning from the
-- next character. It may start in the line below.
def readText (cs : List Char) : List Char × List Char :=
  let start :=
    match cs.dropWhile (· == ' ') with
    | '\\' :: '\n' :: rest => rest
    | '\\' :: rest => rest
    | rest => rest
  go start
where
  go : List Char → List Char × List Char
    | [] => ([], [])
    | '\n' :: rest => ([], rest)
    | '\\' :: c :: rest =>
      let (text, rest) := go rest
      (c :: text, rest)
    | c :: rest =>
      let (text, rest) := go rest
      (c :: text, rest)

def readLabel (cs : List Char) : List Char × List Char :=
  let cs := cs.dropWhile (· == ' ')
  let isPart (c : Char) : Bool := !(c == ';' || c == '\n' || c == ' ' || c == '\x7d')
  (cs.takeWhile isPart, cs.dropWhile isPart)

def plainText : List Char → List Char
  | '\\' :: 'n' :: rest => '\n' :: plainText rest
  | '\\' :: c :: rest => c :: plainText rest
  | c :: rest => c :: plainText rest
  | [] => []

def readSubstitution (extended : Bool) (delimiter : Char) (cs : List Char) :
    Option (Edit × List Char) := do
  let (pattern, rest) ← readUntil delimiter cs
  let (replacement, rest) ← readUntil delimiter rest
  let isFlag (c : Char) : Bool := "gpiI".toList.contains c || c.isDigit
  let flags := rest.takeWhile isFlag
  let e ← Expression.ofText? extended (String.ofList (readEscapes false pattern))
  let e := if flags.contains 'i' || flags.contains 'I' then e.lowered else e
  let first := digitsValue 10 (flags.filter Char.isDigit)
  let replacement := readEscapes true replacement
  return (.substitute e replacement first (flags.contains 'g') (flags.contains 'p'),
    rest.drop flags.length)

def read (extended : Bool) (cs : List Char) : Option (Edit × List Char) :=
  match cs with
  | 'p' :: rest => some (.print, rest)
  | 'P' :: rest => some (.printFirst, rest)
  | '=' :: rest => some (.printNumber, rest)
  | 'd' :: rest => some (.delete, rest)
  | 'D' :: rest => some (.deleteFirst, rest)
  | 'z' :: rest => some (.empty, rest)
  | 'l' :: rest =>
    let rest := rest.dropWhile (· == ' ')
    some ((readNumber rest).elim (.printVisibly 70, rest) fun (n, rest) => (.printVisibly n, rest))
  | 'q' :: rest => some (.quit false, rest)
  | 'Q' :: rest => some (.quit true, rest)
  | 'n' :: rest => some (.next false, rest)
  | 'N' :: rest => some (.next true, rest)
  | 'h' :: rest => some (.hold false, rest)
  | 'H' :: rest => some (.hold true, rest)
  | 'g' :: rest => some (.get false, rest)
  | 'G' :: rest => some (.get true, rest)
  | 'x' :: rest => some (.swap, rest)
  | '\x7b' :: rest => some (.openBlock, rest)
  | '\x7d' :: rest => some (.closeBlock, rest)
  | 'a' :: rest => some ((readText rest).map .append id)
  | 'i' :: rest => some ((readText rest).map .insert id)
  | 'c' :: rest => some ((readText rest).map .change id)
  | ':' :: rest => some ((readLabel rest).map .label id)
  | 'b' :: rest => some ((readLabel rest).map (.branch · none) id)
  | 't' :: rest => some ((readLabel rest).map (.branch · (some true)) id)
  | 'T' :: rest => some ((readLabel rest).map (.branch · (some false)) id)
  | 's' :: delimiter :: rest => readSubstitution extended delimiter rest
  | 'y' :: delimiter :: rest => do
    let (set, rest) ← readUntil delimiter rest
    let (replacement, rest) ← readUntil delimiter rest
    let (set, replacement) := (plainText set, plainText replacement)
    if set.length = replacement.length then return (.exchange set replacement, rest) else none
  | _ => none

-- Read edits, which semicolons or line feeds separate; as many as there are characters at most.
def readAll (extended : Bool) : Nat → List Char → Option (List AddressedEdit)
  | 0, _ => none
  | left + 1, cs => do
    match cs.dropWhile fun c => c == ';' || c == ' ' || c == '\n' with
    | [] => return []
    | '#' :: rest => readAll extended left (rest.dropWhile (· != '\n'))
    | cs =>
      let (first, cs) ← readAddress extended cs
      let (last, cs) ←
        match cs with
        | ',' :: rest => readAddress extended rest
        | _ => some (none, cs)
      let cs := cs.dropWhile (· == ' ')
      let (negated, cs) :=
        match cs with
        | '!' :: rest => (true, rest)
        | _ => (false, cs)
      let (edit, cs) ← read extended (cs.dropWhile (· == ' '))
      return ⟨first, last, negated, edit⟩ :: (← readAll extended left cs)

-- How letters are changed that are put in: all from a place on, and the next one in a way of its
-- own.
structure Casing where
  all : Option Bool := none
  next : Option Bool := none

namespace Casing

-- Write characters. `true` stands for capital letters.
def write (casing : Casing) (cs : List Char) : List Char :=
  let change (capital : Option Bool) (c : Char) : Char :=
    match capital with
    | none => c
    | some true => c.toUpper
    | some false => c.toLower
  match cs with
  | [] => []
  | c :: rest => change (casing.next.or casing.all) c :: rest.map (change casing.all)

def behind (casing : Casing) (cs : List Char) : Casing :=
  if cs.isEmpty then casing else { casing with next := none }

def set? (casing : Casing) : Char → Option Casing
  | 'U' => some { casing with all := some true }
  | 'L' => some { casing with all := some false }
  | 'E' => some { casing with all := none }
  | 'u' => some { casing with next := some true }
  | 'l' => some { casing with next := some false }
  | _ => none

end Casing

-- The text that is put in for a match: `&` stands for the match, a digit behind a backslash for a
-- group.
def replacementText (found : Expression.Occurrence) (casing : Casing) : List Char → List Char
  | [] => []
  | '\\' :: c :: rest =>
    match casing.set? c with
    | some casing => replacementText found casing rest
    | none =>
      let part :=
        if c == 'n' then ['\n']
        else if c == 't' then ['\t']
        else if c == '0' then found.matched
        else if c.isDigit then (found.groups.lookup (c.toNat - '0'.toNat)).getD []
        else [c]
      casing.write part ++ replacementText found (casing.behind part) rest
  | '&' :: rest =>
    casing.write found.matched ++ replacementText found (casing.behind found.matched) rest
  | c :: rest => casing.write [c] ++ replacementText found (casing.behind [c]) rest

-- Replace the matches in what is left of a line from the one with a number on, or that one alone,
-- and say whether there was one. Right behind another match an empty one does not count.
def replace (e : Expression) (replacement : List Char) (everywhere : Bool) (line : List Char) :
    Nat → Bool → Nat → List Char → List Char × Bool
  | 0, _, _, cs => (cs, false)
  | left + 1, isBehind, number, cs =>
    match e.findFrom? line cs with
    | none => (cs, false)
    | some found =>
      -- An empty match is followed by a character that is kept.
      let kept := if found.matched.isEmpty then found.behind.take 1 else []
      let behind := found.behind.drop kept.length
      let more (number : Nat) : List Char × Bool :=
        if found.matched.isEmpty && found.behind.isEmpty then ([], false)
        else replace e replacement everywhere line left (!found.matched.isEmpty) number behind
      let passed := found.before ++ found.matched ++ kept
      if isBehind && found.before.isEmpty && found.matched.isEmpty then
        let (rest, changed) := more number
        (passed ++ rest, changed)
      else if number > 1 then
        let (rest, changed) := more (number - 1)
        (passed ++ rest, changed)
      else
        let made := found.before ++ replacementText found {} replacement ++ kept
        (made ++ if everywhere then (more number).1 else behind, true)

end Edit

structure Editing where
  waiting : List (List Char)
  number : Nat := 0
  space : List Char := []
  held : List Char := []
  -- What is written, the last part first. The flag says whether a line feed follows.
  written : List (List Char × Bool) := []
  appended : List (List Char) := []
  substituted : Bool := false
  opened : List Nat := []

structure Editor where
  edits : Array AddressedEdit
  quiet : Bool
  isBare : Bool

namespace Editing

def meets (s : Editing) : Address → Bool
  | .line n => n = s.number
  | .every first step => first ≤ s.number && (s.number - first) % max step 1 = 0
  | .last => s.waiting.isEmpty
  | .found e => (e.find? s.space).isSome

-- Whether a range that ends with an address is over at a line, be it that it has just begun.
def isOver (s : Editing) : Address → Bool
  | .line n => n ≤ s.number
  | _ => false

-- Whether the edit at a place is for the line, and whether its range is open behind it.
def applies (s : Editing) (edit : AddressedEdit) (isOpen : Bool) : Bool × Bool :=
  let (applies, isOpen) :=
    match edit.first, edit.last with
    | none, _ => (true, false)
    | some first, none => (s.meets first, false)
    | some first, some final =>
      if isOpen then (true, !(s.meets final || s.isOver final))
      else if s.meets first then (true, !s.isOver final)
      else (false, false)
  (applies != edit.negated, isOpen)

def write (s : Editing) (line : List Char) : Editing :=
  { s with written := (line, true) :: s.written }

def writeSpace (s : Editing) (isBare : Bool) : Editing :=
  { s with written := (s.space, !(isBare && s.waiting.isEmpty)) :: s.written }

-- End a line: its text is written unless the editor is quiet, and then what was put behind it.
def endLine (s : Editing) (editor : Editor) : Editing :=
  let s := if editor.quiet then s else s.writeSpace editor.isBare
  { s.appended.foldl write s with appended := [] }

def takeLine? (s : Editing) : Option Editing :=
  match s.waiting with
  | [] => none
  | line :: waiting =>
    some { s with space := line, waiting, number := s.number + 1, substituted := false }

def behindBlock (edits : Array AddressedEdit) (place : Nat) : Nat :=
  let (_, size) := (edits.toList.drop place).foldl (fun (depth, size) e =>
    if depth = 0 then (0, size)
    else (match e.edit with
      | .openBlock => depth + 1
      | .closeBlock => depth - 1
      | _ => depth, size + 1)) (1, 0)
  place + size

-- The place of a label; an empty one, and one that is missing, is the end.
def labelPlace (edits : Array AddressedEdit) (name : List Char) : Nat :=
  if name.isEmpty then edits.size
  else ((edits.toList.map (·.edit)).idxOf (Edit.label name))

-- What is to be done behind an edit.
inductive Follow where
  | goOn
  | goTo (place : Nat)
  | endLine
  | dropLine
  | again
  | stop

def visible (c : Char) : List Char :=
  if c = '\\' then ['\\', '\\']
  else if c = '\x08' then ['\\', 'b']
  else if ' ' ≤ c && c ≤ '~' then [c]
  else escapedChar c

-- The lines that show a text: each but the last one ends in a backslash, the last one in a dollar
-- sign. A length of zero stands for a single line.
def visibleLines (length : Nat) (text : List Char) : List (List Char) :=
  let (lines, line) := text.foldl (fun (lines, line) c =>
    let shown := visible c
    if 0 < length && length - 1 < line.length + shown.length then
      (lines ++ [line ++ ['\\']], shown)
    else (lines, line ++ shown)) (([] : List (List Char)), ([] : List Char))
  lines ++ [line ++ ['$']]

def joined (a b : List Char) : List Char :=
  a ++ '\n' :: b

def perform (s : Editing) (editor : Editor) : Edit → Editing × Follow
  | .print => (s.writeSpace editor.isBare, .goOn)
  | .printFirst => (s.write (s.space.takeWhile (· != '\n')), .goOn)
  | .printNumber => (s.write (toString s.number).toList, .goOn)
  | .printVisibly length => ((visibleLines length s.space).foldl write s, .goOn)
  | .empty => ({ s with space := [] }, .goOn)
  | .deleteFirst =>
    let s := { s.appended.foldl write s with appended := [] }
    match s.space.dropWhile (· != '\n') with
    | [] => (s, .dropLine)
    | _ :: space => ({ s with space }, .again)
  | .delete => ({ s.appended.foldl write s with appended := [] }, .dropLine)
  | .quit quietly => (if quietly then s else s.endLine editor, .stop)
  | .substitute e replacement number everywhere printed =>
    let (text, changed) :=
      Edit.replace e replacement everywhere s.space (s.space.length + 1) false number s.space
    let s := { s with space := text, substituted := s.substituted || changed }
    (if changed && printed then s.writeSpace editor.isBare else s, .goOn)
  | .exchange set replacement =>
    let change (c : Char) : Char := (replacement[set.idxOf c]?).getD c
    ({ s with space := s.space.map change }, .goOn)
  | .append text => ({ s with appended := s.appended ++ [text] }, .goOn)
  | .insert text => (s.write text, .goOn)
  | .change text => (s.write text, .dropLine)
  | .next false =>
    match (s.endLine editor).takeLine? with
    | some next => (next, .goOn)
    | none => (s.endLine editor, .stop)
  | .next true =>
    match s.waiting with
    | line :: waiting =>
      ({ s with space := joined s.space line, waiting, number := s.number + 1 }, .goOn)
    | [] => (s.endLine editor, .stop)
  | .hold false => ({ s with held := s.space }, .goOn)
  | .hold true => ({ s with held := joined s.held s.space }, .goOn)
  | .get false => ({ s with space := s.held }, .goOn)
  | .get true => ({ s with space := joined s.space s.held }, .goOn)
  | .swap => ({ s with space := s.held, held := s.space }, .goOn)
  | .label _ | .openBlock | .closeBlock => (s, .goOn)
  | .branch name wanted =>
    let s' := if wanted.isSome then { s with substituted := false } else s
    if wanted.all (s.substituted == ·) then (s', .goTo (labelPlace editor.edits name))
    else (s', .goOn)

def run (editor : Editor) : Nat → Nat → Editing → Editing
  | 0, _, s => s
  | fuel + 1, place, s =>
    let nextLine (s : Editing) : Editing :=
      match s.takeLine? with
      | some next => run editor fuel 0 next
      | none => s
    match editor.edits[place]? with
    | none => nextLine (s.endLine editor)
    | some edit =>
      let (applies, isOpen) := s.applies edit (s.opened.contains place)
      let others := s.opened.filter (· != place)
      let s := { s with opened := if isOpen then place :: others else others }
      if !applies then
        match edit.edit with
        | .openBlock => run editor fuel (behindBlock editor.edits (place + 1)) s
        | _ => run editor fuel (place + 1) s
      else
        match s.perform editor edit.edit with
        | (s, .goOn) => run editor fuel (place + 1) s
        | (s, .goTo place) => run editor fuel place s
        | (s, .endLine) => nextLine (s.endLine editor)
        | (s, .dropLine) => nextLine s
        | (s, .again) => run editor fuel 0 s
        | (s, .stop) => s

def output (s : Editing) : List Char :=
  s.written.zipIdx.foldl (fun after ((line, hasLineFeed), index) =>
    (if hasLineFeed || index != 0 then line ++ ['\n'] else line) ++ after) []

end Editing

def editLimit : Nat := 1000000

def edit (editor : Editor) (lines : List (List Char)) : Bytes :=
  match ({ waiting := lines } : Editing).takeLine? with
  | none => []
  | some s => .ofUnits (String.ofList (Editing.run editor editLimit 0 s).output)

def sed : Program :=
  withOptions { flags := "nErsui", valued := "e",
                names := [("quiet", 'n'), ("silent", 'n'), ("regexp-extended", 'E'),
                          ("expression", 'e'), ("in-place", 'i')] } 1 fun given i =>
    let (scripts, paths) :=
      match given.values 'e', given.operands with
      | [], script :: paths => ([script], paths)
      | scripts, paths => (scripts, paths)
    let script := ("\n".intercalate scripts).toList
    match scripts, Edit.readAll (given.has 'E' || given.has 'r') (script.length + 1) script with
    | [], _ | _, none => .failure 1
    | _, some edits =>
      let s := sourcesWith (fun path fault => "can't read " ++ path ++ ": " ++ fault.reason) i paths
      let isBare (content : Bytes) : Bool := content.getLast?.any (· != 0x0A)
      let editText (contents : List Bytes) : Bytes :=
        let lines := contents.flatMap fun content =>
          (bareLines content).map fun line => (textOf line).toList
        edit ⟨edits.toArray, given.has 'n', contents.getLast?.any isBare⟩ lines
      if given.has 'i' then
        let files := s.contents.foldl (fun files (path, content) =>
          ((files.write path (editText [content])).toOption).getD files) i.files
        { s.finish [] 2 with files := some files }
      else s.finish (editText (s.contents.map (·.2))) 2

end EnvProvision.Program
