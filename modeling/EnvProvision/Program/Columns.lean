import EnvProvision.Program.Filters

namespace EnvProvision.Program

def pasteDelimiters (given : GivenOptions) : List Bytes :=
  match given.value? 'd' with
  | none => [[0x09]]
  | some text => go text.toList
where
  go : List Char → List Bytes
    | '\\' :: 'n' :: rest => [0x0A] :: go rest
    | '\\' :: 't' :: rest => [0x09] :: go rest
    | '\\' :: '0' :: rest => [] :: go rest
    | c :: rest => charBytes c :: go rest
    | [] => []

def joinInTurn (delimiters : List Bytes) (texts : List Bytes) : Bytes :=
  texts.zipIdx.flatMap fun (text, index) =>
    if index = 0 then text
    else (delimiters[(index - 1) % max delimiters.length 1]?).getD [] ++ text

-- Lines of several texts beside each other, or all lines of each text in one.
def paste : Program :=
  withOptions { flags := "s", valued := "d",
                names := [("serial", 's'), ("delimiters", 'd')] } 1 fun given i =>
    let s := sources i given.operands
    -- Operands that name the input share its lines.
    let shares := (s.contents.filter (·.1 == "-")).length
    let texts := s.contents.zipIdx.map fun ((path, content), index) =>
      let lines := bareLines content
      if path != "-" || shares < 2 then lines
      else
        let turn := ((s.contents.take index).filter (·.1 == "-")).length
        if given.has 's' then (if turn = 0 then lines else [])
        else (lines.zipIdx.filter fun (_, n) => n % shares = turn).map (·.1)
    let delimiters := pasteDelimiters given
    if given.has 's' then s.finish (unlines (texts.map (joinInTurn delimiters))) 1
    else
      let height := (texts.map List.length).max?.getD 0
      let rows := (List.range height).map fun n =>
        joinInTurn delimiters (texts.map fun lines => (lines[n]?).getD [])
      s.finish (unlines rows) 1

-- Lines with numbers before them. Empty ones have none, unless all lines are to be numbered.
def nl : Program :=
  withOptions { flags := "", valued := "bwsvi" } 1 fun given i =>
    let s := sources i given.operands
    let number (letter : Char) (default : Nat) : Nat :=
      ((given.value? letter).bind String.toNat?).getD default
    let width := number 'w' 6
    let separator := (given.value? 's').getD "\t"
    let (rows, _) := (bareLines s.whole).foldl (fun (rows, n) line =>
      if line.isEmpty && given.value? 'b' != some "a" then
        (rows ++ [Bytes.ofUnits (alignRight (width + separator.length) "") ++ line], n)
      else
        let start := alignRight width (toString n) ++ separator
        (rows ++ [Bytes.ofUnits start ++ line], n + number 'i' 1)) (([] : List Bytes), number 'v' 1)
    s.finish (unlines rows) 1

-- Cut a line into pieces of a width, behind a blank if there is one and that is asked for.
def foldLine (width : Nat) (atBlanks : Bool) : Nat → Bytes → List Bytes
  | 0, line => [line]
  | fuel + 1, line =>
    if line.length ≤ width then [line]
    else
      let piece := line.take width
      let blank := (piece.reverse.dropWhile (· != 0x20)).reverse
      let piece := if atBlanks && !blank.isEmpty then blank else piece
      piece :: foldLine width atBlanks fuel (line.drop piece.length)

def fold : Program :=
  withOptions { flags := "sb", valued := "w", names := [("width", 'w'), ("spaces", 's')] } 1
    fun given i =>
      let s := sources i given.operands
      match ((given.value? 'w').getD "80").toNat? with
      | none | some 0 => .failure 1
      | some width =>
        let cut (line : Bytes) : Bytes :=
          let (text, ending) :=
            if line.getLast? = some 0x0A then (line.dropLast, [0x0A]) else (line, [])
          [0x0A].intercalate (foldLine width (given.has 's') text.length text) ++ ending
        s.finish ((fullLines s.whole).flatMap cut) 1

def expandLine (stop : Nat) (line : Bytes) : Bytes :=
  line.foldl (fun out b =>
    if b = 0x09 then out ++ List.replicate (stop - out.length % stop) 0x20 else out ++ [b]) []

def expand : Program :=
  withOptions { flags := "i", valued := "t", names := [("tabs", 't')] } 1 fun given i =>
    let s := sources i given.operands
    let stop := max 1 ((((given.value? 't').getD "8").toNat?).getD 8)
    s.finish ((fullLines s.whole).flatMap (expandLine stop)) 1

-- The lines of two sorted texts: those of the first alone, of the second alone, and of both.
def mergeLines : Nat → List Bytes → List Bytes → List (Nat × Bytes)
  | 0, _, _ => []
  | _ + 1, [], second => second.map (2, ·)
  | _ + 1, first, [] => first.map (1, ·)
  | fuel + 1, a :: first, b :: second =>
    if a == b then (3, a) :: mergeLines fuel first second
    else if isLessBytes a b then (1, a) :: mergeLines fuel first (b :: second)
    else (2, b) :: mergeLines fuel (a :: first) second

-- Compare sorted texts line by line, in columns of which each can be left out.
def comm : Program :=
  withOptions { flags := "123" } 1 fun given i =>
    let s := sources i given.operands
    match s.contents, given.operands with
    | [(_, a), (_, b)], [_, _] =>
      let (first, second) := (bareLines a, bareLines b)
      let leftOut (column : Nat) : Bool := given.has (Char.ofNat ('0'.toNat + column))
      let row (item : Nat × Bytes) : Bytes :=
        let (column, line) := item
        let before := (List.range column).filter fun n => n != 0 && !leftOut n
        if leftOut column then [] else List.replicate before.length 0x09 ++ line ++ [0x0A]
      s.finish ((mergeLines (first.length + second.length + 1) first second).flatMap row) 1
    | _, _ => .failure 1

-- The number of the first byte in which two texts differ, and of its line, if they both reach that
-- far.
def firstDifference (a b : Bytes) : Option (Nat × Nat) :=
  let same := ((a.zip b).takeWhile fun (x, y) => x == y).length
  if same < min a.length b.length then some (same + 1, (a.take same).count 0x0A + 1) else none

def cmp : Program :=
  withOptions { flags := "s", names := [("silent", 's'), ("quiet", 's')] } 2 fun given i =>
    let s := sources i given.operands
    match s.contents, given.operands with
    | [(nameA, a), (nameB, b)], [_, _] =>
      if a == b then .success
      else
        match firstDifference a b with
        | some (place, line) =>
          let report := s!"{nameA} {nameB} differ: char {place}, line {line}\n"
          .writing (if given.has 's' then [] else .ofUnits report) 1
        | none => .failure 1
    | _, _ => s.finish [] 2

-- The length of a longest common sequence of lines, for each pair of rests of two texts.
def commonLengths (first second : List Bytes) : List (List Nat) :=
  let row (a : Bytes) (below : List Nat) : List Nat :=
    (second.zipIdx.foldr (fun (b, index) (found : List Nat) =>
      let diagonal := (below[index + 1]?).getD 0
      let here := if a == b then diagonal + 1
        else max ((below[index]?).getD 0) (found.headD 0)
      here :: found) [0])
  first.foldr (fun a rows => row a (rows.headD []) :: rows) [List.replicate (second.length + 1) 0]

-- A change of lines: where it starts in both texts, what goes away and what comes.
structure Change where
  firstPlace : Nat
  secondPlace : Nat
  removed : List Bytes
  added : List Bytes

namespace Change

def collect (lengths : List (List Nat)) (current : Option Change) (m n : Nat) :
    Nat → List Bytes → List Bytes → List Change
  | 0, _, _ => current.toList
  | fuel + 1, first, second =>
    let length (m n : Nat) : Nat := ((lengths[m]?).bind (·[n]?)).getD 0
    let change := current.getD ⟨m, n, [], []⟩
    match first, second with
    | [], [] => current.toList
    | a :: first, [] =>
      collect lengths (some { change with removed := change.removed ++ [a] }) (m + 1) n fuel first
        []
    | [], b :: second =>
      collect lengths (some { change with added := change.added ++ [b] }) m (n + 1) fuel [] second
    | a :: first, b :: second =>
      if a == b then
        current.toList ++ collect lengths none (m + 1) (n + 1) fuel first second
      else if length m (n + 1) ≤ length (m + 1) n then
        collect lengths (some { change with removed := change.removed ++ [a] }) (m + 1) n fuel first
          (b :: second)
      else
        collect lengths (some { change with added := change.added ++ [b] }) m (n + 1) fuel
          (a :: first) second

def range (place size : Nat) : String :=
  if size = 0 then toString place
  else if size = 1 then toString (place + 1)
  else s!"{place + 1},{place + size}"

def lines (mark : String) (lines : List Bytes) : Bytes :=
  lines.flatMap fun line =>
    let text := Bytes.ofUnits mark ++ line
    if line.getLast? = some 0x0A then text
    else text ++ Bytes.ofUnits "\n\\ No newline at end of file\n"

def write (c : Change) : Bytes :=
  let letter := if c.removed.isEmpty then "a" else if c.added.isEmpty then "d" else "c"
  let start := range c.firstPlace c.removed.length ++ letter ++ range c.secondPlace c.added.length
  let between := if c.removed.isEmpty || c.added.isEmpty then "" else "---\n"
  Bytes.ofUnits (start ++ "\n") ++ lines "< " c.removed ++ Bytes.ofUnits between ++
    lines "> " c.added

end Change

def diff : Program :=
  withOptions { flags := "q", names := [("brief", 'q')] } 2 fun given i =>
    let s := sources i given.operands
    match s.contents, given.operands with
    | [(nameA, a), (nameB, b)], [_, _] =>
      if a == b then .success
      else if given.has 'q' then
        .writing (.ofUnits s!"Files {nameA} and {nameB} differ\n") 1
      else
        let (first, second) := (fullLines a, fullLines b)
        let changes := Change.collect (commonLengths first second) none 0 0
          (first.length + second.length + 1) first second
        .writing (changes.flatMap Change.write) 1
    | _, _ => s.finish [] 2

end EnvProvision.Program
