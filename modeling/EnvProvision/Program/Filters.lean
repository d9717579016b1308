import EnvProvision.Program.Expression
import EnvProvision.Program.Options
import EnvProvision.Program.Printing

namespace EnvProvision.Program

def alignRight (width : Nat) (text : String) : String :=
  String.ofList (List.replicate (width - text.length) ' ') ++ text

def visibleByte (tabs : Bool) (b : UInt8) : Bytes :=
  let low (b : UInt8) : Bytes :=
    if b < 0x20 then [0x5E, b + 0x40] else if b = 0x7F then [0x5E, 0x3F] else [b]
  if b = 0x0A || (b = 0x09 && !tabs) then [b]
  else if b < 0x80 then low b
  else [0x4D, 0x2D] ++ low (b - 0x80)

structure CatLayout where
  numbers : Bool
  numbersFilled : Bool
  squeezes : Bool
  marksEnds : Bool
  showsTabs : Bool
  showsOthers : Bool

def CatLayout.ofOptions (given : GivenOptions) : CatLayout where
  numbers := given.has 'n' && !given.has 'b'
  numbersFilled := given.has 'b'
  squeezes := given.has 's'
  marksEnds := given.has 'E' || given.has 'e' || given.has 'A'
  showsTabs := given.has 'T' || given.has 't' || given.has 'A'
  showsOthers := given.has 'v' || given.has 'e' || given.has 't' || given.has 'A'

-- Lay lines out. Of empty lines in a row one is left on demand.
def CatLayout.lay (layout : CatLayout) (number : Nat) (behindEmpty : Bool) : List Bytes → Bytes
  | [] => []
  | line :: rest =>
    let isEmpty := line == [0x0A]
    if isEmpty && behindEmpty && layout.squeezes then layout.lay number true rest
    else
      let counted := layout.numbers || (layout.numbersFilled && !isEmpty)
      let start := if counted then Bytes.ofUnits (alignRight 6 (toString number) ++ "\t") else []
      let shown := line.flatMap fun b =>
        if b = 0x0A && layout.marksEnds then [0x24, b]
        else if layout.showsOthers then visibleByte layout.showsTabs b
        else if b = 0x09 && layout.showsTabs then [0x5E, 0x49]
        else [b]
      start ++ shown ++ layout.lay (if counted then number + 1 else number) isEmpty rest

def cat : Program :=
  withOptions { flags := "nbsETAvetu",
                names := [("number", 'n'), ("number-nonblank", 'b'), ("squeeze-blank", 's'),
                          ("show-ends", 'E'), ("show-tabs", 'T'), ("show-all", 'A'),
                          ("show-nonprinting", 'v')] } 1 fun given i =>
    let s := sources i given.operands
    if given.options.isEmpty then s.finish s.whole 1
    else s.finish ((CatLayout.ofOptions given).lay 1 false (fullLines s.whole)) 1

def partsOf (given : GivenOptions) (i : Invocation) (part : Bytes → Bytes) : Completion :=
  let s := sourcesWith
    (fun path fault => s!"cannot open {quotedWord path} for reading: {fault.reason}") i
    given.operands
  let headed := (given.operands.length > 1 || given.has 'v') && !given.has 'q'
  let write (path : String) (content : Bytes) (index : Nat) : Bytes :=
    let name := if path = "-" then "standard input" else path
    let heading := (if index = 0 then "==> " else "\n==> ") ++ name ++ " <==\n"
    (if headed then Bytes.ofUnits heading else []) ++ part content
  s.finish (s.contents.zipIdx.flatMap fun ((path, content), index) => write path content index) 1

def partOptions : KnownOptions where
  flags := "qv"
  valued := "nc"
  names := [("lines", 'n'), ("bytes", 'c'), ("quiet", 'q'), ("verbose", 'v')]

def signedNumber? (text : String) : Option (Option Char × Nat) :=
  match text.toList with
  | c :: digits =>
    if c == '-' || c == '+' then do return (some c, ← (String.ofList digits).toNat?)
    else do return (none, ← text.toNat?)
  | [] => none

def head : Program :=
  withOptions partOptions 1 fun given i =>
    let inBytes := given.has 'c'
    match signedNumber? (((given.value? 'c').or (given.value? 'n')).getD "10") with
    | none => .failure 1
    | some (sign, n) =>
      partsOf given i fun content =>
        if inBytes then content.take (if sign = some '-' then content.length - n else n)
        else
          let lines := fullLines content
          (lines.take (if sign = some '-' then lines.length - n else n)).flatten

def tail : Program :=
  withOptions partOptions 1 fun given i =>
    let inBytes := given.has 'c'
    match signedNumber? (((given.value? 'c').or (given.value? 'n')).getD "10") with
    | none => .failure 1
    | some (sign, n) =>
      partsOf given i fun content =>
        let lines := fullLines content
        let passed (size : Nat) : Nat := if sign = some '+' then n - 1 else size - n
        if inBytes then content.drop (passed content.length)
        else (lines.drop (passed lines.length)).flatten

def wordCount (bytes : Bytes) : Nat :=
  (bytes.foldl (fun (count, within) b =>
    let blank := b == 0x20 || (0x09 ≤ b && b ≤ 0x0D)
    (if !blank && !within then count + 1 else count, !blank)) (0, false)).1

-- The number of columns that a text takes in its widest line. A tab goes on to the next multiple of
-- eight, and what is not printed takes none.
def widestColumn (bytes : Bytes) : Nat :=
  let (most, column) := bytes.foldl (fun (most, column) b =>
    if b == 0x0A || b == 0x0D || b == 0x0C then (max most column, 0)
    else if b == 0x09 then (most, column + 8 - column % 8)
    else if 0x20 ≤ b && b < 0x7F then (most, column + 1)
    else (most, column)) (0, 0)
  max most column

-- The texts that are counted. A directory counts as an empty one, though it cannot be read.
def countedSources (i : Invocation) (paths : List String) : Sources :=
  let s := sources i paths
  let read := (if paths.isEmpty then ["-"] else paths).filterMap fun path =>
    match i.content path with
    | .ok content => some (path, content)
    | .error .isDirectory => some (path, [])
    | .error _ => none
  { s with contents := read }

-- Count the lines, words and bytes of texts. The columns are as wide as the size of the files
-- takes, and wider if the input is counted.
def wc : Program :=
  withOptions { flags := "lwcmL",
                names := [("lines", 'l'), ("words", 'w'), ("bytes", 'c'), ("chars", 'm')] } 1
    fun given i =>
      let s := countedSources i given.operands
      let all := given.options.isEmpty
      let shown := (["l", "w", "m", "c", "L"].filter fun kind =>
        given.has (kind.toList.headD ' ') || (all && kind != "m" && kind != "L"))
      let counts (content : Bytes) : List Nat := shown.map fun
        | "l" => content.count 0x0A
        | "w" => wordCount content
        | "L" => widestColumn content
        | _ => content.length
      let single := shown.length = 1 && given.operands.length ≤ 1
      let total := s.contents.foldl (fun n (_, content) => n + content.length) 0
      let width :=
        if single then 1
        else if s.fromInput then max 7 (toString total).length
        else (toString total).length
      let row (counts : List Nat) (name : String) : String :=
        " ".intercalate (counts.map fun n => alignRight width (toString n)) ++
          (if name.isEmpty then "" else " " ++ name) ++ "\n"
      let rows := s.contents.map fun (path, content) =>
        row (counts content) (if given.operands.isEmpty then "" else path)
      let sums := (s.contents.map fun (_, content) => counts content).foldl
        (fun sums counts => List.zipWith (· + ·) sums counts) (shown.map fun _ => 0)
      let totals := if given.operands.length > 1 then row sums "total" else ""
      s.finish (.ofUnits (String.join rows ++ totals)) 1

def tac : Program :=
  withOptions {} 1 fun given i =>
    let s := sourcesWith
      (fun path fault => s!"failed to open {quotedWord path} for reading: {fault.reason}") i
      given.operands
    s.finish ((s.contents.map fun (_, content) => (fullLines content).reverse.flatten).flatten) 1

def rev : Program :=
  withOptions {} 1 fun given i =>
    let s := sourcesWith (fun path fault => s!"cannot open {path}: {fault.reason}") i given.operands
    let turn (line : Bytes) : Bytes := .ofUnits (String.ofList (textOf line).toList.reverse)
    s.finish (unlines ((bareLines s.whole).map turn)) 1

def tee : Program :=
  withOptions { flags := "a" } 1 fun given i =>
    let write (files : Option Files) (path : String) : Option Files :=
      files.bind fun files =>
        let before := if given.has 'a' then ((files.readBytes path).toOption).getD [] else []
        (files.write path (before ++ i.input)).toOption
    let files := given.operands.foldl write (some i.files)
    { Completion.writing i.input (if files.isSome then 0 else 1) with files, readsInput := true }

def isLessBytes (a b : Bytes) : Bool :=
  decide (a < b)

-- The number at the start of a text, in units of its last decimal place.
def leadingNumber (text : String) : Int × Nat :=
  let cs := text.toList.dropWhile fun c => c == ' ' || c == '\t'
  let (negative, cs) :=
    match cs with
    | '-' :: cs => (true, cs)
    | _ => (false, cs)
  let whole := cs.takeWhile Char.isDigit
  let fraction :=
    match cs.drop whole.length with
    | '.' :: rest => rest.takeWhile Char.isDigit
    | _ => []
  let n : Int := digitsValue 10 (whole ++ fraction)
  (if negative then -n else n, fraction.length)

def isLessNumber (a b : String) : Bool :=
  let (m, p) := leadingNumber a
  let (n, q) := leadingNumber b
  m * Int.ofNat (Nat.pow 10 q) < n * Int.ofNat (Nat.pow 10 p)

def lineFields (separator : Option Char) (line : String) : List String :=
  match separator with
  | some c => (line.toList.splitOn c).map String.ofList
  | none => ((line.toList.splitOn ' ').map String.ofList).filter (· != "")

-- A part of lines by which they are sorted: from one field on, up to another, with letters for the
-- order.
structure SortKey where
  first : Nat := 1
  last : Option Nat := none
  letters : List Char

-- Read a key such as `2,3n`. A key without letters has those of the whole sort.
def SortKey.ofText (common : List Char) (text : String) : SortKey :=
  let letters := text.toList.filter Char.isAlpha
  let bounds := (text.toList.filter fun c => c.isDigit || c == ',').splitOn ','
  let bound (n : Nat) : Option Nat := bounds[n]?.bind fun cs => (String.ofList cs).toNat?
  { first := (bound 0).getD 1, last := bound 1
    letters := if letters.isEmpty then common else letters }

def SortKey.of (key : SortKey) (separator : Option Char) (line : String) : String :=
  let fields := lineFields separator line
  let text := (separator.getD ' ').toString.intercalate
    ((fields.take (key.last.getD fields.length)).drop (key.first - 1))
  if key.letters.contains 'f' then text.map Char.toUpper else text

def SortKey.compare (key : SortKey) (separator : Option Char) (a b : String) : Ordering :=
  let (a, b) := (key.of separator a, key.of separator b)
  let order :=
    if key.letters.contains 'n' then
      if isLessNumber a b then .lt else if isLessNumber b a then .gt else .eq
    else compareOfLessAndEq a b
  if key.letters.contains 'r' then order.swap else order

-- The order of lines: by their keys in turn, or as a whole if there is none.
def sortOrder (given : GivenOptions) (a b : Bytes) : Ordering :=
  let separator := (given.value? 't').bind (·.toList.head?)
  let common := "nrf".toList.filter given.has
  let keys := (given.values 'k').map (SortKey.ofText common)
  let (a, b) := (textOf a, textOf b)
  -- Without a separator in it, a line is one field.
  if keys.isEmpty then ({ letters := common } : SortKey).compare (some '\x00') a b
  else keys.foldl (fun order key => order.then (key.compare separator a b)) .eq

-- Sort the lines of texts. Lines that are equal in this order are sorted by their bytes.
def sort : Program :=
  withOptions { flags := "rnufbsc", valued := "kto",
                names := [("reverse", 'r'), ("numeric-sort", 'n'), ("unique", 'u'),
                          ("ignore-case", 'f'), ("key", 'k'), ("field-separator", 't'),
                          ("output", 'o'), ("stable", 's'), ("check", 'c')] } 2 fun given i =>
    let s := sourcesWith
      (fun path fault => s!"cannot read: {path}: {fault.reason}") i given.operands
    let isBefore (a b : Bytes) : Bool :=
      match sortOrder given a b with
      | .lt => true
      | .gt => false
      | .eq => given.has 'u' || given.has 's' ||
        (if given.has 'r' then !isLessBytes a b else !isLessBytes b a)
    let unsorted := bareLines s.whole
    let lines := unsorted.mergeSort isBefore
    let lines :=
      if given.has 'u' then lines.foldl (fun (kept : List Bytes) line =>
        if kept.getLast?.any fun last => sortOrder given last line == .eq then kept
        else kept ++ [line]) []
      else lines
    if given.has 'c' then .failure (if lines == unsorted then 0 else 1)
    else
      match given.value? 'o' with
      | none => s.finish (unlines lines) 2
      | some path =>
        match i.files.write path (unlines lines) with
        | .ok files => { s.finish [] 2 with files := some files }
        | .error fault => i.complaining s!"open failed: {path}: {fault.reason}" 2

def runsOf (lines : List Bytes) : List (Nat × Bytes) :=
  (lines.foldl (fun (runs : List (Nat × Bytes)) line =>
    match runs with
    | (n, last) :: rest => if last == line then (n + 1, last) :: rest else (1, line) :: runs
    | [] => [(1, line)]) []).reverse

-- One line of each run, or only of those that are longer than one, or not.
def uniq : Program :=
  withOptions { flags := "cdu" } 1 fun given i =>
    let s := sources i (given.operands.take 1)
    let runs := (runsOf (bareLines s.whole)).filter fun (n, _) =>
      (!given.has 'd' || n > 1) && (!given.has 'u' || n = 1)
    let write (n : Nat) (line : Bytes) : Bytes :=
      if given.has 'c' then .ofUnits (alignRight 7 (toString n) ++ " ") ++ line else line
    s.finish (unlines (runs.map fun (n, line) => write n line)) 1

def inPositions? (list : String) : Option (Nat → Bool) := do
  let ranges ← ((list.toList.splitOn ',').mapM fun piece =>
    match (piece.splitOn '-').map String.ofList with
    | [n] => do return (← n.toNat?, some (← n.toNat?))
    | [low, high] => do
      let start ← if low.isEmpty then some 1 else low.toNat?
      if high.isEmpty then return (start, none) else return (start, some (← high.toNat?))
    | _ => none : Option (List (Nat × Option Nat)))
  return fun n => ranges.any fun (low, high) => low ≤ n && high.all (n ≤ ·)

def keepPositions {α : Type} (p : Nat → Bool) (items : List α) : List α :=
  (items.zipIdx.filter fun (_, index) => p (index + 1)).map (·.1)

-- Parts of each line: bytes, or the fields between delimiters. A line without one is kept.
def cut : Program :=
  withOptions { flags := "s", valued := "dfcb",
                names := [("delimiter", 'd'), ("fields", 'f'), ("bytes", 'b'),
                          ("characters", 'c')] } 1
    fun given i =>
      let s := sources i given.operands
      let delimiters := Bytes.ofUnits ((given.value? 'd').getD "\t")
      -- An empty delimiter is the one that ends texts.
      let delimiter := delimiters.headD 0
      if delimiters.length > 1 then .failure 1 else
      match given.value? 'f', (given.value? 'c').or (given.value? 'b') with
      | some list, none =>
        match inPositions? list with
        | none => .failure 1
        | some p =>
          let select (line : Bytes) : Option Bytes :=
            if !line.contains delimiter then (if given.has 's' then none else some line)
            else some ([delimiter].intercalate (keepPositions p (line.splitOn delimiter)))
          s.finish (unlines ((bareLines s.whole).filterMap select)) 1
      | none, some list =>
        match inPositions? list with
        | none => .failure 1
        | some p => s.finish (unlines ((bareLines s.whole).map (keepPositions p))) 1
      | _, _ => .failure 1

def characterSet (cs : List Char) : List Char :=
  go cs.length cs
where
  range (low high : Char) : List Char :=
    (List.range (high.toNat + 1 - low.toNat)).map fun n => Char.ofNat (low.toNat + n)
  go : Nat → List Char → List Char
    | _, [] => []
    | 0, _ :: _ => []
    | left + 1, '[' :: ':' :: rest =>
      let name := rest.takeWhile Char.isAlpha
      match rest.drop name.length with
      | ':' :: ']' :: more =>
        let ranges := Expression.classRanges (String.ofList name)
        -- The capitals come first in no class, so that the letters of two cases pair up.
        (ranges.flatMap fun (low, high) => range low high) ++ go left more
      | _ => '[' :: go left (':' :: rest)
    | left + 1, '\\' :: rest =>
      match escape? false rest with
      | some (byte, rest) => Char.ofNat byte.toNat :: go left rest
      | none => go left rest
    | left + 1, c :: '-' :: d :: rest => range c d ++ go left rest
    | left + 1, c :: rest => c :: go left rest

def squeeze (p : Char → Bool) : List Char → List Char
  | c :: d :: rest => if c == d && p c then squeeze p (d :: rest) else c :: squeeze p (d :: rest)
  | cs => cs

def asChars (bytes : Bytes) : List Char :=
  bytes.map fun b => Char.ofNat b.toNat

def tr : Program :=
  withOptions { flags := "cCdst", names := [("complement", 'c'), ("delete", 'd'),
                ("squeeze-repeats", 's'), ("truncate-set1", 't')] } 1 fun given i =>
    let text := asChars i.input
    let complement := given.has 'c' || given.has 'C'
    match given.operands with
    | [] => .failure 1
    | first :: more =>
      let set := characterSet (asChars (.ofUnits first))
      let chosen (c : Char) : Bool := set.contains c != complement
      let second := characterSet (asChars (.ofUnits (more.headD "")))
      let replaced (c : Char) : Char :=
        if !chosen c then c
        else if complement then second.getLast?.getD c
        else second[set.idxOf c]?.getD (second.getLast?.getD c)
      if more.isEmpty && !given.has 'd' && !given.has 's' then .failure 1
      else
        let text := if given.has 'd' then text.filter (!chosen ·)
          else if more.isEmpty then text
          else text.map replaced
        let text :=
          if given.has 's' then
            squeeze (if more.isEmpty then chosen else second.contains) text
          else text
        { Completion.writing (text.map fun c => c.toNat.toUInt8) 0 with readsInput := true }

end EnvProvision.Program
