import EnvProvision.Text.Alphanumeric
import EnvProvision.Text.Blank
import EnvProvision.Text.Hexadecimal

namespace EnvProvision.CommandLine.ValuePattern

-- How a pattern is read, as the flags in it have it.
structure Mode where
  spaced : Bool := false
  -- A pattern speaks of characters, and else of the bytes that encode them. Then what may match a
  -- part of a character is ruled out.
  wide : Bool := true
  deriving Repr, DecidableEq

namespace Mode

def skipSpace (inComment : Bool) : List Char → List Char
  | [] => []
  | c :: rest =>
    if inComment then skipSpace (c != '\n') rest
    else if c = '#' then skipSpace true rest
    else if Text.isBlank c then skipSpace false rest
    else c :: rest

theorem length_skipSpace_le (inComment : Bool) (cs : List Char) :
    (skipSpace inComment cs).length ≤ cs.length := by
  induction cs generalizing inComment with
  | nil => simp [skipSpace]
  | cons c rest ih =>
    have h := ih true
    have h' := ih false
    have h'' := ih (c != '\n')
    simp only [skipSpace]
    split
    · simp; omega
    · split
      · simp; omega
      · split
        · simp; omega
        · simp

def skip (mode : Mode) (cs : List Char) : List Char :=
  if mode.spaced then skipSpace false cs else cs

theorem length_skip_le (mode : Mode) (cs : List Char) : (mode.skip cs).length ≤ cs.length := by
  unfold skip
  split
  · exact length_skipSpace_le _ _
  · exact Nat.le_refl _

-- The next character that is no white space. One `#` before it is left out, but not a comment.
def peek (mode : Mode) (cs : List Char) : Option Char :=
  if !mode.spaced then cs.head?
  else
    let next := cs.dropWhile Text.isBlank
    let next := if next.head? = some '#' then (next.drop 1).dropWhile Text.isBlank else next
    if next.isEmpty then cs.head? else next.head?

def flags : List Char :=
  ['i', 'm', 's', 'U', 'u', 'R', 'x']

-- What a list of flags says of one of them. Those behind the hyphen are taken away.
def said? (flags : List Char) (flag : Char) : Option Bool :=
  if flags.contains flag then some (!(flags.takeWhile (· != flag)).contains '-') else none

-- Set flags. Each is given once, and a hyphen stands before at least one of them.
def set? (mode : Mode) (flags : List Char) : Option Mode :=
  if flags.all (fun c => c = '-' || Mode.flags.contains c) && decide flags.Nodup
      && flags.getLast? != some '-' then
    some ⟨(said? flags 'x').getD mode.spaced, (said? flags 'u').getD mode.wide⟩
  else none

end Mode

-- How many parts stand beside each other, and how deep the deepest of them is.
structure Nesting where
  count : Nat := 0
  deepest : Nat := 0
  deriving Repr, DecidableEq

namespace Nesting

def push (nesting : Nesting) (depth : Nat) : Nesting :=
  ⟨nesting.count + 1, max nesting.deepest depth⟩

-- The depth of all parts together. A single part is no deeper for it.
def depth (nesting : Nesting) : Nat :=
  if nesting.count ≤ 1 then nesting.deepest else nesting.deepest + 1

def limit : Nat := 250

end Nesting

-- What a backslash makes of what follows it.
inductive Escape where
  | character (c : Char)
  | set
  | boundary
  deriving Repr, DecidableEq

namespace Escape

def hexNumber? (mode : Mode) : Nat → Nat → List Char → Option (Nat × List Char)
  | 0, value, cs => some (value, cs)
  | digits + 1, value, cs =>
    match mode.skip cs with
    | [] => none
    | c :: rest => do hexNumber? mode digits (16 * value + (← Text.hexDigit? c)) rest

-- A character by its code point. A byte that is no character by itself is none.
def code? (mode : Mode) (digits : Nat) (cs : List Char) : Option (Escape × List Char) := do
  let (code, rest) ← hexNumber? mode digits 0 cs
  if digits = 2 && !mode.wide && 0x80 ≤ code then none
  else if h : code.isValidChar then some (.character (Char.ofNatAux code h), rest)
  else none

def category? (mode : Mode) (cs : List Char) : Option (Escape × List Char) :=
  match mode.skip cs with
  | c :: rest =>
    if mode.wide && "CLMNPSZclmnpsz".toList.contains c then some (.set, rest) else none
  | [] => none

-- Read an escape from behind its backslash. What is not in ASCII cannot be escaped, and letters and
-- digits only where they have a meaning.
def read? (mode : Mode) : List Char → Option (Escape × List Char)
  | [] => none
  | 'x' :: rest => code? mode 2 rest
  | 'u' :: rest => code? mode 4 rest
  | 'U' :: rest => code? mode 8 rest
  | c :: rest =>
    if c = 'p' || c = 'P' then category? mode rest
    else if "dsw".toList.contains c then some (.set, rest)
    else if "DSW".toList.contains c then if mode.wide then some (.set, rest) else none
    else if c = 'A' || c = 'z' then some (.boundary, rest)
    -- Of the boundaries of words only those of ASCII words can be found.
    else if "bB<>".toList.contains c then if mode.wide then none else some (.boundary, rest)
    else if "aftnrv".toList.contains c then some (.character c, rest)
    else if c.toNat < 0x80 && !c.isAlphanum then some (.character c, rest)
    else none

end Escape

-- A class that is open: its members behind the last operator, and how deep what stands before that
-- operator is, if there is one.
structure OpenClass where
  members : Nesting := {}
  left : Option Nat := none
  deriving Repr, DecidableEq

namespace OpenClass

def push (c : OpenClass) (depth : Nat) : OpenClass :=
  { c with members := c.members.push depth }

def depth (c : OpenClass) : Nat :=
  match c.left with
  | none => c.members.depth
  | some left => 1 + max left c.members.depth

def operate (c : OpenClass) : OpenClass :=
  { left := some c.depth }

end OpenClass

def readHyphens (mode : Mode) (c : OpenClass) (cs : List Char) : OpenClass × List Char :=
  match _h : mode.skip cs with
  | '-' :: rest => readHyphens mode (c.push 0) rest
  | next => (c, next)
termination_by cs.length
decreasing_by
  have := mode.length_skip_le cs
  simp [_h] at this
  omega

-- Read the start of a class from behind its bracket. A first closing bracket stands for itself. The
-- complement of a class of bytes is ruled out.
def readClassStart (mode : Mode) (cs : List Char) : Option (OpenClass × List Char) := do
  let cs ←
    match mode.skip cs with
    | '^' :: rest => if mode.wide then some rest else none
    | next => some next
  let (c, cs) := readHyphens mode {} cs
  match cs with
  | ']' :: rest => if c.members.count = 0 then return (c.push 0, rest) else return (c, cs)
  | _ => return (c, cs)

def classNames : List String :=
  ["alnum", "alpha", "ascii", "blank", "cntrl", "digit", "graph", "lower", "print", "punct",
    "space", "upper", "word", "xdigit"]

-- Read a class by its name from behind its bracket: whether the complement is meant, and what
-- follows the class.
def namedClass? : List Char → Option (Bool × List Char)
  | ':' :: cs =>
    let (negated, cs) := match cs with
      | '^' :: rest => (true, rest)
      | _ => (false, cs)
    match cs.span (· != ':') with
    | (name, ':' :: ']' :: rest) =>
      if classNames.contains (String.ofList name) then some (negated, rest) else none
    | _ => none
  | _ => none

def readMember? (mode : Mode) (cs : List Char) : Option (Option Char × List Char) := do
  let (member, rest) ←
    match cs with
    | [] => none
    | '\\' :: rest =>
      match ← Escape.read? mode rest with
      | (.character c, rest) => some (some c, rest)
      | (.set, rest) => some (none, rest)
      | (.boundary, _) => none
    | c :: rest => some (some c, rest)
  if mode.wide || member.all (·.toNat < 0x80) then return (member, rest) else none

-- Read a member or a range. A hyphen makes a range unless the class ends or a hyphen follows.
def readRange? (mode : Mode) (cs : List Char) : Option (List Char) := do
  let (low, rest) ← readMember? mode cs
  match mode.skip rest with
  | '-' :: after =>
    if mode.peek after = some ']' || mode.peek after = some '-' then return '-' :: after
    let (high, rest) ← readMember? mode (mode.skip after)
    if (← low) ≤ (← high) then return rest else none
  | next => return next

-- What reading a part of a class leaves.
inductive ClassStep where
  | more (classes : List OpenClass)
  | done (depth : Nat)

def classStep? (mode : Mode) (inner : OpenClass) (outer : List OpenClass) (c : Char)
    (rest : List Char) : Option (ClassStep × List Char) :=
  match c, rest with
  | '[', _ =>
    match namedClass? rest with
    | some (negated, rest) =>
      if negated && !mode.wide then none else some (.more (inner.push 0 :: outer), rest)
    | none =>
      (readClassStart mode rest).map fun (c, rest) => (.more (c :: inner :: outer), rest)
  | ']', _ =>
    match outer with
    | [] => some (.done (1 + inner.depth), rest)
    | next :: outer => some (.more (next.push (1 + inner.depth) :: outer), rest)
  | '&', '&' :: rest => some (.more (inner.operate :: outer), rest)
  | '-', '-' :: rest => some (.more (inner.operate :: outer), rest)
  | '~', '~' :: rest => some (.more (inner.operate :: outer), rest)
  | _, _ => (readRange? mode (c :: rest)).map fun rest => (.more (inner.push 0 :: outer), rest)

def readClass (mode : Mode) (classes : List OpenClass) (cs : List Char) :
    Option (Nat × List Char) :=
  match classes, mode.skip cs with
  | inner :: outer, c :: rest =>
    match classStep? mode inner outer c rest with
    | none => none
    | some (.done depth, next) => some (depth, next)
    | some (.more classes, next) =>
      -- Every part takes at least one character.
      if next.length < cs.length then readClass mode classes next else none
  | _, _ => none
termination_by cs.length

-- A group that is open: its finished alternatives, the items of the last one, how deep the last
-- item is if it can be repeated, and how the group is read from here on.
structure Group where
  alternatives : Nesting := {}
  items : Nesting := {}
  last : Option Nat := none
  mode : Mode := {}
  deriving Repr, DecidableEq

namespace Group

def push (group : Group) (depth : Nat) : Group :=
  { group with items := group.items.push depth, last := some depth }

def setMode (group : Group) (mode : Mode) : Group :=
  { group with items := group.items.push 0, last := none, mode }

def alternate (group : Group) : Group :=
  { group with
    alternatives := group.alternatives.push group.items.depth, items := {}, last := none }

def repeat? (group : Group) : Option Group :=
  group.last.map fun depth =>
    { group with
      items := { group.items with deepest := max group.items.deepest (depth + 1) }
      last := some (depth + 1) }

def depth (group : Group) : Nat :=
  (group.alternatives.push group.items.depth).depth

end Group

-- What has been read of a pattern: the groups that are open, and the names that groups have.
structure Reader where
  inner : Group := {}
  outer : List Group := []
  names : List (List Char) := []
  deriving Repr, DecidableEq

namespace Reader

def mode (r : Reader) : Mode :=
  r.inner.mode

def push (r : Reader) (depth : Nat) : Reader :=
  { r with inner := r.inner.push depth }

def enter (r : Reader) (mode : Mode) : Reader :=
  { r with inner := { mode }, outer := r.inner :: r.outer }

def leave? (r : Reader) : Option Reader :=
  match r.outer with
  | [] => none
  | group :: outer => some { r with inner := group.push (1 + r.inner.depth), outer }

-- Whether a text can name a group: it starts with a letter or an underscore.
def isName : List Char → Bool
  | [] => false
  | c :: rest =>
    (c = '_' || Text.isLetter c) &&
      rest.all fun c => "_.[]".toList.contains c || Text.isAlphanumeric c

def enterNamed? (r : Reader) (cs : List Char) : Option (Reader × List Char) :=
  match cs.span (· != '>') with
  | (name, _ :: rest) =>
    if isName name && !r.names.contains name then
      some ({ r.enter r.mode with names := name :: r.names }, rest)
    else none
  | (_, []) => none

-- Set flags, for a group behind a colon or for the rest of this one.
def setFlags? (r : Reader) (cs : List Char) : Option (Reader × List Char) := do
  let (flags, rest) := cs.span fun c => c != ':' && c != ')'
  let mode ← r.mode.set? flags
  match rest with
  | ':' :: rest => return (r.enter mode, rest)
  | _ :: rest =>
    if flags.isEmpty then none else return ({ r with inner := r.inner.setMode mode }, rest)
  | [] => none

-- Read what stands behind an opening parenthesis. There is no looking ahead or behind.
def open? (r : Reader) (cs : List Char) : Option (Reader × List Char) :=
  match r.mode.skip cs with
  | '?' :: '=' :: _ | '?' :: '!' :: _ | '?' :: '<' :: '=' :: _ | '?' :: '<' :: '!' :: _ => none
  | '?' :: 'P' :: '<' :: rest | '?' :: '<' :: rest => r.enterNamed? rest
  | '?' :: rest => r.setFlags? rest
  | rest => some (r.enter r.mode, rest)

-- Read the next part of a pattern, which starts with `c`. A repetition may be followed by a
-- question mark.
def step? (r : Reader) (c : Char) (rest : List Char) : Option (Reader × List Char) :=
  match c with
  | '(' => r.open? rest
  | ')' => r.leave?.map (·, rest)
  | '|' => some ({ r with inner := r.inner.alternate }, rest)
  | '[' => do
    let (start, rest) ← readClassStart r.mode rest
    let (depth, rest) ← readClass r.mode [start] rest
    return (r.push depth, rest)
  | '?' | '*' | '+' =>
    r.inner.repeat?.map fun inner =>
      ({ r with inner }, if rest.head? = some '?' then rest.drop 1 else rest)
  -- A number of repetitions would end in a brace, and no brace is in the value of a field.
  | '\x7b' => none
  | '\\' => (Escape.read? r.mode rest).map fun (_, rest) => (r.push 0, rest)
  | '.' => if r.mode.wide then some (r.push 0, rest) else none
  | _ => some (r.push 0, rest)

def run (r : Reader) (cs : List Char) : Option Reader :=
  match r.mode.skip cs with
  | [] => some r
  | c :: rest =>
    match r.step? c rest with
    | none => none
    | some (r, next) =>
      -- Every part takes at least one character.
      if next.length < cs.length then run r next else none
termination_by cs.length

end Reader

-- Whether a text is a pattern: it can be read, all groups are closed, and it is not nested too
-- deep.
def isWellFormed (cs : List Char) : Bool :=
  match Reader.run {} cs with
  | none => false
  | some r => r.outer.isEmpty && r.inner.depth ≤ Nesting.limit

-- A group that is not closed, a repetition of nothing, and two groups of one name are refused.
example : isWellFormed "a|(b+?)[^c-e]".toList && !isWellFormed "(".toList &&
    !isWellFormed "*".toList && !isWellFormed "(?P<n>a)(?P<n>b)".toList := by decide +kernel

-- Whether a text is a number without a sign: digits with a point and an exponent, or a name for
-- what no digits write.
def isMagnitude (cs : List Char) : Bool :=
  if ["inf", "infinity", "nan"].contains (String.ofList (cs.map Char.toLower)) then true
  else
    let (whole, rest) := cs.span Char.isDigit
    let (fraction, rest) := match rest with
      | '.' :: rest => rest.span Char.isDigit
      | _ => ([], rest)
    let isExponent : List Char → Bool
      | [] => true
      | c :: digits =>
        let digits := match digits with
          | '+' :: digits | '-' :: digits => digits
          | _ => digits
        (c = 'e' || c = 'E') && !digits.isEmpty && digits.all Char.isDigit
    !(whole.isEmpty && fraction.isEmpty) && isExponent rest

-- Whether a text is a number or a pattern. Without a plus sign every number is a pattern.
def isValue : List Char → Bool
  | '+' :: cs => isMagnitude cs
  | cs => isWellFormed cs

example : isValue "+1.5e3".toList && isValue "-inf".toList && !isValue "+".toList := by
  decide +kernel

end EnvProvision.CommandLine.ValuePattern
