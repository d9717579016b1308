import EnvProvision.Program.Basic
import EnvProvision.Program.ShellWord

namespace EnvProvision.Program

structure KnownOptions where
  flags : String := ""
  valued : String := ""
  names : List (String × Char) := []

-- The options of a command line, each with its value, and its other arguments.
structure GivenOptions where
  options : List (Char × String) := []
  operands : List String := []

namespace GivenOptions

def has (g : GivenOptions) (letter : Char) : Bool :=
  g.options.any (·.1 == letter)

-- The value of an option, the last one if it was given more than once.
def value? (g : GivenOptions) (letter : Char) : Option String :=
  g.options.reverse.lookup letter

def values (g : GivenOptions) (letter : Char) : List String :=
  (g.options.filter (·.1 == letter)).map (·.2)

def give (g : GivenOptions) (letter : Char) (value : String) : GivenOptions :=
  { g with options := g.options ++ [(letter, value)] }

end GivenOptions

namespace KnownOptions

-- Read the letters behind a hyphen. The last one may lack its value, which is then the next
-- argument.
def readLetters (known : KnownOptions) (given : GivenOptions) :
    List Char → Option (GivenOptions × Option Char)
  | [] => some (given, none)
  | c :: rest =>
    if known.flags.toList.contains c then readLetters known (given.give c "") rest
    else if known.valued.toList.contains c then
      if rest.isEmpty then some (given, some c)
      else some (given.give c (String.ofList rest), none)
    else none

def readName (known : KnownOptions) (given : GivenOptions) (text : List Char) :
    Option (GivenOptions × Option Char) := do
  let (name, value) := text.span (· != '=')
  let letter ← known.names.lookup (String.ofList name)
  if known.flags.toList.contains letter then
    if value.isEmpty then return (given.give letter "", none) else none
  else if value.isEmpty then return (given, some letter)
  else return (given.give letter (String.ofList (value.drop 1)), none)

-- Read arguments. A number behind a hyphen is the value of `n`, if there is such an option.
def read (known : KnownOptions) (given : GivenOptions) : List String → Option GivenOptions
  | [] => some given
  | "--" :: rest => some { given with operands := given.operands ++ rest }
  | argument :: rest => do
    let (given, waiting) ←
      match argument.toList with
      | '-' :: '-' :: name => known.readName given name
      | '-' :: c :: letters =>
        if c.isDigit && known.valued.toList.contains 'n' then
          some (given.give 'n' (String.ofList (c :: letters)), none)
        else known.readLetters given (c :: letters)
      | _ => some ({ given with operands := given.operands ++ [argument] }, none)
    match waiting, rest with
    | none, rest => known.read given rest
    | some letter, value :: rest => known.read (given.give letter value) rest
    | some _, [] => none

end KnownOptions

-- Run a program on its options; one that it does not know ends it with `code`.
def withOptions (known : KnownOptions) (code : Nat)
    (program : GivenOptions → Invocation → Completion) : Program := fun i =>
  match known.read {} i.arguments with
  | some given => program given i
  | none => .failure code

-- The texts that a program works on: the files that are named, or the input.
structure Sources where
  contents : List (String × Bytes)
  complaints : List String
  fromInput : Bool

-- Read the texts. `complaint` says what is wrong with a path.
def sourcesWith (complaint : String → FileFault → String) (i : Invocation)
    (paths : List String) : Sources :=
  let paths := if paths.isEmpty then ["-"] else paths
  let read := paths.map fun path => (path, i.content path)
  { contents := read.filterMap fun (path, content) => content.toOption.map (path, ·)
    complaints := read.filterMap fun (path, content) =>
      match content with
      | .ok _ => none
      | .error fault => some (i.name ++ ": " ++ complaint path fault ++ "\n")
    fromInput := paths.contains "-" }

-- Read the texts; of one that cannot be read, the path and the reason are reported.
def sources (i : Invocation) (paths : List String) : Sources :=
  sourcesWith (fun path fault => shellWord path ++ ": " ++ fault.reason) i paths

namespace Sources

def whole (s : Sources) : Bytes :=
  s.contents.flatMap (·.2)

def complete (s : Sources) : Bool :=
  s.complaints.isEmpty

-- Write what was made of the texts. A text that could not be read leads to `code`.
def finish (s : Sources) (output : Bytes) (code : Nat) : Completion :=
  { written := (s.complaints.map fun line => (.errors, .ofUnits line)) ++ [(.output, output)]
    ending := .exited (if s.complete then 0 else code)
    readsInput := s.fromInput }

end Sources

-- The lines of a text, each with its line feed, which only the last one can lack.
def fullLines (bytes : Bytes) : List Bytes :=
  match bytes.splitOn 0x0A with
  | [] => []
  | lines =>
    let last := lines.getLast?.getD []
    (lines.dropLast.map (· ++ [0x0A])) ++ (if last.isEmpty then [] else [last])

def bareLines (bytes : Bytes) : List Bytes :=
  let lines := bytes.splitOn 0x0A
  if lines.getLast?.any List.isEmpty then lines.dropLast else lines

def unlines (lines : List Bytes) : Bytes :=
  lines.flatMap (· ++ [0x0A])

-- Cut a list into pieces of a size. The last one may be shorter.
def piecesOf {α : Type} (size : Nat) (items : List α) : List (List α) :=
  (List.range ((items.length + size - 1) / size)).map fun k => (items.drop (k * size)).take size

def textOf (bytes : Bytes) : String :=
  Bytes.units bytes

end EnvProvision.Program
