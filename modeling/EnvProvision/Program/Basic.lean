import EnvProvision.Files
import EnvProvision.Variables.Process

namespace EnvProvision

inductive Ending where
  | exited (code : Nat)
  | killed (signal : Nat)
  deriving Repr, DecidableEq

-- What a program is started with. Programs know of no encoding, so all their texts are texts of
-- units.
structure Invocation where
  name : String := ""
  arguments : List String
  env : List (String × String)
  files : Files
  input : Bytes := []

inductive Channel where
  | output
  | errors
  deriving Repr, DecidableEq

structure Completion where
  written : List (Channel × Bytes) := []
  ending : Ending := .exited 0
  files : Option Files := none
  readsInput : Bool := false

abbrev Program := Invocation → Completion

namespace Completion

def success : Completion :=
  {}

def failure (code : Nat) : Completion :=
  { ending := .exited code }

def writing (output : Bytes) (code : Nat) : Completion :=
  { written := [(.output, output)], ending := .exited code }

def printing (output : String) : Completion :=
  writing (.ofUnits output) 0

def output (completion : Completion) : Bytes :=
  completion.written.flatMap fun
    | (.output, bytes) => bytes
    | (.errors, _) => []

end Completion

namespace Invocation

def value? (i : Invocation) (name : String) : Option String :=
  i.env.lookup name

def complaining (i : Invocation) (message : String) (code : Nat) : Completion :=
  { written := [(.errors, .ofUnits (i.name ++ ": " ++ message ++ "\n"))], ending := .exited code }

-- The content of a file. The input has names of its own, and so have the variables.
def content (i : Invocation) (path : String) : Except FileFault Bytes :=
  if ["-", "/dev/stdin", "/dev/fd/0", "/proc/self/fd/0"].contains path then .ok i.input
  else if path = "/proc/self/environ" then
    .ok (.ofUnits (String.join (i.env.map fun (name, value) => name ++ "=" ++ value ++ "\x00")))
  else i.files.readBytes path

def ofProcess (env : ProcessVariables) (files : Files) (command : String)
    (arguments : List String) : Invocation where
  name := Text.units command
  arguments := arguments.map Text.units
  env := env.table.entries.map fun (name, value) => (name.units, value.units)
  files := files

def textRoom : Nat := 131072

def room : Nat := 2097152

-- Whether a program at a path can be given its arguments and variables. Beside their bytes each of
-- them takes the room of a reference to it.
def fits (i : Invocation) (path : String) : Bool :=
  let texts := i.name :: i.arguments ++ i.env.map fun (name, value) => name ++ "=" ++ value
  texts.all (·.length < textRoom) &&
    texts.foldl (fun n text => n + text.length + 9) (path.length + 1) ≤ room

end Invocation

end EnvProvision
