import EnvProvision.Program.Named
import EnvProvision.Program.Search

namespace EnvProvision.Program

variable (programs : String → Option Program)

-- Run a command with its arguments. One that cannot be found or run has a code of its own, and is
-- reported by the text that `named` makes of it.
def launch (i : Invocation) (named : String → String) : List String → Completion
  | [] => i.complaining "missing operand" 125
  | command :: arguments =>
    let refuse (fault : FileFault) (code : Nat) : Completion :=
      i.complaining (named command ++ ": " ++ fault.reason) code
    match locate i.files (i.value? "PATH") command with
    | .error .missing => refuse .missing 127
    | .error fault => refuse fault 126
    | .ok path =>
      let i := { i with name := command, arguments }
      match programs (nameAt path) with
      | some program => if i.fits path then program i else refuse .argumentsTooLong 126
      | none => refuse .denied 126

def quotedName (name : String) : String :=
  "'" ++ name ++ "'"

def setVariable (env : List (String × String)) (name value : String) : List (String × String) :=
  if (env.lookup name).isSome then
    env.map fun (n, v) => if n = name then (n, value) else (n, v)
  else env ++ [(name, value)]

def inputWords (word : Option (List Char)) (quote : Option Char) : List Char → List String
  | [] => (word.map String.ofList).toList
  | c :: rest =>
    let grown (c : Char) : Option (List Char) := some (word.getD [] ++ [c])
    match quote with
    | some q => if c == q then inputWords word none rest else inputWords (grown c) quote rest
    | none =>
      if c == '\'' || c == '"' then inputWords (some (word.getD [])) (some c) rest
      else if c == '\\' then
        match rest with
        | d :: rest => inputWords (grown d) none rest
        | [] => inputWords word none []
      else if c == ' ' || c == '\t' || c == '\n' then
        (word.map String.ofList).toList ++ inputWords none none rest
      else inputWords (grown c) none rest
termination_by cs => cs.length

-- What `env` is asked for: the variables and the place to work with, and a command.
structure EnvRequest where
  invocation : Invocation
  endsWithNull : Bool := false
  command : List String := []

namespace EnvRequest

def without (r : EnvRequest) (name : String) : EnvRequest :=
  { r with invocation.env := r.invocation.env.filter (·.1 != name) }

def inDirectory? (r : EnvRequest) (path : String) : Option EnvRequest :=
  let files := r.invocation.files
  match files.find path, files.placeOf path with
  | .ok .directory, .ok place =>
    some { r with invocation.files := { files with workingPlace := place } }
  | _, _ => none

def readAssignments (r : EnvRequest) : List String → EnvRequest
  | [] => r
  | argument :: rest =>
    match argument.toList.span (· != '=') with
    | (_, []) => { r with command := argument :: rest }
    | (name, _ :: value) =>
      let env := setVariable r.invocation.env (String.ofList name) (String.ofList value)
      readAssignments { r with invocation.env := env } rest

def read (r : EnvRequest) : List String → Option EnvRequest
  | "-" :: rest | "-i" :: rest | "--ignore-environment" :: rest =>
    read { r with invocation.env := [] } rest
  | "-0" :: rest | "--null" :: rest => read { r with endsWithNull := true } rest
  | "-u" :: name :: rest | "--unset" :: name :: rest => read (r.without name) rest
  | "-C" :: path :: rest | "--chdir" :: path :: rest => do read (← r.inDirectory? path) rest
  | "-S" :: text :: rest => some (r.readAssignments (inputWords none none text.toList ++ rest))
  | "--" :: rest => some (r.readAssignments rest)
  | argument :: rest =>
    match argument.toList.span (· != '=') with
    | (name, '=' :: value) =>
      let value := String.ofList value
      if String.ofList name = "--unset" then read (r.without value) rest
      else if String.ofList name = "--chdir" then do read (← r.inDirectory? value) rest
      else if name.head? == some '-' then none
      else some (r.readAssignments (argument :: rest))
    | (name, _) =>
      match name with
      | '-' :: 'u' :: variableName => read (r.without (String.ofList variableName)) rest
      | '-' :: _ => none
      | _ => some (r.readAssignments (argument :: rest))
  | [] => some r

end EnvRequest

def env : Program := fun i =>
  match ({ invocation := i } : EnvRequest).read i.arguments with
  | none => .failure 125
  | some { invocation := i, endsWithNull, command := [] } =>
    printenv { i with arguments := if endsWithNull then ["-0"] else [] }
  | some { invocation := i, command, .. } => launch programs i quotedName command

structure XargsLayout where
  size : Option Nat := none
  mark : Option String := none
  skipsEmpty : Bool := false
  nulls : Bool := false
  command : List String := []

def XargsLayout.read (layout : XargsLayout) : List String → Option XargsLayout
  | "-n" :: n :: rest => do
    let n ← n.toNat?
    { layout with size := some n }.read rest
  | "-I" :: text :: rest => { layout with mark := some text }.read rest
  | "-r" :: rest => { layout with skipsEmpty := true }.read rest
  | "-0" :: rest => { layout with nulls := true }.read rest
  | "--" :: rest => some { layout with command := rest }
  | argument :: rest =>
    match argument.toList with
    | '-' :: 'n' :: digits => do
      let n ← (String.ofList digits).toNat?
      { layout with size := some n }.read rest
    | '-' :: 'I' :: text => { layout with mark := some (String.ofList text) }.read rest
    | '-' :: _ :: _ => none
    | _ => some { layout with command := argument :: rest }
  | [] => some layout

def XargsLayout.calls (layout : XargsLayout) (input : Bytes) : List (List String) :=
  let command := if layout.command.isEmpty then ["echo"] else layout.command
  match layout.mark with
  | some mark =>
    let lines := ((bareLines input).map textOf).filter (· != "")
    lines.map fun line => command.map fun (word : String) => word.replace mark line
  | none =>
    let words :=
      if layout.nulls then
        let words := (input.splitOn 0).map textOf
        if words.getLast? = some "" then words.dropLast else words
      else inputWords none none (textOf input).toList
    if words.isEmpty then (if layout.skipsEmpty then [] else [command])
    else (piecesOf (layout.size.getD words.length) words).map (command ++ ·)

-- Run a command with the words of the input behind its arguments. A command that cannot be run is
-- not tried again.
def xargs : Program := fun i =>
  match ({} : XargsLayout).read i.arguments with
  | none => .failure 1
  | some layout =>
    let (written, files, code) := (layout.calls i.input).foldl (fun (written, files, code) call =>
      if code = 126 || code = 127 then (written, files, code)
      else
        let completion := launch programs { i with files, input := [] } (fun name => name) call
        let entries := (completion.files.getD files).entries
        let code :=
          match completion.ending with
          | .exited 0 => code
          | .exited n => if n = 126 || n = 127 then n else 123
          | .killed _ => 125
        (written ++ completion.written, { files with entries }, code)) ([], i.files, 0)
    { written, ending := .exited code, files := some files, readsInput := true }

-- Programs that run a command as it is, behind `count` arguments of their own and the options with
-- a value in `valued`.
def passing (valued : List String) (count : Nat) : Program := fun i =>
  launch programs i quotedName ((options i.arguments).drop count)
where
  options : List String → List String
    | "--" :: rest => rest
    | argument :: rest =>
      if valued.contains argument then
        match rest with
        | _ :: rest => options rest
        | [] => []
      else if argument.startsWith "-" then options rest
      else argument :: rest
    | [] => []

def nice : Program := fun i =>
  if i.arguments.isEmpty then .printing "0\n" else passing programs ["-n"] 0 i

def launchingPrograms : List (String × Program) :=
  [("env", env programs), ("xargs", xargs programs), ("nice", nice programs),
    ("nohup", passing programs [] 0), ("setsid", passing programs [] 0),
    ("timeout", passing programs ["-s", "-k"] 1), ("stdbuf", passing programs ["-o", "-i", "-e"] 0)]

end EnvProvision.Program
