import EnvProvision.Program.Launching
import EnvProvision.Shell.Run

namespace EnvProvision.Program

def programDepth : Nat := 16

def ofNameWithin? : Nat → String → Option Program
  | 0, name => simplePrograms.lookup name
  | depth + 1, name =>
    let inner := ofNameWithin? depth
    match name with
    | "sh" | "dash" => some (Shell.program inner false)
    | "bash" => some (Shell.program inner true)
    | _ => (simplePrograms.lookup name).or ((launchingPrograms inner).lookup name)

def ofName? (name : String) : Option Program :=
  ofNameWithin? programDepth name

def installedNames : List String :=
  ["sh", "dash", "bash"] ++ (simplePrograms ++ launchingPrograms fun _ => none).map Prod.fst

def install (files : Files) : Files :=
  let directories := [["usr", "bin"], ["bin"]]
  let places := directories.flatMap fun directory => installedNames.map (directory ++ [·])
  let files := directories.foldl Files.addDirectory files
  { files with entries := places.map (·, .program) ++ files.entries }

def run (files : Files) (env : ProcessVariables) (command : String) (arguments : List String) :
    Except FileFault Completion := do
  let i := Invocation.ofProcess env files command arguments
  let found ← locate files (i.value? "PATH") i.name
  if !i.fits found then throw .argumentsTooLong
  match ofName? (nameAt found) with
  | some program => return program i
  | none => throw .missing

end EnvProvision.Program
