import EnvProvision.Configuration.Basic

namespace EnvProvision

-- A document path, and the directory that it is relative to; both may be left to the default.
structure Location where
  path : Option String := none
  directory : Option String := none

namespace Location

def defaultPath : String := "config/secret_env.yml"

-- The directory that relative paths start from, by default the working directory.
def workingDirectory (location : Location) (files : Files) : Except Error String :=
  match location.directory with
  | some directory => .ok directory
  | none =>
    match files.workingDirectory? with
    | some directory => .ok directory
    | none => .error (.fileSystem "." "determine working directory" .missing)

def documentPath (location : Location) (files : Files) : Except Error String := do
  let base ← location.workingDirectory files
  return Path.resolve base (location.path.getD defaultPath)

def readDocument (location : Location) (files : Files) : Traced String := do
  let path ← .ofExcept (location.documentPath files)
  -- Only a document that is there is announced; one that cannot be read is there all the same.
  if files.isFile path then
    .emit (.documentLoading path)
    match files.readText path with
    | .ok text => pure text
    | .error fault => .fail (.fileSystem path "read" fault)
  else .fail (.configuration (.documentMissing path))

end Location

end EnvProvision
