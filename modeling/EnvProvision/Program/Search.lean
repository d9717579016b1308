import EnvProvision.Files

namespace EnvProvision.Program

def defaultSearchPath : String := "/bin:/usr/bin"

-- The directories of a search path. An empty one is the working directory.
def searchDirectories (path : String) : List String :=
  (path.toList.splitOn ':').map String.ofList

-- Leave out the directories that are longer than a path can be. In the place of one that is not the
-- last the working directory is searched.
def dropLong : List String → List String
  | [] => []
  | [directory] => if Files.pathLimit ≤ directory.length then [] else [directory]
  | directory :: rest =>
    (if Files.pathLimit ≤ directory.length then "" else directory) :: dropLong rest

-- The path of a program itself. What is no program may not be run.
def atPath (files : Files) (path : String) : Except FileFault String :=
  match files.find path with
  | .ok .program => .ok path
  | .ok _ => .error .denied
  | .error fault => .error fault

-- The first program of a name in some directories. A file that may not be run is passed over, but
-- is reported if there is no program; else the last fault is. The search can end at a fault.
def inDirectories (files : Files) (endsAt : FileFault → Bool) (command : String)
    (fault : FileFault) : List String → Except FileFault String
  | [] => .error fault
  | directory :: rest =>
    match atPath files (Path.join directory command) with
    | .ok path => .ok path
    | .error new =>
      if endsAt new then .error new
      else
        inDirectories files endsAt command (if fault = .denied then .denied else new) rest

-- The path of the program that a command names. The search ends at a path that is too long. Where
-- no directory is searched, the fault that stands is of an earlier question, whether the errors go
-- to a terminal.
def locate (files : Files) (searchPath : Option String) (command : String) :
    Except FileFault String :=
  if command.isEmpty then .error .missing
  else if command.toList.contains '/' then atPath files command
  else if Files.nameLimit < command.length then .error .nameTooLong
  else
    inDirectories files (· = .nameTooLong) command .notTerminal
      (dropLong (searchDirectories (searchPath.getD defaultSearchPath)))

-- The path of the program that a command names in a shell, which tries all directories.
def locateInShell (files : Files) (searchPath : Option String) (command : String) :
    Except FileFault String :=
  if command.isEmpty then .error .missing
  else if command.toList.contains '/' then atPath files command
  else
    inDirectories files (fun _ => false) command .missing
      (searchDirectories (searchPath.getD defaultSearchPath))

def nameAt (path : String) : String :=
  (Path.parts path).getLastD ""

end EnvProvision.Program
