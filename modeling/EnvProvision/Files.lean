import EnvProvision.Path
import EnvProvision.Text.Units

namespace EnvProvision

-- Why a path cannot be read, or what it names cannot be run.
inductive FileFault where
  | missing
  | notDirectory
  | isDirectory
  | denied
  | nameTooLong
  | argumentsTooLong
  | notTerminal
  | notText
  | nulInPath
  | other (text : String)
  deriving Repr, DecidableEq

namespace FileFault

def reason : FileFault → String
  | missing => "No such file or directory"
  | notDirectory => "Not a directory"
  | isDirectory => "Is a directory"
  | denied => "Permission denied"
  | nameTooLong => "File name too long"
  | argumentsTooLong => "Argument list too long"
  | notTerminal => "Inappropriate ioctl for device"
  | notText => "stream did not contain valid UTF-8"
  | nulInPath => "file name contained an unexpected NUL byte"
  | other text => text

def number? : FileFault → Option Nat
  | missing => some 2
  | argumentsTooLong => some 7
  | denied => some 13
  | notDirectory => some 20
  | isDirectory => some 21
  | notTerminal => some 25
  | nameTooLong => some 36
  | notText | nulInPath | other _ => none

def message (fault : FileFault) : String :=
  match fault.number? with
  | some number => s!"{fault.reason} (os error {number})"
  | none => fault.reason

end FileFault

-- What a name can stand for. A program is a file that can be run; its content is of no interest
-- here.
inductive FileEntry where
  | directory
  | file (content : Bytes)
  | program
  | nullDevice
  deriving DecidableEq

-- The names that exist, each with the parts of its absolute path, and the place of the working
-- directory. One that has been removed keeps its place, though the place does not exist any more.
-- Names are bytes to a file system, so names and paths are texts of units.
structure Files where
  entries : List (List String × FileEntry)
  workingPlace : List String

namespace Files

def nameLimit : Nat := 255

def pathLimit : Nat := 4096

def entry? (files : Files) (place : List String) : Option FileEntry :=
  if place = [] then some .directory else files.entries.lookup place

def systemDirectories : List (List String) :=
  [["bin"], ["dev"], ["etc"], ["home"], ["lib"], ["opt"], ["proc"], ["root"], ["run"], ["sbin"],
    ["sys"], ["tmp"], ["usr"], ["usr", "bin"], ["usr", "lib"], ["usr", "local"], ["usr", "sbin"],
    ["usr", "share"], ["var"], ["var", "tmp"]]

def ofSystem (workingPlace : List String) : Files where
  entries := (["dev", "null"], .nullDevice) :: systemDirectories.map (·, .directory)
  workingPlace := workingPlace

def workingPath? (files : Files) : Option String :=
  match files.entry? files.workingPlace with
  | some .directory => some ("/" ++ "/".intercalate files.workingPlace)
  | _ => none

def addDirectory (files : Files) (place : List String) : Files :=
  let above := (List.range (place.length + 1)).map place.take
  let missing := above.filter fun p => (files.entry? p).isNone
  { files with entries := files.entries ++ missing.map (·, .directory) }

def addFile (files : Files) (place : List String) (content : Bytes) : Files :=
  let files := files.addDirectory place.dropLast
  { files with entries := (place, .file content) :: files.entries.filter (·.1 != place) }

-- Go down from the place `here` along the parts of a path. A directory that has been removed holds
-- no names, but the way up from it is open.
def walk (files : Files) (here : List String) : List String → Except FileFault (List String)
  | [] => .ok here
  | part :: rest =>
    match files.entry? here with
    | some .directory =>
      if part = ".." then files.walk here.dropLast rest
      else if nameLimit < part.length then .error .nameTooLong
      else if (files.entry? (here ++ [part])).isSome then files.walk (here ++ [part]) rest
      else .error .missing
    | some _ => .error .notDirectory
    | none => if part = ".." then files.walk here.dropLast rest else .error .missing

def find (files : Files) (path : String) : Except FileFault FileEntry := do
  if path.toList.contains '\x00' then throw .nulInPath
  if path.isEmpty then throw .missing
  if pathLimit ≤ path.length then throw .nameTooLong
  let place ← files.walk (if Path.isAbsolute path then [] else files.workingPlace) (Path.parts path)
  match files.entry? place with
  | none | some .directory => return .directory
  | some found => if Path.namesDirectory path then throw .notDirectory else return found

def holdsFile (files : Files) (path : String) : Bool :=
  match files.find path with
  | .ok (.file _) | .ok .program => true
  | _ => false

-- The whole content of a file. That of a program is not known.
def readBytes (files : Files) (path : String) : Except FileFault Bytes := do
  match ← files.find path with
  | .directory => throw .isDirectory
  | .program => throw .notText
  | .file content => return content
  | .nullDevice => return []

-- The place that a path leads to, where there may be nothing yet but a directory around it.
def placeOf (files : Files) (path : String) : Except FileFault (List String) := do
  let start := if Path.isAbsolute path then [] else files.workingPlace
  let parts := Path.parts path
  let around ← files.walk start parts.dropLast
  match files.entry? around, parts.getLast? with
  | some .directory, some name => return if name = ".." then around.dropLast else around ++ [name]
  | some .directory, none => return around
  | some _, _ => throw .notDirectory
  | none, _ => throw .missing

def write (files : Files) (path : String) (content : Bytes) : Except FileFault Files := do
  match files.find path with
  | .ok .directory => throw .isDirectory
  | .ok .program => throw .denied
  | .ok .nullDevice => return files
  | .ok (.file _) => return files.addFile (← files.placeOf path) content
  | .error .missing =>
    if Path.namesDirectory path then throw .isDirectory
    let place ← files.placeOf path
    return files.addFile place content
  | .error fault => throw fault

def names (files : Files) (place : List String) : List String :=
  let inside := files.entries.filterMap fun (p, _) =>
    if p.length = place.length + 1 && p.take place.length = place then p.getLast? else none
  inside.eraseDups.mergeSort

def remove (files : Files) (place : List String) : Files :=
  { files with entries := files.entries.filter fun (p, _) => p.take place.length != place }

def workingDirectory? (files : Files) : Option String :=
  files.workingPath?.map fun path => Text.decodeLossy (.ofUnits path)

def isFile (files : Files) (path : String) : Bool :=
  files.holdsFile (Text.units path)

def readText (files : Files) (path : String) : Except FileFault String := do
  match (← files.readBytes (Text.units path)).text? with
  | some text => return text
  | none => throw .notText

end Files

end EnvProvision
