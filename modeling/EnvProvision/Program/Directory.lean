import EnvProvision.Program.Naming
import EnvProvision.Program.Search
import EnvProvision.Shell.Pattern

namespace EnvProvision.Program

def isDirectory (files : Files) (path : String) : Bool :=
  (files.find path).toOption == some .directory

-- The names in a directory as they are listed. Those that start with a point are left out unless
-- they are asked for.
def listedNames (given : GivenOptions) (files : Files) (path : String) : List String :=
  let names := ((files.placeOf path).toOption.map files.names).getD []
  let names := names.filter fun name =>
    given.has 'a' || given.has 'A' || !name.startsWith "."
  let names := if given.has 'a' then "." :: ".." :: names else names
  if given.has 'r' then names.reverse else names

def nameMark (given : GivenOptions) (files : Files) (path : String) : String :=
  if !(given.has 'F' || given.has 'p') then ""
  else if isDirectory files path then "/"
  else if given.has 'F' && (files.find path).toOption == some .program then "*"
  else ""

-- The lists of a directory and of those within it, as deep as `fuel` allows.
def listDirectory (given : GivenOptions) (files : Files) :
    Nat → String → List (String × List String)
  | 0, _ => []
  | fuel + 1, path =>
    let names := listedNames given files path
    let lines := names.map fun name => name ++ nameMark given files (Path.join path name)
    let inner := names.filter fun name => isDirectory files (Path.join path name)
    let inner := if given.has 'R' then inner.filter fun name => name != "." && name != ".." else []
    (path, lines) :: inner.flatMap fun name => listDirectory given files fuel (Path.join path name)

def ls : Program :=
  withOptions { flags := "1aAdrRFp", names := [("all", 'a'), ("almost-all", 'A'),
                ("directory", 'd'), ("reverse", 'r'), ("recursive", 'R')] } 2 fun given i =>
    let paths := if given.operands.isEmpty then ["."] else given.operands
    let complaints := paths.filterMap fun path =>
      match i.files.find path with
      | .ok _ => none
      | .error fault => some s!"{i.name}: cannot access {quotedWord path}: {fault.reason}\n"
    let present := (paths.filter fun path => (i.files.find path).isOk).mergeSort
    let order (names : List String) : List String :=
      if given.has 'r' then names.reverse else names
    let opened (path : String) : Bool := isDirectory i.files path && !given.has 'd'
    let plain := (order (present.filter (!opened ·))).map fun path =>
      path ++ nameMark given i.files path
    let lists := (order (present.filter opened)).flatMap
      (listDirectory given i.files (i.files.entries.length + 1))
    let headed := given.operands.length > 1 || given.has 'R'
    let lines (names : List String) : String := String.join (names.map (· ++ "\n"))
    let blocks := lists.map fun (path, names) =>
      (if headed then path ++ ":\n" else "") ++ lines names
    let blocks := if plain.isEmpty then blocks else lines plain :: blocks
    { written := complaints.map (fun line => (.errors, Bytes.ofUnits line)) ++
        [(.output, .ofUnits ("\n".intercalate blocks))]
      ending := .exited (if complaints.isEmpty then 0 else 2) }

-- What is asked of the files that are looked for.
structure Wanted where
  name : Option (Shell.Pattern) := none
  isDirectory : Option Bool := none
  least : Nat := 0
  most : Option Nat := none

def Wanted.read (wanted : Wanted) : List String → Option Wanted
  | [] => some wanted
  | "-name" :: pattern :: rest =>
    let chars : List Shell.MarkedChar := pattern.toList.map fun c => ⟨c, false⟩
    { wanted with name := some (.ofChars chars) }.read rest
  | "-type" :: "f" :: rest => { wanted with isDirectory := some false }.read rest
  | "-type" :: "d" :: rest => { wanted with isDirectory := some true }.read rest
  | "-mindepth" :: n :: rest => do
    let least ← n.toNat?
    { wanted with least }.read rest
  | "-maxdepth" :: n :: rest => do
    let most ← n.toNat?
    { wanted with most := some most }.read rest
  | "-print" :: rest => wanted.read rest
  | _ => none

def pathsWithin (files : Files) : Nat → Nat → String → List (Nat × String)
  | 0, _, _ => []
  | fuel + 1, depth, path =>
    let names := if isDirectory files path then
      ((files.placeOf path).toOption.map files.names).getD [] else []
    (depth, path) :: names.flatMap fun name =>
      pathsWithin files fuel (depth + 1) (Path.join path name)

def find : Program := fun i =>
  let paths := i.arguments.takeWhile fun argument => !argument.startsWith "-"
  match ({} : Wanted).read (i.arguments.drop paths.length) with
  | none => .failure 1
  | some wanted =>
    let paths := if paths.isEmpty then ["."] else paths
    let complaints := paths.filterMap fun path =>
      match i.files.find path with
      | .ok _ => none
      | .error fault => some s!"{i.name}: {quotedWord path}: {fault.reason}\n"
    let present := paths.filter fun path => (i.files.find path).isOk
    let found := present.flatMap (pathsWithin i.files (i.files.entries.length + 1) 0)
    let isWanted (item : Nat × String) : Bool :=
      let (depth, path) := item
      wanted.least ≤ depth && wanted.most.all (depth ≤ ·) &&
        wanted.isDirectory.all (isDirectory i.files path == ·) &&
        wanted.name.all (·.isMatch (lastPart path "").toList)
    { written := complaints.map (fun line => (.errors, Bytes.ofUnits line)) ++
        [(.output, .ofUnits (String.join ((found.filter isWanted).map (·.2 ++ "\n"))))]
      ending := .exited (if complaints.isEmpty then 0 else 1) }

def writeFacts (path : String) (entry : FileEntry) : List Char → String
  | '%' :: 'n' :: rest => path ++ writeFacts path entry rest
  | '%' :: 's' :: rest =>
    let size :=
      match entry with
      | .file content => content.length
      | _ => 0
    toString size ++ writeFacts path entry rest
  | '%' :: 'F' :: rest =>
    let kind :=
      match entry with
      | .directory => "directory"
      | .file [] => "regular empty file"
      | .file _ | .program => "regular file"
      | .nullDevice => "character special file"
    kind ++ writeFacts path entry rest
  | '%' :: '%' :: rest => "%" ++ writeFacts path entry rest
  | c :: rest => c.toString ++ writeFacts path entry rest
  | [] => ""

-- Print facts about files by a format, as far as they do not change from system to system.
def stat : Program :=
  withOptions { valued := "c", names := [("format", 'c')] } 1 fun given i =>
    match given.value? 'c' with
    | none => .failure 1
    | some format =>
      let found := given.operands.map fun path => (path, (i.files.find path).toOption)
      let lines := found.filterMap fun (path, entry) =>
        entry.map fun entry => writeFacts path entry format.toList ++ "\n"
      .writing (.ofUnits (String.join lines)) (if found.all (·.2.isSome) then 0 else 1)

def which : Program :=
  withOptions { flags := "a" } 2 fun given i =>
    let found := given.operands.map fun name =>
      (locateInShell i.files (i.value? "PATH") name).toOption
    let lines := (found.filterMap id).map (· ++ "\n")
    .writing (.ofUnits (String.join lines)) (if found.all Option.isSome then 0 else 1)

-- Change the files path by path. What is said about a path leads to code 1.
def changeFiles (i : Invocation) (paths : List String)
    (change : Files → String → Except String Files) : Completion :=
  let (files, complaints) := paths.foldl (fun (files, complaints) path =>
    match change files path with
    | .ok files => (files, complaints)
    | .error complaint => (files, complaints ++ [i.name ++ ": " ++ complaint ++ "\n"]))
    (i.files, ([] : List String))
  { written := complaints.map fun line => (.errors, .ofUnits line)
    ending := .exited (if complaints.isEmpty then 0 else 1), files := some files }

def withReason {α : Type} (complaint : String) : Except FileFault α → Except String α
  | .ok a => .ok a
  | .error fault => .error (complaint ++ ": " ++ fault.reason)

def mkdir : Program :=
  withOptions { flags := "pv", valued := "m", names := [("parents", 'p')] } 1 fun given i =>
    changeFiles i given.operands fun files path =>
      let complaint := s!"cannot create directory {quotedWord path}"
      match files.find path, files.placeOf path with
      | .ok found, _ =>
        if found = .directory && given.has 'p' then .ok files
        else .error (complaint ++ ": File exists")
      | _, .ok place => .ok (files.addDirectory place)
      | _, .error fault =>
        if given.has 'p' && fault = .missing then
          let start := if Path.isAbsolute path then [] else files.workingPlace
          .ok (files.addDirectory (start ++ Path.parts path))
        else withReason complaint (.error fault)

def touch : Program :=
  withOptions { flags := "cam", valued := "drt" } 1 fun given i =>
    changeFiles i given.operands fun files path =>
      match files.find path with
      | .ok _ => .ok files
      | .error _ =>
        if given.has 'c' then .ok files
        else withReason s!"cannot touch {quotedWord path}" (files.write path [])

-- Give files a size. Zeros fill up what is missing.
def truncate : Program :=
  withOptions { flags := "c", valued := "s", names := [("size", 's')] } 1 fun given i =>
    match (given.value? 's').bind String.toNat? with
    | none => .failure 1
    | some size =>
      changeFiles i given.operands fun files path =>
        let before := ((files.readBytes path).toOption).getD []
        let content := before.take size ++ List.replicate (size - before.length) 0
        withReason s!"cannot open {quotedWord path} for writing" (files.write path content)

def rm : Program :=
  withOptions { flags := "rRfvd", names := [("recursive", 'r'), ("force", 'f')] } 1 fun given i =>
    changeFiles i given.operands fun files path =>
      let complaint := s!"cannot remove {quotedWord path}"
      match files.find path, files.placeOf path with
      | .ok .directory, .ok place =>
        if given.has 'r' || given.has 'R' then .ok (files.remove place)
        else withReason complaint (.error .isDirectory)
      | .ok _, .ok place => .ok (files.remove place)
      | .error fault, _ | _, .error fault =>
        if given.has 'f' then .ok files else withReason complaint (.error fault)

def rmdir : Program :=
  withOptions { flags := "p" } 1 fun given i =>
    changeFiles i given.operands fun files path =>
      let complaint := s!"failed to remove {quotedWord path}"
      match files.find path, files.placeOf path with
      | .ok .directory, .ok place =>
        if (files.names place).isEmpty then .ok (files.remove place)
        else .error (complaint ++ ": Directory not empty")
      | .ok _, _ => withReason complaint (.error .notDirectory)
      | .error fault, _ => withReason complaint (.error fault)

-- The path of a file within a directory that it is put into, under its own name.
def targetPath (files : Files) (target path : String) : String :=
  if isDirectory files target then Path.join target (lastPart path "") else target

def copyPlace (files : Files) (place target : List String) : Files :=
  let inside := files.entries.filterMap fun (p, entry) =>
    if place.isPrefixOf p then some (target ++ p.drop place.length, entry) else none
  inside.foldl (fun files (p, entry) =>
    match entry with
    | .file content => files.addFile p content
    | _ => files.addDirectory p) files

def cp : Program :=
  withOptions { flags := "fpraR", names := [("recursive", 'r')] } 1 fun given i =>
    match given.operands.reverse with
    | target :: paths =>
      let deep := given.has 'r' || given.has 'R' || given.has 'a'
      changeFiles i paths.reverse fun files path => do
        let found ← withReason s!"cannot stat {quotedWord path}" (files.find path)
        let target := targetPath files target path
        match found with
        | .directory =>
          if !deep then throw s!"-r not specified; omitting directory {quotedWord path}"
          let place ← withReason s!"cannot stat {quotedWord path}" (files.placeOf path)
          let complaint := s!"cannot create directory {quotedWord target}"
          let target ← withReason complaint (files.placeOf target)
          return copyPlace files place target
        | _ =>
          let complaint := s!"cannot open {quotedWord path} for reading"
          let content ← withReason complaint (files.readBytes path)
          withReason s!"cannot create regular file {quotedWord target}" (files.write target content)
    | [] => .failure 1

def mv : Program :=
  withOptions { flags := "fnT" } 1 fun given i =>
    match given.operands.reverse with
    | target :: paths =>
      changeFiles i paths.reverse fun files path => do
        discard (withReason s!"cannot stat {quotedWord path}" (files.find path))
        let target := targetPath files target path
        let complaint := s!"cannot move {quotedWord path} to {quotedWord target}"
        let place ← withReason complaint (files.placeOf path)
        let targetPlace ← withReason complaint (files.placeOf target)
        if place = targetPlace then
          throw s!"{quotedWord path} and {quotedWord target} are the same file"
        return (copyPlace (files.remove targetPlace) place targetPlace).remove place
    | [] => .failure 1

def chmod : Program :=
  withOptions { flags := "Rf" } 1 fun given i =>
    changeFiles i (given.operands.drop 1) fun files path => do
      discard (withReason s!"cannot access {quotedWord path}" (files.find path))
      return files

end EnvProvision.Program
