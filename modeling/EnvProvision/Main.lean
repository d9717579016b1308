import EnvProvision.CommandLine.Needs
import EnvProvision.Program.System

namespace EnvProvision.CommandLine

-- Read the variables as the system lists them: a name, an equals sign and a value, up to a NUL.
def variablesOfList (bytes : Bytes) : ProcessVariables :=
  .ofList ((bytes.splitOn 0).filterMap fun binding =>
    match binding.span (· != 0x3D) with
    | (name, _ :: value) => some (name, value)
    | (_, []) => none)

def observe (files : Files) (path : String) : IO Files := do
  let start := if Path.isAbsolute path then [] else files.workingPlace
  let step (here : List String) (part : String) : List String :=
    if part = ".." then here.dropLast else here ++ [part]
  let parts := Path.parts (Text.units path)
  let place := parts.foldl step start
  let passed := (List.range parts.length).map fun n => (parts.take n).foldl step start
  try
    let content ← IO.FS.readBinFile path
    return (passed.foldl Files.addDirectory files).addFile place content.data.toList
  catch _ => return files

def observeNeeded (env : ProcessVariables) (arguments : List String) (files : Files) :
    IO Files :=
  (neededPaths (Program.system files env) arguments).foldlM observe files

def observeWorld (arguments : List String) : IO World := do
  let env := variablesOfList (← IO.FS.readBinFile "/proc/self/environ").data.toList
  let here ← (some <$> IO.currentDir) <|> pure none
  let files : Files :=
    match here with
    | some directory =>
      let place := Path.parts (Text.units directory.toString)
      (Files.ofSystem place).addDirectory place
    -- A place that no path leads to stands for a directory that has been removed.
    | none => .ofSystem [""]
  -- The document tells where its secrets are, so the second look sees more than the first.
  let files ← observeNeeded env arguments files
  let files ← observeNeeded env arguments files
  return Program.system files env

def start (arguments : List String) : IO UInt32 := do
  let world ← observeWorld arguments
  let result := run world arguments
  for line in world.log result do
    IO.eprintln line
  (← IO.getStdout).write ⟨result.output.toArray⟩
  if let some report := result.report then
    IO.eprintln ("Error: " ++ report)
  return result.code.toUInt32

end EnvProvision.CommandLine

def main (arguments : List String) : IO UInt32 :=
  EnvProvision.CommandLine.start arguments
