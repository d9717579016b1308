import EnvProvision.CommandLine.Help
import EnvProvision.CommandLine.Log
import EnvProvision.CommandLine.World
import EnvProvision.Load.Locate
import EnvProvision.Load.Preview
import EnvProvision.Shell.Quote

namespace EnvProvision.CommandLine

-- What a run leaves: its exit code, its output, the report of the error that ended it, and its
-- trace.
structure Result where
  code : Nat
  output : Bytes := []
  report : Option String := none
  events : List Event := []

namespace Result

def failure (report : String) (output : Bytes) (events : List Event) : Result :=
  { code := 1, output, report, events }

def usage : Result :=
  { code := 2 }

def panicCode : Nat := 101

def withoutLog : Result :=
  { code := panicCode }

-- A run that prints a text and ends. If the text is refused it panics.
def printing (world : World) (code : Nat) (text : String) : Result :=
  match world.write [] text with
  | (output, none) => { code, output }
  | (output, some _) => { code := panicCode, output }

-- A run that shows a text on request. It does not care whether the text is refused.
def showing (world : World) (text : String) : Result :=
  { code := 0, output := (world.write [] text).1 }

def after (events : List Event) (result : Result) : Result :=
  { result with events := events ++ result.events }

end Result

def versionLine : String :=
  programName ++ " 0.1.0\n"

def killedCode : Nat := 128

def check (world : World) (configuration : Configuration) (environment : String) : Result :=
  if configuration.has environment then
    .printing world 0 s!"environment '{environment}' is defined\n"
  else
    let known :=
      match configuration.environments with
      | [] => "no environments configured"
      | names => "available: " ++ ", ".intercalate names
    .printing world 1 s!"environment '{environment}' is not defined ({known})\n"

def exportLine? (key value : String) : Option String :=
  (Shell.quote? value).map fun quoted => s!"export {key}={quoted}\n"

-- The report of a value that no line can hold.
def unquotable (key : String) : String :=
  let fault := "cannot shell-quote string containing nul byte"
  s!"cannot quote value of '{key}' for the shell: {fault}"

-- Print one command a line behind `output`. A value that no shell can take ends the script before
-- its line, a line that is refused ends it there.
def exportScript (world : World) (output : Bytes) :
    List (String × String) → Bytes × Option String
  | [] => (output, none)
  | (key, value) :: rest =>
    match exportLine? key value with
    | none => (output, some (unquotable key))
    | some line =>
      match world.write output line with
      | (output, none) => exportScript world output rest
      | (output, some report) => (output, some report)

def exportValues (world : World) (loader : Loader) (environment : String) : Result :=
  match loader.preview world.files environment world.env with
  | ⟨.error e, events⟩ => .failure e.message [] events
  | ⟨.ok values, events⟩ =>
    match exportScript world [] values.entries with
    | (output, none) => { code := 0, output, events }
    | (output, some report) => .failure report output events

def exec (world : World) (loader : Loader) (environment command : String)
    (arguments : List String) : Result :=
  let loaded := loader.load world.files environment world.env
  match loaded.outcome with
  | .error e => .failure e.message [] loaded.events
  | .ok _ =>
    let events := loaded.events ++ [.commandStarted command]
    match world.launch loaded.env command arguments with
    | .error fault => .failure s!"failed to run '{command}': {fault.message}" [] events
    | .ok completed =>
      { code := completed.code?.getD killedCode, output := completed.output, events }

-- The loader that the settings ask for. A path that is no text leads to no file that is known.
def Settings.loader (settings : Settings) (keyring : Keyring) (files : Files) : Traced Loader := do
  if settings.config.text?.isNone then
    let path ← .ofExcept (settings.location.documentPath files)
    .fail (.configuration (.documentMissing path))
  else Loader.ofLocation keyring settings.location files

def act (world : World) (settings : Settings) (action : Action) : Result :=
  match settings.loader world.keyring world.files with
  | ⟨.error e, events⟩ => .failure e.message [] events
  | ⟨.ok loader, events⟩ =>
    let result :=
      match action with
      | .check => check world loader.configuration settings.environment
      | .exportValues => exportValues world loader settings.environment
      | .exec command arguments => exec world loader settings.environment command arguments
    result.after events

def answer (world : World) (arguments : List String) : Result :=
  match read arguments with
  | none => .usage
  | some (.help topic) => .showing world (Help.text world.env topic)
  | some .version => .showing world versionLine
  | some (.act options action) =>
    match Settings.of? options world.env with
    | none => .usage
    | some settings => act world settings action

-- A run of the program, as a function of its arguments and of the world around it.
def run (world : World) (arguments : List String) : Result :=
  match Filter.ofVariables? world.env with
  | none => .withoutLog
  | some _ => answer world arguments

def World.log (world : World) (result : Result) : List String :=
  match Filter.ofVariables? world.env with
  | none => []
  | some filter => CommandLine.log filter result.events

end EnvProvision.CommandLine
