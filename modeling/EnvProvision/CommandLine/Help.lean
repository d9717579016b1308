import EnvProvision.CommandLine.Arguments
import EnvProvision.Text.Terminal

namespace EnvProvision.CommandLine

namespace Help

-- How a run of characters is set off.
inductive Emphasis where
  | plain
  | heading
  | typed
  deriving Repr, DecidableEq

def Emphasis.opening : Emphasis → String
  | plain => ""
  | heading => "\x1b[1m\x1b[4m"
  | typed => "\x1b[1m"

structure Run where
  emphasis : Emphasis := .plain
  text : String
  deriving Repr, DecidableEq

namespace Run

def plain (text : String) : Run :=
  { text }

def heading (text : String) : Run :=
  ⟨.heading, text⟩

def typed (text : String) : Run :=
  ⟨.typed, text⟩

def marked (r : Run) : String :=
  match r.emphasis with
  | .plain => r.text
  | _ => r.emphasis.opening ++ r.text ++ "\x1b[0m"

end Run

structure Entry where
  term : List Run
  text : String

namespace Entry

def width (entry : Entry) : Nat :=
  entry.term.foldl (fun n r => n + r.text.length) 0

-- The entry as a line with the explanation in a column of its own. Further lines of the explanation
-- start in that column.
def runs (entry : Entry) (column : Nat) : List Run :=
  let blanks (n : Nat) := String.ofList (List.replicate n ' ')
  let text := entry.text.replace "\n" ("\n" ++ blanks (column + 4))
  .plain "  " :: entry.term ++ [.plain (blanks (column - entry.width + 2) ++ text ++ "\n")]

end Entry

-- A part of the help under a heading. Its column is as wide as its widest term.
def part (title : String) (entries : List Entry) : List Run :=
  let column := entries.foldl (fun n entry => max n entry.width) 0
  .plain "\n" :: .heading (title ++ ":") :: .plain "\n" :: entries.flatMap (Entry.runs · column)

def actions : List Run :=
  part "Commands" (Topic.actions.map fun topic => ⟨[.typed topic.name], topic.purpose⟩)

def optionTerm (letter name value : String) : List Run :=
  [.typed letter, .plain ", ", .typed name, .plain value]

def helpOption : Entry :=
  ⟨optionTerm "-h" "--help" "", "Print help"⟩

-- The options of the program. Those that a variable can stand for tell the value that it has.
def options (env : ProcessVariables) : List Run :=
  let shownVariable (name : String) :=
    "[env: " ++ name ++ "=" ++ Text.decodeLossy ((env.bytes? (.ofText name)).getD []) ++ "]"
  let orElse (value : String) := "[default: " ++ value ++ "]"
  part "Options" [
    ⟨optionTerm "-c" "--config" " <CONFIG>",
      " ".intercalate ["Configuration file", shownVariable Settings.configVariable,
        orElse Location.defaultPath]⟩,
    ⟨optionTerm "-e" "--env" " <ENVIRONMENT>",
      " ".intercalate [
        "Environment section to load (e.g., development, staging, production)",
        shownVariable Settings.environmentVariable, orElse Settings.defaultEnvironment]⟩,
    ⟨optionTerm "-C" "--directory" " <DIRECTORY>",
      "Directory relative paths resolve against (defaults to current directory)"⟩,
    helpOption,
    ⟨optionTerm "-V" "--version" "", "Print version"⟩]

def usage : Topic → List Run
  | .program => [.typed programName, .plain " [OPTIONS] <COMMAND>"]
  | .exec => [.typed (programName ++ " exec"), .plain " <COMMAND> [ARGS]..."]
  | .help => [.typed (programName ++ " help"), .plain " [COMMAND]..."]
  | topic => [.typed (programName ++ " " ++ topic.name)]

def details (env : ProcessVariables) : Topic → List Run
  | .program => actions ++ options env
  | .exportValues | .check => part "Options" [helpOption]
  | .exec =>
    part "Arguments" [⟨[.plain "<COMMAND>"], "Command to run"⟩,
      ⟨[.plain "[ARGS]..."], "Arguments to pass to the command"⟩] ++
    part "Options" [helpOption]
  | .help =>
    part "Arguments" [⟨[.plain "[COMMAND]..."], "Print help for the subcommand(s)"⟩]

def runs (env : ProcessVariables) (topic : Topic) : List Run :=
  .plain (topic.purpose ++ "\n\n") :: .heading "Usage:" :: .plain " " :: usage topic ++
    .plain "\n" :: details env topic

def isMarked (env : ProcessVariables) : Bool :=
  let value? (name : String) := env.bytes? (.ofText name)
  (value? "NO_COLOR").all List.isEmpty && (value? "CLICOLOR_FORCE").any (· != .ofText "0")

def text (env : ProcessVariables) (topic : Topic) : String :=
  let runs := runs env topic
  if isMarked env then String.join (runs.map Run.marked)
  else Text.Terminal.shown (String.join (runs.map Run.text))

end Help

end EnvProvision.CommandLine
