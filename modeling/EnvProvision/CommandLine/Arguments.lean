import EnvProvision.CommandLine.Topic
import EnvProvision.Configuration.Location
import EnvProvision.Text.Lossy
import EnvProvision.Variables.Process

namespace EnvProvision.CommandLine

inductive Action where
  | exportValues
  | check
  | exec (command : String) (arguments : List String)
  deriving Repr, DecidableEq

inductive Setting where
  | config
  | environment
  | directory
  deriving Repr, DecidableEq

-- What the options in front of the action have set. The rest is taken from variables, and else has
-- a default.
structure Options where
  config : Option String := none
  environment : Option String := none
  directory : Option String := none
  deriving Repr, DecidableEq

-- What an action is named for: to do it, or to be told of one.
inductive Request where
  | act (action : Action)
  | help (topic : Topic)
  deriving Repr, DecidableEq

inductive Reading where
  | version
  | help (topic : Topic)
  | act (options : Options) (action : Action)
  deriving Repr, DecidableEq

namespace Setting

def ofLetter? : Char → Option Setting
  | 'c' => some config
  | 'e' => some environment
  | 'C' => some directory
  | _ => none

def ofName? : String → Option Setting
  | "config" => some config
  | "env" => some environment
  | "directory" => some directory
  | _ => none

def isPath : Setting → Bool
  | environment => false
  | config | directory => true

end Setting

namespace Options

def get? (options : Options) : Setting → Option String
  | .config => options.config
  | .environment => options.environment
  | .directory => options.directory

-- Take an option. None may be given twice, and a path is not empty.
def give? (options : Options) (setting : Setting) (value : String) : Option Options :=
  if (options.get? setting).isSome || (setting.isPath && value.isEmpty) then none
  else
    match setting with
    | .config => some { options with config := some value }
    | .environment => some { options with environment := some value }
    | .directory => some { options with directory := some value }

def settle? (options : Options) : Option (Setting × String) → Option Options
  | none => some options
  | some (setting, value) => options.give? setting value

end Options

-- What a single argument before the action can be.
inductive Argument where
  | version
  | help
  | setting (setting : Setting) (value : String)
  | open (setting : Setting)
  | word (word : String)
  deriving Repr, DecidableEq

-- Whether an argument has the form of an option. A lone hyphen has not.
def isHyphenated (argument : String) : Bool :=
  match argument.toList with
  | '-' :: _ :: _ => true
  | _ => false

namespace Argument

-- An option of one letter. The value may follow at once, also behind an equals sign.
def ofLetter? (letter : Char) (rest : List Char) : Option Argument :=
  match letter with
  | 'V' => some .version
  | 'h' => some .help
  | _ => do
    let setting ← Setting.ofLetter? letter
    match rest with
    | [] => return .open setting
    | '=' :: value => return .setting setting (String.ofList value)
    | value => return .setting setting (String.ofList value)

-- An option of several letters. The value may follow behind an equals sign.
def ofName? (text : List Char) : Option Argument :=
  match text.span (· != '=') with
  | (name, []) =>
    match String.ofList name with
    | "version" => some .version
    | "help" => some .help
    | name => (Setting.ofName? name).map .open
  | (name, _ :: value) =>
    (Setting.ofName? (String.ofList name)).map (.setting · (String.ofList value))

def ofText? (text : String) : Option Argument :=
  match text.toList with
  | '-' :: '-' :: name => ofName? name
  | '-' :: letter :: rest => ofLetter? letter rest
  | _ => some (.word text)

end Argument

-- Whether an argument asks for help behind the name of an action: by the name of the option, or by
-- letters the first of which does.
def asksForHelp (argument : String) : Bool :=
  match argument.toList with
  | '-' :: 'h' :: _ => true
  | _ => argument = "--help"

-- Whether an argument asks for help where others with hyphens are taken as they are: by letters all
-- of which do.
def asksOnlyForHelp (argument : String) : Bool :=
  asksForHelp argument && (argument = "--help" || (argument.toList.drop 1).all (· == 'h'))

-- Whether an argument gives a value to the option that asks for help, which takes none.
def givesHelpValue (argument : String) : Bool :=
  "--help=".toList.isPrefixOf argument.toList

-- Read what follows the command to run. Hyphens mean nothing from the second argument on, nor
-- behind `--`.
def readExecArguments (command : String) : List String → Option Request
  | "--" :: arguments => some (.act (.exec command arguments))
  | [] => some (.act (.exec command []))
  | first :: rest =>
    if asksOnlyForHelp first then some (.help .exec)
    else if givesHelpValue first then none
    else some (.act (.exec command (first :: rest)))

-- Read the command to run. It has the form of an option only behind `--`.
def readExec : List String → Option Request
  | "--" :: command :: arguments => some (.act (.exec command arguments))
  | command :: rest =>
    if asksForHelp command then some (.help .exec)
    else if isHyphenated command then none
    else readExecArguments command rest
  | [] => none

def readNothing (topic : Topic) (action : Action) : List String → Option Request
  | [] | ["--"] => some (.act action)
  | argument :: _ => if asksForHelp argument then some (.help topic) else none

-- Read the name of the action that help is asked for, if it has a name.
def readHelp : List String → Option Request
  | [] => some (.help .program)
  | [name] => (Topic.ofName? name).map .help
  | _ => none

def readRequest (name : String) (rest : List String) : Option Request := do
  match ← Topic.ofName? name with
  | .exportValues => readNothing .exportValues .exportValues rest
  | .check => readNothing .check .check rest
  | .exec => readExec rest
  | .help => readHelp rest
  | .program => none

-- Read arguments from the first to the last; what ends the reading early wins over what comes after
-- it. An option whose value is an argument of its own is taken only when another option follows or
-- an action has been read, so help on an action is given whatever the value is.
def readFrom (options : Options) (pending : Option (Setting × String)) :
    List String → Option Reading
  | [] => none
  | argument :: rest => do
    match ← Argument.ofText? argument with
    | .word name =>
      match ← readRequest name rest with
      | .help topic => return .help topic
      | .act action => return .act (← options.settle? pending) action
    | .version => (options.settle? pending).map fun _ => .version
    | .help => (options.settle? pending).map fun _ => .help .program
    | .setting setting value =>
      let options ← options.settle? pending
      readFrom (← options.give? setting value) none rest
    | .open setting =>
      let options ← options.settle? pending
      match rest with
      | [] => none
      | value :: rest =>
        -- What looks like an option is one, and the value is missing.
        if isHyphenated value then none else readFrom options (some (setting, value)) rest

def read (arguments : List String) : Option Reading :=
  readFrom {} none arguments

structure Settings where
  config : Bytes
  environment : String
  directory : Option String
  deriving Repr, DecidableEq

namespace Settings

def configVariable : String := "SECRET_ENV_CONFIG"

def environmentVariable : String := "SECRET_ENV_ENVIRONMENT"

def defaultEnvironment : String := "development"

-- The path of the document. A variable that is used for it must not be empty.
def config? (options : Options) (env : ProcessVariables) : Option Bytes :=
  match options.config, env.bytes? (.ofText configVariable) with
  | some path, _ => some (.ofText path)
  | none, none => some (.ofText Location.defaultPath)
  | none, some bytes => if bytes.isEmpty then none else some bytes

-- The name of the environment. A variable that is used for it must be UTF-8.
def environment? (options : Options) (env : ProcessVariables) : Option String :=
  match options.environment, env.bytes? (.ofText environmentVariable) with
  | some name, _ => some name
  | none, none => some defaultEnvironment
  | none, some bytes => bytes.text?

def of? (options : Options) (env : ProcessVariables) : Option Settings := do
  return ⟨← config? options env, ← environment? options env, options.directory⟩

-- Where the document is. What is no text in its path is replaced, as it is in messages.
def location (settings : Settings) : Location :=
  ⟨some (Text.decodeLossy settings.config), settings.directory⟩

end Settings

end EnvProvision.CommandLine
