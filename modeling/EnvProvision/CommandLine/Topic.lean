namespace EnvProvision.CommandLine

def programName : String := "secret-env"

inductive Topic where
  | program
  | exportValues
  | exec
  | check
  | help
  deriving Repr, DecidableEq

namespace Topic

def actions : List Topic :=
  [exportValues, exec, check, help]

def name : Topic → String
  | program => programName
  | exportValues => "export"
  | exec => "exec"
  | check => "check"
  | help => "help"

def purpose : Topic → String
  | program => "Load environment variables with secrets resolved from storage"
  | exportValues => "Print shell `export` statements for the variables a load would set"
  | exec => "Load the environment and run a command inside it"
  | check => "Exit successfully if the configuration defines the environment"
  | help => "Print this message or the help of the given subcommand(s)"

def ofName? (name : String) : Option Topic :=
  actions.find? (·.name == name)

theorem ofName?_name {topic : Topic} (h : topic ≠ program) : ofName? topic.name = some topic := by
  cases topic
  case program => exact absurd rfl h
  all_goals decide +kernel

end Topic

end EnvProvision.CommandLine
