import EnvProvision.CommandLine.Filter
import EnvProvision.Trace
import EnvProvision.Variables.Process

namespace EnvProvision.CommandLine

namespace Filter

def logVariable : String := "SECRET_ENV_LOG"

-- The filter that the variables ask for. A value that is no filter counts as none, but from one
-- that splits a character nothing can be read.
def ofVariables? (env : ProcessVariables) : Option Filter :=
  match (env.bytes? (.ofText logVariable)).bind Bytes.text? with
  | none => some default
  | some text =>
    match ofText text with
    | .ok filter => some filter
    | .error .malformed => some default
    | .error .splitsCharacter => none

end Filter

-- A line of the log: where it comes from, a level, a message, and named fields.
structure LogLine where
  source : String
  level : Level
  message : String
  fields : List (String × String)

namespace LogLine

def fieldNames (line : LogLine) : List String :=
  "message" :: line.fields.map Prod.fst

def text (line : LogLine) : String :=
  let fields := line.fields.map fun (name, value) => " " ++ name ++ "=" ++ value
  line.level.name ++ " " ++ line.message ++ String.join fields

end LogLine

end EnvProvision.CommandLine

namespace EnvProvision.Event

open CommandLine

-- The part of the program that an event comes from, under the name that filters know it by.
def source : Event → String
  | .documentLoading _ => "secret_env_config::loader"
  | .storageSetUp .. => "secret_env_storage::factory"
  | .lineIgnored _ | .secretsLoaded .. => "secret_env_storage::file"
  | .lookup .. => "secret_env_storage::backend"
  | .foundInEnvironment _ | .foundInSibling _ => "secret_env_loader::record"
  | .exported _ | .leftUntouched _ | .loaded .. => "secret_env_loader::loader"
  | .commandStarted _ => "secret_env::commands::exec"

-- The level, message and fields of an event. A look-up that failed is not logged.
def entry? : Event → Option (Level × String × List (String × String))
  | .documentLoading path =>
    some (.debug, "Loading secret-env configuration", [("path", path)])
  | .storageSetUp kind scope =>
    some (.debug, "Setting up storage", [("storage_type", kind.name), ("namespace", scope)])
  | .lineIgnored line =>
    some (.warn, "Ignoring secrets file line without '='", [("line", toString line)])
  | .secretsLoaded path entries =>
    some (.debug, "Loaded secrets file", [("path", path), ("entries", toString entries)])
  | .lookup kind key (some found) =>
    some (.trace, "Storage lookup",
      [("backend", kind.name), ("key", key), ("found", if found then "true" else "false")])
  | .lookup _ _ none => none
  | .foundInEnvironment candidate =>
    some (.trace, "Resolved from environment", [("candidate", candidate)])
  | .foundInSibling candidate =>
    some (.trace, "Resolved from sibling record", [("candidate", candidate)])
  | .exported key => some (.debug, "Exported", [("key", key)])
  | .leftUntouched key => some (.debug, "Already set, leaving untouched", [("key", key)])
  | .loaded environment kind written kept =>
    some (.info, "Loaded secret environment",
      [("environment", environment), ("storage", kind.name), ("exported", toString written),
        ("skipped", toString kept)])
  | .commandStarted command =>
    some (.debug, "Running command in loaded environment", [("command", command)])

def logLine? (event : Event) : Option LogLine :=
  event.entry?.map fun (level, message, fields) => ⟨event.source, level, message, fields⟩

end EnvProvision.Event

namespace EnvProvision.CommandLine

def log (filter : Filter) (events : List Event) : List String :=
  let lines := events.filterMap Event.logLine?
  (lines.filter fun line => filter.admits line.source line.fieldNames line.level).map LogLine.text

end EnvProvision.CommandLine
