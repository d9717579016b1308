import EnvProvision.CommandLine.Run

namespace EnvProvision.CommandLine

def secretsPath? (loader : Loader) (environment : String) : Option String := do
  let descriptor ← (← loader.configuration.section? environment).storage
  if descriptor.kind.toOption = some .file then some (loader.source.secretsPath descriptor.path)
  else none

-- The files that a run reads, as far as they follow from the ones that are known: the document, and
-- from the document the secrets file.
def neededPaths (world : World) (arguments : List String) : List String :=
  match read arguments with
  | some (.act options _) =>
    match Settings.of? options world.env with
    | none => []
    | some settings =>
      let secrets? := (settings.loader world.keyring world.files).outcome.toOption.bind
        (secretsPath? · settings.environment)
      (settings.location.documentPath world.files).toOption.toList ++ secrets?.toList
  | _ => []

end EnvProvision.CommandLine
