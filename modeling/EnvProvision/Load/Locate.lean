import EnvProvision.Configuration.OfYaml
import EnvProvision.Load.Basic

namespace EnvProvision.Loader

-- Read the document at a location. Relative secrets files are looked for from the directory that
-- the document itself is looked for from.
def ofLocation (keyring : Keyring) (location : Location) (files : Files) : Traced Loader := do
  let configuration ← Configuration.load location files
  let base ← .ofExcept (location.workingDirectory files)
  pure ⟨configuration, { baseDirectory := some base, keyring }⟩

end EnvProvision.Loader
