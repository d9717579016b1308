import EnvProvision.Load.Basic
import EnvProvision.Variables.Overlay

namespace EnvProvision.Loader

variable {σ : Type} [Variables σ]

-- The keys that a load would export, in order, with their values.
def preview (loader : Loader) (files : Files) (environment : String) (env : σ) :
    Traced (Table String String) :=
  let result := loader.load files environment (Overlay.ofBase env)
  let value? (key : String) := (result.env.written.get? key).map (key, ·)
  ⟨result.outcome.map fun report => .ofList (report.exported.filterMap value?), result.events⟩

end EnvProvision.Loader
