import EnvProvision.Table
import EnvProvision.Variables.Basic

namespace EnvProvision

-- Variables over other variables: writes stay in the overlay, and what was not written is read from
-- below.
structure Overlay (σ : Type) where
  base : σ
  written : Table String String

namespace Overlay

variable {σ : Type} [Variables σ]

def ofBase (base : σ) : Overlay σ :=
  ⟨base, .empty⟩

instance : Variables (Overlay σ) where
  value? env name :=
    match env.written.get? name with
    | some value => .ok (some value)
    | none => Variables.value? env.base name
  assign env name value := .ok { env with written := env.written.insert name value }

end Overlay

end EnvProvision
