import EnvProvision.Error

namespace EnvProvision

-- Holders of environment variables. A value is absent if the variable is not set.
class Variables (σ : Type) where
  value? : σ → String → Except Error (Option String)
  assign : σ → String → String → Except Error σ

namespace Variables

variable {σ : Type} [Variables σ]

-- Whether the variable is set, be it to the empty text.
def isSet (env : σ) (name : String) : Except Error Bool :=
  (value? env name).map Option.isSome

end Variables

end EnvProvision
