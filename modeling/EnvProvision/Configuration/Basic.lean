import EnvProvision.Storage.Setup

namespace EnvProvision

-- What a configuration says of one environment.
structure Section where
  storage : Option StorageDescriptor
  bindings : Table String String
  deriving Repr, DecidableEq

-- The sections in the order of the document.
structure Configuration where
  sections : Table String Section
  deriving Repr, DecidableEq

namespace Configuration

def section? (configuration : Configuration) (environment : String) : Option Section :=
  configuration.sections.get? environment

def requireSection (configuration : Configuration) (environment : String) :
    Except Error Section :=
  match configuration.section? environment with
  | some found => .ok found
  | none => .error (.environmentNotFound environment)

def has (configuration : Configuration) (environment : String) : Bool :=
  (configuration.section? environment).isSome

def environments (configuration : Configuration) : List String :=
  configuration.sections.keys

end Configuration

end EnvProvision
