import EnvProvision.Files

namespace EnvProvision

inductive ConfigurationFault where
  | documentMissing (path : String)
  | notScalar (name environment : String)
  | other (text : String)
  deriving Repr, DecidableEq

namespace ConfigurationFault

def message : ConfigurationFault → String
  | documentMissing path => s!"configuration file '{path}' does not exist"
  | notScalar name environment =>
    s!"variable '{name}' in environment '{environment}' must be a scalar value"
  | other text => text

end ConfigurationFault

-- Why a variable cannot be read or written.
inductive VariableFault where
  | notUnicode
  | invalidName
  | nulInValue
  | other (text : String)
  deriving Repr, DecidableEq

namespace VariableFault

def message : VariableFault → String
  | notUnicode => "value is not valid unicode"
  | invalidName => "invalid variable name"
  | nulInValue => "value contains a NUL byte"
  | other text => text

end VariableFault

-- Every cause ends the load that meets it.
inductive Error where
  | configuration (fault : ConfigurationFault)
  | environmentNotFound (environment : String)
  | unknownStorageType (name : String)
  -- No candidate of a placeholder has a value; `reference` is its inner text as written.
  | keyNotFound (reference : String)
  -- The keys under expansion, and the one of them that was reached again.
  | cyclicReference (chain : List String)
  | referenceDepthExceeded (key : String) (limit : Nat)
  | fileSystem (path operation : String) (fault : FileFault)
  | malformedYaml
  -- A backend failed on a key; `source` is the text of the failure below it, if there is one.
  | backend (backend key message : String) (source : Option String)
  | environment (name : String) (fault : VariableFault)
  deriving Repr, DecidableEq

namespace Error

def message : Error → String
  | configuration fault => s!"configuration error: {fault.message}"
  | environmentNotFound name =>
    s!"environment '{name}' is not defined in the configuration"
  | unknownStorageType name => s!"Unknown storage type: {name}"
  | keyNotFound reference => s!"secret key not found: '{reference}'"
  | cyclicReference chain => "cyclic reference detected: " ++ " -> ".intercalate chain
  | referenceDepthExceeded key limit =>
    s!"reference chain for '{key}' exceeds the maximum depth of {limit}"
  | fileSystem path operation fault =>
    s!"file system {operation} operation failed for '{path}': {fault.message}"
  | malformedYaml => "YAML error"
  | backend name key message _ => s!"{name} storage failed to retrieve '{key}': {message}"
  | environment name fault => s!"environment variable '{name}' error: {fault.message}"

def isKeyNotFound : Error → Bool
  | keyNotFound _ => true
  | _ => false

-- Whether a failure outside the library lies under this one.
def hasSource : Error → Bool
  | fileSystem .. | malformedYaml => true
  | backend _ _ _ source => source.isSome
  | _ => false

-- A backend failure that is reported with the text of the failure below it.
def ofBackendFailure (backend key source : String) : Error :=
  .backend backend key source (some source)

end Error

end EnvProvision
