import EnvProvision.Configuration.Basic
import EnvProvision.Yaml.Value.Basic

namespace EnvProvision

-- A section as written: its storage, and the entries of its variables.
structure SectionEntries where
  storage : Option StorageDescriptor := none
  bindings : Option (List (String × Yaml.Value)) := none

-- A document as written: the entries of its sections, each of which may be null. Of entries with
-- one name the last counts, at the place of the first.
abbrev DocumentEntries := Option (List (String × Option SectionEntries))

namespace Section

-- The text of a variable, which must be a scalar.
def coerce (environment name : String) (value : Yaml.Value) : Except Error String :=
  match value.scalarText? with
  | none => .error (.configuration (.notScalar name environment))
  | some text => .ok text

def ofEntries (environment : String) (entries : Option SectionEntries) : Except Error Section :=
  let entries := entries.getD {}
  ((Table.ofList (entries.bindings.getD [])).mapM (coerce environment)).map fun bindings =>
    ⟨entries.storage, bindings⟩

end Section

namespace Configuration

-- The sections of a document in order, up to the first that is in error.
def ofEntries (entries : DocumentEntries) : Except Error Configuration :=
  ((Table.ofList (entries.getD [])).mapM Section.ofEntries).map .mk

end Configuration

end EnvProvision
