import EnvProvision.Configuration.Build
import EnvProvision.Configuration.Location
import EnvProvision.Yaml.Value.Read

namespace EnvProvision

namespace StorageDescriptor

open Yaml

-- The fields of a `storage` block, as far as they are read. Others are passed over, and a known one
-- may come only once.
structure Fields where
  type : Option String := none
  scope : Option (Option String) := none
  path : Option (Option String) := none
  service : Option (Option String) := none

-- Read one entry of a `storage` block.
def Fields.read (document : Document) (fields : Fields) (entry : Node Nat × Node Nat) :
    Reading Fields := do
  match ← document.readText entry.1 with
  | "type" =>
    if fields.type.isSome then failure
    return { fields with type := some (← document.readText entry.2) }
  | "namespace" =>
    if fields.scope.isSome then failure
    return { fields with scope := some (← document.readTextOption entry.2) }
  | "path" =>
    if fields.path.isSome then failure
    return { fields with path := some (← document.readTextOption entry.2) }
  | "service" =>
    if fields.service.isSome then failure
    return { fields with service := some (← document.readTextOption entry.2) }
  | _ => return fields

def read (document : Document) (node : Node Nat) : Reading StorageDescriptor := do
  let fields ← (← document.readEntries node).foldlM (Fields.read document) {}
  match fields.type with
  | none => failure
  | some type =>
    return ⟨type, fields.scope.getD none, fields.path.getD none, fields.service.getD none⟩

end StorageDescriptor

namespace SectionEntries

open Yaml

-- The fields of a section, as far as they are read.
structure Fields where
  storage : Option (Option StorageDescriptor) := none
  bindings : Option (Option (List (String × Value))) := none

-- Read the entry of a variable. Its value lies within the document, its section and the `env`
-- block.
def readVariable (document : Document) (entry : Node Nat × Node Nat) :
    Reading (String × Value) := do
  let name ← document.readText entry.1
  return (name, ← document.readValue (Document.maxNesting - 3) entry.2)

def Fields.read (document : Document) (fields : Fields) (entry : Node Nat × Node Nat) :
    Reading Fields := do
  match ← document.readText entry.1 with
  | "storage" =>
    if fields.storage.isSome then failure
    let storage ← (← document.readOption entry.2).mapM (StorageDescriptor.read document)
    return { fields with storage := some storage }
  | "env" =>
    if fields.bindings.isSome then failure
    let bindings ← (← document.readOption entry.2).mapM fun node => do
      (← document.readEntries node).mapM (readVariable document)
    return { fields with bindings := some bindings }
  | _ => return fields

def read (document : Document) (node : Node Nat) : Reading SectionEntries := do
  let fields ← (← document.readEntries node).foldlM (Fields.read document) {}
  return ⟨fields.storage.getD none, fields.bindings.getD none⟩

-- Read the entry of a section, which may be null.
def readEntry (document : Document) (entry : Node Nat × Node Nat) :
    Reading (String × Option SectionEntries) := do
  let environment ← document.readText entry.1
  return (environment, ← (← document.readOption entry.2).mapM (read document))

end SectionEntries

namespace DocumentEntries

open Yaml

def read (document : Document) (node : Node Nat) : Reading DocumentEntries := do
  (← document.readOption node).mapM fun node => do
    (← document.readEntries node).mapM (SectionEntries.readEntry document)

-- The entries of a document text, if it has the form of a configuration.
def ofText? (text : String) : Option DocumentEntries := do
  match ← Document.ofText? text with
  | none => return none
  | some document => document.run (read document)

end DocumentEntries

namespace Configuration

def ofYaml (text : String) : Except Error Configuration :=
  match DocumentEntries.ofText? text with
  | none => .error .malformedYaml
  | some entries => ofEntries entries

def load (location : Location) (files : Files) : Traced Configuration := do
  .ofExcept (ofYaml (← location.readDocument files))

end Configuration

end EnvProvision
