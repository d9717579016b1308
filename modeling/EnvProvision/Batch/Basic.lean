import EnvProvision.Storage.Basic

namespace EnvProvision

-- A variable to be set, and the template of its value.
structure Record where
  key : String
  template : String
  deriving Repr, DecidableEq

-- Records under their keys in the order of their first insertion.
structure Batch where
  table : Table String Record
  storage : Storage
  keyed : ∀ entry ∈ table.entries, entry.2.key = entry.1

namespace Batch

def new (storage : Storage) : Batch :=
  ⟨.empty, storage, fun _ h => nomatch h⟩

-- Add a record; it takes the place of one with the same key.
def insert (batch : Batch) (record : Record) : Batch where
  table := batch.table.insert record.key record
  storage := batch.storage
  keyed entry h := by
    obtain ⟨hkey, hrecord⟩ | ⟨_, hold⟩ := Table.mem_entries_insert_iff.mp h
    case inl => rw [hkey, hrecord]
    case inr => exact batch.keyed entry hold

def ofEntries (storage : Storage) (entries : List (String × String)) : Batch :=
  entries.foldl (fun batch (key, template) => batch.insert ⟨key, template⟩) (new storage)

def get? (batch : Batch) (key : String) : Option Record :=
  batch.table.get? key

def records (batch : Batch) : List Record :=
  batch.table.values

def size (batch : Batch) : Nat :=
  batch.table.size

end Batch

end EnvProvision
