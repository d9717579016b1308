import EnvProvision.Proofs.Records
import EnvProvision.Proofs.TableEntries
import Mathlib.Data.Finset.Card

namespace EnvProvision

namespace Batch

-- Insert records one after the other.
def insertAll (batch : Batch) (records : List Record) : Batch :=
  records.foldl insert batch

-- The record of a key that was inserted last.
def last? (inserted : List Record) (key : String) : Option Record :=
  inserted.reverse.find? (·.key = key)

-- What the insertions leave in a batch.
structure Holds (batch : Batch) (inserted : List Record) : Prop where
  nodup : (batch.records.map Record.key).Nodup
  keys : batch.records.map Record.key = (inserted.map Record.key).eraseDups
  last : ∀ record ∈ batch.records, last? inserted record.key = some record
  keyed : ∀ entry ∈ batch.table.entries, entry.2.key = entry.1
  get?_iff : ∀ key record, batch.get? key = some record ↔ record ∈ batch.records ∧ record.key = key
  size : batch.size = (inserted.map Record.key).toFinset.card

variable {batch : Batch} {inserted : List Record}

theorem keys_records (batch : Batch) : batch.records.map Record.key = batch.table.keys := by
  rw [records, Table.values, Table.keys, List.map_map]
  exact List.map_congr_left batch.keyed

theorem get?_eq_some_iff {key : String} {record : Record} :
    batch.get? key = some record ↔ record ∈ batch.records ∧ record.key = key := by
  constructor
  case mp =>
    intro h
    obtain rfl := key_of_get? h
    exact ⟨mem_records_iff.mpr h, rfl⟩
  case mpr =>
    rintro ⟨hrecord, rfl⟩
    exact mem_records_iff.mp hrecord

-- The order of the keys and the last records tell the rest.
theorem Holds.of_keys (hkeys : batch.records.map Record.key = (inserted.map Record.key).eraseDups)
    (hlast : ∀ record ∈ batch.records, last? inserted record.key = some record) :
    batch.Holds inserted := by
  have hnodup : (batch.records.map Record.key).Nodup := by
    rw [keys_records]
    exact batch.table.nodup_keys
  have hset : (inserted.map Record.key).toFinset = (batch.records.map Record.key).toFinset := by
    ext key
    rw [hkeys, List.mem_toFinset, List.mem_toFinset, List.mem_eraseDups]
  refine ⟨hnodup, hkeys, hlast, batch.keyed, fun _ _ => get?_eq_some_iff, ?size⟩
  case size =>
    rw [hset, List.toFinset_card_of_nodup hnodup, keys_records, Table.keys, List.length_map]
    rfl

theorem holds_new (storage : Storage) : (new storage).Holds [] :=
  .of_keys rfl nofun

-- A new key goes to the end.
theorem keys_records_insert (batch : Batch) (record : Record) :
    (batch.insert record).records.map Record.key =
      if record.key ∈ batch.records.map Record.key then batch.records.map Record.key
      else batch.records.map Record.key ++ [record.key] := by
  rw [keys_records, keys_records]
  exact Table.keys_insert ..

theorem mem_records_insert_iff {record other : Record} :
    other ∈ (batch.insert record).records ↔
      other = record ∨ other ∈ batch.records ∧ other.key ≠ record.key := by
  rw [mem_records_iff, mem_records_iff, get?, insert, Table.get?_insert, get?]
  by_cases h : other.key = record.key
  case pos => simp [h, eq_comm]
  case neg =>
    have hne : other ≠ record := fun heq => h (congrArg Record.key heq)
    simp [h, hne]

theorem last?_append (inserted : List Record) (record : Record) (key : String) :
    last? (inserted ++ [record]) key =
      if record.key = key then some record else last? inserted key := by
  rw [last?, List.reverse_append, List.reverse_singleton, List.singleton_append, List.find?_cons]
  by_cases h : record.key = key <;> simp [h, last?]

theorem Holds.insert (h : batch.Holds inserted) (record : Record) :
    (batch.insert record).Holds (inserted ++ [record]) := by
  refine .of_keys ?keys ?last
  case keys =>
    rw [keys_records_insert, h.keys, List.map_append, List.map_singleton,
      eraseDups_append_singleton]
    simp only [List.mem_eraseDups]
  case last =>
    intro other hother
    rw [last?_append]
    obtain rfl | ⟨hother, hne⟩ := mem_records_insert_iff.mp hother
    case inl => rw [if_pos rfl]
    case inr => rw [if_neg (Ne.symm hne), h.last other hother]

theorem Holds.insertAll (h : batch.Holds inserted) (records : List Record) :
    (batch.insertAll records).Holds (inserted ++ records) := by
  induction records generalizing batch inserted with
  | nil => simpa [insertAll] using h
  | cons record rest ih => simpa [insertAll] using ih (h.insert record)

theorem ofEntries_eq_insertAll (storage : Storage) (entries : List (String × String)) :
    ofEntries storage entries =
      (new storage).insertAll (entries.map fun entry => ⟨entry.1, entry.2⟩) := by
  rw [insertAll, List.foldl_map]
  rfl

-- A batch holds what was inserted into it, one by one or as entries.
theorem holds_insertions (storage : Storage) :
    (∀ inserted, ((new storage).insertAll inserted).Holds inserted) ∧
    ∀ entries, (ofEntries storage entries).Holds
      (entries.map fun entry => ⟨entry.1, entry.2⟩) := by
  have hinserted (inserted : List Record) : ((new storage).insertAll inserted).Holds inserted :=
    (holds_new storage).insertAll inserted
  refine ⟨hinserted, fun entries => ?_⟩
  rw [ofEntries_eq_insertAll]
  exact hinserted _

example : ((new default).insertAll [⟨"A", "x"⟩, ⟨"B", "y"⟩, ⟨"A", "z"⟩]).records =
    [⟨"A", "z"⟩, ⟨"B", "y"⟩] := by
  decide

end Batch

end EnvProvision
