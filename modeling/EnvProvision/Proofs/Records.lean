import EnvProvision.Load.Basic

namespace EnvProvision

namespace Batch

theorem key_of_get? {batch : Batch} {key : String} {record : Record}
    (h : batch.get? key = some record) : record.key = key :=
  batch.keyed _ (Table.get?_eq_some_iff.mp h)

theorem mem_records_iff {batch : Batch} {record : Record} :
    record ∈ batch.records ↔ batch.get? record.key = some record := by
  simp only [records, Table.values, List.mem_map]
  constructor
  · rintro ⟨⟨key, found⟩, hm, rfl⟩
    rw [batch.keyed _ hm]
    exact Table.get?_eq_some_iff.mpr hm
  · intro h
    exact ⟨_, Table.get?_eq_some_iff.mp h, rfl⟩

theorem storage_foldl_insert (batch : Batch) (entries : List (String × String)) :
    (entries.foldl (fun batch (key, template) => batch.insert ⟨key, template⟩) batch).storage =
      batch.storage := by
  induction entries generalizing batch with
  | nil => rfl
  | cons entry rest ih => rw [List.foldl_cons, ih]; rfl

theorem table_foldl_insert (batch : Batch) (entries : List (String × String)) :
    (entries.foldl (fun batch (key, template) => batch.insert ⟨key, template⟩) batch).table =
      (entries.map fun (key, template) => (key, Record.mk key template)).foldl
        (fun t (key, record) => t.insert key record) batch.table := by
  induction entries generalizing batch with
  | nil => rfl
  | cons entry rest ih => rw [List.foldl_cons, ih]; rfl

@[simp]
theorem storage_ofEntries (storage : Storage) (entries : List (String × String)) :
    (ofEntries storage entries).storage = storage :=
  storage_foldl_insert ..

theorem entries_ofEntries (storage : Storage) (bindings : Table String String) :
    (ofEntries storage bindings.entries).table.entries =
      bindings.entries.map fun (key, template) => (key, Record.mk key template) := by
  unfold ofEntries
  rw [table_foldl_insert]
  exact Table.entries_ofList (by simpa [Function.comp_def] using bindings.nodup)

theorem get?_ofEntries (storage : Storage) (bindings : Table String String) (key : String) :
    (ofEntries storage bindings.entries).get? key = (bindings.get? key).map (Record.mk key) := by
  apply Option.ext
  intro record
  rw [get?, Table.get?_eq_some_iff, entries_ofEntries, Option.map_eq_some_iff]
  simp only [Table.get?_eq_some_iff, List.mem_map, Prod.mk.injEq, Prod.exists]
  constructor
  · rintro ⟨_, template, hm, rfl, rfl⟩
    exact ⟨template, hm, rfl⟩
  · rintro ⟨template, hm, rfl⟩
    exact ⟨key, template, hm, rfl, rfl⟩

end Batch

def Section.records (found : Section) : List Record :=
  found.bindings.entries.map fun (key, template) => ⟨key, template⟩

namespace Loader

-- What the environment declares, nothing if there is no such environment.
def records (loader : Loader) (environment : String) : List Record :=
  ((loader.configuration.section? environment).map Section.records).getD []

theorem nodup_keys_records (loader : Loader) (environment : String) :
    ((loader.records environment).map Record.key).Nodup := by
  unfold records
  cases loader.configuration.section? environment with
  | none => exact List.nodup_nil
  | some found =>
    simp only [Option.map_some, Option.getD_some, Section.records, List.map_map]
    exact found.bindings.nodup

theorem batch_eq_ok_iff {loader : Loader} {files : Files} {environment : String} {batch : Batch} :
    (loader.batch files environment).outcome = .ok batch ↔
      ∃ found, loader.configuration.section? environment = some found ∧
        ∃ storage, (loader.source.setup files found.storage).outcome = .ok storage ∧
          batch = .ofEntries storage found.bindings.entries := by
  unfold Loader.batch Configuration.requireSection
  cases hf : loader.configuration.section? environment with
  | none => simp [Traced.ofExcept]
  | some found =>
    cases hs : loader.source.setup files found.storage with | mk outcome events
    cases outcome with
    | error e => simp [hs, Traced.ofExcept]
    | ok storage => simp [hs, Traced.ofExcept, eq_comm]

theorem batch_of_section {loader : Loader} {environment : String} {found : Section} (files : Files)
    (h : loader.configuration.section? environment = some found) :
    loader.batch files environment =
      ⟨(loader.source.setup files found.storage).outcome.map
          fun storage => .ofEntries storage found.bindings.entries,
        (loader.source.setup files found.storage).events⟩ := by
  have hrequire : loader.configuration.requireSection environment = .ok found := by
    rw [Configuration.requireSection, h]
  cases hs : loader.source.setup files found.storage with | mk outcome events
  cases outcome <;> simp [Loader.batch, hrequire, hs, Traced.ofExcept, Except.map]

theorem records_of_batch {loader : Loader} {files : Files} {environment : String} {batch : Batch}
    (h : (loader.batch files environment).outcome = .ok batch) :
    batch.records = loader.records environment := by
  obtain ⟨found, hf, storage, _, rfl⟩ := batch_eq_ok_iff.mp h
  simp [records, hf, Section.records, Batch.records, Table.values,
    Batch.entries_ofEntries]

theorem get?_of_mem_records {loader : Loader} {files : Files} {environment : String}
    {batch : Batch} (hb : (loader.batch files environment).outcome = .ok batch) {record : Record}
    (h : record ∈ loader.records environment) : batch.get? record.key = some record := by
  rw [← records_of_batch hb] at h
  exact Batch.mem_records_iff.mp h

-- A loader of one environment over this store.
def ofStore (found : Section) (store : Store) : Loader :=
  ⟨⟨.ofList [("dev", found)]⟩, { store := some store, keyring := .ofList [] }⟩

-- A loader of one environment, whose backend knows these secrets and nothing else.
def ofSecrets (found : Section) (secrets : List (String × String)) : Loader :=
  ofStore found (.ofTable (.ofList secrets))

end Loader

-- A section over a remote backend.
def Section.remote (bindings : List (String × String)) : Section :=
  ⟨some { type := "remote" }, .ofList bindings⟩

end EnvProvision
