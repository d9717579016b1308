import EnvProvision.Proofs.Expansion
import EnvProvision.Storage.Setup
import EnvProvision.Variables.Memory
import EnvProvision.Variables.Overlay
import EnvProvision.Variables.Process

namespace EnvProvision

-- Holders of variables that fail to read one with an error about that variable.
class LawfulVariables (σ : Type) [Variables σ] : Prop where
  error_of_value? {env : σ} {name : String} {e : Error} :
    Variables.value? env name = .error e → ∃ fault, e = .environment name fault

instance : LawfulVariables MemoryVariables where
  error_of_value? h := nomatch h

theorem ProcessVariables.error_of_value? {env : ProcessVariables} {name : String} {e : Error}
    (h : Variables.value? env name = .error e) : e = .environment name .notUnicode := by
  simp only [Variables.value?, value?] at h
  split at h
  case isFalse => cases h
  case isTrue =>
    split at h
    case h_1 => cases h
    case h_2 =>
      split at h
      case h_1 => cases h
      case h_2 => exact (Except.error.inj h).symm

instance : LawfulVariables ProcessVariables where
  error_of_value? h := ⟨_, ProcessVariables.error_of_value? h⟩

theorem Overlay.error_of_value? {σ : Type} [Variables σ] {overlay : Overlay σ} {name : String}
    {e : Error} (h : Variables.value? overlay name = .error e) :
    Variables.value? overlay.base name = .error e := by
  simp only [Variables.value?] at h
  split at h
  case h_1 => cases h
  case h_2 => exact h

instance {σ : Type} [Variables σ] [LawfulVariables σ] : LawfulVariables (Overlay σ) where
  error_of_value? h := LawfulVariables.error_of_value? (Overlay.error_of_value? h)

-- Stores that fail with backend errors only. A store can fail with any error, and storage passes it
-- on, so nothing but this tells its failures from those of a resolution.
class LawfulStore (store : Store) : Prop where
  error_of_get {key : String} {e : Error} :
    store.get key = .error e → ∃ backend key text source, e = .backend backend key text source

instance (secrets : Table String String) : LawfulStore (.ofTable secrets) where
  error_of_get h := nomatch h

theorem Store.error_of_get_ofKeyring {keyring : Keyring} {service key : String} {e : Error}
    (h : (ofKeyring keyring service).get key = .error e) :
    ∃ text, e = .ofBackendFailure "keyring" key text := by
  simp only [ofKeyring] at h
  split at h
  case h_1 fault _ => exact ⟨fault.text, (Except.error.inj h).symm⟩
  case h_2 => cases h
  case h_3 fault _ =>
    split at h
    case isTrue => cases h
    case isFalse => exact ⟨fault.text, (Except.error.inj h).symm⟩

instance (keyring : Keyring) (service : String) : LawfulStore (.ofKeyring keyring service) where
  error_of_get h := by
    obtain ⟨text, rfl⟩ := Store.error_of_get_ofKeyring h
    exact ⟨_, _, _, _, rfl⟩

-- Storage that fails with backend errors only.
class LawfulStorage (storage : Storage) : Prop where
  error_of_retrieve {key : String} {e : Error} :
    storage.retrieve key = .error e →
      ∃ backend key text source, e = .backend backend key text source

instance (scope : String) : LawfulStorage (.plain scope) where
  error_of_retrieve h := nomatch h

theorem Storage.lawfulStorage_of_plain {storage : Storage} (h : storage.kind = .plain) :
    LawfulStorage storage := by
  cases storage with
  | plain => infer_instance
  | file | remote => cases h

instance (scope : String) (secrets : Table String String) :
    LawfulStorage (.file scope secrets) where
  error_of_retrieve h := nomatch h

instance (scope : String) (store : Store) [LawfulStore store] :
    LawfulStorage (.remote scope store) where
  error_of_retrieve h := LawfulStore.error_of_get h

namespace StorageSource

variable {source : StorageSource} {files : Files} {storage : Storage}

theorem openSecrets_eq_ok_iff {path scope : String} :
    (openSecrets files path scope).outcome = .ok storage ↔
      ∃ contents, files.readText path = .ok contents ∧
        storage = .file scope (SecretsFile.entries contents) := by
  unfold openSecrets
  cases files.readText path with
  | error fault => simp [Traced.fail]
  | ok contents => simp [eq_comm]

-- Where the store of a source is lawful, so is the storage that is set up from it.
theorem lawfulStorage_of_setup {descriptor? : Option StorageDescriptor}
    (hs : ∀ store ∈ source.store, LawfulStore store)
    (h : (source.setup files descriptor?).outcome = .ok storage) : LawfulStorage storage := by
  cases descriptor? with
  | none =>
    obtain rfl : .plain "" = storage := Except.ok.inj h
    infer_instance
  | some descriptor =>
    obtain ⟨kind, _, h⟩ := Traced.bind_eq_ok_iff.mp h
    obtain ⟨_, _, h⟩ := Traced.bind_eq_ok_iff.mp h
    cases kind with
    | plain =>
      cases h
      infer_instance
    | file =>
      obtain ⟨_, _, rfl⟩ := openSecrets_eq_ok_iff.mp h
      infer_instance
    | remote =>
      obtain rfl := Except.ok.inj h
      cases hstore : source.store with
      | none => exact inferInstanceAs (LawfulStorage (.remote _ (.ofKeyring ..)))
      | some store =>
        have := hs store hstore
        exact inferInstanceAs (LawfulStorage (.remote _ store))

end StorageSource

-- A store that gives these answers and cannot be reached for others.
def Store.sealed (answers : List (String × Option String)) : Store where
  get key :=
    match answers.lookup key with
    | some answer => .ok answer
    | none => .error (.backend "remote" key "connection refused" none)

instance (answers : List (String × Option String)) : LawfulStore (.sealed answers) where
  error_of_get h := by
    simp only [Store.sealed] at h
    split at h
    case h_1 => cases h
    case h_2 => exact ⟨_, _, _, _, (Except.error.inj h).symm⟩

end EnvProvision
