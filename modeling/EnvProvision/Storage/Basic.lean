import EnvProvision.Storage.Store
import EnvProvision.Template
import EnvProvision.Trace

namespace EnvProvision

-- Storage backends. Each puts its scope, the configured namespace, before the key it is asked for.
inductive Storage where
  -- Storage without secrets: it gives back the placeholder that it was asked about.
  | plain (scope : String)
  | file (scope : String) (secrets : Table String String)
  | remote (scope : String) (store : Store)

namespace Storage

instance : Inhabited Storage := ⟨.plain ""⟩

def fullKey (scope key : String) : String :=
  scope ++ key

def kind : Storage → StorageKind
  | plain _ => .plain
  | file .. => .file
  | remote .. => .remote

def scope : Storage → String
  | plain scope | file scope _ | remote scope _ => scope

-- The secret under the full key, if there is one.
def retrieve (storage : Storage) (key : String) : Except Error (Option String) :=
  match storage with
  | plain scope => .ok (some (Template.placeholder (fullKey scope key)))
  | file scope secrets => .ok (secrets.get? (fullKey scope key))
  | remote scope store => store.get (fullKey scope key)

def lookup (storage : Storage) (key : String) : Traced (Option String) :=
  let outcome := storage.retrieve key
  let found := match outcome with
    | .ok value => some value.isSome
    | .error _ => none
  ⟨outcome, [.lookup storage.kind (fullKey storage.scope key) found]⟩

@[simp]
theorem outcome_lookup (storage : Storage) (key : String) :
    (storage.lookup key).outcome = storage.retrieve key :=
  rfl

end Storage

end EnvProvision
