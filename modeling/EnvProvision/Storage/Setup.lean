import EnvProvision.Storage.Basic
import EnvProvision.Storage.SecretsFile

namespace EnvProvision

-- The `storage` block of a section. The type is kept as written, so that an unknown one is reported
-- when storage is built and not when the document is read.
structure StorageDescriptor where
  type : String
  scope : Option String := none
  path : Option String := none
  service : Option String := none
  deriving Repr, DecidableEq

namespace StorageDescriptor

def kind (descriptor : StorageDescriptor) : Except Error StorageKind :=
  match StorageKind.ofName? descriptor.type with
  | some kind => .ok kind
  | none => .error (.unknownStorageType descriptor.type)

def effectiveScope (descriptor : StorageDescriptor) : String :=
  descriptor.scope.getD ""

end StorageDescriptor

-- Where backends get their content from: the directory of relative secrets files, the store of
-- remote backends, and for want of a store the keyring.
structure StorageSource where
  baseDirectory : Option String := none
  store : Option Store := none
  keyring : Keyring

namespace StorageSource

def defaultSecretsPath : String := "config/secret_env.local"

def defaultService : String := "secret-env"

def secretsPath (source : StorageSource) (configured : Option String) : String :=
  let path := configured.getD defaultSecretsPath
  match source.baseDirectory with
  | some base => Path.resolve base path
  | none => path

-- File storage over the secrets file at `path`.
def openSecrets (files : Files) (path scope : String) : Traced Storage :=
  match files.readText path with
  | .error fault => .fail (.fileSystem path "read" fault)
  | .ok contents =>
    let secrets := SecretsFile.entries contents
    ⟨.ok (.file scope secrets),
      (SecretsFile.strayLines contents).map .lineIgnored ++ [.secretsLoaded path secrets.size]⟩

-- Build the described storage; without a description it is plain and has no scope.
def setup (source : StorageSource) (files : Files) :
    Option StorageDescriptor → Traced Storage
  | none => pure default
  | some descriptor => do
    -- An unknown type is no set-up, so nothing is traced for it.
    let kind ← .ofExcept descriptor.kind
    let scope := descriptor.effectiveScope
    .emit (.storageSetUp kind scope)
    match kind with
    | .plain => pure (.plain scope)
    | .file => openSecrets files (source.secretsPath descriptor.path) scope
    | .remote =>
      let service := descriptor.service.getD defaultService
      pure (.remote scope (source.store.getD (.ofKeyring source.keyring service)))

end StorageSource

end EnvProvision
