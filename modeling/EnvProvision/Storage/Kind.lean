namespace EnvProvision

inductive StorageKind where
  | plain
  | file
  | remote
  deriving Repr, DecidableEq

namespace StorageKind

def name : StorageKind → String
  | plain => "plain"
  | file => "file"
  | remote => "remote"

def ofName? : String → Option StorageKind
  | "plain" => some plain
  | "file" => some file
  | "remote" => some remote
  | _ => none

theorem ofName?_name (kind : StorageKind) : ofName? kind.name = some kind := by
  cases kind <;> rfl

end StorageKind

end EnvProvision
