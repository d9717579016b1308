import EnvProvision.Error
import EnvProvision.Table

namespace EnvProvision

-- A credential store: it answers a key, does not know it, or fails. Any error can be its failure.
structure Store where
  get : String → Except Error (Option String)

-- Why the keyring of a system gives no password. Having no entry of that name is no failure to the
-- one who asks for it.
structure KeyringFault where
  isNoEntry : Bool := false
  text : String
  deriving Repr, DecidableEq

-- The keyring of a system. It comes to an entry for a service and a user, or does not, and the
-- entry gives its password, or does not.
structure Keyring where
  entry : String → String → Except KeyringFault (Except KeyringFault String)

-- A keyring that has these passwords, each under a service and a user.
def Keyring.ofList (passwords : List ((String × String) × String)) : Keyring where
  entry service user :=
    match passwords.lookup (service, user) with
    | some password => .ok (.ok password)
    | none => .ok (.error { isNoEntry := true, text := "no entry" })

namespace Store

-- A store that knows these secrets and nothing else.
def ofTable (secrets : Table String String) : Store :=
  ⟨fun key => .ok (secrets.get? key)⟩

-- The secrets of a service: each is the password of the user that has its key for a name.
def ofKeyring (keyring : Keyring) (service : String) : Store where
  get key :=
    let failure (fault : KeyringFault) : Error := .ofBackendFailure "keyring" key fault.text
    match keyring.entry service key with
    | .error fault => .error (failure fault)
    | .ok (.ok password) => .ok (some password)
    | .ok (.error fault) => if fault.isNoEntry then .ok none else .error (failure fault)

end Store

end EnvProvision
