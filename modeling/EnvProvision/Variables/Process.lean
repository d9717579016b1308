import EnvProvision.Table
import EnvProvision.Text.Bytes
import EnvProvision.Variables.Basic

namespace EnvProvision

-- The variables in the order in which they were first set. Names and values are bytes: a name that
-- cannot exist reads as unset, and a value that is not UTF-8 cannot be read.
structure ProcessVariables where
  table : Table Bytes Bytes
  deriving Repr, DecidableEq

namespace ProcessVariables

-- The value of a name, read without checks.
def bytes? (env : ProcessVariables) (name : Bytes) : Option Bytes :=
  env.table.get? name

def setBytes (env : ProcessVariables) (name value : Bytes) : ProcessVariables :=
  ⟨env.table.insert name value⟩

def ofList (bindings : List (Bytes × Bytes)) : ProcessVariables :=
  ⟨Table.ofList bindings⟩

-- A name is not empty and holds neither `=` nor NUL.
def isValidName (name : String) : Bool :=
  !name.isEmpty && !name.toList.contains '=' && !name.toList.contains '\x00'

def value? (env : ProcessVariables) (name : String) : Except Error (Option String) :=
  if isValidName name then
    match env.bytes? (.ofText name) with
    | none => .ok none
    | some bytes =>
      match bytes.text? with
      | some text => .ok (some text)
      | none => .error (.environment name .notUnicode)
  else .ok none

def assign (env : ProcessVariables) (name value : String) : Except Error ProcessVariables :=
  if !isValidName name then .error (.environment name .invalidName)
  else if value.toList.contains '\x00' then .error (.environment name .nulInValue)
  else .ok (env.setBytes (.ofText name) (.ofText value))

instance : Variables ProcessVariables where
  value? := value?
  assign := assign

@[simp]
theorem bytes?_setBytes (env : ProcessVariables) (name value n : Bytes) :
    (env.setBytes name value).bytes? n = if n = name then some value else env.bytes? n :=
  Table.get?_insert ..

end ProcessVariables

end EnvProvision
