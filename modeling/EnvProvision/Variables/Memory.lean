import EnvProvision.Table
import EnvProvision.Variables.Basic

namespace EnvProvision

structure MemoryVariables where
  table : Table String String
  deriving Repr, DecidableEq

namespace MemoryVariables

def ofList (pairs : List (String × String)) : MemoryVariables :=
  ⟨Table.ofList pairs⟩

def get? (env : MemoryVariables) (name : String) : Option String :=
  env.table.get? name

def set (env : MemoryVariables) (name value : String) : MemoryVariables :=
  ⟨env.table.insert name value⟩

instance : Variables MemoryVariables where
  value? env name := .ok (env.get? name)
  assign env name value := .ok (env.set name value)

@[simp]
theorem get?_set (env : MemoryVariables) (name value n : String) :
    (env.set name value).get? n = if n = name then some value else env.get? n :=
  Table.get?_insert ..

end MemoryVariables

end EnvProvision
