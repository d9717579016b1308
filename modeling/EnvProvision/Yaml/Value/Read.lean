import EnvProvision.Yaml.Node.OfTokens
import EnvProvision.Yaml.Value.Plain

namespace EnvProvision.Yaml

-- A reading counts the aliases that it has followed.
abbrev Reading := StateT Nat Option

namespace Document

def maxNesting : Nat := 128

def aliasesPerMark : Nat := 100

def ofText? (text : String) : Option (Option Document) := do
  match ← Node.ofTokens? (← Token.ofText? text) with
  | none => return none
  | some node => return some (← ofNode? node)

def follow (document : Document) : Node Nat → Reading (Node Nat)
  | .alias anchor => do
    match ← get with
    | 0 => failure
    | left + 1 =>
      set left
      document.target? anchor
  | node => return node

def readText (document : Document) (node : Node Nat) : Reading String := do
  match ← document.follow node with
  | .scalar _ _ _ text => return text
  | _ => failure

-- The node itself, or nothing if it stands for null, as a scalar without a tag can do. A tag says
-- that there is something, unless it is that of null, which nothing else may bear.
def readOption (document : Document) (node : Node Nat) : Reading (Option (Node Nat)) := do
  match ← document.follow node with
  | .scalar anchor tag true text =>
    let content := some (Node.scalar anchor tag true text)
    match tag with
    | none => return if text = "" || Plain.isNull text then none else content
    | some tag =>
      if tag = Tag.core "null" then (if Plain.isNull text then return none else failure)
      else return content
  | node => return some node

def readTextOption (document : Document) (node : Node Nat) : Reading (Option String) := do
  match ← document.readOption node with
  | none => return none
  | some node => return some (← document.readText node)

-- The entries of a mapping. An empty plain scalar stands for an empty one.
def readEntries (document : Document) (node : Node Nat) :
    Reading (List (Node Nat × Node Nat)) := do
  match ← document.follow node with
  | .mapping _ _ entries => return entries
  | .scalar _ _ true "" => return []
  | _ => failure

def untagged (plain : Bool) (text : String) : Option Value :=
  if plain then Plain.value? text else some (.text text)

def scalarValue (tag : Option Tag) (plain : Bool) (text : String) : Option Value :=
  match tag with
  | none => untagged plain text
  | some tag =>
    match tag.localName? with
    | some name => (untagged plain text).map (.tagged name)
    | none =>
      if tag = Tag.core "bool" then (Plain.bool? text).map .bool
      else if tag = Tag.core "int" then (Plain.int? text).bind id
      else if tag = Tag.core "float" then (Plain.float? text).map .float
      else if tag = Tag.core "null" then (if Plain.isNull text then some .null else none)
      -- A local tag that is no text marks nothing.
      else if tag.isLocal then untagged plain text
      else some (.text text)

def mark (tag : Option Tag) (value : Value) : Value :=
  match tag.bind Tag.localName? with
  | some name => .tagged name value
  | none => value

def distinctKeys : List (Value × Value) → Bool
  | [] => true
  | (key, _) :: rest => rest.all (fun (k, _) => !key.same k) && distinctKeys rest

def readValue (document : Document) (nesting : Nat) (node : Node Nat) : Reading Value := do
  match ← document.follow node with
  | .alias _ => failure
  | .scalar _ tag plain text => scalarValue tag plain text
  | .sequence _ tag items =>
    match nesting with
    | 0 => failure
    | nesting + 1 =>
      let items ← items.mapM (document.readValue nesting)
      return mark tag (.sequence items)
  | .mapping _ tag entries =>
    match nesting with
    | 0 => failure
    | nesting + 1 =>
      let entries ← entries.mapM fun (key, value) => do
        return (← document.readValue nesting key, ← document.readValue nesting value)
      if distinctKeys entries then return mark tag (.mapping entries) else failure

def run {α : Type} (document : Document) (reading : Node Nat → Reading α) : Option α :=
  ((reading document.root).run (aliasesPerMark * document.size)).map Prod.fst

end Document

end EnvProvision.Yaml
