import EnvProvision.Yaml.Tag

namespace EnvProvision.Yaml

-- A node with its anchor, if it has one, and its tag.
inductive Node (α : Type) where
  | alias (anchor : α)
  | scalar (anchor : Option α) (tag : Option Tag) (plain : Bool) (text : String)
  | sequence (anchor : Option α) (tag : Option Tag) (items : List (Node α))
  | mapping (anchor : Option α) (tag : Option Tag) (entries : List (Node α × Node α))

namespace Node

variable {α : Type}

def blank : Node α :=
  .scalar none none true ""

mutual

-- The number of marks of a node: two for a collection, one for any other, and those within.
def size : Node α → Nat
  | .alias _ => 1
  | .scalar .. => 1
  | .sequence _ _ items => sizeItems items + 2
  | .mapping _ _ entries => sizeEntries entries + 2

def sizeItems : List (Node α) → Nat
  | [] => 0
  | item :: rest => item.size + sizeItems rest

def sizeEntries : List (Node α × Node α) → Nat
  | [] => 0
  | (key, value) :: rest => key.size + value.size + sizeEntries rest

end

mutual

def anchored : Node α → List (α × Node α)
  | .alias _ => []
  | .scalar anchor tag plain text => here anchor (.scalar anchor tag plain text)
  | .sequence anchor tag items =>
    here anchor (.sequence anchor tag items) ++ anchoredItems items
  | .mapping anchor tag entries =>
    here anchor (.mapping anchor tag entries) ++ anchoredEntries entries

def anchoredItems : List (Node α) → List (α × Node α)
  | [] => []
  | item :: rest => item.anchored ++ anchoredItems rest

def anchoredEntries : List (Node α × Node α) → List (α × Node α)
  | [] => []
  | (key, value) :: rest => key.anchored ++ value.anchored ++ anchoredEntries rest

def here (anchor : Option α) (node : Node α) : List (α × Node α) :=
  match anchor with
  | some a => [(a, node)]
  | none => []

end

abbrev Numbering := StateT (List (String × Nat)) Option

-- Number an anchor by the number of names known before it, so that a name that is given again gets
-- the number that the next new name will share with it.
def numberAnchor : Option String → Numbering (Option Nat)
  | none => pure none
  | some name => do
    let known ← get
    let number := known.length
    set ((name, number) :: known.filter (·.1 != name))
    return some number

mutual

-- Replace names by numbers, in the order in which nodes start. An alias stands for the anchor that
-- has its name at that point, and there must be one.
def number : Node String → Numbering (Node Nat)
  | .alias name => do
    match (← get).lookup name with
    | some anchor => return .alias anchor
    | none => failure
  | .scalar anchor tag plain text => do
    return .scalar (← numberAnchor anchor) tag plain text
  | .sequence anchor tag items => do
    let anchor ← numberAnchor anchor
    return .sequence anchor tag (← numberItems items)
  | .mapping anchor tag entries => do
    let anchor ← numberAnchor anchor
    return .mapping anchor tag (← numberEntries entries)

def numberItems : List (Node String) → Numbering (List (Node Nat))
  | [] => return []
  | item :: rest => do
    let item ← item.number
    return item :: (← numberItems rest)

def numberEntries : List (Node String × Node String) → Numbering (List (Node Nat × Node Nat))
  | [] => return []
  | (key, value) :: rest => do
    let key ← key.number
    let value ← value.number
    return (key, value) :: (← numberEntries rest)

end

end Node

-- A tree and the nodes of its anchors.
structure Document where
  root : Node Nat
  anchors : List (Nat × Node Nat)
  size : Nat

namespace Document

def ofNode? (node : Node String) : Option Document := do
  let (root, _) ← node.number []
  return { root, anchors := root.anchored.reverse, size := root.size }

def target? (document : Document) (anchor : Nat) : Option (Node Nat) :=
  document.anchors.lookup anchor

end Document

end EnvProvision.Yaml
