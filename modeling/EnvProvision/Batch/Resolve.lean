import EnvProvision.Batch.Basic

namespace EnvProvision

-- How the environment answers to a name.
abbrev Reader := String → Except Error (Option String)

def nonEmpty : Option String → Option String
  | some "" => none
  | value => value

namespace Traced

-- The second result stands in when the first has no value.
def orNext {α : Type} (first : Traced (Option α)) (second : Unit → Traced (Option α)) :
    Traced (Option α) := do
  match ← first with
  | some a => pure (some a)
  | none => second ()

end Traced

namespace Template

-- The first value that `find` has for a candidate.
def firstPresent (find : String → Traced (Option String)) : List String → Traced (Option String)
  | [] => pure none
  | candidate :: rest => (find candidate).orNext fun () => firstPresent find rest

def fill (find : String → Traced (Option String)) (inner : List Char) : Traced String := do
  match ← firstPresent find (candidates inner) with
  | some value => pure value
  | none => .fail (.keyNotFound (String.ofList inner))

-- The text of a template whose candidates have the values that `find` gives. What stands for a
-- placeholder is not scanned again.
def expand (find : String → Traced (Option String)) : List Segment → Traced String
  | [] => pure ""
  | .literal text :: rest => do
    let tail ← expand find rest
    pure (String.ofList text ++ tail)
  | .reference inner :: rest => do
    let value ← fill find inner
    let tail ← expand find rest
    pure (value ++ tail)

end Template

namespace Batch

-- The longest chain of keys under expansion.
def depthLimit : Nat := 64

def fromEnvironment (env : Reader) (candidate : String) : Traced (Option String) := do
  match nonEmpty (← .ofExcept (env candidate)) with
  | some value =>
    .emit (.foundInEnvironment candidate)
    pure (some value)
  | none => pure none

-- The value of the record named `candidate`, other than the record `current` itself.
def fromSibling (batch : Batch) (resolve : Record → Traced String) (current candidate : String) :
    Traced (Option String) :=
  -- A record that names itself means the environment or the storage.
  if candidate = current then pure none
  else
    match batch.get? candidate with
    | none => pure none
    | some sibling => do
      match nonEmpty (some (← resolve sibling)) with
      | some value =>
        .emit (.foundInSibling candidate)
        pure (some value)
      | none => pure none

def fromStorage (batch : Batch) (candidate : String) : Traced (Option String) := do
  pure (nonEmpty (← batch.storage.lookup candidate))

-- The value of a candidate within the expansion of the record `current`: of the environment
-- variable of that name, else of the record of that name, else of the storage. Empty values do not
-- count.
def find (batch : Batch) (env : Reader) (resolve : Record → Traced String)
    (current candidate : String) : Traced (Option String) :=
  (fromEnvironment env candidate).orNext fun () =>
    (batch.fromSibling resolve current candidate).orNext fun () =>
      batch.fromStorage candidate

-- Resolve a record below the keys of `chain`, with `room` for that many more keys. A record is not
-- expanded within itself, and the chain does not grow beyond a limit, so resolution ends on every
-- batch.
def resolveWithin (batch : Batch) (env : Reader) (room : Nat) (chain : List String)
    (record : Record) : Traced String :=
  -- A cycle is told before the depth: a key that was reached before is no new nesting.
  if record.key ∈ chain then .fail (.cyclicReference (chain ++ [record.key]))
  else
    match room with
    | 0 => .fail (.referenceDepthExceeded record.key depthLimit)
    | room + 1 =>
      let resolve := batch.resolveWithin env room (chain ++ [record.key])
      Template.expand (batch.find env resolve record.key)
        (Template.segments record.template.toList)

-- The value of a record, which need not be one of the batch.
def resolveRecord (batch : Batch) (env : Reader) (record : Record) : Traced String :=
  batch.resolveWithin env depthLimit [] record

-- The value of the record under a key, if there is one.
def resolve (batch : Batch) (env : Reader) (key : String) : Traced (Option String) :=
  match batch.get? key with
  | none => pure none
  | some record => some <$> batch.resolveRecord env record

end Batch

end EnvProvision
