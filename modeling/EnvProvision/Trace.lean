import EnvProvision.Error
import EnvProvision.Storage.Kind

namespace EnvProvision

-- What a run does on the way to its outcome. Events hold names, counts and kinds, and no values.
inductive Event where
  | documentLoading (path : String)
  | storageSetUp (kind : StorageKind) (scope : String)
  -- A line of the secrets file that is no entry, counted from one.
  | lineIgnored (line : Nat)
  | secretsLoaded (path : String) (entries : Nat)
  -- The backend was asked for a key; `found` is absent if it failed.
  | lookup (kind : StorageKind) (key : String) (found : Option Bool)
  | foundInEnvironment (candidate : String)
  | foundInSibling (candidate : String)
  | exported (key : String)
  | leftUntouched (key : String)
  | loaded (environment : String) (kind : StorageKind) (exported skipped : Nat)
  | commandStarted (command : String)
  deriving Repr, DecidableEq

-- An outcome and the events that led to it, those up to a failure included.
structure Traced (α : Type) where
  outcome : Except Error α
  events : List Event

namespace Traced

variable {α β γ : Type}

protected def pure (a : α) : Traced α :=
  ⟨.ok a, []⟩

def fail (e : Error) : Traced α :=
  ⟨.error e, []⟩

def emit (event : Event) : Traced Unit :=
  ⟨.ok (), [event]⟩

def ofExcept (outcome : Except Error α) : Traced α :=
  ⟨outcome, []⟩

-- Go on with a value; a failure ends the run.
protected def bind (first : Traced α) (next : α → Traced β) : Traced β :=
  match first.outcome with
  | .ok a =>
    let second := next a
    ⟨second.outcome, first.events ++ second.events⟩
  | .error e => ⟨.error e, first.events⟩

instance : Monad Traced where
  pure := Traced.pure
  bind := Traced.bind

@[simp]
theorem pure_def (a : α) : (pure a : Traced α) = ⟨.ok a, []⟩ :=
  rfl

@[simp]
theorem ok_bind (a : α) (events : List Event) (next : α → Traced β) :
    (⟨.ok a, events⟩ : Traced α) >>= next = ⟨(next a).outcome, events ++ (next a).events⟩ :=
  rfl

@[simp]
theorem error_bind (e : Error) (events : List Event) (next : α → Traced β) :
    (⟨.error e, events⟩ : Traced α) >>= next = ⟨.error e, events⟩ :=
  rfl

instance : LawfulMonad Traced := LawfulMonad.mk' Traced
  (fun ⟨outcome, events⟩ => by
    cases outcome <;> simp [Functor.map, Traced.bind, Traced.pure])
  (fun a f => by simp)
  (fun ⟨outcome, events⟩ f g => by
    cases outcome with
    | error e => rfl
    | ok a =>
      simp only [ok_bind]
      cases h : (f a).outcome with
      | error e => simp [Bind.bind, Traced.bind, h]
      | ok b => simp [Bind.bind, Traced.bind, h])

-- The keys that a backend of kind `kind` was asked for, in order.
def lookups (kind : StorageKind) (events : List Event) : List String :=
  events.filterMap fun
    | .lookup asked key _ => if asked = kind then some key else none
    | _ => none

end Traced

end EnvProvision
