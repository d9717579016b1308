import EnvProvision.Batch.Resolve

namespace EnvProvision

namespace Traced

-- What a search that may have found nothing gives to the text around the placeholder.
def orMissing (inner : List Char) (search : Traced (Option String)) : Traced String := do
  match ← search with
  | some value => pure value
  | none => .fail (.keyNotFound (String.ofList inner))

-- What is found in a sibling that resolves like this.
def asSibling (candidate : String) (resolved : Traced String) : Traced (Option String) := do
  match nonEmpty (some (← resolved)) with
  | some value =>
    .emit (.foundInSibling candidate)
    pure (some value)
  | none => pure none

theorem outcome_asSibling (candidate : String) (resolved : Traced String) :
    (resolved.asSibling candidate).outcome =
      resolved.outcome.map fun value => nonEmpty (some value) := by
  obtain ⟨outcome, events⟩ := resolved
  cases outcome with
  | error e => rfl
  | ok value => cases hv : nonEmpty (some value) <;> simp [asSibling, hv, emit, Except.map]

def append (first second : Traced String) : Traced String := do
  let text ← first
  let tail ← second
  pure (text ++ tail)

end Traced

-- Relations of searches and of texts which every step keeps that resolution is put together from.
structure Lifting (Found : Traced (Option String) → Traced (Option String) → Prop)
    (Resolved : Traced String → Traced String → Prop) : Prop where
  absent : Found (pure none) (pure none)
  orNext {t u f g} : Found t u → Found (f ()) (g ()) → Found (t.orNext f) (u.orNext g)
  orMissing (inner) {t u} : Found t u → Resolved (t.orMissing inner) (u.orMissing inner)
  asSibling (candidate) {t u} :
    Resolved t u → Found (t.asSibling candidate) (u.asSibling candidate)
  text (text : String) : Resolved (pure text) (pure text)
  append {t t' u u'} : Resolved t u → Resolved t' u' → Resolved (t.append t') (u.append u')
  fail (e : Error) : Resolved (.fail e) (.fail e)

namespace Lifting

variable {Found : Traced (Option String) → Traced (Option String) → Prop}
  {Resolved : Traced String → Traced String → Prop}

section Template

open Template

variable {find find' : String → Traced (Option String)}

theorem firstPresent (l : Lifting Found Resolved) (h : ∀ c, Found (find c) (find' c))
    (names : List String) :
    Found (Template.firstPresent find names) (Template.firstPresent find' names) := by
  induction names with
  | nil => exact l.absent
  | cons c rest ih => exact l.orNext (h c) ih

theorem fill (l : Lifting Found Resolved) (h : ∀ c, Found (find c) (find' c))
    (inner : List Char) : Resolved (Template.fill find inner) (Template.fill find' inner) :=
  l.orMissing inner (l.firstPresent h (candidates inner))

theorem expand (l : Lifting Found Resolved) (h : ∀ c, Found (find c) (find' c))
    (segments : List Segment) :
    Resolved (Template.expand find segments) (Template.expand find' segments) := by
  induction segments with
  | nil => exact l.text ""
  | cons segment rest ih =>
    cases segment with
    | literal text => exact l.append (l.text (String.ofList text)) ih
    | reference inner => exact l.append (l.fill h inner) ih

end Template

variable {batch batch' : Batch} {env env' : Reader} {resolve resolve' : Record → Traced String}
  {candidate : String}

theorem fromSibling (l : Lifting Found Resolved)
    (hget : batch.get? candidate = batch'.get? candidate)
    (h : ∀ sibling, batch.get? candidate = some sibling →
      Resolved (resolve sibling) (resolve' sibling)) (current : String) :
    Found (batch.fromSibling resolve current candidate)
      (batch'.fromSibling resolve' current candidate) := by
  unfold Batch.fromSibling
  rw [← hget]
  split
  case isTrue => exact l.absent
  case isFalse =>
    cases hs : batch.get? candidate with
    | none => exact l.absent
    | some sibling => exact l.asSibling candidate (h sibling hs)

theorem find (l : Lifting Found Resolved)
    (henv : Found (Batch.fromEnvironment env candidate) (Batch.fromEnvironment env' candidate))
    (hget : batch.get? candidate = batch'.get? candidate)
    (h : ∀ sibling, batch.get? candidate = some sibling →
      Resolved (resolve sibling) (resolve' sibling))
    (hstorage : Found (batch.fromStorage candidate) (batch'.fromStorage candidate))
    (current : String) :
    Found (batch.find env resolve current candidate)
      (batch'.find env' resolve' current candidate) :=
  l.orNext henv (l.orNext (l.fromSibling hget h current) hstorage)

-- Both resolutions go down along the same chain, so the guard stops both at the same records.
theorem resolveWithin (l : Lifting Found Resolved)
    (h : ∀ {resolve resolve'}, (∀ record, Resolved (resolve record) (resolve' record)) →
      ∀ current candidate, Found (batch.find env resolve current candidate)
        (batch'.find env' resolve' current candidate))
    (room : Nat) (chain : List String) (record : Record) :
    Resolved (batch.resolveWithin env room chain record)
      (batch'.resolveWithin env' room chain record) := by
  induction room generalizing chain record with
  | zero =>
    unfold Batch.resolveWithin
    split <;> exact l.fail _
  | succ room ih =>
    unfold Batch.resolveWithin
    split
    case isTrue => exact l.fail _
    case isFalse => exact l.expand (h (ih _) record.key) _

-- Equal searches make for equal texts.
theorem eq : Lifting Eq Eq where
  absent := rfl
  orNext {t u f g} ht hf := by
    have hnext : f = g := funext fun () => hf
    rw [ht, hnext]
  orMissing inner _ _ h := by rw [h]
  asSibling candidate _ _ h := by rw [h]
  text _ := rfl
  append h h' := by rw [h, h']
  fail _ := rfl

end Lifting

end EnvProvision
