import EnvProvision.Proofs.Lifting
import EnvProvision.Proofs.Preview
import EnvProvision.Proofs.Unfolding

namespace EnvProvision

-- Both texts are empty, or neither is.
def SameEmptiness (a b : String) : Prop :=
  a = "" ↔ b = ""

theorem SameEmptiness.append {a b c d : String} (h : SameEmptiness a b) (h' : SameEmptiness c d) :
    SameEmptiness (a ++ c) (b ++ d) := by
  simp only [SameEmptiness, String.append_eq_empty_iff] at *
  rw [h, h']

-- Outcomes with the same error, or with values that are related.
inductive Agree {α β : Type} (R : α → β → Prop) : Except Error α → Except Error β → Prop
  | ok {a b} : R a b → Agree R (.ok a) (.ok b)
  | error (e) : Agree R (.error e) (.error e)

namespace Traced

-- The same events, and outcomes that agree.
structure Matches {α β : Type} (R : α → β → Prop) (t : Traced α) (u : Traced β) : Prop where
  events : t.events = u.events
  outcome : Agree R t.outcome u.outcome

namespace Matches

variable {α β γ δ : Type} {R : α → β → Prop} {S : γ → δ → Prop} {t : Traced α} {u : Traced β}

protected theorem pure {a : α} {b : β} (h : R a b) : Matches R (pure a) (pure b) :=
  ⟨rfl, .ok h⟩

theorem fail (e : Error) : Matches R (Traced.fail e) (Traced.fail e) :=
  ⟨rfl, .error e⟩

theorem ofExcept {a : Except Error α} {b : Except Error β} (h : Agree R a b) :
    Matches R (Traced.ofExcept a) (Traced.ofExcept b) :=
  ⟨rfl, h⟩

theorem refl (t : Traced α) : Matches Eq t t := by
  obtain ⟨outcome, events⟩ := t
  cases outcome with
  | error e => exact ⟨rfl, .error e⟩
  | ok a => exact ⟨rfl, .ok rfl⟩

protected theorem bind {f : α → Traced γ} {g : β → Traced δ} (h : Matches R t u)
    (hf : ∀ a b, R a b → Matches S (f a) (g b)) : Matches S (t >>= f) (u >>= g) := by
  obtain ⟨outcome, events⟩ := t
  obtain ⟨outcome', events'⟩ := u
  obtain ⟨rfl, hout⟩ := h
  cases hout with
  | error e => exact ⟨rfl, .error e⟩
  | ok hr =>
    obtain ⟨hevents, hout⟩ := hf _ _ hr
    exact ⟨congrArg (events ++ ·) hevents, hout⟩

theorem orNext {t : Traced (Option α)} {u : Traced (Option β)}
    {f : Unit → Traced (Option α)} {g : Unit → Traced (Option β)} (h : Matches (Option.Rel R) t u)
    (hf : Matches (Option.Rel R) (f ()) (g ())) :
    Matches (Option.Rel R) (t.orNext f) (u.orNext g) := by
  refine h.bind fun a b hr => ?_
  cases hr with
  | some hr => exact .pure (.some hr)
  | none => exact hf

end Matches

end Traced

open Traced (Matches)

-- How a value that may be absent looks to one who sees only whether it is empty.
abbrev SameShape : Option String → Option String → Prop :=
  Option.Rel SameEmptiness

theorem SameShape.nonEmpty {a b : Option String} (h : SameShape a b) :
    SameShape (nonEmpty a) (nonEmpty b) := by
  cases h with
  | none => exact .none
  | @some a b hr =>
    by_cases ha : a = ""
    case pos =>
      obtain rfl := hr.mp ha
      subst ha
      exact .none
    case neg =>
      rw [nonEmpty_some ha, nonEmpty_some (mt hr.mpr ha)]
      exact .some hr

theorem SameShape.isSome_eq {a b : Option String} (h : SameShape a b) : a.isSome = b.isSome := by
  cases h <;> rfl

theorem matches_lifting : Lifting (Matches SameShape) (Matches SameEmptiness) where
  absent := .pure .none
  orNext h hf := h.orNext hf
  orMissing inner _ _ h := h.bind fun _ _ hr => by
    cases hr with
    | some hr => exact .pure hr
    | none => exact .fail _
  asSibling candidate _ _ h := h.bind fun a b hr => by
    have hv := SameShape.nonEmpty (.some hr)
    generalize nonEmpty (some a) = x, nonEmpty (some b) = y at hv
    cases hv with
    | none => exact .pure .none
    | some hr => exact (Matches.refl _).bind fun _ _ _ => .pure (.some hr)
  text _ := .pure Iff.rfl
  append h h' := h.bind fun _ _ hr => h'.bind fun _ _ hs => .pure (hr.append hs)
  fail e := .fail e

-- Storages of one kind and scope, which differ in values only.
structure Storage.Alike (storage storage' : Storage) : Prop where
  kind : storage.kind = storage'.kind
  scope : storage.scope = storage'.scope
  retrieve (key : String) : Agree SameShape (storage.retrieve key) (storage'.retrieve key)

theorem Storage.Alike.lookup {storage storage' : Storage} (h : storage.Alike storage')
    (key : String) : Traced.Matches SameShape (storage.lookup key) (storage'.lookup key) := by
  have hr := h.retrieve key
  refine ⟨?_, hr⟩
  unfold Storage.lookup
  rw [h.kind, h.scope]
  generalize storage.retrieve key = a, storage'.retrieve key = b at hr
  cases hr with
  | ok hv => simp [hv.isSome_eq]
  | error e => rfl

namespace Batch

-- Batches of the same records.
structure Conceals (batch batch' : Batch) : Prop where
  get? (key : String) : batch.get? key = batch'.get? key
  storage : batch.storage.Alike batch'.storage

theorem table_ofEntries (storage storage' : Storage) (entries : List (String × String)) :
    (ofEntries storage entries).table = (ofEntries storage' entries).table := by
  unfold ofEntries
  rw [table_foldl_insert, table_foldl_insert]
  rfl

theorem Conceals.ofEntries {storage storage' : Storage} (h : storage.Alike storage')
    (entries : List (String × String)) :
    (Batch.ofEntries storage entries).Conceals (Batch.ofEntries storage' entries) where
  get? key := by rw [Batch.get?, Batch.get?, table_ofEntries storage storage']
  storage := by simpa using h

section

variable {batch batch' : Batch} {env env' : Reader}

theorem matches_fromEnvironment (h : ∀ c, Agree SameShape (env c) (env' c)) (candidate : String) :
    Matches SameShape (fromEnvironment env candidate) (fromEnvironment env' candidate) := by
  refine (Matches.ofExcept (h candidate)).bind fun a b hr => ?_
  have hv := hr.nonEmpty
  generalize nonEmpty a = x, nonEmpty b = y at hv
  cases hv with
  | none => exact .pure .none
  | some hr => exact (Matches.refl _).bind fun _ _ _ => .pure (.some hr)

theorem Conceals.fromStorage (hb : batch.Conceals batch') (candidate : String) :
    Matches SameShape (batch.fromStorage candidate) (batch'.fromStorage candidate) :=
  (hb.storage.lookup candidate).bind fun _ _ hr => .pure hr.nonEmpty

theorem Conceals.resolveWithin (hb : batch.Conceals batch')
    (he : ∀ c, Agree SameShape (env c) (env' c)) (room : Nat) (chain : List String)
    (record : Record) :
    Matches SameEmptiness (batch.resolveWithin env room chain record)
      (batch'.resolveWithin env' room chain record) :=
  matches_lifting.resolveWithin (fun h current c => matches_lifting.find
    (matches_fromEnvironment he c) (hb.get? c) (fun sibling _ => h sibling) (hb.fromStorage c)
    current) room chain record

end

end Batch

-- Variables with the same names, of which the same ones are empty.
def MemoryVariables.Alike (env env' : MemoryVariables) : Prop :=
  ∀ name, SameShape (env.get? name) (env'.get? name)

namespace MemoryVariables.Alike

variable {env env' : MemoryVariables}

theorem set (h : env.Alike env') {a b : String} (hv : SameEmptiness a b) (name : String) :
    (env.set name a).Alike (env'.set name b) := by
  intro n
  rw [get?_set, get?_set]
  split
  case isTrue => exact .some hv
  case isFalse => exact h n

theorem value? (h : env.Alike env') (name : String) :
    Agree SameShape (Variables.value? env name) (Variables.value? env' name) :=
  .ok (h name)

end MemoryVariables.Alike

theorem Batch.Conceals.exportAll {batch batch' : Batch} {env env' : MemoryVariables}
    (hb : batch.Conceals batch') (he : env.Alike env') (report : Report)
    (records : List Record) :
    (batch.exportAll env report records).Matches MemoryVariables.Alike
      (batch'.exportAll env' report records) := by
  induction records generalizing env env' report with
  | nil => exact ⟨he, rfl, by simp [Batch.exportAll, hb.storage.kind]⟩
  | cons record rest ih =>
    unfold Batch.exportAll
    rw [MemoryVariables.isSet_eq, MemoryVariables.isSet_eq, (he record.key).isSome_eq]
    cases (env'.get? record.key).isSome with
    | true => exact (ih he _).after _
    | false =>
      have hr := hb.resolveWithin he.value? depthLimit [] record
      unfold resolveRecord
      generalize batch.resolveWithin _ depthLimit [] record = t at hr
      generalize batch'.resolveWithin _ depthLimit [] record = u at hr
      obtain ⟨outcome, events⟩ := t
      obtain ⟨outcome', events'⟩ := u
      obtain ⟨rfl, hout⟩ := hr
      cases hout with
      | error e => exact ⟨he, rfl, rfl⟩
      | ok hv => exact (ih (he.set hv _) _).after _

namespace Loader

variable {loader loader' : Loader} {files files' : Files} {environment : String}
  {env env' : MemoryVariables} {found : Section}

theorem batch_matches
    (hfound : loader.configuration.section? environment = some found)
    (hfound' : loader'.configuration.section? environment = some found)
    (hs : (loader.source.setup files found.storage).Matches Storage.Alike
      (loader'.source.setup files' found.storage)) :
    (loader.batch files environment).Matches
      (fun batch batch' => batch.records = batch'.records ∧ batch.Conceals batch')
      (loader'.batch files' environment) := by
  unfold Loader.batch Configuration.requireSection
  rw [hfound, hfound']
  have hs' : Matches (fun a b => a = found ∧ b = found) (Traced.ofExcept (.ok found))
      (Traced.ofExcept (.ok found)) := .ofExcept (.ok ⟨rfl, rfl⟩)
  refine hs'.bind ?_
  rintro _ _ ⟨rfl, rfl⟩
  refine hs.bind fun storage storage' hst => .pure ⟨?_, ?_⟩
  · rw [Batch.records, Batch.records, Batch.table_ofEntries storage storage']
  · exact .ofEntries hst _

theorem load_matches
    (hfound : loader.configuration.section? environment = some found)
    (hfound' : loader'.configuration.section? environment = some found)
    (hs : (loader.source.setup files found.storage).Matches Storage.Alike
      (loader'.source.setup files' found.storage)) (he : env.Alike env') :
    (loader.load files environment env).Matches MemoryVariables.Alike
      (loader'.load files' environment env') := by
  have hb := batch_matches hfound hfound' hs
  unfold Loader.load
  generalize loader.batch files environment = t at hb
  generalize loader'.batch files' environment = u at hb
  obtain ⟨outcome, events⟩ := t
  obtain ⟨outcome', events'⟩ := u
  obtain ⟨rfl, hout⟩ := hb
  cases hout with
  | error e => exact ⟨he, rfl, rfl⟩
  | @ok batch batch' h =>
    obtain ⟨hr, hc⟩ := h
    refine LoadResult.Matches.after (b := batch'.exportAll ..) ?_ events
    rw [← hr]
    exact hc.exportAll he _ _

end Loader

end EnvProvision
