import EnvProvision.Proofs.Expansion

namespace EnvProvision

open Traced (FailsWith)

-- The environment can be asked for the name, and has no value that counts.
def Absent (env : Reader) (name : String) : Prop :=
  ∃ value, env name = .ok value ∧ nonEmpty value = none

theorem nonEmpty_some {value : String} (h : value ≠ "") : nonEmpty (some value) = some value := by
  simp [nonEmpty, h]

theorem nonEmpty_some_eq_none_iff {value : String} :
    nonEmpty (some value) = none ↔ value = "" := by
  by_cases h : value = "" <;> simp [nonEmpty, h]

theorem nonEmpty_eq_some_iff {value? : Option String} {value : String} :
    nonEmpty value? = some value ↔ value? = some value ∧ value ≠ "" := by
  unfold nonEmpty
  split
  case h_1 => simp_all
  case h_2 hn =>
    constructor
    · rintro rfl
      exact ⟨rfl, fun hv => hn (by rw [hv])⟩
    · exact And.left

namespace Batch

-- The record of that name, other than the one that is being expanded.
def sibling? (batch : Batch) (current candidate : String) : Option Record :=
  if candidate = current then none else batch.get? candidate

theorem sibling?_eq_some_iff {batch : Batch} {current candidate : String} {record : Record} :
    batch.sibling? current candidate = some record ↔
      candidate ≠ current ∧ batch.get? candidate = some record := by
  by_cases hc : candidate = current <;> simp [sibling?, hc]

-- The search for one candidate within the record `current`: the environment, a sibling, the
-- storage. `Sibling` tells how the resolution of a sibling can end.
inductive Finds (batch : Batch) (env : Reader) (Sibling : Record → Traced String → Prop)
    (current candidate : String) : Traced (Option String) → Prop
  | unreadable {e} :
    env candidate = .error e → Finds batch env Sibling current candidate ⟨.error e, []⟩
  | environment {value} :
    env candidate = .ok (some value) → value ≠ "" →
    Finds batch env Sibling current candidate ⟨.ok (some value), [.foundInEnvironment candidate]⟩
  | sibling {record value events} :
    Absent env candidate → batch.sibling? current candidate = some record →
    Sibling record ⟨.ok value, events⟩ → value ≠ "" →
    Finds batch env Sibling current candidate
      ⟨.ok (some value), events ++ [.foundInSibling candidate]⟩
  | siblingFails {record e events} :
    Absent env candidate → batch.sibling? current candidate = some record →
    Sibling record ⟨.error e, events⟩ →
    Finds batch env Sibling current candidate ⟨.error e, events⟩
  | siblingEmpty {record events} :
    Absent env candidate → batch.sibling? current candidate = some record →
    Sibling record ⟨.ok "", events⟩ →
    Finds batch env Sibling current candidate
      ⟨(batch.storage.retrieve candidate).map nonEmpty,
        events ++ (batch.storage.lookup candidate).events⟩
  | storage :
    Absent env candidate → batch.sibling? current candidate = none →
    Finds batch env Sibling current candidate
      ⟨(batch.storage.retrieve candidate).map nonEmpty, (batch.storage.lookup candidate).events⟩

-- The record evaluates to `t` with siblings nested at most `n` deep. Nothing here knows of chains
-- or of a limit, so on a cyclic batch a record may evaluate to nothing at all.
def EvaluatesWithin (batch : Batch) (env : Reader) : Nat → Record → Traced String → Prop
  | 0, _, _ => False
  | n + 1, record, t =>
    Template.Expands (batch.Finds env (batch.EvaluatesWithin env n) record.key)
      (Template.segments record.template.toList) t

def Evaluates (batch : Batch) (env : Reader) (record : Record) (t : Traced String) : Prop :=
  ∃ n, batch.EvaluatesWithin env n record t

section Equations

variable {batch : Batch} {env : Reader} {resolve : Record → Traced String}
  {current candidate : String} {record : Record}

theorem find_unreadable {e : Error} (h : env candidate = .error e) :
    batch.find env resolve current candidate = ⟨.error e, []⟩ := by
  simp [find, fromEnvironment, Traced.ofExcept, h]

theorem find_environment {value : String} (h : env candidate = .ok (some value))
    (hv : value ≠ "") :
    batch.find env resolve current candidate =
      ⟨.ok (some value), [.foundInEnvironment candidate]⟩ := by
  simp [find, fromEnvironment, Traced.ofExcept, Traced.emit, h, nonEmpty_some hv]

theorem find_of_absent (h : Absent env candidate) :
    batch.find env resolve current candidate =
      (batch.fromSibling resolve current candidate).orNext fun () =>
        batch.fromStorage candidate := by
  obtain ⟨value?, he, hv⟩ := h
  simp [find, fromEnvironment, Traced.ofExcept, he, hv]

theorem fromStorage_eq (batch : Batch) (candidate : String) :
    batch.fromStorage candidate =
      ⟨(batch.storage.retrieve candidate).map nonEmpty, (batch.storage.lookup candidate).events⟩ :=
  Traced.bind_ok ..

theorem outcome_fromEnvironment (env : Reader) (candidate : String) :
    (fromEnvironment env candidate).outcome = (env candidate).map nonEmpty := by
  cases he : env candidate with
  | error e => simp [fromEnvironment, Traced.ofExcept, he, Except.map]
  | ok value? =>
    cases hv : nonEmpty value? <;>
      simp [fromEnvironment, Traced.ofExcept, Traced.emit, he, hv, Except.map]

theorem fromSibling_none (hs : batch.sibling? current candidate = none) :
    batch.fromSibling resolve current candidate = pure none := by
  unfold sibling? at hs
  split at hs
  case isTrue hc => simp [fromSibling, hc]
  case isFalse hc => simp [fromSibling, hc, hs]

theorem find_sibling {value : String} {events : List Event} (ha : Absent env candidate)
    (hs : batch.sibling? current candidate = some record)
    (hr : resolve record = ⟨.ok value, events⟩) (hv : value ≠ "") :
    batch.find env resolve current candidate =
      ⟨.ok (some value), events ++ [.foundInSibling candidate]⟩ := by
  obtain ⟨hc, hg⟩ := sibling?_eq_some_iff.mp hs
  simp [find_of_absent ha, fromSibling, hc, hg, hr, nonEmpty_some hv, Traced.emit]

theorem find_siblingFails {e : Error} {events : List Event} (ha : Absent env candidate)
    (hs : batch.sibling? current candidate = some record)
    (hr : resolve record = ⟨.error e, events⟩) :
    batch.find env resolve current candidate = ⟨.error e, events⟩ := by
  obtain ⟨hc, hg⟩ := sibling?_eq_some_iff.mp hs
  simp [find_of_absent ha, fromSibling, hc, hg, hr]

theorem find_siblingEmpty {events : List Event} (ha : Absent env candidate)
    (hs : batch.sibling? current candidate = some record)
    (hr : resolve record = ⟨.ok "", events⟩) :
    batch.find env resolve current candidate =
      ⟨(batch.storage.retrieve candidate).map nonEmpty,
        events ++ (batch.storage.lookup candidate).events⟩ := by
  obtain ⟨hc, hg⟩ := sibling?_eq_some_iff.mp hs
  simp [find_of_absent ha, fromSibling, hc, hg, hr, nonEmpty, fromStorage_eq]

theorem find_storage (ha : Absent env candidate) (hs : batch.sibling? current candidate = none) :
    batch.find env resolve current candidate =
      ⟨(batch.storage.retrieve candidate).map nonEmpty,
        (batch.storage.lookup candidate).events⟩ := by
  rw [find_of_absent ha, fromSibling_none hs, fromStorage_eq]
  exact Traced.orNext_ok_none ..

theorem outcome_resolve {key : String} (env : Reader) (hg : batch.get? key = some record) :
    (batch.resolve env key).outcome = (batch.resolveRecord env record).outcome.map some := by
  have hmap : batch.resolve env key = some <$> batch.resolveRecord env record := by
    rw [Batch.resolve, hg]
  rw [hmap]
  exact congrArg Traced.outcome (Traced.bind_ok _ some)

theorem outcome_resolve_eq_none {key : String} (env : Reader) (hg : batch.get? key = none) :
    (batch.resolve env key).outcome = .ok none := by
  simp [Batch.resolve, hg]

theorem resolve_eq_some_iff {key value : String} :
    (batch.resolve env key).outcome = .ok (some value) ↔
      ∃ record, batch.get? key = some record ∧
        (batch.resolveRecord env record).outcome = .ok value := by
  cases hg : batch.get? key with
  | none => simp [outcome_resolve_eq_none env hg]
  | some record =>
    rw [outcome_resolve env hg]
    cases hr : (batch.resolveRecord env record).outcome <;> simp [Except.map, hr]

theorem fails_find {P : Error → Prop} (ha : Absent env candidate)
    (hs : batch.sibling? current candidate = some record) (hr : FailsWith P (resolve record)) :
    FailsWith P (batch.find env resolve current candidate) := by
  obtain ⟨e, he, hp⟩ := hr
  obtain ⟨events, heq⟩ := Traced.exists_eq_of_outcome he
  rw [find_siblingFails ha hs heq]
  exact ⟨e, rfl, hp⟩

end Equations

section Sound

variable {batch : Batch} {env : Reader} {Sibling : Record → Traced String → Prop}
  {P : Error → Prop} {resolve : Record → Traced String} {current candidate : String}

theorem finds_find
    (h : ∀ record, batch.sibling? current candidate = some record →
      FailsWith P (resolve record) ∨ Sibling record (resolve record)) :
    FailsWith P (batch.find env resolve current candidate) ∨
      batch.Finds env Sibling current candidate (batch.find env resolve current candidate) := by
  cases he : env candidate with
  | error e =>
    rw [find_unreadable he]
    exact .inr (.unreadable he)
  | ok value? =>
    cases hv : nonEmpty value? with
    | some value =>
      obtain ⟨rfl, hne⟩ := nonEmpty_eq_some_iff.mp hv
      rw [find_environment he hne]
      exact .inr (.environment he hne)
    | none =>
      have ha : Absent env candidate := ⟨value?, he, hv⟩
      cases hs : batch.sibling? current candidate with
      | none =>
        rw [find_storage ha hs]
        exact .inr (.storage ha hs)
      | some record =>
        cases hr : resolve record with | mk outcome events
        have h := h record hs
        rw [hr] at h
        match outcome with
        | .error e =>
          rw [find_siblingFails ha hs hr]
          exact h.imp (by simp) (.siblingFails ha hs)
        | .ok value =>
          replace h := h.resolve_left Traced.not_failsWith_ok
          by_cases hne : value = ""
          case pos =>
            subst hne
            rw [find_siblingEmpty ha hs hr]
            exact .inr (.siblingEmpty ha hs h)
          case neg =>
            rw [find_sibling ha hs hr hne]
            exact .inr (.sibling ha hs h hne)

theorem finds (batch : Batch) (env : Reader) (resolve : Record → Traced String)
    (current candidate : String) :
    batch.Finds env (fun record t => resolve record = t) current candidate
      (batch.find env resolve current candidate) := by
  have hfinds : FailsWith (fun _ => False) (batch.find env resolve current candidate) ∨ _ :=
    finds_find fun record _ => .inr rfl
  refine hfinds.resolve_left ?_
  rintro ⟨_, _, h⟩
  exact h

theorem Finds.find_eq {t : Traced (Option String)}
    (hf : batch.Finds env Sibling current candidate t)
    (h : ∀ record t, batch.sibling? current candidate = some record → Sibling record t →
      resolve record = t ∨ FailsWith P (resolve record)) :
    batch.find env resolve current candidate = t ∨
      FailsWith P (batch.find env resolve current candidate) := by
  cases hf with
  | unreadable he => exact .inl (find_unreadable he)
  | environment he hne => exact .inl (find_environment he hne)
  | storage ha hs => exact .inl (find_storage ha hs)
  | sibling ha hs ht hne =>
    obtain hr | hr := h _ _ hs ht
    case inl => exact .inl (find_sibling ha hs hr hne)
    case inr => exact .inr (fails_find ha hs hr)
  | siblingFails ha hs ht =>
    obtain hr | hr := h _ _ hs ht
    case inl => exact .inl (find_siblingFails ha hs hr)
    case inr => exact .inr (fails_find ha hs hr)
  | siblingEmpty ha hs ht =>
    obtain hr | hr := h _ _ hs ht
    case inl => exact .inl (find_siblingEmpty ha hs hr)
    case inr => exact .inr (fails_find ha hs hr)

end Sound

-- The batches answer alike; their records may stand in another order.
structure Alike (batch batch' : Batch) : Prop where
  storage : batch'.storage = batch.storage
  get? (key : String) : batch'.get? key = batch.get? key

theorem Alike.refl (batch : Batch) : Alike batch batch :=
  ⟨rfl, fun _ => rfl⟩

theorem Alike.sibling?_eq {batch batch' : Batch} (ha : Alike batch batch')
    (current candidate : String) :
    batch'.sibling? current candidate = batch.sibling? current candidate := by
  unfold sibling?
  rw [ha.get?]

theorem Finds.mono {batch batch' : Batch} {env : Reader}
    {Sibling Sibling' : Record → Traced String → Prop} {current candidate : String}
    {t : Traced (Option String)} (hf : batch.Finds env Sibling current candidate t)
    (ha : Alike batch batch') (h : ∀ r t, Sibling r t → Sibling' r t) :
    batch'.Finds env Sibling' current candidate t := by
  cases hf with
  | unreadable he => exact .unreadable he
  | environment he hne => exact .environment he hne
  | sibling habs hs ht hne => exact .sibling habs (ha.sibling?_eq .. ▸ hs) (h _ _ ht) hne
  | siblingFails habs hs ht => exact .siblingFails habs (ha.sibling?_eq .. ▸ hs) (h _ _ ht)
  | siblingEmpty habs hs ht =>
    rw [← ha.storage]
    exact .siblingEmpty habs (ha.sibling?_eq .. ▸ hs) (h _ _ ht)
  | storage habs hs =>
    rw [← ha.storage]
    exact .storage habs (ha.sibling?_eq .. ▸ hs)

namespace EvaluatesWithin

variable {batch : Batch} {env : Reader} {record : Record} {t t₁ t₂ : Traced String} {m n : Nat}

theorem step {batch' : Batch}
    (h : batch.EvaluatesWithin env (n + 1) record t) (ha : Alike batch batch')
    (hs : ∀ r t, batch.EvaluatesWithin env n r t → batch'.EvaluatesWithin env m r t) :
    batch'.EvaluatesWithin env (m + 1) record t := by
  obtain ⟨_, ht, rfl⟩ := Template.Expands.lift h (R := Eq) rfl (by rintro _ _ _ _ rfl rfl; rfl)
    fun c outcome events hc => ⟨events, hc.mono ha hs, rfl⟩
  exact ht

theorem succ (h : batch.EvaluatesWithin env n record t) :
    batch.EvaluatesWithin env (n + 1) record t := by
  induction n generalizing record t with
  | zero => exact h.elim
  | succ n ih => exact h.step (.refl batch) fun _ _ => ih

theorem alike {batch' : Batch} (h : batch.EvaluatesWithin env n record t)
    (ha : Alike batch batch') : batch'.EvaluatesWithin env n record t := by
  induction n generalizing record t with
  | zero => exact h.elim
  | succ n ih => exact h.step ha fun _ _ => ih

theorem mono (h : batch.EvaluatesWithin env n record t) (hle : n ≤ m) :
    batch.EvaluatesWithin env m record t := by
  induction hle with
  | refl => exact h
  | step _ ih => exact ih.succ

theorem unique (h₁ : batch.EvaluatesWithin env n record t₁)
    (h₂ : batch.EvaluatesWithin env n record t₂) : t₁ = t₂ := by
  induction n generalizing record t₁ t₂ with
  | zero => exact h₁.elim
  | succ n ih =>
    -- Both are what the expansion computes over any function that resolves siblings this way.
    have : Nonempty (Traced String) := ⟨⟨.ok "", []⟩⟩
    let resolve (r : Record) : Traced String := Classical.epsilon (batch.EvaluatesWithin env n r)
    have hr (r t) (ht : batch.EvaluatesWithin env n r t) : resolve r = t :=
      ih (Classical.epsilon_spec ⟨t, ht⟩) ht
    let expanded := Template.expand (batch.find env resolve record.key)
      (Template.segments record.template.toList)
    have heq {t} (h : batch.EvaluatesWithin env (n + 1) record t) : expanded = t := by
      have : expanded = t ∨ FailsWith (fun _ => False) expanded :=
        Template.Expands.expand_eq h fun c t hc => hc.find_eq fun r t _ ht => .inl (hr r t ht)
      simpa [FailsWith] using this
    rw [← heq h₁, heq h₂]

end EvaluatesWithin

theorem Evaluates.unique {batch : Batch} {env : Reader} {record : Record} {t₁ t₂ : Traced String}
    (h₁ : batch.Evaluates env record t₁) (h₂ : batch.Evaluates env record t₂) : t₁ = t₂ := by
  obtain ⟨m, h₁⟩ := h₁
  obtain ⟨n, h₂⟩ := h₂
  exact (h₁.mono (Nat.le_max_left m n)).unique (h₂.mono (Nat.le_max_right m n))

end Batch

end EnvProvision
