import EnvProvision.Proofs.Frame
import EnvProvision.Proofs.Guard

namespace EnvProvision

theorem not_absent_some {env : Reader} {name value : String} (h : env name = .ok (some value))
    (hne : value ≠ "") : ¬Absent env name := by
  rintro ⟨_, he, hv⟩
  obtain rfl := Except.ok.inj (h.symm.trans he)
  rw [nonEmpty_some hne] at hv
  cases hv

theorem absent_none {env : Reader} {name : String} (h : env name = .ok none) : Absent env name :=
  ⟨none, h, rfl⟩

theorem absent_empty {env : Reader} {name : String} (h : env name = .ok (some "")) :
    Absent env name :=
  ⟨some "", h, rfl⟩

namespace Batch

-- The record of the name evaluates to `value`, with siblings nested at most `n` deep.
def Yields (batch : Batch) (env : Reader) (n : Nat) (name value : String) : Prop :=
  ∃ record events, batch.get? name = some record ∧
    batch.EvaluatesWithin env n record ⟨.ok value, events⟩

namespace Yields

variable {batch : Batch} {env : Reader} {m n : Nat} {name value value' : String}

theorem mono (h : batch.Yields env n name value) (hle : n ≤ m) :
    batch.Yields env m name value := by
  obtain ⟨record, events, hg, ht⟩ := h
  exact ⟨record, events, hg, ht.mono hle⟩

theorem outcome_eq {record : Record} {outcome : Except Error String} {events : List Event}
    (h : batch.Yields env m name value) (hg : batch.get? name = some record)
    (ht : batch.EvaluatesWithin env n record ⟨outcome, events⟩) : outcome = .ok value := by
  obtain ⟨found, _, hf, hv⟩ := h
  obtain rfl := Option.some.inj (hf.symm.trans hg)
  exact congrArg Traced.outcome (Evaluates.unique ⟨_, ht⟩ ⟨_, hv⟩)

theorem unique (h : batch.Yields env m name value) (h' : batch.Yields env n name value') :
    value = value' := by
  obtain ⟨record, events, hg, ht⟩ := h
  exact Except.ok.inj (h'.outcome_eq hg ht)

end Yields

-- The readers differ only where one has the value that the record evaluates to over the other.
structure Interchange (batch : Batch) (m : Nat) (env env' : Reader) : Prop where
  unreadable {name e} : env name = .error e → env' name = .error e
  environment {name value} :
    env name = .ok (some value) → value ≠ "" →
    env' name = .ok (some value) ∨ Absent env' name ∧ batch.Yields env' m name value
  absent {name} :
    Absent env name →
    Absent env' name ∨
      ∃ value, env' name = .ok (some value) ∧ value ≠ "" ∧ batch.Yields env m name value

section Interchange

variable {batch : Batch} {m n : Nat} {env env' : Reader} {record : Record}

-- A sibling that one search goes on to is either expanded by the other as well, or its value is
-- found in the environment there.
theorem Interchange.sibling {candidate : String} {outcome : Except Error String}
    {events : List Event} (hx : batch.Interchange m env env')
    (ih : Absent env record.key → Absent env' record.key →
      batch.EvaluatesWithin env n record ⟨outcome, events⟩ →
      ∃ events', batch.EvaluatesWithin env' (m + n) record ⟨outcome, events'⟩)
    (habs : Absent env candidate) (hg : batch.get? candidate = some record)
    (ht : batch.EvaluatesWithin env n record ⟨outcome, events⟩) :
    (Absent env' candidate ∧
        ∃ events', batch.EvaluatesWithin env' (m + n) record ⟨outcome, events'⟩) ∨
      ∃ value, env' candidate = .ok (some value) ∧ value ≠ "" ∧ outcome = .ok value := by
  obtain habs' | ⟨value, he', hne, hy⟩ := hx.absent habs
  case inl =>
    obtain rfl := key_of_get? hg
    exact .inl ⟨habs', ih habs habs' ht⟩
  case inr => exact .inr ⟨value, he', hne, hy.outcome_eq hg ht⟩

theorem Interchange.finds {current candidate : String} {outcome : Except Error (Option String)}
    {events : List Event} (hx : batch.Interchange m env env') (ha : Absent env current)
    (ha' : Absent env' current)
    (ih : ∀ {r : Record} {outcome events}, Absent env r.key → Absent env' r.key →
      batch.EvaluatesWithin env n r ⟨outcome, events⟩ →
      ∃ events', batch.EvaluatesWithin env' (m + n) r ⟨outcome, events'⟩)
    (hf : batch.Finds env (batch.EvaluatesWithin env n) current candidate ⟨outcome, events⟩) :
    ∃ events', batch.Finds env' (batch.EvaluatesWithin env' (m + n)) current candidate
      ⟨outcome, events'⟩ := by
  cases hf with
  | unreadable he => exact ⟨_, .unreadable (hx.unreadable he)⟩
  | environment he hne =>
    obtain he' | ⟨habs', r, _, hg, ht⟩ := hx.environment he hne
    case inl => exact ⟨_, .environment he' hne⟩
    case inr =>
      have hc : candidate ≠ current := by
        rintro rfl
        exact not_absent_some he hne ha
      have hs := sibling?_eq_some_iff.mpr ⟨hc, hg⟩
      exact ⟨_, .sibling habs' hs (ht.mono (Nat.le_add_right m n)) hne⟩
  | sibling habs hs ht hne =>
    obtain ⟨_, hg⟩ := sibling?_eq_some_iff.mp hs
    obtain ⟨habs', _, ht'⟩ | ⟨_, he', _, ⟨⟩⟩ := hx.sibling ih habs hg ht
    case inl => exact ⟨_, .sibling habs' hs ht' hne⟩
    case inr => exact ⟨_, .environment he' hne⟩
  | siblingFails habs hs ht =>
    obtain ⟨_, hg⟩ := sibling?_eq_some_iff.mp hs
    obtain ⟨habs', _, ht'⟩ | ⟨_, _, _, ⟨⟩⟩ := hx.sibling ih habs hg ht
    case inl => exact ⟨_, .siblingFails habs' hs ht'⟩
  | siblingEmpty habs hs ht =>
    obtain ⟨_, hg⟩ := sibling?_eq_some_iff.mp hs
    obtain ⟨habs', _, ht'⟩ | ⟨_, _, hv, ⟨⟩⟩ := hx.sibling ih habs hg ht
    case inl => exact ⟨_, .siblingEmpty habs' hs ht'⟩
    case inr => exact absurd rfl hv
  | storage habs hs =>
    obtain habs' | ⟨v, he', hv, r, _, hg, _⟩ := hx.absent habs
    case inl => exact ⟨_, .storage habs' hs⟩
    case inr =>
      have hc : candidate ≠ current := by
        rintro rfl
        exact not_absent_some he' hv ha'
      cases hs.symm.trans (sibling?_eq_some_iff.mpr ⟨hc, hg⟩)

-- Each nesting over one reader may take `m` more over the other, where the other has no value.
theorem EvaluatesWithin.interchange {t : Traced String} (h : batch.EvaluatesWithin env n record t)
    (hx : batch.Interchange m env env') (ha : Absent env record.key)
    (ha' : Absent env' record.key) :
    ∃ events, batch.EvaluatesWithin env' (m + n) record ⟨t.outcome, events⟩ := by
  induction n generalizing record t with
  | zero => exact h.elim
  | succ n ih =>
    obtain ⟨events, ht, _⟩ := Template.Expands.lift h (R := fun _ _ => True) trivial
      (fun _ _ => trivial) fun c outcome events hc => by
        obtain ⟨_, hc'⟩ := hx.finds ha ha' (fun hr hr' ht => ih ht hr hr') hc
        exact ⟨_, hc', trivial⟩
    exact ⟨events, ht⟩

end Interchange

-- Each name reads as it did in `base`, or it was unset and now has the value of its record.
def Unfolds (batch : Batch) (m : Nat) (base env : Reader) : Prop :=
  ∀ name, env name = base name ∨
    ∃ value, base name = .ok none ∧ env name = .ok (some value) ∧ batch.Yields base m name value

namespace Unfolds

variable {batch : Batch} {m n : Nat} {base env : Reader}

theorem refl (batch : Batch) (base : Reader) : batch.Unfolds 0 base base :=
  fun _ => .inl rfl

theorem mono (h : batch.Unfolds n base env) (hle : n ≤ m) : batch.Unfolds m base env := by
  intro name
  obtain heq | ⟨value, hb, he, hy⟩ := h name
  case inl => exact .inl heq
  case inr => exact .inr ⟨value, hb, he, hy.mono hle⟩

theorem absent_base (h : batch.Unfolds m base env) {name : String} (ha : Absent env name) :
    Absent base name := by
  obtain heq | ⟨value, hb, _, _⟩ := h name
  case inl =>
    unfold Absent at *
    rwa [← heq]
  case inr => exact absent_none hb

theorem interchange (h : batch.Unfolds m base env) : batch.Interchange m base env where
  unreadable {name e} hb := by
    obtain heq | ⟨value, hb', _, _⟩ := h name
    case inl => exact heq.trans hb
    case inr => cases hb.symm.trans hb'
  environment {name v} hb hne := by
    obtain heq | ⟨value, hb', _, _⟩ := h name
    case inl => exact .inl (heq.trans hb)
    case inr => cases hb.symm.trans hb'
  absent {name} ha := by
    obtain heq | ⟨value, _, he, hy⟩ := h name
    case inl =>
      unfold Absent at *
      exact .inl (heq ▸ ha)
    case inr =>
      by_cases hv : value = ""
      case pos => exact .inl (absent_empty (hv ▸ he))
      case neg => exact .inr ⟨value, he, hv, hy⟩

theorem interchange_symm (h : batch.Unfolds m base env) : batch.Interchange m env base where
  unreadable {name e} he := by
    obtain heq | ⟨value, _, he', _⟩ := h name
    case inl => exact heq.symm.trans he
    case inr => cases he.symm.trans he'
  environment {name v} he hne := by
    obtain heq | ⟨value, hb, he', hy⟩ := h name
    case inl => exact .inl (heq.symm.trans he)
    case inr =>
      cases he.symm.trans he'
      exact .inr ⟨absent_none hb, hy⟩
  absent ha := .inl (h.absent_base ha)

end Unfolds

section Memory

variable {batch : Batch} {m n : Nat} {base : Reader} {env env' : MemoryVariables}
  {record : Record} {value? : Option String} {value : String} {visits : List Visit}
  {events : List Event}

theorem Unfolds.set (h : batch.Unfolds m base (Variables.value? env)) {name : String}
    (hunset : env.get? name = none) (hy : batch.Yields base m name value) :
    batch.Unfolds m base (Variables.value? (env.set name value)) := by
  intro n
  by_cases hn : n = name
  case neg =>
    have heq : Variables.value? (env.set name value) n = Variables.value? env n :=
      congrArg Except.ok (by rw [MemoryVariables.get?_set, if_neg hn])
    rw [heq]
    exact h n
  case pos =>
    subst hn
    have hnone : Variables.value? env n = .ok none := congrArg Except.ok hunset
    have hsome : Variables.value? (env.set n value) n = .ok (some value) :=
      congrArg Except.ok (by rw [MemoryVariables.get?_set, if_pos rfl])
    obtain heq | ⟨_, _, he, _⟩ := h n
    case inl => exact .inr ⟨value, heq.symm.trans hnone, hsome, hy⟩
    case inr => cases hnone.symm.trans he

-- What a step exports is what the record evaluates to without any of the exports before it.
theorem Step.unfolds (h : batch.Step env record value? env' events)
    (hg : batch.get? record.key = some record)
    (hu : batch.Unfolds m base (Variables.value? env)) :
    batch.Unfolds (m + depthLimit) base (Variables.value? env') := by
  have hu' := hu.mono (Nat.le_add_right m depthLimit)
  cases h with
  | skipped => exact hu'
  | exported hset hr ha =>
    cases ha
    have hunset : env.get? record.key = none := by simpa using hset
    have habs : Absent (Variables.value? env) record.key :=
      absent_none (congrArg Except.ok hunset)
    have ht := evaluatesWithin_of_resolveRecord hr
    obtain ⟨_, ht⟩ := ht.interchange hu.interchange_symm habs (hu.absent_base habs)
    exact hu'.set hunset ⟨record, _, hg, ht⟩

theorem Steps.exists_unfolds (h : batch.Steps env visits env' events)
    (hg : ∀ r ∈ visits.map Prod.fst, batch.get? r.key = some r)
    (hu : batch.Unfolds m base (Variables.value? env)) :
    ∃ n, batch.Unfolds n base (Variables.value? env') := by
  induction h generalizing m with
  | nil => exact ⟨m, hu⟩
  | cons hs _ ih =>
    obtain ⟨hr, hrest⟩ := List.forall_mem_cons.mp hg
    exact ih hrest (hs.unfolds hr hu)

end Memory

end Batch

end EnvProvision
