import EnvProvision.Batch.Resolve

namespace EnvProvision

namespace Traced

variable {α : Type}

@[simp]
theorem orNext_ok_some (a : α) (events : List Event) (second : Unit → Traced (Option α)) :
    orNext ⟨.ok (some a), events⟩ second = ⟨.ok (some a), events⟩ := by
  simp [orNext]

@[simp]
theorem orNext_ok_none (events : List Event) (second : Unit → Traced (Option α)) :
    orNext ⟨.ok none, events⟩ second = ⟨(second ()).outcome, events ++ (second ()).events⟩ :=
  rfl

@[simp]
theorem orNext_error (e : Error) (events : List Event) (second : Unit → Traced (Option α)) :
    orNext ⟨.error e, events⟩ second = ⟨.error e, events⟩ :=
  rfl

theorem exists_eq_of_outcome {t : Traced α} {outcome : Except Error α} (h : t.outcome = outcome) :
    ∃ events, t = ⟨outcome, events⟩ := by
  subst h
  exact ⟨t.events, rfl⟩

theorem bind_ok {β : Type} (t : Traced α) (f : α → β) :
    (t >>= fun a => ⟨.ok (f a), []⟩) = ⟨t.outcome.map f, t.events⟩ := by
  obtain ⟨outcome, events⟩ := t
  cases outcome <;> simp [Except.map]

theorem bind_eq_ok_iff {β : Type} {t : Traced α} {f : α → Traced β} {b : β} :
    (t >>= f).outcome = .ok b ↔ ∃ a, t.outcome = .ok a ∧ (f a).outcome = .ok b := by
  obtain ⟨outcome, events⟩ := t
  cases outcome <;> simp

theorem bind_eq_error_iff {β : Type} {t : Traced α} {f : α → Traced β} {e : Error} :
    (t >>= f).outcome = .error e ↔
      t.outcome = .error e ∨ ∃ a, t.outcome = .ok a ∧ (f a).outcome = .error e := by
  obtain ⟨outcome, events⟩ := t
  cases outcome <;> simp

theorem mem_events_bind {β : Type} {t : Traced α} {f : α → Traced β} {event : Event}
    (h : event ∈ (t >>= f).events) :
    event ∈ t.events ∨ ∃ a, t.outcome = .ok a ∧ event ∈ (f a).events := by
  obtain ⟨outcome, events⟩ := t
  cases outcome with
  | error e => exact .inl h
  | ok a => exact (List.mem_append.mp h).imp id fun hm => ⟨a, rfl, hm⟩

def FailsWith (P : Error → Prop) (t : Traced α) : Prop :=
  ∃ e, t.outcome = .error e ∧ P e

@[simp]
theorem failsWith_error {P : Error → Prop} {e : Error} {events : List Event} :
    FailsWith P (⟨.error e, events⟩ : Traced α) ↔ P e := by
  simp [FailsWith]

@[simp]
theorem not_failsWith_ok {P : Error → Prop} {a : α} {events : List Event} :
    ¬FailsWith P (⟨.ok a, events⟩ : Traced α) := by
  simp [FailsWith]

theorem FailsWith.orNext {P : Error → Prop} {t : Traced (Option α)} (h : t.FailsWith P)
    (second : Unit → Traced (Option α)) : (t.orNext second).FailsWith P := by
  obtain ⟨outcome, events⟩ := t
  obtain ⟨e, rfl, hp⟩ := h
  exact ⟨e, rfl, hp⟩

theorem failsWith_map {β : Type} {P : Error → Prop} {outcome : Except Error α} {f : α → β}
    {events : List Event} :
    FailsWith P ⟨outcome.map f, events⟩ ↔ ∃ e, outcome = .error e ∧ P e := by
  cases outcome <;> simp [FailsWith, Except.map]

theorem map_eq_ok_iff {β : Type} {outcome : Except Error α} {f : α → β} {b : β} :
    outcome.map f = .ok b ↔ ∃ a, outcome = .ok a ∧ f a = b := by
  cases outcome <;> simp [Except.map]

end Traced

open Traced (FailsWith)

namespace Template

variable {Find Find' : String → Traced (Option String) → Prop} {P : Error → Prop}

-- The search for the first candidate with a value. `Find` tells how the search for a single
-- candidate can end.
inductive Chooses (Find : String → Traced (Option String) → Prop) :
    List String → Traced (Option String) → Prop
  | nil : Chooses Find [] ⟨.ok none, []⟩
  | found {candidate rest value events} :
    Find candidate ⟨.ok (some value), events⟩ →
    Chooses Find (candidate :: rest) ⟨.ok (some value), events⟩
  | fails {candidate rest e events} :
    Find candidate ⟨.error e, events⟩ → Chooses Find (candidate :: rest) ⟨.error e, events⟩
  | next {candidate rest events t} :
    Find candidate ⟨.ok none, events⟩ → Chooses Find rest t →
    Chooses Find (candidate :: rest) ⟨t.outcome, events ++ t.events⟩

inductive Expands (Find : String → Traced (Option String) → Prop) :
    List Segment → Traced String → Prop
  | nil : Expands Find [] ⟨.ok "", []⟩
  | literal (text) {rest t} :
    Expands Find rest t →
    Expands Find (.literal text :: rest) ⟨t.outcome.map (String.ofList text ++ ·), t.events⟩
  | value {inner rest value events t} :
    Chooses Find (candidates inner) ⟨.ok (some value), events⟩ → Expands Find rest t →
    Expands Find (.reference inner :: rest) ⟨t.outcome.map (value ++ ·), events ++ t.events⟩
  | absent {inner rest events} :
    Chooses Find (candidates inner) ⟨.ok none, events⟩ →
    Expands Find (.reference inner :: rest) ⟨.error (.keyNotFound (String.ofList inner)), events⟩
  | fails {inner rest e events} :
    Chooses Find (candidates inner) ⟨.error e, events⟩ →
    Expands Find (.reference inner :: rest) ⟨.error e, events⟩

section Equations

variable {find : String → Traced (Option String)} {inner : List Char} {rest : List Segment}
  {value : String} {events : List Event}

theorem expand_literal (text : List Char) :
    expand find (.literal text :: rest) =
      ⟨(expand find rest).outcome.map (String.ofList text ++ ·), (expand find rest).events⟩ :=
  Traced.bind_ok ..

theorem expand_value (h : firstPresent find (candidates inner) = ⟨.ok (some value), events⟩) :
    expand find (.reference inner :: rest) =
      ⟨(expand find rest).outcome.map (value ++ ·), events ++ (expand find rest).events⟩ := by
  simp [expand, fill, h, Traced.bind_ok]

theorem expand_absent (h : firstPresent find (candidates inner) = ⟨.ok none, events⟩) :
    expand find (.reference inner :: rest) =
      ⟨.error (.keyNotFound (String.ofList inner)), events⟩ := by
  simp [expand, fill, h, Traced.fail]

theorem expand_fails {e : Error}
    (h : firstPresent find (candidates inner) = ⟨.error e, events⟩) :
    expand find (.reference inner :: rest) = ⟨.error e, events⟩ := by
  simp [expand, fill, h]

theorem fails_expand {P : Error → Prop}
    (h : FailsWith P (firstPresent find (candidates inner))) :
    FailsWith P (expand find (.reference inner :: rest)) := by
  obtain ⟨e, he, hp⟩ := h
  obtain ⟨events, hf⟩ := Traced.exists_eq_of_outcome he
  rw [expand_fails hf]
  exact ⟨e, rfl, hp⟩

end Equations

-- The names that a text offers in its placeholders.
def mentions : List Segment → List String
  | [] => []
  | .literal _ :: rest => mentions rest
  | .reference inner :: rest => candidates inner ++ mentions rest

section Sound

variable {find : String → Traced (Option String)}

theorem chooses_firstPresent {names : List String}
    (h : ∀ c ∈ names, FailsWith P (find c) ∨ Find c (find c)) :
    FailsWith P (firstPresent find names) ∨ Chooses Find names (firstPresent find names) := by
  induction names with
  | nil => exact .inr .nil
  | cons c rest ih =>
    have hr := ih fun c hc => h c (List.mem_cons_of_mem _ hc)
    unfold firstPresent
    obtain hc | hc := h c List.mem_cons_self
    case inl => exact .inl (hc.orNext _)
    case inr =>
      cases hf : find c with | mk outcome events
      rw [hf] at hc
      match outcome with
      | .error e => exact .inr (.fails hc)
      | .ok (some value) => rw [Traced.orNext_ok_some]; exact .inr (.found hc)
      | .ok none => exact hr.imp id (.next hc)

theorem expands_expand {segments : List Segment}
    (h : ∀ c ∈ mentions segments, FailsWith P (find c) ∨ Find c (find c)) :
    FailsWith P (expand find segments) ∨ Expands Find segments (expand find segments) := by
  induction segments with
  | nil => exact .inr .nil
  | cons segment rest ih =>
    cases segment with
    | literal text =>
      rw [expand_literal]
      exact (ih h).imp Traced.failsWith_map.mpr (.literal text)
    | reference inner =>
      have hr := ih fun c hc => h c (List.mem_append_right _ hc)
      obtain hc | hc := chooses_firstPresent fun c hc => h c (List.mem_append_left _ hc)
      case inl => exact .inl (fails_expand hc)
      case inr =>
        cases hf : firstPresent find (candidates inner) with | mk outcome events
        rw [hf] at hc
        match outcome with
        | .error e => rw [expand_fails hf]; exact .inr (.fails hc)
        | .ok none => rw [expand_absent hf]; exact .inr (.absent hc)
        | .ok (some value) =>
          rw [expand_value hf]
          exact hr.imp Traced.failsWith_map.mpr (.value hc)

end Sound

section Complete

variable {find : String → Traced (Option String)}

theorem Chooses.firstPresent_eq {names : List String} {t : Traced (Option String)}
    (h : Chooses Find names t) (hf : ∀ c t, Find c t → find c = t ∨ FailsWith P (find c)) :
    firstPresent find names = t ∨ FailsWith P (firstPresent find names) := by
  induction h with
  | nil => exact .inl rfl
  | found hc | fails hc =>
    unfold firstPresent
    obtain hc | hc := hf _ _ hc
    case inl => simp [hc]
    case inr => exact .inr (hc.orNext _)
  | next hc _ ih =>
    unfold firstPresent
    obtain hc | hc := hf _ _ hc
    case inr => exact .inr (hc.orNext _)
    case inl =>
      rw [hc, Traced.orNext_ok_none]
      obtain hr | hr := ih
      case inl => exact .inl (by rw [hr])
      case inr => exact .inr hr

theorem Expands.expand_eq {segments : List Segment} {t : Traced String}
    (h : Expands Find segments t) (hf : ∀ c t, Find c t → find c = t ∨ FailsWith P (find c)) :
    expand find segments = t ∨ FailsWith P (expand find segments) := by
  induction h with
  | nil => exact .inl rfl
  | literal text _ ih =>
    rw [expand_literal]
    obtain hr | hr := ih
    case inl => exact .inl (by rw [hr])
    case inr => exact .inr (Traced.failsWith_map.mpr hr)
  | value hc _ ih =>
    obtain hc | hc := hc.firstPresent_eq hf
    case inr => exact .inr (fails_expand hc)
    case inl =>
      rw [expand_value hc]
      obtain hr | hr := ih
      case inl => exact .inl (by rw [hr])
      case inr => exact .inr (Traced.failsWith_map.mpr hr)
  | absent hc =>
    obtain hc | hc := hc.firstPresent_eq hf
    case inl => exact .inl (expand_absent hc)
    case inr => exact .inr (fails_expand hc)
  | fails hc =>
    obtain hc | hc := hc.firstPresent_eq hf
    case inl => exact .inl (expand_fails hc)
    case inr => exact .inr (fails_expand hc)

end Complete

section Failure

theorem Chooses.not_failsWith {names : List String} {t : Traced (Option String)}
    (h : Chooses Find names t) (hf : ∀ c t, Find c t → ¬FailsWith P t) : ¬FailsWith P t := by
  induction h with
  | nil | found => exact Traced.not_failsWith_ok
  | fails hc => exact hf _ _ hc
  | next _ _ ih => exact ih

theorem Expands.not_failsWith {segments : List Segment} {t : Traced String}
    (h : Expands Find segments t) (hkey : ∀ reference, ¬P (.keyNotFound reference))
    (hf : ∀ c t, Find c t → ¬FailsWith P t) : ¬FailsWith P t := by
  induction h with
  | nil => exact Traced.not_failsWith_ok
  | literal _ _ ih | value _ _ ih => exact mt Traced.failsWith_map.mp ih
  | absent => exact mt Traced.failsWith_error.mp (hkey _)
  | fails hc => simpa using hc.not_failsWith hf

end Failure

section Lift

-- Outcomes agree, and traces as far as `R` tells.
variable {R : List Event → List Event → Prop}

theorem Chooses.lift {names : List String} {t : Traced (Option String)}
    (h : Chooses Find names t) (hnil : R [] [])
    (happend : ∀ {a b c d}, R a b → R c d → R (a ++ c) (b ++ d))
    (hf : ∀ c outcome events, Find c ⟨outcome, events⟩ →
      ∃ events', Find' c ⟨outcome, events'⟩ ∧ R events events') :
    ∃ events, Chooses Find' names ⟨t.outcome, events⟩ ∧ R t.events events := by
  induction h with
  | nil => exact ⟨[], .nil, hnil⟩
  | found hc =>
    obtain ⟨_, hc, hr⟩ := hf _ _ _ hc
    exact ⟨_, .found hc, hr⟩
  | fails hc =>
    obtain ⟨_, hc, hr⟩ := hf _ _ _ hc
    exact ⟨_, .fails hc, hr⟩
  | next hc _ ih =>
    obtain ⟨_, hc, hr⟩ := hf _ _ _ hc
    obtain ⟨_, ht, hrest⟩ := ih
    have hn := Chooses.next hc ht
    exact ⟨_, hn, happend hr hrest⟩

theorem Expands.lift {segments : List Segment} {t : Traced String}
    (h : Expands Find segments t) (hnil : R [] [])
    (happend : ∀ {a b c d}, R a b → R c d → R (a ++ c) (b ++ d))
    (hf : ∀ c outcome events, Find c ⟨outcome, events⟩ →
      ∃ events', Find' c ⟨outcome, events'⟩ ∧ R events events') :
    ∃ events, Expands Find' segments ⟨t.outcome, events⟩ ∧ R t.events events := by
  induction h with
  | nil => exact ⟨[], .nil, hnil⟩
  | literal text _ ih =>
    obtain ⟨_, ht, hr⟩ := ih
    have hl := Expands.literal text ht
    exact ⟨_, hl, hr⟩
  | value hc _ ih =>
    obtain ⟨_, hc, hr⟩ := hc.lift hnil happend hf
    obtain ⟨_, ht, hrest⟩ := ih
    have hv := Expands.value hc ht
    exact ⟨_, hv, happend hr hrest⟩
  | absent hc =>
    obtain ⟨_, hc, hr⟩ := hc.lift hnil happend hf
    exact ⟨_, .absent hc, hr⟩
  | fails hc =>
    obtain ⟨_, hc, hr⟩ := hc.lift hnil happend hf
    exact ⟨_, .fails hc, hr⟩

end Lift

end Template

def Record.mentions (record : Record) : List String :=
  Template.mentions (Template.segments record.template.toList)

end EnvProvision
