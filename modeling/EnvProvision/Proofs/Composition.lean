import EnvProvision.Proofs.Guard
import EnvProvision.Proofs.Lifting
import Mathlib.Data.List.Forall2

namespace EnvProvision

open Traced (FailsWith)

namespace Traced

variable {α β : Type} {P : Error → Prop} {t : Traced α} {a : α} {b : β}

-- The run ends with the value, or fails in the way that `P` tells.
def ComesTo (P : Error → Prop) (a : α) (t : Traced α) : Prop :=
  t.FailsWith P ∨ t.outcome = .ok a

protected theorem ComesTo.bind {f : α → Traced β} (h : t.ComesTo P a) (hf : (f a).ComesTo P b) :
    (t >>= f).ComesTo P b := by
  obtain ⟨outcome, events⟩ := t
  obtain ⟨e, rfl, hp⟩ | rfl := h
  case inl => exact .inl ⟨e, rfl, hp⟩
  case inr => exact hf

theorem orNext_eq_some_iff {t : Traced (Option α)} {f : Unit → Traced (Option α)} :
    (t.orNext f).outcome = .ok (some a) ↔
      t.outcome = .ok (some a) ∨ t.outcome = .ok none ∧ (f ()).outcome = .ok (some a) := by
  obtain ⟨outcome, events⟩ := t
  obtain e | _ | value := outcome <;> simp

-- The second run comes to each value that the first one ends with, or fails in the way that `P`
-- tells.
def Carries (P : Error → Prop) (t u : Traced α) : Prop :=
  ∀ a, t.outcome = .ok a → u.ComesTo P a

namespace Carries

theorem refl (t : Traced α) : Carries P t t :=
  fun _ => .inr

theorem fail (e : Error) (u : Traced α) : Carries P (Traced.fail e) u := by
  rintro _ ⟨⟩

protected theorem bind {u : Traced α} {f g : α → Traced β} (h : Carries P t u)
    (hf : ∀ a, Carries P (f a) (g a)) : Carries P (t >>= f) (u >>= g) := by
  intro b hb
  obtain ⟨a, ha, hb⟩ := bind_eq_ok_iff.mp hb
  exact (h a ha).bind (hf a b hb)

end Carries

end Traced

open Traced (ComesTo Carries)

theorem carries_lifting (P : Error → Prop) : Lifting (Carries P) (Carries P) where
  absent := .refl _
  orNext h hf := h.bind fun
    | some _ => .refl _
    | none => hf
  orMissing _ _ _ h := h.bind fun _ => .refl _
  asSibling _ _ _ h := h.bind fun _ => .refl _
  text _ := .refl _
  append h h' := h.bind fun _ => h'.bind fun _ => .refl _
  fail e := .fail e _

namespace Template

-- What a segment adds to a text. A placeholder adds the value of the first of its candidates that
-- has one; `Offers` tells what a candidate has.
inductive Contributes (Offers : String → Option String → Prop) : Segment → String → Prop
  | literal (text) : Contributes Offers (.literal text) (String.ofList text)
  | reference {inner before candidate after value} :
    candidates inner = before ++ candidate :: after → (∀ c ∈ before, Offers c none) →
    Offers candidate (some value) → Contributes Offers (.reference inner) value

section

variable {find : String → Traced (Option String)} {Offers : String → Option String → Prop}
  {names : List String} {segments : List Segment} {value : String}

theorem firstPresent_eq_some_iff :
    (firstPresent find names).outcome = .ok (some value) ↔
      ∃ before candidate after, names = before ++ candidate :: after ∧
        (∀ c ∈ before, (find c).outcome = .ok none) ∧
        (find candidate).outcome = .ok (some value) := by
  induction names with
  | nil => simp [firstPresent]
  | cons name rest ih =>
    rw [firstPresent, Traced.orNext_eq_some_iff, ih]
    constructor
    case mp =>
      rintro (hname | ⟨hname, before, candidate, after, rfl, hbefore, hc⟩)
      case inl => exact ⟨[], name, rest, rfl, List.forall_mem_nil _, hname⟩
      case inr =>
        exact ⟨name :: before, candidate, after, rfl, List.forall_mem_cons.mpr ⟨hname, hbefore⟩, hc⟩
    case mpr =>
      rintro ⟨before, candidate, after, hsplit, hbefore, hc⟩
      cases before with
      | nil =>
        cases hsplit
        exact .inl hc
      | cons first before =>
        cases hsplit
        obtain ⟨hname, hbefore⟩ := List.forall_mem_cons.mp hbefore
        exact .inr ⟨hname, before, candidate, after, rfl, hbefore, hc⟩

theorem fill_eq_ok_iff {inner : List Char} :
    (fill find inner).outcome = .ok value ↔
      (firstPresent find (candidates inner)).outcome = .ok (some value) := by
  rw [fill, Traced.bind_eq_ok_iff]
  constructor
  case mp =>
    rintro ⟨_ | found, hfirst, hvalue⟩
    case none => cases hvalue
    case some =>
      cases hvalue
      exact hfirst
  case mpr => exact fun hfirst => ⟨some value, hfirst, rfl⟩

-- What a search gives to a text is what a placeholder adds over the answers of the search.
theorem contributes_reference_iff {inner : List Char} :
    Contributes (fun c found => (find c).outcome = .ok found) (.reference inner) value ↔
      (fill find inner).outcome = .ok value := by
  rw [fill_eq_ok_iff, firstPresent_eq_some_iff]
  constructor
  case mp =>
    intro h
    cases h with
    | reference hsplit hbefore hc => exact ⟨_, _, _, hsplit, hbefore, hc⟩
  case mpr =>
    rintro ⟨before, candidate, after, hsplit, hbefore, hc⟩
    exact .reference hsplit hbefore hc

theorem contributes_literal_iff {text : List Char} :
    Contributes Offers (.literal text) value ↔ String.ofList text = value := by
  constructor
  case mp =>
    rintro ⟨⟩
    rfl
  case mpr =>
    rintro rfl
    exact .literal text

theorem expand_cons_eq_ok_iff {segment : Segment} :
    (expand find (segment :: segments)).outcome = .ok value ↔
      ∃ piece tail, Contributes (fun c found => (find c).outcome = .ok found) segment piece ∧
        (expand find segments).outcome = .ok tail ∧ piece ++ tail = value := by
  cases segment with
  | literal text => simp [contributes_literal_iff, expand, Traced.bind_eq_ok_iff]
  | reference inner => simp [contributes_reference_iff, expand, Traced.bind_eq_ok_iff]

theorem expand_eq_ok_iff :
    (expand find segments).outcome = .ok value ↔
      ∃ pieces, value = String.join pieces ∧
        List.Forall₂ (Contributes fun c found => (find c).outcome = .ok found) segments pieces := by
  induction segments generalizing value with
  | nil => simp [expand, eq_comm]
  | cons segment rest ih =>
    rw [expand_cons_eq_ok_iff]
    constructor
    case mp =>
      rintro ⟨piece, tail, hpiece, htail, rfl⟩
      obtain ⟨pieces, rfl, hpieces⟩ := ih.mp htail
      exact ⟨piece :: pieces, String.join_cons.symm, .cons hpiece hpieces⟩
    case mpr =>
      rintro ⟨_, rfl, _ | @⟨_, piece, _, pieces, hpiece, hpieces⟩⟩
      exact ⟨piece, String.join pieces, hpiece, ih.mpr ⟨pieces, rfl, hpieces⟩,
        String.join_cons.symm⟩

end

end Template

namespace Batch

-- What a candidate has to give within the record of a key: its variable, else the record of its
-- name resolved on its own, unless that is the record itself, else the answer of the storage.
inductive Offers (batch : Batch) (env : Reader) (key candidate : String) : Option String → Prop
  | environment {value} :
    env candidate = .ok (some value) → value ≠ "" → Offers batch env key candidate (some value)
  | sibling {value} :
    Absent env candidate → candidate ≠ key →
    (batch.resolve env candidate).outcome = .ok (some value) → value ≠ "" →
    Offers batch env key candidate (some value)
  | storage {answer?} :
    Absent env candidate →
    (candidate ≠ key →
      ∃ value?, (batch.resolve env candidate).outcome = .ok value? ∧ nonEmpty value? = none) →
    batch.storage.retrieve candidate = .ok answer? →
    Offers batch env key candidate (nonEmpty answer?)

section

variable {batch : Batch} {env : Reader} {room : Nat} {chain : List String} {record : Record}
  {key candidate value : String} {found : Option String}

-- A sibling that resolves within others resolves to the same on its own, since both are what it
-- evaluates to and on its own it has at least as much room.
theorem resolveRecord_of_resolveWithin (hg : batch.get? key = some record)
    (hroom : room ≤ depthLimit)
    (h : (batch.resolveWithin env room chain record).outcome = .ok value) :
    (batch.resolveRecord env record).outcome = .ok value := by
  obtain ⟨e, he, _⟩ | ht := batch.evaluatesWithin_resolveWithin env room chain record
  case inl => simp [h] at he
  case inr =>
    obtain heq | ⟨_, _, hlt, _⟩ := (ht.mono hroom).resolveWithin_eq depthLimit
      (fits_of_get? hg) List.not_mem_nil TooDeep.nil
    case inl => rw [resolveRecord, heq, h]
    case inr => exact absurd hlt (Nat.lt_irrefl _)

-- The other way round, only the guard can keep it from that.
theorem comesTo_resolveWithin (room : Nat) (chain : List String)
    (h : (batch.resolveRecord env record).outcome = .ok value) :
    (batch.resolveWithin env room chain record).ComesTo (·.isGuard) value := by
  obtain hguard | ht := batch.evaluatesWithin_resolveWithin env room chain record
  case inl => exact .inl hguard
  case inr =>
    obtain ⟨events, hr⟩ := Traced.exists_eq_of_outcome h
    have heq := Evaluates.unique ⟨_, ht⟩ ⟨_, evaluatesWithin_of_resolveRecord hr⟩
    exact .inr (congrArg Traced.outcome heq)

-- A candidate has to give what the search comes to that resolves siblings on their own.
theorem offers_iff :
    batch.Offers env key candidate found ↔
      (batch.find env (batch.resolveRecord env) key candidate).outcome = .ok found := by
  constructor
  case mp =>
    intro h
    cases h with
    | environment he hne => exact congrArg Traced.outcome (find_environment he hne)
    | sibling ha hc hres hne =>
      obtain ⟨sibling, hg, hres⟩ := resolve_eq_some_iff.mp hres
      obtain ⟨events, ht⟩ := Traced.exists_eq_of_outcome hres
      have hs := sibling?_eq_some_iff.mpr ⟨hc, hg⟩
      exact congrArg Traced.outcome (find_sibling ha hs ht hne)
    | storage ha hsibling hanswer =>
      have hstorage : (batch.storage.retrieve candidate).map nonEmpty = .ok _ :=
        Traced.map_eq_ok_iff.mpr ⟨_, hanswer, rfl⟩
      cases hs : batch.sibling? key candidate with
      | none => exact (congrArg Traced.outcome (find_storage ha hs)).trans hstorage
      | some sibling =>
        obtain ⟨hc, hg⟩ := sibling?_eq_some_iff.mp hs
        obtain ⟨value?, hres, hempty⟩ := hsibling hc
        rw [outcome_resolve env hg] at hres
        obtain ⟨value, hvalue, rfl⟩ := Traced.map_eq_ok_iff.mp hres
        obtain rfl := nonEmpty_some_eq_none_iff.mp hempty
        obtain ⟨events, ht⟩ := Traced.exists_eq_of_outcome hvalue
        exact (congrArg Traced.outcome (find_siblingEmpty ha hs ht)).trans hstorage
  case mpr =>
    intro h
    have hf := finds batch env (batch.resolveRecord env) key candidate
    generalize batch.find env (batch.resolveRecord env) key candidate = t at h hf
    cases hf with
    | unreadable | siblingFails => cases h
    | environment he hne =>
      cases h
      exact .environment he hne
    | sibling ha hs hr hne =>
      cases h
      obtain ⟨hc, hg⟩ := sibling?_eq_some_iff.mp hs
      have hres := resolve_eq_some_iff.mpr ⟨_, hg, congrArg Traced.outcome hr⟩
      exact .sibling ha hc hres hne
    | siblingEmpty ha hs hr =>
      obtain ⟨answer?, hanswer, rfl⟩ := Traced.map_eq_ok_iff.mp h
      obtain ⟨hc, hg⟩ := sibling?_eq_some_iff.mp hs
      have hres := resolve_eq_some_iff.mpr ⟨_, hg, congrArg Traced.outcome hr⟩
      exact .storage ha (fun _ => ⟨some "", hres, rfl⟩) hanswer
    | storage ha hs =>
      obtain ⟨answer?, hanswer, rfl⟩ := Traced.map_eq_ok_iff.mp h
      refine .storage ha (fun hc => ⟨none, outcome_resolve_eq_none env ?_, rfl⟩) hanswer
      rwa [sibling?, if_neg hc] at hs

theorem resolveWithin_succ (hnew : record.key ∉ chain) :
    batch.resolveWithin env (room + 1) chain record =
      Template.expand
        (batch.find env (batch.resolveWithin env room (chain ++ [record.key])) record.key)
        (Template.segments record.template.toList) := by
  rw [resolveWithin, if_neg hnew]

theorem resolveRecord_eq (batch : Batch) (env : Reader) (record : Record) :
    batch.resolveRecord env record =
      Template.expand (batch.find env (batch.resolveWithin env 63 [record.key]) record.key)
        (Template.segments record.template.toList) := by
  have hnew : record.key ∉ [] := List.not_mem_nil
  exact resolveWithin_succ hnew

end

-- The value is made up of what the segments of the template contribute, in their order.
def Composes (batch : Batch) (env : Reader) (record : Record) (value : String) : Prop :=
  ∃ pieces, value = String.join pieces ∧
    List.Forall₂ (Template.Contributes (batch.Offers env record.key))
      (Template.segments record.template.toList) pieces

theorem composes_iff {batch : Batch} {env : Reader} {record : Record} {value : String} :
    batch.Composes env record value ↔
      (Template.expand (batch.find env (batch.resolveRecord env) record.key)
        (Template.segments record.template.toList)).outcome = .ok value := by
  have hoffers : batch.Offers env record.key = fun c found =>
      (batch.find env (batch.resolveRecord env) record.key c).outcome = .ok found :=
    funext fun _ => funext fun _ => propext offers_iff
  rw [Template.expand_eq_ok_iff, Composes, hoffers]

-- A record that resolves has the value that its template composes. The value that its template
-- composes is what it resolves to, unless the guard keeps it from that.
theorem resolveRecord_composes {σ : Type} [Variables σ] (batch : Batch) (env : σ) (record : Record)
    (value : String) :
    let reader := Variables.value? env
    let resolved := batch.resolveRecord reader record
    (resolved.outcome = .ok value → batch.Composes reader record value) ∧
      (batch.Composes reader record value → resolved.ComesTo (·.isGuard) value) := by
  intro reader resolved
  have heq : resolved = _ := resolveRecord_eq batch reader record
  rw [heq, composes_iff]
  constructor
  case left =>
    intro h
    have hroom : 63 ≤ depthLimit := by decide
    have hfind (c : String) : Carries (fun _ => False)
        (batch.find reader (batch.resolveWithin reader 63 [record.key]) record.key c)
        (batch.find reader (batch.resolveRecord reader) record.key c) :=
      (carries_lifting _).find (.refl _) rfl (fun sibling hg value hr =>
        .inr (resolveRecord_of_resolveWithin hg hroom hr)) (.refl _) _
    refine ((carries_lifting _).expand hfind _ value h).resolve_left ?_
    rintro ⟨_, _, hfalse⟩
    exact hfalse
  case right =>
    intro h
    have hfind (c : String) : Carries (·.isGuard)
        (batch.find reader (batch.resolveRecord reader) record.key c)
        (batch.find reader (batch.resolveWithin reader 63 [record.key]) record.key c) :=
      (carries_lifting _).find (.refl _) rfl (fun sibling _ value hr =>
        comesTo_resolveWithin 63 [record.key] hr) (.refl _) _
    exact (carries_lifting _).expand hfind _ value h

-- The variable `NAME` and the secret hold what would be placeholders in a template. `EMPTY` is a
-- sibling without a value.
theorem resolveRecord_composes_verbatim :
    let url : Record := ⟨"URL", "#\x7bUSER\x7d:#\x7b NONE || SECRET \x7d@#\x7bHOST\x7d"⟩
    let batch := ofEntries (.file "app." (.ofList [("app.SECRET", "#\x7bUSER\x7d || x")]))
      [(url.key, url.template), ("USER", "#\x7bEMPTY || NAME\x7d"), ("EMPTY", ""),
        ("HOST", "localhost")]
    let env := MemoryVariables.ofList [("NAME", "#\x7bHOST\x7d")]
    let value := "#\x7bHOST\x7d:#\x7bUSER\x7d || x@localhost"
    (batch.resolveRecord (Variables.value? env) url).outcome = .ok value ∧
      batch.Composes (Variables.value? env) url value := by
  intro url batch env value
  have hvalue : (batch.resolveRecord (Variables.value? env) url).outcome = .ok value := by
    decide +kernel
  exact ⟨hvalue, (resolveRecord_composes batch env url value).left hvalue⟩

end Batch

end EnvProvision
