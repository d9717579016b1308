import EnvProvision.Proofs.Evaluation
import EnvProvision.Proofs.Lawful
import EnvProvision.Proofs.Records
import Mathlib.Control.Monad.Basic

namespace EnvProvision

open Traced (FailsWith)

namespace Error

def isGuard : Error → Bool
  | cyclicReference _ | referenceDepthExceeded .. => true
  | _ => false

end Error

namespace Batch

-- The record is one of the batch, or its key is none of the batch.
def Fits (batch : Batch) (record : Record) : Prop :=
  ∀ found, batch.get? record.key = some found → found = record

theorem fits_of_get? {batch : Batch} {key : String} {record : Record}
    (h : batch.get? key = some record) : batch.Fits record := by
  intro found hf
  rw [key_of_get? h, h] at hf
  exact (Option.some.inj hf).symm

theorem mem_records_of_sibling? {batch : Batch} {current candidate : String} {record : Record}
    (h : batch.sibling? current candidate = some record) : record ∈ batch.records := by
  obtain ⟨_, hg⟩ := sibling?_eq_some_iff.mp h
  rw [mem_records_iff, key_of_get? hg]
  exact hg

section Sound

variable {batch : Batch} {env : Reader}

theorem evaluatesWithin_resolveWithin (batch : Batch) (env : Reader) (room : Nat)
    (chain : List String) (record : Record) :
    FailsWith (·.isGuard) (batch.resolveWithin env room chain record) ∨
      batch.EvaluatesWithin env room record (batch.resolveWithin env room chain record) := by
  induction room generalizing chain record with
  | zero =>
    unfold resolveWithin
    split <;> exact .inl ⟨_, rfl, rfl⟩
  | succ room ih =>
    unfold resolveWithin
    split
    case isTrue => exact .inl ⟨_, rfl, rfl⟩
    case isFalse => exact Template.expands_expand fun c _ => finds_find fun r _ => ih ..

theorem evaluatesWithin_of_resolveRecord {record : Record} {value : String} {events : List Event}
    (h : batch.resolveRecord env record = ⟨.ok value, events⟩) :
    batch.EvaluatesWithin env depthLimit record ⟨.ok value, events⟩ := by
  have hres := batch.evaluatesWithin_resolveWithin env depthLimit [] record
  rw [← resolveRecord, h] at hres
  exact hres.resolve_left Traced.not_failsWith_ok

end Sound

-- No record of the chain evaluates with siblings nested at most `n` deep.
def TooDeep (batch : Batch) (env : Reader) (n : Nat) (chain : List String) : Prop :=
  ∀ key ∈ chain, ∀ record t, batch.get? key = some record → ¬batch.EvaluatesWithin env n record t

namespace TooDeep

variable {batch : Batch} {env : Reader} {m n : Nat} {chain : List String} {record : Record}

theorem nil : batch.TooDeep env n [] :=
  fun _ h => nomatch h

theorem of_le (h : batch.TooDeep env n chain) (hle : m ≤ n) : batch.TooDeep env m chain :=
  fun key hk record t hg ht => h key hk record t hg (ht.mono hle)

theorem append (h : batch.TooDeep env n chain) (hfit : batch.Fits record)
    (hr : ∀ t, ¬batch.EvaluatesWithin env n record t) :
    batch.TooDeep env n (chain ++ [record.key]) := by
  intro key hk found t hg ht
  rw [List.mem_append, List.mem_singleton] at hk
  obtain hk | rfl := hk
  case inl => exact h key hk found t hg ht
  case inr =>
    rw [hfit found hg] at ht
    exact hr t ht

theorem notMem {t : Traced String} (h : batch.TooDeep env n chain)
    (hg : batch.get? record.key = some record) (ht : batch.EvaluatesWithin env n record t) :
    record.key ∉ chain :=
  fun hk => h _ hk _ _ hg ht

end TooDeep

namespace EvaluatesWithin

variable {batch : Batch} {env : Reader} {record : Record} {t : Traced String} {n : Nat}

-- A record of the chain is too deep to evaluate where the next record does, so the next record is
-- not one of them. `n` has to be the least nesting for this to go on to the next record.
theorem resolveWithin_eq (room : Nat) {chain : List String}
    (h : batch.EvaluatesWithin env n record t) (hfit : batch.Fits record)
    (hnew : record.key ∉ chain) (hdeep : batch.TooDeep env n chain) :
    batch.resolveWithin env room chain record = t ∨
      FailsWith (fun e => room < n ∧ ∃ key, e = .referenceDepthExceeded key depthLimit)
        (batch.resolveWithin env room chain record) := by
  induction n using Nat.strongRecOn generalizing room chain record t with | ind n ih
  by_cases hleast : ∃ m < n, ∃ t, batch.EvaluatesWithin env m record t
  case pos =>
    obtain ⟨m, hlt, t', hm⟩ := hleast
    have hle := Nat.le_of_lt hlt
    obtain rfl := h.unique (hm.mono hle)
    obtain heq | ⟨e, he, hr, hd⟩ := ih m hlt room hm hfit hnew (hdeep.of_le hle)
    case inl => exact .inl heq
    case inr => exact .inr ⟨e, he, Nat.lt_trans hr hlt, hd⟩
  case neg =>
    unfold resolveWithin
    rw [if_neg hnew]
    cases n with
    | zero => exact h.elim
    | succ n =>
      cases room with
      | zero => exact .inr ⟨_, rfl, Nat.succ_pos n, _, rfl⟩
      | succ room =>
        have hlt := Nat.lt_succ_self n
        have hdeep' := (hdeep.of_le (Nat.le_of_lt hlt)).append hfit
          fun t ht => hleast ⟨n, hlt, t, ht⟩
        refine Template.Expands.expand_eq h fun c t hc => hc.find_eq fun r t hs ht => ?_
        obtain ⟨_, hg⟩ := sibling?_eq_some_iff.mp hs
        obtain rfl := key_of_get? hg
        obtain heq | ⟨e, he, hr, hd⟩ :=
          ih n hlt room ht (fits_of_get? hg) (hdeep'.notMem hg ht) hdeep'
        case inl => exact .inl heq
        case inr => exact .inr ⟨e, he, Nat.succ_lt_succ hr, hd⟩

-- An evaluation brings up no failures but those of its readers and that of finding nothing.
theorem not_failsWith {P : Error → Prop} (hmissing : ∀ reference, ¬P (.keyNotFound reference))
    (hread : ∀ name e, env name = .error e → ¬P e)
    (hretrieve : ∀ key e, batch.storage.retrieve key = .error e → ¬P e)
    (h : batch.EvaluatesWithin env n record t) : ¬t.FailsWith P := by
  induction n generalizing record t with
  | zero => exact h.elim
  | succ n ih =>
    refine Template.Expands.not_failsWith h hmissing fun c t hc => ?_
    cases hc with
    | unreadable he => simpa using hread _ _ he
    | environment | sibling => exact Traced.not_failsWith_ok
    | siblingFails _ _ hs => simpa using ih hs
    | siblingEmpty | storage =>
      rw [Traced.failsWith_map]
      rintro ⟨e, he, hp⟩
      exact hretrieve _ _ he hp

theorem not_isGuard {σ : Type} [Variables σ] [LawfulVariables σ] {env : σ}
    [LawfulStorage batch.storage]
    (h : batch.EvaluatesWithin (Variables.value? env) n record t) :
    ¬t.FailsWith (·.isGuard) := by
  refine h.not_failsWith (fun _ => Bool.false_ne_true) (fun name e he => ?_) fun key e he => ?_
  · obtain ⟨fault, rfl⟩ := LawfulVariables.error_of_value? he
    exact Bool.false_ne_true
  · obtain ⟨_, _, _, _, rfl⟩ := LawfulStorage.error_of_retrieve he
    exact Bool.false_ne_true

end EvaluatesWithin

instance (storage : Storage) [LawfulStorage storage] (entries : List (String × String)) :
    LawfulStorage (ofEntries storage entries).storage := by
  rw [storage_ofEntries]
  infer_instance

-- `rank` falls from each record to the siblings that it mentions.
theorem exists_evaluatesWithin {batch : Batch} {env : Reader} {record : Record}
    {rank : Record → Nat}
    (hrank : ∀ r ∈ record :: batch.records, ∀ c ∈ r.mentions, ∀ s ∈ batch.sibling? r.key c,
      rank s < rank r) {n : Nat} (h : rank record < n) :
    ∃ t, batch.EvaluatesWithin env n record t := by
  induction n generalizing record with
  | zero => exact absurd h (Nat.not_lt_zero _)
  | succ n ih =>
    have : Nonempty (Traced String) := ⟨⟨.ok "", []⟩⟩
    let resolve (r : Record) : Traced String := Classical.epsilon (batch.EvaluatesWithin env n r)
    have hresolve (c) (hc : c ∈ record.mentions) (s) (hs : batch.sibling? record.key c = some s) :
        batch.EvaluatesWithin env n s (resolve s) := by
      have hlt := hrank record List.mem_cons_self c hc s hs
      have hsub : s :: batch.records ⊆ record :: batch.records :=
        List.cons_subset.mpr
          ⟨List.mem_cons_of_mem _ (mem_records_of_sibling? hs), List.subset_cons_self ..⟩
      exact Classical.epsilon_spec <|
        ih (fun r hr => hrank r (hsub hr)) (Nat.lt_of_lt_of_le hlt (Nat.le_of_lt_succ h))
    have hfind (c) (hc : c ∈ record.mentions) :
        FailsWith (fun _ => False) (batch.find env resolve record.key c) ∨ _ :=
      finds_find fun s hs => .inr (hresolve c hc s hs)
    exact ⟨_, (Template.expands_expand hfind).resolve_left fun ⟨_, _, h⟩ => h⟩

section Refinement

variable {σ : Type} [Variables σ]

-- Where the guard stops nothing, a record resolves to what it evaluates to, trace included, and to
-- nothing else. Over variables and storage that bring up no errors of the guard themselves, it
-- stops nothing if the records have ranks below the limit that fall along references.
theorem resolveRecord_refines_evaluation (batch : Batch) (env : σ) (record : Record)
    (hfit : batch.Fits record) :
    let resolved := batch.resolveRecord (Variables.value? env) record
    (¬resolved.FailsWith (·.isGuard) →
      ∀ t, batch.Evaluates (Variables.value? env) record t ↔ t = resolved) ∧
    (LawfulVariables σ → LawfulStorage batch.storage → ∀ rank : Record → Nat,
      (∀ r ∈ record :: batch.records, ∀ c ∈ r.mentions, ∀ s ∈ batch.sibling? r.key c,
        rank s < rank r) →
      rank record < 64 → ¬resolved.FailsWith (·.isGuard)) := by
  constructor
  · intro hguard t
    have hres := (evaluatesWithin_resolveWithin ..).resolve_left hguard
    constructor
    · intro ht
      exact ht.unique ⟨_, hres⟩
    · rintro rfl
      exact ⟨_, hres⟩
  · intro _ _ rank hrank hlt
    have ⟨t, ht⟩ : ∃ t, batch.EvaluatesWithin (Variables.value? env) 64 record t :=
      exists_evaluatesWithin hrank hlt
    obtain heq | ⟨_, _, hroom, _⟩ :=
      ht.resolveWithin_eq depthLimit hfit List.not_mem_nil TooDeep.nil
    case inl =>
      unfold resolveRecord
      rw [heq]
      exact ht.not_isGuard
    case inr => exact absurd hroom (Nat.lt_irrefl _)

-- Two records that share a third one, which reads the storage under its own name.
def diamond : Batch :=
  .ofEntries (.remote "" (.sealed [("D", some "s3cret"), ("Z", none)]))
    [("A", "#\x7bB\x7d #\x7bC\x7d"), ("B", "#\x7bD\x7d"), ("C", "#\x7bZ || D\x7d"),
      ("D", "#\x7bD\x7d")]

def diamond.top : Record :=
  ⟨"A", "#\x7bB\x7d #\x7bC\x7d"⟩

def diamond.rank (record : Record) : Nat :=
  if record.key = "A" then 2 else if record.key = "D" then 0 else 1

theorem diamond_refines_evaluation :
    diamond.Fits diamond.top ∧
      diamond.Evaluates (Variables.value? (MemoryVariables.ofList [])) diamond.top
        (diamond.resolveRecord (Variables.value? (MemoryVariables.ofList [])) diamond.top) ∧
      (diamond.resolveRecord (Variables.value? (MemoryVariables.ofList [])) diamond.top).outcome =
        .ok "s3cret s3cret" := by
  have hfit : diamond.Fits diamond.top := fits_of_get? (by decide +kernel : diamond.get? "A" = _)
  have href := resolveRecord_refines_evaluation diamond (MemoryVariables.ofList []) diamond.top hfit
  have hstorage : LawfulStorage diamond.storage :=
    inferInstanceAs (LawfulStorage (ofEntries ..).storage)
  have hguard := href.2 inferInstance hstorage diamond.rank (by decide +kernel) (by decide)
  exact ⟨hfit, (href.1 hguard _).mpr rfl, by decide +kernel⟩

end Refinement

end Batch

end EnvProvision
