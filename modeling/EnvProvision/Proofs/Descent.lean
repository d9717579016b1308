import EnvProvision.Proofs.Guard
import Mathlib.Data.List.Chain
import Mathlib.Data.List.Nodup

namespace EnvProvision

namespace Template

-- The candidates that a search gets to, because those before them have no value.
inductive Tries (find : String → Traced (Option String)) : List String → String → Prop
  | here {candidate rest} : Tries find (candidate :: rest) candidate
  | later {candidate rest name} :
    (find candidate).outcome = .ok none → Tries find rest name →
    Tries find (candidate :: rest) name

-- The candidates that the expansion of a text gets to, because all placeholders before theirs have
-- a value.
inductive Reaches (find : String → Traced (Option String)) : List Segment → String → Prop
  | literal {text rest name} : Reaches find rest name → Reaches find (.literal text :: rest) name
  | within {inner rest name} :
    Tries find (candidates inner) name → Reaches find (.reference inner :: rest) name
  | behind {inner rest name value} :
    (fill find inner).outcome = .ok value → Reaches find rest name →
    Reaches find (.reference inner :: rest) name

section

variable {find find' : String → Traced (Option String)} {names : List String} {name : String}
  {segments : List Segment} {e : Error}

theorem Tries.mem (h : Tries find names name) : name ∈ names := by
  induction h with
  | here => exact List.mem_cons_self
  | later _ _ ih => exact List.mem_cons_of_mem _ ih

theorem Reaches.mem_mentions (h : Reaches find segments name) : name ∈ mentions segments := by
  induction h with
  | literal _ ih => exact ih
  | within ht => exact List.mem_append_left _ ht.mem
  | behind _ _ ih => exact List.mem_append_right _ ih

theorem firstPresent_congr (h : ∀ name, Tries find names name → find' name = find name) :
    firstPresent find' names = firstPresent find names := by
  induction names with
  | nil => rfl
  | cons candidate rest ih =>
    have hhere : find' candidate = find candidate := h candidate .here
    simp only [firstPresent, hhere]
    cases hc : find candidate with | mk outcome events
    cases outcome with
    | error e => simp
    | ok value? =>
      cases value? with
      | some value => simp
      | none =>
        have hnone : (find candidate).outcome = .ok none := by simp [hc]
        have hrest := ih fun name ht => h name (.later hnone ht)
        simp [hrest]

theorem expand_congr (h : ∀ name, Reaches find segments name → find' name = find name) :
    expand find' segments = expand find segments := by
  induction segments with
  | nil => rfl
  | cons segment rest ih =>
    cases segment with
    | literal text =>
      have hrest := ih fun name hr => h name (.literal hr)
      simp [expand, hrest]
    | reference inner =>
      have hfill : fill find' inner = fill find inner := by
        have hfirst := firstPresent_congr fun name ht => h name (.within ht)
        simp [fill, hfirst]
      simp only [expand, hfill]
      cases hv : fill find inner with | mk outcome events
      cases outcome with
      | error e => simp
      | ok value =>
        have hvalue : (fill find inner).outcome = .ok value := by simp [hv]
        have hrest := ih fun name hr => h name (.behind hvalue hr)
        simp [hrest]

theorem exists_tries_of_error (h : (firstPresent find names).outcome = .error e) :
    ∃ name, Tries find names name ∧ (find name).outcome = .error e := by
  induction names with
  | nil => cases h
  | cons candidate rest ih =>
    obtain he | ⟨found, hc, he⟩ := Traced.bind_eq_error_iff.mp h
    case inl => exact ⟨candidate, .here, he⟩
    case inr =>
      cases found with
      | some value => cases he
      | none =>
        obtain ⟨name, ht, he⟩ := ih he
        exact ⟨name, .later hc ht, he⟩

theorem forall_of_firstPresent_none (h : (firstPresent find names).outcome = .ok none) :
    ∀ name ∈ names, (find name).outcome = .ok none := by
  induction names with
  | nil => simp
  | cons candidate rest ih =>
    obtain ⟨found, hc, hrest⟩ := Traced.bind_eq_ok_iff.mp h
    cases found with
    | some value => cases hrest
    | none => exact List.forall_mem_cons.mpr ⟨hc, ih hrest⟩

theorem error_of_fill {inner : List Char} (h : (fill find inner).outcome = .error e) :
    (e = .keyNotFound (String.ofList inner) ∧
      ∀ name ∈ candidates inner, (find name).outcome = .ok none) ∨
      ∃ name, Tries find (candidates inner) name ∧ (find name).outcome = .error e := by
  obtain he | ⟨found, hfirst, he⟩ := Traced.bind_eq_error_iff.mp h
  case inl => exact .inr (exists_tries_of_error he)
  case inr =>
    cases found with
    | some value => cases he
    | none =>
      obtain rfl : .keyNotFound (String.ofList inner) = e := by simpa [Traced.fail] using he
      exact .inl ⟨rfl, forall_of_firstPresent_none hfirst⟩

-- An expansion fails at a placeholder none of whose candidates has a value, or as the search for a
-- candidate that it gets to does.
theorem error_of_expand (h : (expand find segments).outcome = .error e) :
    (∃ inner, .reference inner ∈ segments ∧ e = .keyNotFound (String.ofList inner) ∧
      ∀ name ∈ candidates inner, (find name).outcome = .ok none) ∨
      ∃ name, Reaches find segments name ∧ (find name).outcome = .error e := by
  induction segments with
  | nil => cases h
  | cons segment rest ih =>
    cases segment with
    | literal text =>
      obtain hrest | ⟨_, _, htail⟩ := Traced.bind_eq_error_iff.mp h
      case inl =>
        obtain ⟨inner, hm, hk⟩ | ⟨name, hr, he⟩ := ih hrest
        case inl => exact .inl ⟨inner, List.mem_cons_of_mem _ hm, hk⟩
        case inr => exact .inr ⟨name, .literal hr, he⟩
      case inr => cases htail
    | reference inner =>
      obtain hfill | ⟨value, hvalue, h⟩ := Traced.bind_eq_error_iff.mp h
      case inl =>
        obtain hk | ⟨name, ht, he⟩ := error_of_fill hfill
        case inl => exact .inl ⟨inner, List.mem_cons_self, hk⟩
        case inr => exact .inr ⟨name, .within ht, he⟩
      case inr =>
        obtain hrest | ⟨_, _, htail⟩ := Traced.bind_eq_error_iff.mp h
        case inl =>
          obtain ⟨inner, hm, hk⟩ | ⟨name, hr, he⟩ := ih hrest
          case inl => exact .inl ⟨inner, List.mem_cons_of_mem _ hm, hk⟩
          case inr => exact .inr ⟨name, .behind hvalue hr, he⟩
        case inr => cases htail

end

end Template

namespace Batch

section

variable {batch : Batch} {env : Reader} {resolve resolve' : Record → Traced String}
  {current candidate : String} {e : Error}

-- A search resolves no record but the sibling of that name, and only if the environment has no
-- value for it.
theorem find_congr
    (h : ∀ sibling, Absent env candidate → batch.sibling? current candidate = some sibling →
      resolve' sibling = resolve sibling) :
    batch.find env resolve' current candidate = batch.find env resolve current candidate := by
  cases he : env candidate with
  | error e => simp [find_unreadable he]
  | ok value? =>
    cases hv : nonEmpty value? with
    | some value =>
      obtain ⟨rfl, hne⟩ := nonEmpty_eq_some_iff.mp hv
      simp [find_environment he hne]
    | none =>
      have ha : Absent env candidate := ⟨value?, he, hv⟩
      cases hs : batch.sibling? current candidate with
      | none => simp [find_storage ha hs]
      | some sibling =>
        obtain ⟨hc, hg⟩ := sibling?_eq_some_iff.mp hs
        simp [find_of_absent ha, fromSibling, hc, hg, h sibling ha hs]

theorem error_of_find (h : (batch.find env resolve current candidate).outcome = .error e) :
    env candidate = .error e ∨ batch.storage.retrieve candidate = .error e ∨
      ∃ sibling, Absent env candidate ∧ batch.sibling? current candidate = some sibling ∧
        (resolve sibling).outcome = .error e := by
  have hstorage (hr : ((batch.storage.retrieve candidate).map nonEmpty) = .error e) :
      batch.storage.retrieve candidate = .error e := by
    cases hv : batch.storage.retrieve candidate <;> simp_all [Except.map]
  have hf := finds batch env resolve current candidate
  generalize batch.find env resolve current candidate = t at h hf
  cases hf with
  | unreadable he => exact .inl (by simpa [he] using h)
  | environment | sibling => cases h
  | siblingFails ha hs hr => exact .inr (.inr ⟨_, ha, hs, by simpa [hr] using h⟩)
  | siblingEmpty | storage => exact .inr (.inl (hstorage h))

end

-- Resolve a record below the keys of a chain, where `resolve` resolves its siblings.
def resolveBy (batch : Batch) (env : Reader) (resolve : List String → Record → Traced String)
    (chain : List String) (record : Record) : Traced String :=
  if record.key ∈ chain then .fail (.cyclicReference (chain ++ [record.key]))
  else if depthLimit ≤ chain.length then .fail (.referenceDepthExceeded record.key depthLimit)
  else
    Template.expand (batch.find env (resolve (chain ++ [record.key])) record.key)
      (Template.segments record.template.toList)

-- Resolve a record below the keys of a chain, with the room that they leave.
def resolveBelow (batch : Batch) (env : Reader) (chain : List String) (record : Record) :
    Traced String :=
  batch.resolveWithin env (depthLimit - chain.length) chain record

theorem resolveBelow_eq (batch : Batch) (env : Reader) (chain : List String) (record : Record) :
    batch.resolveBelow env chain record =
      batch.resolveBy env (batch.resolveBelow env) chain record := by
  have hroom : depthLimit - (chain ++ [record.key]).length = depthLimit - chain.length - 1 := by
    simp only [List.length_append, List.length_singleton]
    omega
  unfold resolveBy resolveBelow
  rw [hroom]
  cases hr : depthLimit - chain.length with
  | zero =>
    have hfull : depthLimit ≤ chain.length := by omega
    simp [resolveWithin, hfull]
  | succ room =>
    have hfull : ¬depthLimit ≤ chain.length := by omega
    simp only [resolveWithin, if_neg hfull, Nat.add_sub_cancel]

-- The resolution of a record below a chain goes on to a sibling.
structure Descends (batch : Batch) (env : Reader) (chain : List String)
    (record sibling : Record) : Prop where
  new : record.key ∉ chain
  room : chain.length < depthLimit
  reaches :
    Template.Reaches
      (batch.find env (batch.resolveBelow env (chain ++ [record.key])) record.key)
      (Template.segments record.template.toList) sibling.key
  absent : Absent env sibling.key
  sibling : batch.sibling? record.key sibling.key = some sibling

-- The points that the resolution of `top` gets to. At each it resolves a record, and is expanding
-- the records above it, each within the one before.
inductive Visits (batch : Batch) (env : Reader) (top : Record) : List Record → Record → Prop
  | top : Visits batch env top [] top
  | sibling {above record sibling} :
    Visits batch env top above record →
    batch.Descends env (above.map Record.key) record sibling →
    Visits batch env top (above ++ [record]) sibling

-- Records that can be under expansion at once, each within the one before.
structure Nested (batch : Batch) (records : List Record) : Prop where
  distinct : (records.map Record.key).Nodup
  length_le : records.length ≤ depthLimit
  stored : ∀ r ∈ records.tail, batch.get? r.key = some r

-- Each record refers to the next one, first of all `top`. All but `top` are records of the batch,
-- and their variables have no value that counts.
structure References (batch : Batch) (env : Reader) (top : Record) (path : List Record) :
    Prop where
  refers : List.IsChain (fun r s => s.key ∈ r.mentions) (top :: path)
  absent : ∀ r ∈ path, Absent env r.key
  stored : ∀ r ∈ path, batch.get? r.key = some r

-- The guard stops the resolution of a record below a chain.
inductive Rejects (chain : List String) (record : Record) : Error → Prop
  | cycle : record.key ∈ chain → Rejects chain record (.cyclicReference (chain ++ [record.key]))
  | depth :
    record.key ∉ chain → depthLimit ≤ chain.length →
    Rejects chain record (.referenceDepthExceeded record.key depthLimit)

section Descends

variable {batch : Batch} {env : Reader} {chain : List String} {record sibling : Record}

theorem Descends.mem_mentions (h : batch.Descends env chain record sibling) :
    sibling.key ∈ record.mentions :=
  h.reaches.mem_mentions

theorem Descends.ne (h : batch.Descends env chain record sibling) : sibling.key ≠ record.key :=
  (sibling?_eq_some_iff.mp h.sibling).left

theorem Descends.stored (h : batch.Descends env chain record sibling) :
    batch.get? sibling.key = some sibling :=
  (sibling?_eq_some_iff.mp h.sibling).right

theorem descends_of_reaches {name : String} (hnew : record.key ∉ chain)
    (hroom : chain.length < depthLimit)
    (hr : Template.Reaches
      (batch.find env (batch.resolveBelow env (chain ++ [record.key])) record.key)
      (Template.segments record.template.toList) name)
    (ha : Absent env name) (hs : batch.sibling? record.key name = some sibling) :
    batch.Descends env chain record sibling := by
  obtain ⟨_, hg⟩ := sibling?_eq_some_iff.mp hs
  obtain rfl := key_of_get? hg
  exact ⟨hnew, hroom, hr, ha, hs⟩

-- The resolution of a record is determined by that of the siblings that it goes on to.
theorem resolveBy_congr {resolve : List String → Record → Traced String}
    (h : ∀ sibling, batch.Descends env chain record sibling →
      resolve (chain ++ [record.key]) sibling =
        batch.resolveBelow env (chain ++ [record.key]) sibling) :
    batch.resolveBy env resolve chain record = batch.resolveBelow env chain record := by
  rw [resolveBelow_eq]
  unfold resolveBy
  split
  case isTrue => rfl
  case isFalse hnew =>
    split
    case isTrue => rfl
    case isFalse hroom =>
      have hroom : chain.length < depthLimit := by omega
      apply Template.expand_congr
      intro name hr
      apply find_congr
      intro s ha hs
      exact h s (descends_of_reaches hnew hroom hr ha hs)

-- A resolution fails as its guard or its search does, or as that of a sibling.
theorem error_of_resolveBelow {e : Error}
    (h : (batch.resolveBelow env chain record).outcome = .error e) :
    Rejects chain record e ∨ e.isKeyNotFound ∨ (∃ name, env name = .error e) ∨
      (∃ key, batch.storage.retrieve key = .error e) ∨
      ∃ sibling, batch.Descends env chain record sibling ∧
        (batch.resolveBelow env (chain ++ [record.key]) sibling).outcome = .error e := by
  rw [resolveBelow_eq] at h
  unfold resolveBy at h
  split at h
  case isTrue hmem =>
    cases h
    exact .inl (.cycle hmem)
  case isFalse hnew =>
    split at h
    case isTrue hfull =>
      cases h
      exact .inl (.depth hnew hfull)
    case isFalse hroom =>
      have hroom : chain.length < depthLimit := by omega
      obtain ⟨_, _, rfl, _⟩ | ⟨name, hr, he⟩ := Template.error_of_expand h
      case inl => exact .inr (.inl rfl)
      case inr =>
        obtain he | he | ⟨s, ha, hs, he⟩ := error_of_find he
        case inl => exact .inr (.inr (.inl ⟨name, he⟩))
        case inr.inl => exact .inr (.inr (.inr (.inl ⟨name, he⟩)))
        case inr.inr =>
          have hd := descends_of_reaches hnew hroom hr ha hs
          exact .inr (.inr (.inr (.inr ⟨s, hd, he⟩)))

end Descends

namespace Nested

variable {batch : Batch} {env : Reader} {above : List Record} {record sibling : Record}

theorem nil (batch : Batch) : batch.Nested [] :=
  ⟨List.nodup_nil, Nat.zero_le _, by simp⟩

theorem nodup_append (h : batch.Nested above) (hnew : record.key ∉ above.map Record.key) :
    ((above ++ [record]).map Record.key).Nodup := by
  simpa using h.distinct.concat hnew

theorem append (h : batch.Nested above) (hnew : record.key ∉ above.map Record.key)
    (hroom : above.length < depthLimit)
    (hs : above ≠ [] → batch.get? record.key = some record) :
    batch.Nested (above ++ [record]) where
  distinct := h.nodup_append hnew
  length_le := by simp; omega
  stored := by
    cases above with
    | nil => simp
    | cons first rest =>
      have hrecord : batch.get? record.key = some record := hs (by simp)
      exact List.forall_mem_append.mpr ⟨h.stored, by simpa using hrecord⟩

end Nested

namespace Visits

variable {batch : Batch} {env : Reader} {top : Record} {above : List Record} {record : Record}

theorem stored (h : batch.Visits env top above record) (hne : above ≠ []) :
    batch.get? record.key = some record := by
  cases h with
  | top => simp at hne
  | sibling _ hd => exact hd.stored

theorem nested (h : batch.Visits env top above record) : batch.Nested above := by
  induction h with
  | top => exact .nil batch
  | @sibling above record s hv hd ih =>
    have hroom : above.length < depthLimit := by simpa using hd.room
    exact ih.append hd.new hroom hv.stored

theorem path (h : batch.Visits env top above record) :
    ∃ path, above ++ [record] = top :: path ∧ batch.References env top path := by
  induction h with
  | top => exact ⟨[], rfl, by simp, by simp, by simp⟩
  | @sibling above record s _ hd ih =>
    obtain ⟨path, heq, hp⟩ := ih
    have habsent : Absent env s.key := hd.absent
    have hstored : batch.get? s.key = some s := hd.stored
    refine ⟨path ++ [s], by simp [heq], ?refers, ?absent, ?stored⟩
    case refers =>
      have hlast : (top :: path).getLast? = some record := by simp [← heq]
      have hmem : s.key ∈ record.mentions := hd.mem_mentions
      rw [← List.cons_append, List.isChain_append]
      simp [hp.refers, hlast, hmem]
    case absent => exact List.forall_mem_append.mpr ⟨hp.absent, by simpa using habsent⟩
    case stored => exact List.forall_mem_append.mpr ⟨hp.stored, by simpa using hstored⟩

end Visits

section Visits

variable {batch : Batch} {env : Reader} {top : Record} {above : List Record} {record : Record}

-- There is one function that resolves records by the guard and the search, as long as this is asked
-- only of the points that the resolution gets to.
theorem Visits.resolve_eq {resolve : List String → Record → Traced String}
    (h : ∀ above record, batch.Visits env top above record →
      resolve (above.map Record.key) record =
        batch.resolveBy env resolve (above.map Record.key) record)
    (hv : batch.Visits env top above record) :
    resolve (above.map Record.key) record =
      batch.resolveBelow env (above.map Record.key) record := by
  induction hn : depthLimit - above.length using Nat.strongRecOn generalizing above record with
  | ind n ih =>
    rw [h above record hv]
    apply resolveBy_congr
    intro sibling hd
    have hroom : above.length < depthLimit := by simpa using hd.room
    have hlt : depthLimit - (above ++ [record]).length < n := by simp; omega
    simpa using ih _ hlt (hv.sibling hd) rfl

-- If an error of the guard ends a resolution, the guard stops it at a point that it gets to.
theorem Visits.exists_rejects {σ : Type} [Variables σ] [LawfulVariables σ] {env : σ} {e : Error}
    [LawfulStorage batch.storage]
    (hv : batch.Visits (Variables.value? env) top above record) (he : e.isGuard)
    (h : (batch.resolveBelow (Variables.value? env) (above.map Record.key) record).outcome =
      .error e) :
    ∃ above record, batch.Visits (Variables.value? env) top above record ∧
      Rejects (above.map Record.key) record e := by
  induction hn : depthLimit - above.length using Nat.strongRecOn generalizing above record with
  | ind n ih =>
    obtain hr | hk | ⟨name, hname⟩ | ⟨key, hkey⟩ | ⟨sibling, hd, hs⟩ := error_of_resolveBelow h
    case inl => exact ⟨above, record, hv, hr⟩
    case inr.inl => cases e <;> simp [Error.isKeyNotFound, Error.isGuard] at hk he
    case inr.inr.inl =>
      obtain ⟨fault, rfl⟩ := LawfulVariables.error_of_value? hname
      simp [Error.isGuard] at he
    case inr.inr.inr.inl =>
      obtain ⟨_, _, _, _, rfl⟩ := LawfulStorage.error_of_retrieve hkey
      simp [Error.isGuard] at he
    case inr.inr.inr.inr =>
      have hroom : above.length < depthLimit := by simpa using hd.room
      have hlt : depthLimit - (above ++ [record]).length < n := by simp; omega
      exact ih _ hlt (hv.sibling hd) (by simpa using hs) rfl

end Visits

end Batch

end EnvProvision
