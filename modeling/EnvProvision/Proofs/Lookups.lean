import EnvProvision.Proofs.Descent
import EnvProvision.Proofs.Emptiness
import Mathlib.Logic.Relation

namespace EnvProvision

theorem Traced.mem_lookups_iff {kind : StorageKind} {events : List Event} {key : String} :
    key ∈ lookups kind events ↔ ∃ found, .lookup kind key found ∈ events := by
  rw [lookups, List.mem_filterMap]
  constructor
  case mp =>
    rintro ⟨event, hm, hkey⟩
    split at hkey
    case h_1 asked _ found =>
      split at hkey
      case isTrue heq =>
        cases hkey
        subst heq
        exact ⟨found, hm⟩
      case isFalse => cases hkey
    case h_2 => cases hkey
  case mpr =>
    rintro ⟨found, hm⟩
    exact ⟨_, hm, if_pos rfl⟩

namespace Template

variable {find : String → Traced (Option String)} {names : List String} {name : String}
  {segments : List Segment} {event : Event}

theorem Tries.exists_append (h : Tries find names name) :
    ∃ before after, names = before ++ name :: after ∧
      ∀ c ∈ before, (find c).outcome = .ok none := by
  induction h with
  | here => exact ⟨[], _, rfl, by simp⟩
  | later hnone _ ih =>
    obtain ⟨before, after, rfl, hbefore⟩ := ih
    exact ⟨_ :: before, after, rfl, List.forall_mem_cons.mpr ⟨hnone, hbefore⟩⟩

theorem Reaches.exists_reference (h : Reaches find segments name) :
    ∃ inner before after, .reference inner ∈ segments ∧
      candidates inner = before ++ name :: after ∧ ∀ c ∈ before, (find c).outcome = .ok none := by
  induction h with
  | literal _ ih | behind _ _ ih =>
    obtain ⟨inner, before, after, hm, hsplit⟩ := ih
    exact ⟨inner, before, after, List.mem_cons_of_mem _ hm, hsplit⟩
  | within ht =>
    obtain ⟨before, after, hsplit⟩ := ht.exists_append
    exact ⟨_, before, after, List.mem_cons_self, hsplit⟩

theorem exists_tries_of_mem_events (h : event ∈ (firstPresent find names).events) :
    ∃ name, Tries find names name ∧ event ∈ (find name).events := by
  induction names with
  | nil => simp [firstPresent] at h
  | cons candidate rest ih =>
    obtain hm | ⟨found, hc, hm⟩ := Traced.mem_events_bind h
    case inl => exact ⟨candidate, .here, hm⟩
    case inr =>
      cases found with
      | some value => simp at hm
      | none =>
        obtain ⟨name, ht, hm⟩ := ih hm
        exact ⟨name, .later hc ht, hm⟩

theorem exists_tries_of_mem_events_fill {inner : List Char}
    (h : event ∈ (fill find inner).events) :
    ∃ name, Tries find (candidates inner) name ∧ event ∈ (find name).events := by
  obtain hm | ⟨found, _, hm⟩ := Traced.mem_events_bind h
  case inl => exact exists_tries_of_mem_events hm
  case inr => cases found <;> simp [Traced.fail] at hm

-- All that happens in an expansion happens in the search for a candidate that it gets to.
theorem exists_reaches_of_mem_events (h : event ∈ (expand find segments).events) :
    ∃ name, Reaches find segments name ∧ event ∈ (find name).events := by
  induction segments with
  | nil => simp [expand] at h
  | cons segment rest ih =>
    cases segment with
    | literal text =>
      rw [expand_literal] at h
      obtain ⟨name, hr, hm⟩ := ih h
      exact ⟨name, .literal hr, hm⟩
    | reference inner =>
      obtain hm | ⟨value, hvalue, hm⟩ := Traced.mem_events_bind h
      case inl =>
        obtain ⟨name, ht, hm⟩ := exists_tries_of_mem_events_fill hm
        exact ⟨name, .within ht, hm⟩
      case inr =>
        obtain hm | ⟨_, _, hm⟩ := Traced.mem_events_bind hm
        case inl =>
          obtain ⟨name, hr, hm⟩ := ih hm
          exact ⟨name, .behind hvalue hr, hm⟩
        case inr => simp at hm

end Template

namespace Batch

-- Within the record of a key, neither the environment nor another record has a value for the name.
structure Unsupplied (batch : Batch) (env : Reader) (key name : String) : Prop where
  environment : Absent env name
  sibling : name = key ∨ batch.get? name = none ∨
    ∃ record, batch.get? name = some record ∧ record.template = ""

-- Nor has the storage.
structure Missing (batch : Batch) (env : Reader) (key name : String) : Prop
    extends Unsupplied batch env key name where
  storage : ∃ answer?, batch.storage.retrieve name = .ok answer? ∧ nonEmpty answer? = none

-- It is the turn of the name in a placeholder of the record: no candidate before it has a value.
inductive Due (batch : Batch) (env : Reader) (record : Record) (name : String) : Prop
  | intro {inner before after} :
    .reference inner ∈ Template.segments record.template.toList →
    Template.candidates inner = before ++ name :: after →
    (∀ c ∈ before, batch.Missing env record.key c) → Due batch env record name

-- It is the turn of the sibling's name in the record, and the environment has no value for it.
structure RefersTo (batch : Batch) (env : Reader) (record sibling : Record) : Prop where
  due : batch.Due env record sibling.key
  absent : Absent env sibling.key
  sibling : batch.sibling? record.key sibling.key = some sibling

variable {batch : Batch} {env : Reader} {room : Nat} {chain : List String}
  {record sibling : Record} {key name asked : String} {kind : StorageKind} {found : Option Bool}

theorem refersTo_of_sibling? (hd : batch.Due env record name) (ha : Absent env name)
    (hs : batch.sibling? record.key name = some sibling) : batch.RefersTo env record sibling := by
  obtain ⟨_, hg⟩ := sibling?_eq_some_iff.mp hs
  obtain rfl := key_of_get? hg
  exact ⟨hd, ha, hs⟩

theorem unsupplied_of_sibling? (ha : Absent env name)
    (hs : ∀ sibling, batch.sibling? key name = some sibling → sibling.template = "") :
    batch.Unsupplied env key name := by
  refine ⟨ha, ?_⟩
  by_cases hc : name = key
  case pos => exact .inl hc
  case neg =>
    cases hg : batch.get? name with
    | none => exact .inr (.inl rfl)
    | some sibling =>
      have hempty := hs sibling (sibling?_eq_some_iff.mpr ⟨hc, hg⟩)
      exact .inr (.inr ⟨sibling, rfl, hempty⟩)

theorem unsupplied_of_siblingEmpty {events : List Event} (ha : Absent env name)
    (hs : batch.sibling? key name = some sibling)
    (hr : batch.resolveWithin env room chain sibling = ⟨.ok "", events⟩) :
    batch.Unsupplied env key name := by
  apply unsupplied_of_sibling? ha
  intro found hfound
  obtain rfl := Option.some.inj (hs.symm.trans hfound)
  exact (eq_empty_iff_of_resolveWithin (congrArg Traced.outcome hr)).mp rfl

theorem missing_of_find
    (h : (batch.find env (batch.resolveWithin env room chain) key name).outcome = .ok none) :
    batch.Missing env key name := by
  have hf := finds batch env (batch.resolveWithin env room chain) key name
  generalize batch.find env (batch.resolveWithin env room chain) key name = t at h hf
  cases hf with
  | unreadable | environment | sibling | siblingFails => cases h
  | siblingEmpty ha hs hr =>
    have hu := unsupplied_of_siblingEmpty ha hs hr
    exact { hu with storage := Traced.map_eq_ok_iff.mp h }
  | storage ha hs =>
    have hu : batch.Unsupplied env key name := unsupplied_of_sibling? ha (by simp [hs])
    exact { hu with storage := Traced.map_eq_ok_iff.mp h }

theorem due_of_reaches
    (h : Template.Reaches (batch.find env (batch.resolveWithin env room chain) record.key)
      (Template.segments record.template.toList) name) : batch.Due env record name := by
  obtain ⟨inner, before, after, hinner, hsplit, hbefore⟩ := h.exists_reference
  exact .intro hinner hsplit fun c hc => missing_of_find (hbefore c hc)

-- The lookups of a search are those of a sibling, and the one for the candidate itself.
theorem lookup_of_find
    (h : .lookup kind asked found ∈
      (batch.find env (batch.resolveWithin env room chain) key name).events) :
    (∃ sibling, Absent env name ∧ batch.sibling? key name = some sibling ∧
      .lookup kind asked found ∈ (batch.resolveWithin env room chain sibling).events) ∨
    (batch.Unsupplied env key name ∧ kind = batch.storage.kind ∧
      asked = Storage.fullKey batch.storage.scope name) := by
  have hf := finds batch env (batch.resolveWithin env room chain) key name
  generalize batch.find env (batch.resolveWithin env room chain) key name = t at h hf
  have hlookup (hm : Event.lookup kind asked found ∈ (batch.storage.lookup name).events) :
      kind = batch.storage.kind ∧ asked = Storage.fullKey batch.storage.scope name := by
    simp_all [Storage.lookup]
  cases hf with
  | unreadable | environment => simp at h
  | sibling ha hs hr | siblingFails ha hs hr =>
    refine .inl ⟨_, ha, hs, ?_⟩
    simpa [hr] using h
  | siblingEmpty ha hs hr =>
    obtain hm | hm := List.mem_append.mp h
    case inl => exact .inl ⟨_, ha, hs, by simpa [hr] using hm⟩
    case inr => exact .inr ⟨unsupplied_of_siblingEmpty ha hs hr, hlookup hm⟩
  | storage ha hs =>
    exact .inr ⟨unsupplied_of_sibling? ha (by simp [hs]), hlookup h⟩

theorem exists_due_of_lookup
    (h : .lookup kind asked found ∈ (batch.resolveWithin env room chain record).events) :
    ∃ s name, Relation.ReflTransGen (batch.RefersTo env) record s ∧ batch.Due env s name ∧
      batch.Unsupplied env s.key name ∧ kind = batch.storage.kind ∧
      asked = Storage.fullKey batch.storage.scope name := by
  induction room generalizing chain record with
  | zero =>
    unfold resolveWithin at h
    split at h <;> simp [Traced.fail] at h
  | succ room ih =>
    by_cases hnew : record.key ∈ chain
    case pos => simp [resolveWithin, hnew, Traced.fail] at h
    case neg =>
      rw [resolveWithin_succ hnew] at h
      obtain ⟨name, hreach, hm⟩ := Template.exists_reaches_of_mem_events h
      have hd : batch.Due env record name := due_of_reaches hreach
      obtain ⟨sibling, ha, hs, hm⟩ | ⟨hu, hkind, hasked⟩ := lookup_of_find hm
      case inl =>
        obtain ⟨s, name, hpath, hrest⟩ := ih hm
        exact ⟨s, name, .head (refersTo_of_sibling? hd ha hs) hpath, hrest⟩
      case inr => exact ⟨record, name, .refl, hd, hu, hkind, hasked⟩

-- Every lookup is for a name whose turn it is in a record that is reached along references, and
-- that neither the environment nor another record supplies there. So no lookup is for the name of a
-- variable that counts, and the name of a record that is not empty is looked up only where the
-- record of that name refers to itself.
theorem resolveRecord_lookups_justified {σ : Type} [Variables σ] (batch : Batch) (env : σ)
    (top : Record) :
    let reader := Variables.value? env
    let reached := Relation.ReflTransGen (batch.RefersTo reader) top
    let lookups kind := Traced.lookups kind (batch.resolveRecord reader top).events
    (∀ kind, ∀ asked ∈ lookups kind, kind = batch.storage.kind ∧
      ∃ record name, reached record ∧ batch.Due reader record name ∧
        batch.Unsupplied reader record.key name ∧
        asked = Storage.fullKey batch.storage.scope name) ∧
    ∀ kind name, Storage.fullKey batch.storage.scope name ∈ lookups kind → Absent reader name ∧
      ∀ other, batch.get? name = some other → other.template ≠ "" →
        ∃ record, reached record ∧ record.key = name ∧ batch.Due reader record name := by
  intro reader reached lookups
  constructor
  case left =>
    intro kind asked h
    obtain ⟨found, h⟩ := Traced.mem_lookups_iff.mp h
    obtain ⟨record, name, hpath, hd, hu, hkind, hasked⟩ := exists_due_of_lookup h
    exact ⟨hkind, record, name, hpath, hd, hu, hasked⟩
  case right =>
    intro kind name h
    obtain ⟨found, h⟩ := Traced.mem_lookups_iff.mp h
    obtain ⟨record, name', hpath, hd, hu, _, hasked⟩ := exists_due_of_lookup h
    obtain rfl : name = name' := by simpa [Storage.fullKey] using hasked
    refine ⟨hu.environment, ?_⟩
    intro other hg hne
    obtain rfl | hnone | ⟨_, hg', hempty⟩ := hu.sibling
    case inl => exact ⟨record, hpath, rfl, hd⟩
    case inr.inl => simp [hg] at hnone
    case inr.inr =>
      obtain rfl := Option.some.inj (hg.symm.trans hg')
      exact absurd hempty hne

-- `A` is reached as a sibling and refers to the secret of its own name, and the last lookup fails.
theorem resolveRecord_lookups_justified_nested :
    let vault : Store := ⟨fun key =>
      if key = "app.X" then .ok (some "x")
      else if key = "app.Y" then .error (.backend "vault" key "sealed" none)
      else .ok none⟩
    let batch := ofEntries (.remote "app." vault) [("S", ""), ("A", "#\x7bA || X || Y\x7d")]
    let env := MemoryVariables.ofList [("E", "")]
    let reader := Variables.value? env
    let top : Record := ⟨"TOP", "#\x7bE || S || A || X\x7d #\x7bY || X\x7d"⟩
    let reached := Relation.ReflTransGen (batch.RefersTo reader) top
    let asked := Traced.lookups .remote (batch.resolveRecord reader top).events
    asked = ["app.E", "app.S", "app.A", "app.X", "app.Y"] ∧
      (∃ record name, reached record ∧ batch.Due reader record name ∧
        batch.Unsupplied reader record.key name ∧ "app.X" = Storage.fullKey "app." name) ∧
      ∃ record, reached record ∧ record.key = "A" ∧ batch.Due reader record "A" := by
  intro vault batch env reader top reached asked
  have hasked : asked = ["app.E", "app.S", "app.A", "app.X", "app.Y"] := by decide +kernel
  obtain ⟨hall, hown⟩ := resolveRecord_lookups_justified batch env top
  have hx : "app.X" ∈ asked := by simp [hasked]
  have ha : "app.A" ∈ asked := by simp [hasked]
  obtain ⟨_, hjustified⟩ := hall .remote "app.X" hx
  obtain ⟨_, hself⟩ := hown .remote "A" ha
  have hget : batch.get? "A" = some ⟨"A", "#\x7bA || X || Y\x7d"⟩ := by decide +kernel
  exact ⟨hasked, hjustified, hself _ hget (by decide)⟩

end Batch

end EnvProvision
