import EnvProvision.Table
import Mathlib.Data.List.Forall2
import Mathlib.Data.List.Induction

namespace EnvProvision

def failure? {ε α : Type} : Except ε α → Option ε
  | .ok _ => none
  | .error e => some e

theorem failure?_eq_some_iff {ε α : Type} {outcome : Except ε α} {e : ε} :
    failure? outcome = some e ↔ outcome = .error e := by
  cases outcome <;> simp [failure?]

@[simp]
theorem failure?_map {ε α β : Type} (f : α → β) (outcome : Except ε α) :
    failure? (outcome.map f) = failure? outcome := by
  cases outcome <;> rfl

section

variable {κ α β : Type} [DecidableEq κ]

theorem eraseDups_append_singleton (keys : List κ) (key : κ) :
    (keys ++ [key]).eraseDups =
      if key ∈ keys then keys.eraseDups else keys.eraseDups ++ [key] := by
  rw [List.eraseDups_append]
  by_cases hm : key ∈ keys
  case pos => simp [hm, List.removeAll]
  case neg => simp [hm, List.removeAll, List.eraseDups_cons]

-- The keys in the order in which they come first, each with the value that comes last.
def lastEntries (pairs : List (κ × α)) : List (κ × α) :=
  (pairs.map Prod.fst).eraseDups.filterMap fun key => (pairs.reverse.lookup key).map (key, ·)

theorem lookup_map_snd (f : α → β) (pairs : List (κ × α)) (key : κ) :
    (pairs.map fun pair => (pair.1, f pair.2)).lookup key = (pairs.lookup key).map f := by
  induction pairs with
  | nil => rfl
  | cons pair rest ih =>
    obtain ⟨k, v⟩ := pair
    by_cases h : key = k
    case pos => simp [h]
    case neg => simp [List.lookup_cons, beq_eq_false_iff_ne.mpr h, ih]

theorem lastEntries_map (f : α → β) (pairs : List (κ × α)) :
    lastEntries (pairs.map fun pair => (pair.1, f pair.2)) =
      (lastEntries pairs).map fun pair => (pair.1, f pair.2) := by
  unfold lastEntries
  rw [List.map_map, List.map_filterMap, ← List.map_reverse]
  congr 1
  funext key
  rw [lookup_map_snd]
  cases pairs.reverse.lookup key <;> rfl

-- A value that is entered again later does not matter.
theorem lastEntries_overwritten {key : κ} {before after : List (κ × α)}
    (h : key ∈ after.map Prod.fst) (old new : α) :
    lastEntries (before ++ (key, old) :: after) = lastEntries (before ++ (key, new) :: after) := by
  have hlookup (k : κ) : (before ++ (key, old) :: after).reverse.lookup k =
      (before ++ (key, new) :: after).reverse.lookup k := by
    simp only [List.reverse_append, List.reverse_cons, List.append_assoc, List.lookup_append]
    by_cases hk : k = key
    case pos =>
      subst hk
      have hafter : after.reverse.lookup k ≠ none := by
        rw [ne_eq, List.lookup_eq_none_iff]
        intro hnone
        obtain ⟨pair, hm, rfl⟩ := List.mem_map.mp h
        simpa using hnone pair (List.mem_reverse.mpr hm)
      obtain ⟨value, hvalue⟩ := Option.ne_none_iff_exists'.mp hafter
      simp [hvalue]
    case neg => simp [List.lookup_cons, beq_eq_false_iff_ne.mpr hk]
  unfold lastEntries
  simp only [hlookup, List.map_append, List.map_cons]

end

namespace Table

variable {κ α β : Type}

section

variable [DecidableEq κ]

theorem keys_ofList (pairs : List (κ × α)) :
    (ofList pairs).keys = (pairs.map Prod.fst).eraseDups := by
  induction pairs using List.reverseRecOn with
  | nil => rfl
  | append_singleton pairs pair ih =>
    have hinsert : ofList (pairs ++ [pair]) = (ofList pairs).insert pair.1 pair.2 := by
      simp [ofList]
    rw [hinsert, keys_insert, ih, List.map_append, List.map_singleton, eraseDups_append_singleton]
    simp only [List.mem_eraseDups]

theorem entries_ofList_eq (pairs : List (κ × α)) : (ofList pairs).entries = lastEntries pairs := by
  have hentries := filterMap_get? fun pair (h : pair ∈ (ofList pairs).entries) =>
    get?_eq_some_iff.mpr h
  rw [← hentries]
  simp only [get?_ofList, lastEntries, ← keys_ofList, keys]

end

section

variable {ε : Type} {f : κ → α → Except ε β} {t : Table κ α}

theorem mapM.go_eq_ok_iff {entries : List (κ × α)} {mapped : List (κ × β)} :
    go f entries = .ok mapped ↔
      List.Forall₂ (fun e m => m.1 = e.1 ∧ f e.1 e.2 = .ok m.2) entries mapped := by
  induction entries generalizing mapped with
  | nil => cases mapped <;> simp [go]
  | cons entry rest ih =>
    cases mapped with
    | nil =>
      cases hv : f entry.1 entry.2 <;> cases hr : go f rest <;>
        simp [go, hv, hr, bind, Except.bind, pure, Except.pure]
    | cons m tail =>
      rw [List.forall₂_cons, ← ih]
      cases hv : f entry.1 entry.2 with
      | error e => simp [go, hv, bind, Except.bind]
      | ok value =>
        cases hr : go f rest with
        | error e => simp [go, hv, hr, bind, Except.bind]
        | ok values =>
          simp [go, hv, hr, bind, Except.bind, pure, Except.pure, Prod.ext_iff, eq_comm]

theorem mapM_eq_ok_iff {mapped : Table κ β} :
    t.mapM f = .ok mapped ↔
      List.Forall₂ (fun e m => m.1 = e.1 ∧ f e.1 e.2 = .ok m.2) t.entries mapped.entries := by
  rw [← mapM.go_eq_ok_iff, ← map_entries_mapM]
  cases t.mapM f <;> simp [Except.map, Table.ext_iff]

theorem mapM.failure?_go (f : κ → α → Except ε β) (entries : List (κ × α)) :
    failure? (go f entries) = entries.findSome? fun entry => failure? (f entry.1 entry.2) := by
  induction entries with
  | nil => rfl
  | cons entry rest ih =>
    rw [List.findSome?_cons, ← ih]
    cases hv : f entry.1 entry.2 with
    | error e => simp [go, hv, bind, Except.bind, failure?]
    | ok value =>
      cases hr : go f rest <;> simp [go, hv, hr, bind, Except.bind, pure, Except.pure, failure?]

-- The first failure ends it.
theorem failure?_mapM (f : κ → α → Except ε β) (t : Table κ α) :
    failure? (t.mapM f) = t.entries.findSome? fun entry => failure? (f entry.1 entry.2) := by
  rw [← failure?_map entries, map_entries_mapM, mapM.failure?_go]

end

end Table

end EnvProvision
