namespace EnvProvision

-- The pairs of a table in order. Entering a key again replaces its value and leaves its place.
@[ext]
structure Table (κ α : Type) where
  entries : List (κ × α)
  nodup : (entries.map Prod.fst).Nodup
  deriving Repr, DecidableEq

namespace Table

variable {κ α β : Type}

def empty : Table κ α :=
  ⟨[], List.nodup_nil⟩

instance : Inhabited (Table κ α) := ⟨empty⟩

def keys (t : Table κ α) : List κ :=
  t.entries.map Prod.fst

def values (t : Table κ α) : List α :=
  t.entries.map Prod.snd

def size (t : Table κ α) : Nat :=
  t.entries.length

theorem nodup_keys (t : Table κ α) : t.keys.Nodup :=
  t.nodup

section Mapped

variable {ε : Type} {f : κ → α → Except ε β}

def mapM.go (f : κ → α → Except ε β) : List (κ × α) → Except ε (List (κ × β))
  | [] => .ok []
  | (k, v) :: rest => do
    let v ← f k v
    return (k, v) :: (← go f rest)

theorem mapM.keys_go {es : List (κ × α)} {mapped : List (κ × β)} (h : go f es = .ok mapped) :
    mapped.map Prod.fst = es.map Prod.fst := by
  induction es generalizing mapped with
  | nil => cases h; rfl
  | cons e rest ih =>
    obtain ⟨k, v⟩ := e
    cases hv : f k v with
    | error e => simp [go, hv, bind, Except.bind] at h
    | ok v' =>
      cases hr : go f rest with
      | error e => simp [go, hv, hr, bind, Except.bind] at h
      | ok tail =>
        simp only [go, hv, hr, bind, Except.bind, pure, Except.pure, Except.ok.injEq] at h
        simp [← h, ih hr]

-- Put the values through `f`, one after the other; the first failure ends it.
def mapM (f : κ → α → Except ε β) (t : Table κ α) : Except ε (Table κ β) :=
  match h : mapM.go f t.entries with
  | .error e => .error e
  | .ok entries => .ok ⟨entries, mapM.keys_go h ▸ t.nodup⟩

theorem map_entries_mapM (f : κ → α → Except ε β) (t : Table κ α) :
    (t.mapM f).map entries = mapM.go f t.entries := by
  unfold mapM
  split
  case h_1 e h => exact h.symm
  case h_2 entries h => exact h.symm

end Mapped

section Keyed

variable [DecidableEq κ]

def get? (t : Table κ α) (key : κ) : Option α :=
  go t.entries
where
  go : List (κ × α) → Option α
    | [] => none
    | (k, v) :: rest => if key = k then some v else go rest

def contains (t : Table κ α) (key : κ) : Bool :=
  (t.get? key).isSome

def insert.go (key : κ) (value : α) : List (κ × α) → List (κ × α)
  | [] => [(key, value)]
  | (k, v) :: rest => if key = k then (key, value) :: rest else (k, v) :: go key value rest

theorem insert.keys_go (key : κ) (value : α) (es : List (κ × α)) :
    (go key value es).map Prod.fst =
      if key ∈ es.map Prod.fst then es.map Prod.fst else es.map Prod.fst ++ [key] := by
  induction es with
  | nil => simp [go]
  | cons e rest ih =>
    obtain ⟨m, v⟩ := e
    by_cases hm : key = m
    case pos => simp [go, hm]
    case neg => by_cases hr : key ∈ rest.map Prod.fst <;> simp_all [go]

theorem insert.nodup_go {key : κ} {es : List (κ × α)} (h : (es.map Prod.fst).Nodup) (value : α) :
    ((go key value es).map Prod.fst).Nodup := by
  rw [keys_go]
  split
  case isTrue => exact h
  case isFalse hn =>
    rw [List.nodup_append]
    refine ⟨h, List.nodup_cons.mpr ⟨List.not_mem_nil, List.nodup_nil⟩, fun k hk m hm => ?_⟩
    rw [List.mem_singleton.mp hm]
    exact ne_of_mem_of_not_mem hk hn

-- Put `value` at the place of `key`, at the end if the key is new.
def insert (t : Table κ α) (key : κ) (value : α) : Table κ α :=
  ⟨insert.go key value t.entries, insert.nodup_go t.nodup value⟩

def erase (t : Table κ α) (key : κ) : Table κ α :=
  ⟨t.entries.filter (·.1 != key), t.nodup.sublist (List.filter_sublist.map _)⟩

-- Enter the pairs one after the other, so the last value of a key stands at its first place.
def ofList (pairs : List (κ × α)) : Table κ α :=
  pairs.foldl (fun t (key, value) => t.insert key value) empty

@[simp]
theorem get?_empty (key : κ) : (empty : Table κ α).get? key = none :=
  rfl

theorem insert.get?_go (key : κ) (value : α) (k : κ) (es : List (κ × α)) :
    get?.go k (go key value es) = if k = key then some value else get?.go k es := by
  induction es with
  | nil => simp [go, get?.go]
  | cons e rest ih =>
    obtain ⟨m, v⟩ := e
    by_cases hm : key = m
    case pos => by_cases h : k = key <;> simp_all [go, get?.go]
    case neg => by_cases h : k = m <;> simp_all [go, get?.go, Ne.symm hm]

@[simp]
theorem get?_insert (t : Table κ α) (key : κ) (value : α) (k : κ) :
    (t.insert key value).get? k = if k = key then some value else t.get? k :=
  insert.get?_go ..

theorem erase.get?_go (key k : κ) (es : List (κ × α)) :
    get?.go k (es.filter (·.1 != key)) = if k = key then none else get?.go k es := by
  induction es with
  | nil => simp [get?.go]
  | cons e rest ih =>
    obtain ⟨m, v⟩ := e
    by_cases hm : m = key
    case pos => by_cases h : k = key <;> simp_all [get?.go]
    case neg => by_cases h : k = m <;> simp_all [get?.go]

@[simp]
theorem get?_erase (t : Table κ α) (key k : κ) :
    (t.erase key).get? k = if k = key then none else t.get? k :=
  erase.get?_go ..

-- A new key goes to the end, a known one stays where it is.
theorem keys_insert (t : Table κ α) (key : κ) (value : α) :
    (t.insert key value).keys = if key ∈ t.keys then t.keys else t.keys ++ [key] :=
  insert.keys_go ..

theorem ofList.get?_foldl (t : Table κ α) (pairs : List (κ × α)) (key : κ) :
    (pairs.foldl (fun t (key, value) => t.insert key value) t).get? key =
      (pairs.reverse.lookup key).or (t.get? key) := by
  induction pairs generalizing t with
  | nil => simp
  | cons pair rest ih =>
    obtain ⟨k, v⟩ := pair
    rw [List.foldl_cons, ih, get?_insert, List.reverse_cons, List.lookup_append, Option.or_assoc]
    by_cases h : key = k
    case pos => simp [h]
    case neg => simp [h, List.lookup_cons, beq_eq_false_iff_ne.mpr h]

-- A table answers with the last value that was entered for a key.
theorem get?_ofList (pairs : List (κ × α)) (key : κ) :
    (ofList pairs).get? key = pairs.reverse.lookup key := by
  simp [ofList, ofList.get?_foldl]

theorem get?.go_eq_some_iff {key : κ} {value : α} {es : List (κ × α)}
    (h : (es.map Prod.fst).Nodup) : go key es = some value ↔ (key, value) ∈ es := by
  induction es with
  | nil => simp [go]
  | cons e rest ih =>
    obtain ⟨k, v⟩ := e
    rw [List.map_cons, List.nodup_cons] at h
    by_cases hk : key = k
    case pos =>
      have hn : (k, value) ∉ rest := fun hm => h.left (List.mem_map.mpr ⟨_, hm, rfl⟩)
      simp [go, hk, hn, eq_comm]
    case neg => simp [go, hk, ih h.right]

-- What a table answers is what it lists.
theorem get?_eq_some_iff {t : Table κ α} {key : κ} {value : α} :
    t.get? key = some value ↔ (key, value) ∈ t.entries :=
  get?.go_eq_some_iff t.nodup

theorem get?_eq_none_iff {t : Table κ α} {key : κ} :
    t.get? key = none ↔ ∀ value, (key, value) ∉ t.entries := by
  simp only [← get?_eq_some_iff, Option.eq_none_iff_forall_ne_some, ne_eq]

theorem mem_entries_insert_iff {t : Table κ α} {key k : κ} {value v : α} :
    (k, v) ∈ (t.insert key value).entries ↔
      k = key ∧ v = value ∨ k ≠ key ∧ (k, v) ∈ t.entries := by
  rw [← get?_eq_some_iff, get?_insert, ← get?_eq_some_iff]
  by_cases hk : k = key <;> simp [hk, eq_comm]

theorem get?_eq_of_perm {t u : Table κ α} (h : t.entries.Perm u.entries) (key : κ) :
    u.get? key = t.get? key := by
  apply Option.ext
  intro value
  rw [get?_eq_some_iff, get?_eq_some_iff, h.mem_iff]

theorem mem_of_mem_entries_ofList {pairs : List (κ × α)} {e : κ × α}
    (h : e ∈ (ofList pairs).entries) : e ∈ pairs := by
  obtain ⟨key, value⟩ := e
  rw [← get?_eq_some_iff, get?_ofList, List.lookup_eq_some_iff] at h
  obtain ⟨before, after, hpairs, -⟩ := h
  rw [← List.mem_reverse, hpairs]
  simp

theorem filterMap_get? {t : Table κ α} {pairs : List (κ × α)}
    (h : ∀ pair ∈ pairs, t.get? pair.1 = some pair.2) :
    (pairs.map Prod.fst).filterMap (fun key => (t.get? key).map (key, ·)) = pairs := by
  induction pairs with
  | nil => rfl
  | cons pair rest ih =>
    obtain ⟨hp, hrest⟩ := List.forall_mem_cons.mp h
    simp [hp, ih hrest]

theorem insert.go_of_notMem {key : κ} {value : α} {es : List (κ × α)}
    (h : key ∉ es.map Prod.fst) : go key value es = es ++ [(key, value)] := by
  induction es with
  | nil => rfl
  | cons e rest ih =>
    obtain ⟨k, v⟩ := e
    rw [List.map_cons, List.mem_cons, not_or] at h
    simp [go, h.left, ih h.right]

theorem ofList.entries_foldl {pairs : List (κ × α)} {t : Table κ α}
    (h : (t.keys ++ pairs.map Prod.fst).Nodup) :
    (pairs.foldl (fun t (key, value) => t.insert key value) t).entries = t.entries ++ pairs := by
  induction pairs generalizing t with
  | nil => simp
  | cons pair rest ih =>
    obtain ⟨key, value⟩ := pair
    have hn : key ∉ t.keys := fun hm =>
      (List.nodup_append.mp h).right.right key hm key List.mem_cons_self rfl
    have hins : (t.insert key value).entries = t.entries ++ [(key, value)] :=
      insert.go_of_notMem hn
    have hkeys : (t.insert key value).keys = t.keys ++ [key] := by
      rw [keys_insert, if_neg hn]
    rw [List.foldl_cons, ih (by rw [hkeys]; simpa using h), hins, List.append_assoc]
    rfl

-- Pairs with distinct keys are the entries of their table.
theorem entries_ofList {pairs : List (κ × α)} (h : (pairs.map Prod.fst).Nodup) :
    (ofList pairs).entries = pairs :=
  ofList.entries_foldl (t := empty) h

end Keyed

end Table

end EnvProvision
