import EnvProvision.Proofs.Lifting

namespace EnvProvision

namespace Event

-- The event as it is over a backend of this kind whose keys have other names.
def readdress (kind : StorageKind) (rename : String → String) : Event → Event
  | lookup _ key found => lookup kind (rename key) found
  | loaded environment _ exports skips => loaded environment kind exports skips
  | event => event

end Event

namespace Traced

variable {α β : Type} {f : Event → Event}

def mapEvents (f : Event → Event) (t : Traced α) : Traced α :=
  ⟨t.outcome, t.events.map f⟩

@[simp]
theorem mapEvents_mk (outcome : Except Error α) (events : List Event) :
    (⟨outcome, events⟩ : Traced α).mapEvents f = ⟨outcome, events.map f⟩ :=
  rfl

theorem mapEvents_bind (t : Traced α) (next : α → Traced β) :
    (t >>= next).mapEvents f = t.mapEvents f >>= fun a => (next a).mapEvents f := by
  obtain ⟨outcome, events⟩ := t
  cases outcome <;> simp [mapEvents]

theorem mapEvents_orNext (first : Traced (Option α)) (second : Unit → Traced (Option α)) :
    (first.orNext second).mapEvents f =
      (first.mapEvents f).orNext fun u => (second u).mapEvents f := by
  unfold orNext
  rw [mapEvents_bind]
  congr 1
  funext value?
  cases value? <;> rfl

end Traced

theorem readdress_lifting (kind : StorageKind) (rename : String → String) :
    Lifting (fun t u => t.mapEvents (.readdress kind rename) = u)
      (fun t u => t.mapEvents (.readdress kind rename) = u) where
  absent := rfl
  orNext {t _ next _} ht hnext := by
    subst ht
    rw [Traced.mapEvents_orNext]
    exact congrArg _ (funext fun () => hnext)
  orMissing inner t _ ht := by
    subst ht
    unfold Traced.orMissing
    rw [Traced.mapEvents_bind]
    congr 1
    funext value?
    cases value? <;> rfl
  asSibling candidate t _ ht := by
    subst ht
    unfold Traced.asSibling
    rw [Traced.mapEvents_bind]
    congr 1
    funext value
    cases nonEmpty (some value) <;> rfl
  text _ := rfl
  append {t t' _ _} ht ht' := by
    subst ht ht'
    simp [Traced.append, Traced.mapEvents_bind]
  fail _ := rfl

namespace Batch

-- What the two have under the name is the same, but their storages are asked for it by other keys.
structure AlikeAt (rename : String → String) (batch : Batch) (env : Reader) (batch' : Batch)
    (env' : Reader) (name : String) : Prop where
  environment : env name = env' name
  get? : batch.get? name = batch'.get? name
  retrieve : batch.storage.retrieve name = batch'.storage.retrieve name
  fullKey :
    Storage.fullKey batch.storage.scope name = rename (Storage.fullKey batch'.storage.scope name)

namespace AlikeAt

variable {rename : String → String} {batch batch' : Batch} {env env' : Reader} {candidate : String}
  {resolve resolve' : Record → Traced String}

theorem refl (batch : Batch) (env : Reader) (name : String) : batch.AlikeAt id env batch env name :=
  ⟨rfl, rfl, rfl, rfl⟩

theorem fromEnvironment_eq (h : batch.AlikeAt rename env batch' env' candidate)
    (kind : StorageKind) :
    (fromEnvironment env' candidate).mapEvents (.readdress kind rename) =
      fromEnvironment env candidate := by
  unfold fromEnvironment
  rw [Traced.mapEvents_bind, h.environment]
  congr 1
  funext value?
  cases nonEmpty value? <;> rfl

theorem lookup_eq (h : batch.AlikeAt rename env batch' env' candidate) :
    (batch'.storage.lookup candidate).mapEvents (.readdress batch.storage.kind rename) =
      batch.storage.lookup candidate := by
  simp [Storage.lookup, Event.readdress, h.retrieve, h.fullKey]

theorem find_eq (h : batch.AlikeAt rename env batch' env' candidate)
    (hresolve : ∀ sibling, batch.get? candidate = some sibling →
      (resolve' sibling).mapEvents (.readdress batch.storage.kind rename) = resolve sibling)
    (current : String) :
    (batch'.find env' resolve' current candidate).mapEvents
        (.readdress batch.storage.kind rename) =
      batch.find env resolve current candidate := by
  refine (readdress_lifting ..).find (h.fromEnvironment_eq _) h.get?.symm
    (fun sibling hs => hresolve sibling (h.get?.trans hs)) ?_ current
  simp [fromStorage, Traced.mapEvents_bind, h.lookup_eq]

end AlikeAt

end Batch

namespace Traced

-- If all keys that were asked for are of one kind of backend, they are the ones with other names.
theorem lookups_readdress {events : List Event} {kind kind' : StorageKind}
    {rename : String → String} (h : events.map (.readdress kind' id) = events) :
    lookups kind (events.map (.readdress kind rename)) =
      (lookups kind' events).map rename := by
  induction events with
  | nil => rfl
  | cons event rest ih =>
    simp only [List.map_cons, List.cons.injEq] at h
    have hrest := ih h.right
    unfold lookups at hrest ⊢
    cases event with
    | lookup asked key found =>
      have hkind : kind' = asked := by simpa [Event.readdress] using h.left
      simp [Event.readdress, hrest, hkind]
    | _ => simpa [Event.readdress] using hrest

end Traced

end EnvProvision
