import EnvProvision.Proofs.Lookups

namespace EnvProvision

namespace Batch

variable {batch : Batch} {record : Record} {room : Nat} {chain : List String} {text : String}

-- A placeholder of the record, with its text as it is written, for which there is no value.
structure Unfilled (batch : Batch) (env : Reader) (record : Record) (text : String) : Prop where
  reference : .reference text.toList ∈ Template.segments record.template.toList
  missing : ∀ name ∈ Template.candidates text.toList, batch.Missing env record.key name

theorem exists_unfilled {σ : Type} [Variables σ] [LawfulVariables σ] {env : σ}
    [LawfulStorage batch.storage]
    (h : (batch.resolveWithin (Variables.value? env) room chain record).outcome =
      .error (.keyNotFound text)) :
    ∃ s, Relation.ReflTransGen (batch.RefersTo (Variables.value? env)) record s ∧
      batch.Unfilled (Variables.value? env) s text := by
  induction room generalizing chain record with
  | zero =>
    unfold resolveWithin at h
    split at h <;> cases h
  | succ room ih =>
    by_cases hnew : record.key ∈ chain
    case pos => simp [resolveWithin, hnew, Traced.fail] at h
    case neg =>
      rw [resolveWithin_succ hnew] at h
      obtain ⟨inner, hinner, htext, hnone⟩ | ⟨name, hreach, he⟩ := Template.error_of_expand h
      case inl =>
        obtain rfl : text = String.ofList inner := by simpa using htext
        have hunfilled : batch.Unfilled (Variables.value? env) record (String.ofList inner) :=
          { reference := by simpa using hinner
            missing := fun name hm => missing_of_find (hnone name (by simpa using hm)) }
        exact ⟨record, .refl, hunfilled⟩
      case inr =>
        obtain he | he | ⟨sibling, ha, hs, he⟩ := error_of_find he
        case inl =>
          obtain ⟨_, hfault⟩ := LawfulVariables.error_of_value? he
          cases hfault
        case inr.inl =>
          obtain ⟨_, _, _, _, hbackend⟩ := LawfulStorage.error_of_retrieve he
          cases hbackend
        case inr.inr =>
          have hrefers := refersTo_of_sibling? (due_of_reaches hreach) ha hs
          obtain ⟨s, hpath, hunfilled⟩ := ih he
          exact ⟨s, .head hrefers hpath, hunfilled⟩

-- Storage without secrets has an answer for every name.
theorem Missing.kind_ne_plain {env : Reader} {key name : String}
    (h : batch.Missing env key name) : batch.storage.kind ≠ .plain := by
  obtain ⟨answer?, hanswer, hempty⟩ := h.storage
  intro hplain
  cases hs : batch.storage with
  | plain scope =>
    rw [hs] at hanswer
    cases hanswer
    have hne : Template.placeholder (Storage.fullKey scope name) ≠ "" := by
      simp [Template.placeholder, String.append_eq_empty_iff]
    exact hne (nonEmpty_some_eq_none_iff.mp hempty)
  | file | remote => simp [hs, Storage.kind] at hplain

theorem kind_ne_plain_of_keyNotFound {σ : Type} [Variables σ] [LawfulVariables σ] {env : σ}
    (h : (batch.resolveRecord (Variables.value? env) record).outcome = .error (.keyNotFound text)) :
    batch.storage.kind ≠ .plain := by
  intro hplain
  have := Storage.lawfulStorage_of_plain hplain
  obtain ⟨s, _, hunfilled⟩ := exists_unfilled h
  obtain ⟨name, hm⟩ := List.exists_mem_of_ne_nil _ (Template.candidates_ne_nil text.toList)
  exact (hunfilled.missing name hm).kind_ne_plain hplain

-- Storage without secrets never leads to this error. Over storage that does not bring it up itself,
-- its text is that of a placeholder as written, in a record that is reached along references, and
-- none of its candidates has a value there.
theorem resolveRecord_keyNotFound {σ : Type} [Variables σ] [LawfulVariables σ] {batch : Batch}
    {env : σ} {top : Record} {text : String}
    (h : (batch.resolveRecord (Variables.value? env) top).outcome = .error (.keyNotFound text)) :
    let reader := Variables.value? env
    batch.storage.kind ≠ .plain ∧
      (LawfulStorage batch.storage →
        ∃ record, Relation.ReflTransGen (batch.RefersTo reader) top record ∧
          .reference text.toList ∈ Template.segments record.template.toList ∧
          ∀ name ∈ Template.candidates text.toList, batch.Missing reader record.key name) := by
  intro reader
  refine ⟨kind_ne_plain_of_keyNotFound h, fun _ => ?_⟩
  obtain ⟨record, hpath, hreference, hmissing⟩ := exists_unfilled h
  exact ⟨record, hpath, hreference, hmissing⟩

-- The placeholder stands two records below the one that is asked for, whose next candidate would
-- have a value.
theorem resolveRecord_keyNotFound_nested :
    let store := Store.sealed [("OTHER", some "x"), ("A", none), ("B", some "")]
    let batch := ofEntries (.remote "" store)
      [("MID", "a#\x7b LEAF \x7d"), ("LEAF", "#\x7bOTHER\x7d#\x7b A||B \x7d"), ("B", "")]
    let reader := Variables.value? (MemoryVariables.ofList [("A", "")])
    let top : Record := ⟨"TOP", "#\x7bMID || OTHER\x7d"⟩
    (batch.resolveRecord reader top).outcome = .error (.keyNotFound " A||B ") ∧
      ∃ record, Relation.ReflTransGen (batch.RefersTo reader) top record ∧
        .reference " A||B ".toList ∈ Template.segments record.template.toList ∧
        ∀ name ∈ Template.candidates " A||B ".toList, batch.Missing reader record.key name := by
  intro store batch reader top
  have herror : (batch.resolveRecord reader top).outcome = .error (.keyNotFound " A||B ") := by
    decide +kernel
  have hstorage : LawfulStorage batch.storage :=
    inferInstanceAs (LawfulStorage (ofEntries ..).storage)
  exact ⟨herror, (resolveRecord_keyNotFound herror).right hstorage⟩

end Batch

end EnvProvision
