import EnvProvision.Proofs.Frame
import EnvProvision.Proofs.ProcessPreview

namespace EnvProvision

namespace Bytes

theorem ofText_eq_flatMap (text : String) :
    ofText text = text.toList.flatMap String.utf8EncodeChar := by
  have h : text.toByteArray = text.toList.utf8Encode := by
    rw [← String.toByteArray_ofList, String.ofList_toList]
  show text.toByteArray.data.toList = _
  rw [h, List.utf8Encode, List.data_toByteArray]

-- All bytes of a character that is not ASCII have their first bit set.
theorem toNat_of_mem_utf8EncodeChar {c : Char} {b : UInt8} (hb : b.toNat < 128)
    (h : b ∈ String.utf8EncodeChar c) : c.toNat = b.toNat := by
  have hhigh (n : Nat) (hn : 128 ≤ n % 256) : b ≠ UInt8.ofNat n := by
    rintro rfl
    rw [UInt8.toNat_ofNat'] at hb
    omega
  have hc : c.val.toNat = c.toNat := rfl
  simp only [String.utf8EncodeChar, hc] at h
  split at h
  case isTrue hle =>
    rw [List.mem_singleton.mp h, UInt8.toNat_ofNat']
    omega
  case isFalse =>
    exfalso
    split at h
    case isTrue =>
      simp only [List.mem_cons, List.not_mem_nil, or_false] at h
      obtain h | h := h <;> exact hhigh _ (by omega) h
    case isFalse =>
      split at h
      case isTrue =>
        simp only [List.mem_cons, List.not_mem_nil, or_false] at h
        obtain h | h | h := h <;> exact hhigh _ (by omega) h
      case isFalse =>
        simp only [List.mem_cons, List.not_mem_nil, or_false] at h
        obtain h | h | h | h := h <;> exact hhigh _ (by omega) h

theorem mem_of_ofNat_mem_ofText {c : Char} (hc : c.toNat < 128) {text : String}
    (h : UInt8.ofNat c.toNat ∈ ofText text) : c ∈ text.toList := by
  rw [ofText_eq_flatMap] at h
  obtain ⟨d, hd, hmem⟩ := List.mem_flatMap.mp h
  have hbyte : (UInt8.ofNat c.toNat).toNat = c.toNat := by
    rw [UInt8.toNat_ofNat']
    omega
  have hnat : d.toNat = c.toNat := by
    rw [toNat_of_mem_utf8EncodeChar (by omega) hmem, hbyte]
  have heq : d = c := by rw [← Char.ofNat_toNat d, hnat, Char.ofNat_toNat]
  exact heq ▸ hd

theorem ofText_eq_nil_iff {text : String} : ofText text = [] ↔ text = "" :=
  ⟨fun h => ofText_inj h, fun h => by rw [h]; rfl⟩

end Bytes

namespace ProcessVariables

-- The system takes a variable of this name and this value: the name is not empty and without `=`,
-- and neither has a NUL.
structure Settable (name value : Bytes) : Prop where
  name_ne_nil : name ≠ []
  equals_notMem : 0x3D ∉ name
  nul_notMem_name : 0x00 ∉ name
  nul_notMem_value : 0x00 ∉ value

theorem settable_of_no_fault {name value : String} (h : fault? name value = none) :
    Settable (.ofText name) (.ofText value) := by
  have hname : isValidName name := isValidName_of_no_fault h
  have hvalue : '\x00' ∉ value.toList := by simpa [fault?, hname] using h
  obtain ⟨⟨hempty, hequals⟩, hnul⟩ : (¬name = "" ∧ '=' ∉ name.toList) ∧ '\x00' ∉ name.toList := by
    simpa [isValidName] using hname
  exact {
    name_ne_nil := fun hnil => hempty (Bytes.ofText_eq_nil_iff.mp hnil)
    equals_notMem := fun hm => hequals (Bytes.mem_of_ofNat_mem_ofText (by decide) hm)
    nul_notMem_name := fun hm => hnul (Bytes.mem_of_ofNat_mem_ofText (by decide) hm)
    nul_notMem_value := fun hm => hvalue (Bytes.mem_of_ofNat_mem_ofText (by decide) hm) }

-- What the calls that set these variables, one after the other, make of a process.
def setAll (env : ProcessVariables) (calls : List (String × String)) : ProcessVariables :=
  calls.foldl (fun env (name, value) => env.setBytes (.ofText name) (.ofText value)) env

theorem setAll_append (env : ProcessVariables) (xs ys : List (String × String)) :
    env.setAll (xs ++ ys) = (env.setAll xs).setAll ys :=
  List.foldl_append

-- The process has the variables that are in memory and no others. Their names are texts that the
-- system takes, and so their values are texts as well.
structure Holds (env : ProcessVariables) (memory : MemoryVariables) : Prop where
  bytes?_eq : ∀ name, env.bytes? (.ofText name) = (memory.get? name).map .ofText
  exists_name : ∀ name value, env.bytes? name = some value →
    ∃ text, name = .ofText text ∧ isValidName text

namespace Holds

variable {env : ProcessVariables} {memory : MemoryVariables} {name value : String}

theorem nil : (ofList []).Holds (.ofList []) where
  bytes?_eq _ := rfl
  exists_name _ _ h := by cases h

theorem isValidName (h : env.Holds memory) (hget : memory.get? name = some value) :
    isValidName name := by
  have hbytes : env.bytes? (.ofText name) = some (.ofText value) := by
    rw [h.bytes?_eq, hget]
    rfl
  obtain ⟨text, heq, hvalid⟩ := h.exists_name _ _ hbytes
  obtain rfl := Bytes.ofText_inj heq
  exact hvalid

-- Names that no variable can have are not in memory either, so both read them as unset.
theorem value?_eq (h : env.Holds memory) : Variables.value? memory = Variables.value? env := by
  funext name
  have hmemory : Variables.value? memory name = .ok (memory.get? name) := rfl
  have hbytes := h.bytes?_eq name
  rw [hmemory]
  cases hget : memory.get? name with
  | none =>
    rw [hget] at hbytes
    exact (value?_of_unset hbytes).symm
  | some value =>
    rw [hget] at hbytes
    exact (value?_of_text (h.isValidName hget) hbytes (Bytes.text?_ofText value)).symm

theorem set (h : env.Holds memory) (hname : ProcessVariables.isValidName name) :
    (env.setBytes (.ofText name) (.ofText value)).Holds (memory.set name value) where
  bytes?_eq n := by
    rw [bytes?_setBytes, MemoryVariables.get?_set]
    by_cases hn : n = name
    case pos => simp [hn]
    case neg =>
      have hbytes : Bytes.ofText n ≠ .ofText name := fun heq => hn (Bytes.ofText_inj heq)
      simp [hn, hbytes, h.bytes?_eq]
  exists_name n v hv := by
    rw [bytes?_setBytes] at hv
    split at hv
    case isTrue hn => exact ⟨name, hn, hname⟩
    case isFalse => exact h.exists_name n v hv

theorem setAll {calls : List (String × String)} (h : env.Holds memory)
    (hcalls : ∀ call ∈ calls, fault? call.1 call.2 = none) :
    (env.setAll calls).Holds (memory.extend calls) := by
  induction calls generalizing env memory with
  | nil => exact h
  | cons call rest ih =>
    obtain ⟨hcall, hrest⟩ := List.forall_mem_cons.mp hcalls
    have hset : (env.setBytes (.ofText call.1) (.ofText call.2)).Holds
        (memory.set call.1 call.2) :=
      h.set (isValidName_of_no_fault hcall)
    exact ih hset hrest

end Holds

theorem restriction_holds :
    Restriction (fun (memory : MemoryVariables) (env : ProcessVariables) => env.Holds memory)
      refusal? where
  value? h := h.value?_eq
  assign_error _ ha := by cases ha
  accepted h hf ha := by
    cases ha
    rw [refusal?_eq_none_iff] at hf
    exact ⟨_, assign_of_no_fault hf, h.set (isValidName_of_no_fault hf)⟩
  refused h := by
    obtain ⟨fault, hf, rfl⟩ := Option.map_eq_some_iff.mp h
    exact assign_of_fault hf

end ProcessVariables

namespace Batch

open ProcessVariables

variable {batch : Batch} {env env' : ProcessVariables} {record : Record} {value? : Option String}
  {visits : List Visit} {events : List Event}

theorem Step.eq_setAll (h : batch.Step env record value? env' events) :
    env' = env.setAll (Visit.additions [(record, value?)]) := by
  cases h with
  | skipped => rfl
  | exported _ _ ha => exact eq_setBytes_of_assign ha

theorem Steps.eq_setAll (h : batch.Steps env visits env' events) :
    env' = env.setAll (Visit.additions visits) := by
  induction h with
  | nil => rfl
  | @cons _ _ _ record value? visits _ _ hs _ ih =>
    have hadditions := Visit.additions_append [(record, value?)] visits
    rw [ih, hs.eq_setAll, ← setAll_append, ← hadditions]
    rfl

end Batch

namespace Loader

open ProcessVariables

-- A load into a process goes as the load into memory that holds the same variables, up to the first
-- write that the process cannot hold. It fails there, naming the key, and has the variables that
-- memory has just before. The system is given only what it takes.
theorem load_refines_memory {env : ProcessVariables} {memory : MemoryVariables}
    (h : env.Holds memory) (loader : Loader) (files : Files) (environment : String) :
    let inMemory := loader.load files environment memory
    let inProcess := loader.load files environment env
    ∃ writes : List (String × String),
      (inMemory.env = memory.extend writes ∧
        (writes.map Prod.fst).Sublist ((loader.records environment).map Record.key) ∧
        (∀ name ∈ writes.map Prod.fst, memory.get? name = none) ∧
        ∀ report, inMemory.outcome = .ok report → report.exported = writes.map Prod.fst) ∧
      (Accepted refusal? writes →
        inProcess.outcome = inMemory.outcome ∧ inProcess.events = inMemory.events ∧
          inProcess.env.Holds inMemory.env) ∧
      (∀ before key value after fault, writes = before ++ (key, value) :: after →
        Accepted refusal? before → fault? key value = some fault →
        inProcess.outcome = .error (.environment key fault) ∧
          inProcess.env.Holds (memory.extend before)) ∧
      ∃ calls, calls <+: writes ∧ inProcess.env = env.setAll calls ∧
        ∀ call ∈ calls, Settable (.ofText call.1) (.ofText call.2) := by
  intro inMemory inProcess
  have hsettable (calls : List (String × String)) (hcalls : Accepted refusal? calls) :
      ∀ call ∈ calls, Settable (.ofText call.1) (.ofText call.2) :=
    fun call hm => settable_of_no_fault (refusal?_eq_none_iff.mp (hcalls call hm))
  cases hb : (loader.batch files environment).outcome with
  | error e =>
    obtain ⟨houtcome, henv⟩ : inMemory.outcome = _ ∧ inMemory.env = memory := load_of_error hb
    have hmatches := load_matches_of_error hb h
    have hprocess : inProcess.env = env := (load_of_error hb).right
    refine ⟨[], ⟨henv, by simp, by simp, ?_⟩, ?_, ?_, [], by simp, hprocess, by simp⟩
    · intro report hreport
      cases houtcome.symm.trans hreport
    · intro _
      exact ⟨hmatches.outcome, hmatches.events, hmatches.env⟩
    · intro before _ _ _ _ hwrites
      cases before <;> cases hwrites
  | ok batch =>
    obtain ⟨visits, events, hrecords, hsteps, hreport, haccepted, hrefused⟩ :=
      restriction_holds.load h hb
    have hd := nodup_keys_of_passed hrecords
    refine ⟨Visit.additions visits, ⟨hsteps.eq_extend, ?_, ?_, ?_⟩, ?_, ?_, ?_⟩
    · exact (Visit.sublist_keys_additions visits).trans (hrecords.sublist.map _)
    · exact fun name hm => hsteps.get?_of_mem_additions hd hm
    · intro report hok
      rw [hreport report hok, Report.addVisits, List.nil_append]
    · intro hwrites
      obtain ⟨hmatches, _⟩ := haccepted hwrites
      exact ⟨hmatches.outcome.symm, hmatches.events.symm, hmatches.env⟩
    · intro before key value after fault hwrites hbefore hfault
      have hrefusal : refusal? key value = some (.environment key fault) := by
        rw [refusal?, hfault]
        rfl
      obtain ⟨houtcome, earlier, _, mid, _, _, rfl, hearlier, hholds, _⟩ :=
        hrefused before key value after _ hwrites hbefore hrefusal
      rw [hearlier.eq_extend] at hholds
      exact ⟨houtcome, hholds⟩
    · by_cases hwrites : Accepted refusal? (Visit.additions visits)
      case pos =>
        obtain ⟨_, hprocess⟩ := haccepted hwrites
        exact ⟨_, List.prefix_rfl, hprocess.eq_setAll, hsettable _ hwrites⟩
      case neg =>
        obtain ⟨before, key, value, after, e, hsplit, hbefore, hrefusal⟩ :=
          exists_refused_of_not_accepted hwrites
        obtain ⟨_, earlier, _, _, _, _, rfl, _, _, hprocess⟩ :=
          hrefused before key value after e hsplit hbefore hrefusal
        exact ⟨_, ⟨_, hsplit.symm⟩, hprocess.eq_setAll, hsettable _ hbefore⟩

-- The process cannot have the variable `B=`. The names in front of `E`, which it cannot have
-- either, are passed over.
theorem load_refines_memory_refused :
    let bindings := [("A", "#\x7b || X=Y || E\x7d"), ("B=", "#\x7bA\x7d"), ("C", "c")]
    let env := (ProcessVariables.ofList []).setAll [("E", "é")]
    let memory := (MemoryVariables.ofList []).extend [("E", "é")]
    let inMemory := (ofBindings bindings).load ⟨[], []⟩ "dev" memory
    let inProcess := (ofBindings bindings).load ⟨[], []⟩ "dev" env
    env.Holds memory ∧
      inMemory.outcome = .ok ⟨"dev", ["A", "B=", "C"], []⟩ ∧
      inProcess.outcome = .error (.environment "B=" .invalidName) ∧
      ∃ calls, inProcess.env = env.setAll calls ∧
        ∀ call ∈ calls, Settable (.ofText call.1) (.ofText call.2) := by
  intro bindings env memory inMemory inProcess
  have h : env.Holds memory := by
    refine Holds.setAll .nil ?_
    decide +kernel
  obtain ⟨_, _, _, _, calls, _, hcalls⟩ :=
    load_refines_memory h (ofBindings bindings) ⟨[], []⟩ "dev"
  exact ⟨h, by decide +kernel, by decide +kernel, calls, hcalls⟩

end Loader

end EnvProvision
