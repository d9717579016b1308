import EnvProvision.Proofs.Pass
import EnvProvision.Variables.Process
import Mathlib.Control.Monad.Basic

namespace EnvProvision

namespace ProcessVariables

variable {env env' : ProcessVariables} {name value : String} {bytes : Bytes}

theorem value?_of_unset (h : env.bytes? (.ofText name) = none) :
    Variables.value? env name = .ok none := by
  simp only [Variables.value?, value?, h]
  split <;> rfl

theorem value?_of_text (hv : isValidName name) {text : String}
    (h : env.bytes? (.ofText name) = some bytes) (ht : bytes.text? = some text) :
    Variables.value? env name = .ok (some text) := by
  simp [Variables.value?, value?, hv, h, ht]

theorem value?_of_not_text (hv : isValidName name) (h : env.bytes? (.ofText name) = some bytes)
    (ht : bytes.text? = none) :
    Variables.value? env name = .error (.environment name .notUnicode) := by
  simp [Variables.value?, value?, hv, h, ht]

theorem isSet_of_text (hv : isValidName name) {text : String}
    (h : env.bytes? (.ofText name) = some bytes) (ht : bytes.text? = some text) :
    Variables.isSet env name = .ok true := by
  rw [Variables.isSet, value?_of_text hv h ht]
  rfl

theorem isSet_of_not_text (hv : isValidName name) (h : env.bytes? (.ofText name) = some bytes)
    (ht : bytes.text? = none) :
    Variables.isSet env name = .error (.environment name .notUnicode) := by
  rw [Variables.isSet, value?_of_not_text hv h ht]
  rfl

theorem isSet_ne_false (hv : isValidName name) (h : env.bytes? (.ofText name) = some bytes) :
    Variables.isSet env name ≠ .ok false := by
  cases ht : bytes.text? with
  | some text => simp [isSet_of_text hv h ht]
  | none => simp [isSet_of_not_text hv h ht]

-- Why a variable cannot be set to a value.
def fault? (name value : String) : Option VariableFault :=
  if !isValidName name then some .invalidName
  else if value.toList.contains '\x00' then some .nulInValue
  else none

theorem assign_of_fault {fault : VariableFault} (h : fault? name value = some fault) :
    Variables.assign env name value = .error (.environment name fault) := by
  simp only [Variables.assign, assign]
  unfold fault? at h
  split at h
  case isTrue hn =>
    rw [if_pos hn]
    cases h
    rfl
  case isFalse hn =>
    rw [if_neg hn]
    split at h
    case isTrue hz =>
      rw [if_pos hz]
      cases h
      rfl
    case isFalse => cases h

theorem assign_of_no_fault (h : fault? name value = none) :
    Variables.assign env name value = .ok (env.setBytes (.ofText name) (.ofText value)) := by
  simp only [Variables.assign, assign]
  unfold fault? at h
  split at h
  case isTrue => cases h
  case isFalse hn =>
    rw [if_neg hn]
    split at h
    case isTrue => cases h
    case isFalse hz => rw [if_neg hz]

theorem isValidName_of_no_fault (h : fault? name value = none) : isValidName name := by
  unfold fault? at h
  split at h
  case isTrue => cases h
  case isFalse hn => simpa using hn

theorem eq_setBytes_of_assign (h : Variables.assign env name value = .ok env') :
    env' = env.setBytes (.ofText name) (.ofText value) := by
  cases hf : fault? name value with
  | some fault => cases h.symm.trans (assign_of_fault hf)
  | none => exact Except.ok.inj (h.symm.trans (assign_of_no_fault hf))

end ProcessVariables

namespace Batch

open ProcessVariables

variable {batch : Batch} {env env' : ProcessVariables} {record : Record} {value? : Option String}
  {visits : List Visit} {events : List Event} {key : String} {bytes : Bytes}

theorem Step.bytes?_of_set (h : batch.Step env record value? env' events) (hv : isValidName key)
    (hs : env.bytes? (.ofText key) = some bytes) : env'.bytes? (.ofText key) = some bytes := by
  cases h with
  | skipped => exact hs
  | exported hset _ ha =>
    obtain rfl := eq_setBytes_of_assign ha
    rw [bytes?_setBytes, if_neg, hs]
    intro heq
    obtain rfl := Bytes.ofText_inj heq
    exact isSet_ne_false hv hs hset

theorem Steps.bytes?_of_set (h : batch.Steps env visits env' events) (hv : isValidName key)
    (hs : env.bytes? (.ofText key) = some bytes) : env'.bytes? (.ofText key) = some bytes := by
  induction h with
  | nil => exact hs
  | cons hstep _ ih => exact ih (hstep.bytes?_of_set hv hs)

theorem Step.skips_set (h : batch.Step env record value? env' events)
    (hv : isValidName record.key) (hs : env.bytes? (.ofText record.key) = some bytes) :
    value? = none ∧ bytes.text? ≠ none := by
  cases h with
  | exported hset => exact absurd hset (isSet_ne_false hv hs)
  | skipped hset =>
    refine ⟨rfl, fun ht => ?_⟩
    cases hset.symm.trans (isSet_of_not_text hv hs ht)

theorem Steps.skips_set (h : batch.Steps env visits env' events) (hv : isValidName key)
    (hs : env.bytes? (.ofText key) = some bytes) :
    ∀ visit ∈ visits, visit.1.key = key → visit.2 = none ∧ bytes.text? ≠ none := by
  induction h with
  | nil => exact fun _ hm => nomatch hm
  | cons hstep _ ih =>
    intro visit hm hk
    obtain rfl | hm := List.mem_cons.mp hm
    case inl =>
      subst hk
      exact hstep.skips_set hv hs
    case inr => exact ih (hstep.bytes?_of_set hv hs) visit hm hk

theorem Stop.of_set {e : Error} (h : batch.Stop env record e events)
    (hv : isValidName record.key) (hs : env.bytes? (.ofText record.key) = some bytes) :
    bytes.text? = none ∧ e = .environment record.key .notUnicode := by
  cases h with
  | unresolved hset | unwritable hset => exact absurd hset (isSet_ne_false hv hs)
  | unreadable hset =>
    cases ht : bytes.text? with
    | some text => cases hset.symm.trans (isSet_of_text hv hs ht)
    | none => exact ⟨rfl, Except.error.inj (hset.symm.trans (isSet_of_not_text hv hs ht))⟩

end Batch

namespace Loader

open ProcessVariables

-- The load gets as far as this record, and ends there with an error.
def StopsAt {σ : Type} [Variables σ] (loader : Loader) (files : Files) (environment : String)
    (env : σ) (record : Record) (e : Error) : Prop :=
  let result := loader.load files environment env
  ∃ batch visits tail events events', (loader.batch files environment).outcome = .ok batch ∧
    loader.records environment = visits.map Prod.fst ++ record :: tail ∧
    batch.Steps env visits result.env events ∧ batch.Stop result.env record e events'

theorem exists_stopsAt {σ : Type} [Variables σ] {loader : Loader} {files : Files}
    {environment : String} {env : σ} {e : Error}
    (h : (loader.load files environment env).outcome = .error e) :
    (loader.batch files environment).outcome = .error e ∨
      ∃ record, loader.StopsAt files environment env record e := by
  cases hb : (loader.batch files environment).outcome with
  | error e' =>
    cases (load_of_error hb).left.symm.trans h
    exact .inl rfl
  | ok batch =>
    obtain ⟨visits, rest, events, hr, hsteps, hend⟩ := exists_steps_of_load hb env
    obtain ⟨_, hout⟩ | ⟨record, tail, _, events', rfl, hstop, hout⟩ := hend
    case inl => cases h.symm.trans hout
    case inr =>
      cases h.symm.trans hout
      exact .inr ⟨record, batch, visits, tail, events, events', hb, hr, hsteps, hstop⟩

section

variable {loader : Loader} {files : Files} {environment : String} {env : ProcessVariables}
  {record : Record} {bytes : Bytes} {report : Report}

theorem bytes?_load_of_set (loader : Loader) (files : Files) (environment : String) {key : String}
    (hv : isValidName key) (hs : env.bytes? (.ofText key) = some bytes) :
    (loader.load files environment env).env.bytes? (.ofText key) = some bytes := by
  cases hb : (loader.batch files environment).outcome with
  | error e =>
    rw [(load_of_error hb).right]
    exact hs
  | ok batch =>
    obtain ⟨_, _, _, _, hsteps, _⟩ := exists_steps_of_load hb env
    exact hsteps.bytes?_of_set hv hs

theorem StopsAt.of_set {e : Error} (h : loader.StopsAt files environment env record e)
    (hv : isValidName record.key) (hs : env.bytes? (.ofText record.key) = some bytes) :
    bytes.text? = none ∧ e = .environment record.key .notUnicode := by
  obtain ⟨_, _, _, _, _, _, _, _, hstop⟩ := h
  exact hstop.of_set hv (bytes?_load_of_set loader files environment hv hs)

theorem skipped_of_set (h : (loader.load files environment env).outcome = .ok report)
    (hr : record ∈ loader.records environment) (hv : isValidName record.key)
    (hs : env.bytes? (.ofText record.key) = some bytes) :
    bytes.text? ≠ none ∧ record.key ∈ report.skipped ∧ record.key ∉ report.exported := by
  obtain ⟨batch, visits, _, _, hvisits, hsteps, rfl⟩ := exists_steps_of_load_ok h
  have hskips := hsteps.skips_set hv hs
  rw [hvisits] at hr
  obtain ⟨⟨found, value?⟩, hm, rfl⟩ := List.mem_map.mp hr
  obtain ⟨rfl, ht⟩ := hskips _ hm rfl
  refine ⟨ht, ?_, ?_⟩
  · exact List.mem_append_right _ (List.mem_filterMap.mpr ⟨_, hm, rfl⟩)
  · simp only [Report.addVisits, List.nil_append, Visit.additions, List.mem_map,
      List.mem_filterMap]
    rintro ⟨_, ⟨⟨other, _⟩, hm', hvalue⟩, hk⟩
    obtain ⟨_, rfl, rfl⟩ := Option.map_eq_some_iff.mp hvalue
    cases (hskips _ hm' hk).left

end

-- A variable that is set keeps its bytes. If they are text, the load tells that it is set, gets
-- past its record, and reports it as skipped. Bytes that are no text cannot be read, so no load
-- that comes to the record gets past it.
theorem load_of_set_variable {loader : Loader} {files : Files} {environment : String}
    {env : ProcessVariables} {record : Record} {bytes : Bytes}
    (hr : record ∈ loader.records environment) (hv : isValidName record.key)
    (hs : env.bytes? (.ofText record.key) = some bytes) :
    let result := loader.load files environment env
    result.env.bytes? (.ofText record.key) = some bytes ∧
      (bytes.text? ≠ none →
        Variables.isSet env record.key = .ok true ∧
        (∀ e, result.outcome = .error e →
          (loader.batch files environment).outcome = .error e ∨
            ∃ other, other.key ≠ record.key ∧ loader.StopsAt files environment env other e) ∧
        ∀ report, result.outcome = .ok report →
          record.key ∈ report.skipped ∧ record.key ∉ report.exported) ∧
      (bytes.text? = none →
        Variables.isSet env record.key = .error (.environment record.key .notUnicode) ∧
        (∀ report, result.outcome ≠ .ok report) ∧
        ∀ e, loader.StopsAt files environment env record e →
          e = .environment record.key .notUnicode) := by
  intro result
  refine ⟨bytes?_load_of_set loader files environment hv hs, fun ht => ⟨?_, ?_, ?_⟩,
    fun ht => ⟨isSet_of_not_text hv hs ht, ?_, ?_⟩⟩
  · obtain ⟨text, ht⟩ := Option.ne_none_iff_exists'.mp ht
    exact isSet_of_text hv hs ht
  · intro e he
    refine (exists_stopsAt he).imp_right fun ⟨other, hstop⟩ => ⟨other, fun hk => ?_, hstop⟩
    rw [← hk] at hv hs
    exact ht (hstop.of_set hv hs).left
  · intro report h
    exact (skipped_of_set h hr hv hs).right
  · intro report h
    exact (skipped_of_set h hr hv hs).left ht
  · intro e hstop
    exact (hstop.of_set hv hs).right

-- A loader of one environment, without secrets.
def ofBindings (bindings : List (String × String)) : Loader :=
  ⟨⟨.ofList [("dev", ⟨none, .ofList bindings⟩)]⟩, { keyring := .ofList [] }⟩

theorem load_of_set_variable_empty :
    let env := ProcessVariables.ofList [(.ofText "K", [])]
    let result := (ofBindings [("J", "#\x7bK\x7d"), ("K", "k")]).load ⟨[], []⟩ "dev" env
    result.outcome = .ok ⟨"dev", ["J"], ["K"]⟩ ∧ result.env.bytes? (.ofText "K") = some [] := by
  intro env result
  have hr : Record.mk "K" "k" ∈ (ofBindings [("J", "#\x7bK\x7d"), ("K", "k")]).records "dev" := by
    decide +kernel
  have hs : env.bytes? (.ofText "K") = some [] := by decide +kernel
  exact ⟨by decide +kernel, (load_of_set_variable hr (by decide +kernel) hs).left⟩

-- A variable whose bytes are no text counts as set for no one: it can neither be told to be set nor
-- be passed over.
theorem load_stops_at_set_variable :
    let env := ProcessVariables.ofList [(.ofText "K", [0xFF])]
    let result := (ofBindings [("K", "k"), ("L", "l")]).load ⟨[], []⟩ "dev" env
    env.bytes? (.ofText "K") = some [0xFF] ∧
      Variables.isSet env "K" = .error (.environment "K" .notUnicode) ∧
      result.outcome = .error (.environment "K" .notUnicode) := by
  decide +kernel

end Loader

end EnvProvision
