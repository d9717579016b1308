import EnvProvision.Proofs.Records

namespace EnvProvision

-- A record that a pass got past, with its value if it was exported.
abbrev Visit := Record × Option String

namespace Visit

def additions (visits : List Visit) : List (String × String) :=
  visits.filterMap fun (record, value?) => value?.map (record.key, ·)

def skipped (visits : List Visit) : List String :=
  visits.filterMap fun (record, value?) => if value?.isNone then some record.key else none

theorem key_mem {visit : Visit} {visits : List Visit} (h : visit ∈ visits) :
    visit.1.key ∈ (visits.map Prod.fst).map Record.key :=
  List.mem_map_of_mem (List.mem_map_of_mem h)

theorem additions_append (xs ys : List Visit) :
    additions (xs ++ ys) = additions xs ++ additions ys :=
  List.filterMap_append

theorem sublist_keys_additions (visits : List Visit) :
    ((additions visits).map Prod.fst).Sublist ((visits.map Prod.fst).map Record.key) := by
  induction visits with
  | nil => exact .slnil
  | cons visit rest ih =>
    obtain ⟨record, value?⟩ := visit
    cases value? with
    | none => exact ih.cons _
    | some value => exact ih.cons_cons _

theorem keys_additions {visits : List Visit} (p : Record → Bool)
    (h : ∀ visit ∈ visits, visit.2.isNone = p visit.1) :
    (additions visits).map Prod.fst = ((visits.map Prod.fst).filter (!p ·)).map Record.key := by
  induction visits with
  | nil => rfl
  | cons visit rest ih =>
    obtain ⟨record, value?⟩ := visit
    obtain ⟨hp, hrest⟩ := List.forall_mem_cons.mp h
    cases value? with
    | none =>
      have hp : p record = true := hp.symm
      simpa [additions, hp] using ih hrest
    | some value =>
      have hp : p record = false := hp.symm
      simpa [additions, hp] using ih hrest

theorem skipped_eq {visits : List Visit} (p : Record → Bool)
    (h : ∀ visit ∈ visits, visit.2.isNone = p visit.1) :
    skipped visits = ((visits.map Prod.fst).filter p).map Record.key := by
  induction visits with
  | nil => rfl
  | cons visit rest ih =>
    obtain ⟨record, value?⟩ := visit
    obtain ⟨hp, hrest⟩ := List.forall_mem_cons.mp h
    cases value? with
    | none =>
      have hp : p record = true := hp.symm
      simpa [skipped, hp] using ih hrest
    | some value =>
      have hp : p record = false := hp.symm
      simpa [skipped, hp] using ih hrest

theorem additions_eq_append_cons {visits : List Visit} {before after : List (String × String)}
    {key value : String} (h : additions visits = before ++ (key, value) :: after) :
    ∃ earlier record later, visits = earlier ++ (record, some value) :: later ∧
      additions earlier = before ∧ record.key = key := by
  obtain ⟨earlier, tail, rfl, hb, ht⟩ := List.filterMap_eq_append_iff.mp h
  obtain ⟨silent, ⟨record, value?⟩, later, rfl, hs, hv, _⟩ := List.filterMap_eq_cons_iff.mp ht
  obtain ⟨_, rfl, hv⟩ := Option.map_eq_some_iff.mp hv
  cases hv
  refine ⟨earlier ++ silent, record, later, by simp, ?_, rfl⟩
  rw [additions_append, ← hb]
  simpa [additions] using hs

end Visit

namespace Report

def addVisits (report : Report) (visits : List Visit) : Report where
  environment := report.environment
  exported := report.exported ++ (Visit.additions visits).map Prod.fst
  skipped := report.skipped ++ Visit.skipped visits

theorem addVisits_nil (report : Report) : report.addVisits [] = report := by
  simp [addVisits, Visit.additions, Visit.skipped]

theorem addVisits_cons (report : Report) (visit : Visit) (visits : List Visit) :
    (report.addVisits [visit]).addVisits visits = report.addVisits (visit :: visits) := by
  obtain ⟨record, value?⟩ := visit
  cases value? <;> simp [addVisits, Visit.additions, Visit.skipped]

end Report

theorem LoadResult.after_after {σ : Type} (result : LoadResult σ) (before events : List Event) :
    (result.after events).after before = result.after (before ++ events) := by
  simp [after]

namespace Batch

variable {σ : Type} [Variables σ]

inductive Step (batch : Batch) (env : σ) (record : Record) :
    Option String → σ → List Event → Prop
  | skipped :
    Variables.isSet env record.key = .ok true →
    Step batch env record none env [.leftUntouched record.key]
  | exported {value events env'} :
    Variables.isSet env record.key = .ok false →
    batch.resolveRecord (Variables.value? env) record = ⟨.ok value, events⟩ →
    Variables.assign env record.key value = .ok env' →
    Step batch env record (some value) env' (events ++ [.exported record.key])

inductive Stop (batch : Batch) (env : σ) (record : Record) : Error → List Event → Prop
  | unreadable {e} :
    Variables.isSet env record.key = .error e → Stop batch env record e []
  | unresolved {e events} :
    Variables.isSet env record.key = .ok false →
    batch.resolveRecord (Variables.value? env) record = ⟨.error e, events⟩ →
    Stop batch env record e events
  | unwritable {value events e} :
    Variables.isSet env record.key = .ok false →
    batch.resolveRecord (Variables.value? env) record = ⟨.ok value, events⟩ →
    Variables.assign env record.key value = .error e →
    Stop batch env record e events

theorem step_or_stop (batch : Batch) (env : σ) (record : Record) :
    (∃ value? env' events, batch.Step env record value? env' events) ∨
      ∃ e events, batch.Stop env record e events := by
  cases hs : Variables.isSet env record.key with
  | error e => exact .inr ⟨_, _, .unreadable hs⟩
  | ok set =>
    cases set with
    | true => exact .inl ⟨_, _, _, .skipped hs⟩
    | false =>
      cases hr : batch.resolveRecord (Variables.value? env) record with | mk outcome events
      cases outcome with
      | error e => exact .inr ⟨_, _, .unresolved hs hr⟩
      | ok value =>
        cases ha : Variables.assign env record.key value with
        | error e => exact .inr ⟨_, _, .unwritable hs hr ha⟩
        | ok env' => exact .inl ⟨_, _, _, .exported hs hr ha⟩

inductive Steps (batch : Batch) : σ → List Visit → σ → List Event → Prop
  | nil {env} : Steps batch env [] env []
  | cons {env env₁ env₂ record value? visits events₁ events₂} :
    batch.Step env record value? env₁ events₁ → Steps batch env₁ visits env₂ events₂ →
    Steps batch env ((record, value?) :: visits) env₂ (events₁ ++ events₂)

-- How a pass over records ends.
inductive Pass (batch : Batch) (env : σ) (report : Report) (records : List Record) :
    LoadResult σ → Prop
  | completes {visits env' events} :
    records = visits.map Prod.fst → batch.Steps env visits env' events →
    Pass batch env report records
      ⟨env', .ok (report.addVisits visits),
        events ++ [.loaded report.environment batch.storage.kind
          (report.addVisits visits).exported.length (report.addVisits visits).skipped.length]⟩
  | stops {visits record rest env' events e events'} :
    records = visits.map Prod.fst ++ record :: rest → batch.Steps env visits env' events →
    batch.Stop env' record e events' →
    Pass batch env report records ⟨env', .error e, events ++ events'⟩

theorem Steps.append_inv {batch : Batch} {xs ys : List Visit} {env env' : σ} {events : List Event}
    (h : batch.Steps env (xs ++ ys) env' events) :
    ∃ mid before after, batch.Steps env xs mid before ∧ batch.Steps mid ys env' after := by
  induction xs generalizing env events with
  | nil => exact ⟨_, _, _, .nil, h⟩
  | cons visit rest ih =>
    cases h with
    | cons hs hsteps =>
      obtain ⟨_, _, _, hx, hy⟩ := ih hsteps
      exact ⟨_, _, _, .cons hs hx, hy⟩

section

variable {batch : Batch} {env env' : σ} {report : Report} {record : Record} {rest : List Record}
  {events : List Event}

theorem exportAll_of_step {value? : Option String} (h : batch.Step env record value? env' events) :
    batch.exportAll env report (record :: rest) =
      (batch.exportAll env' (report.addVisits [(record, value?)]) rest).after events := by
  cases h with
  | skipped hs =>
    simp [exportAll, hs, Report.addVisits, Report.addSkipped, Visit.additions, Visit.skipped]
  | exported hs hr ha =>
    simp [exportAll, hs, hr, ha, Report.addVisits, Report.addExported, Visit.additions,
      Visit.skipped]

theorem exportAll_of_stop {e : Error} (h : batch.Stop env record e events) :
    batch.exportAll env report (record :: rest) = ⟨env, .error e, events⟩ := by
  cases h with
  | unreadable hs => simp [exportAll, hs]
  | unresolved hs hr => simp [exportAll, hs, hr]
  | unwritable hs hr ha => simp [exportAll, hs, hr, ha]

end

theorem exportAll_of_steps {batch : Batch} {env env' : σ} {visits : List Visit}
    {events : List Event} (h : batch.Steps env visits env' events) (report : Report)
    (rest : List Record) :
    batch.exportAll env report (visits.map Prod.fst ++ rest) =
      (batch.exportAll env' (report.addVisits visits) rest).after events := by
  induction h generalizing report with
  | nil => rw [Report.addVisits_nil]; rfl
  | cons hs _ ih =>
    rw [List.map_cons, List.cons_append, exportAll_of_step hs, ih, Report.addVisits_cons,
      LoadResult.after_after]

theorem Pass.cons {batch : Batch} {env env' : σ} {report : Report} {record : Record}
    {value? : Option String} {rest : List Record} {events : List Event} {result : LoadResult σ}
    (hs : batch.Step env record value? env' events)
    (hp : batch.Pass env' (report.addVisits [(record, value?)]) rest result) :
    batch.Pass env report (record :: rest) (result.after events) := by
  cases hp with
  | completes hr hsteps =>
    simp only [LoadResult.after, ← List.append_assoc]
    rw [Report.addVisits_cons]
    exact .completes (by rw [hr]; rfl) (.cons hs hsteps)
  | stops hr hsteps hstop =>
    simp only [LoadResult.after, ← List.append_assoc]
    exact .stops (by rw [hr]; rfl) (.cons hs hsteps) hstop

theorem pass_exportAll (batch : Batch) (env : σ) (report : Report) (records : List Record) :
    batch.Pass env report records (batch.exportAll env report records) := by
  induction records generalizing env report with
  | nil =>
    have h : batch.Pass env report [] _ := .completes rfl .nil
    rwa [Report.addVisits_nil] at h
  | cons record rest ih =>
    obtain ⟨value?, env', events, hs⟩ | ⟨e, events, hs⟩ := batch.step_or_stop env record
    case inl =>
      rw [exportAll_of_step hs]
      exact .cons hs (ih ..)
    case inr =>
      rw [exportAll_of_stop hs]
      exact .stops rfl .nil hs

theorem Pass.exists_steps {batch : Batch} {env : σ} {report : Report} {records : List Record}
    {result : LoadResult σ} (h : batch.Pass env report records result) :
    ∃ visits rest events, records = visits.map Prod.fst ++ rest ∧
      batch.Steps env visits result.env events ∧
      (rest = [] ∧ result.outcome = .ok (report.addVisits visits) ∨
        ∃ record tail e events', rest = record :: tail ∧
          batch.Stop result.env record e events' ∧ result.outcome = .error e) := by
  cases h with
  | completes hr hsteps => exact ⟨_, [], _, by rw [hr, List.append_nil], hsteps, .inl ⟨rfl, rfl⟩⟩
  | stops hr hsteps hstop =>
    exact ⟨_, _, _, hr, hsteps, .inr ⟨_, _, _, _, rfl, hstop, rfl⟩⟩

end Batch

namespace Loader

theorem nodup_keys_of_passed {loader : Loader} {environment : String} {visits : List Visit}
    (h : visits.map Prod.fst <+: loader.records environment) :
    ((visits.map Prod.fst).map Record.key).Nodup :=
  (loader.nodup_keys_records environment).sublist (h.sublist.map _)

variable {σ : Type} [Variables σ]

theorem load_of_error {loader : Loader} {files : Files} {environment : String} {env : σ}
    {e : Error} (h : (loader.batch files environment).outcome = .error e) :
    (loader.load files environment env).outcome = .error e ∧
      (loader.load files environment env).env = env := by
  unfold load
  cases hb : loader.batch files environment with | mk outcome events
  rw [hb] at h
  obtain rfl : outcome = .error e := h
  exact ⟨rfl, rfl⟩

theorem load_of_batch {loader : Loader} {files : Files} {environment : String} {batch : Batch}
    {events : List Event} (h : loader.batch files environment = ⟨.ok batch, events⟩) (env : σ) :
    loader.load files environment env =
      (batch.exportAll env ⟨environment, [], []⟩ (loader.records environment)).after events := by
  have hr : batch.records = loader.records environment := records_of_batch (by rw [h])
  rw [load, h, ← hr]

-- A load whose steps get past each record of the section succeeds.
theorem load_of_steps {loader : Loader} {files : Files} {environment : String} {batch : Batch}
    {visits : List Visit} {env env' : σ} {events : List Event}
    (hb : (loader.batch files environment).outcome = .ok batch)
    (hr : loader.records environment = visits.map Prod.fst)
    (h : batch.Steps env visits env' events) :
    (loader.load files environment env).outcome =
        .ok (Report.addVisits ⟨environment, [], []⟩ visits) ∧
      (loader.load files environment env).env = env' := by
  cases hbatch : loader.batch files environment with | mk outcome setup
  rw [hbatch] at hb
  obtain rfl : outcome = .ok batch := hb
  have hpass := Batch.exportAll_of_steps h ⟨environment, [], []⟩ []
  rw [load_of_batch hbatch, hr, ← List.append_nil (visits.map Prod.fst), hpass]
  exact ⟨rfl, rfl⟩

-- Once the batch is there, a load takes steps over the records of its section, up to the end or up
-- to one that it stops at.
theorem exists_steps_of_load {loader : Loader} {files : Files} {environment : String}
    {batch : Batch} (h : (loader.batch files environment).outcome = .ok batch) (env : σ) :
    ∃ visits rest events, loader.records environment = visits.map Prod.fst ++ rest ∧
      batch.Steps env visits (loader.load files environment env).env events ∧
      (rest = [] ∧
          (loader.load files environment env).outcome =
            .ok (Report.addVisits ⟨environment, [], []⟩ visits) ∨
        ∃ record tail e events', rest = record :: tail ∧
          batch.Stop (loader.load files environment env).env record e events' ∧
          (loader.load files environment env).outcome = .error e) := by
  rw [← records_of_batch h]
  unfold load
  cases hb : loader.batch files environment with | mk outcome events
  rw [hb] at h
  obtain rfl : outcome = .ok batch := h
  exact (batch.pass_exportAll env ⟨environment, [], []⟩ batch.records).exists_steps

-- A load that succeeds takes a step over each record of its section.
theorem exists_steps_of_load_ok {loader : Loader} {files : Files} {environment : String} {env : σ}
    {report : Report} (h : (loader.load files environment env).outcome = .ok report) :
    ∃ batch visits events, (loader.batch files environment).outcome = .ok batch ∧
      loader.records environment = visits.map Prod.fst ∧
      batch.Steps env visits (loader.load files environment env).env events ∧
      report = Report.addVisits ⟨environment, [], []⟩ visits := by
  cases hb : (loader.batch files environment).outcome with
  | error e => cases h.symm.trans (load_of_error hb).left
  | ok batch =>
    obtain ⟨visits, rest, events, hr, hsteps, hend⟩ := exists_steps_of_load hb env
    obtain ⟨rfl, hout⟩ | ⟨_, _, _, _, _, _, hout⟩ := hend
    case inl =>
      rw [List.append_nil] at hr
      exact ⟨batch, visits, events, rfl, hr, hsteps, Except.ok.inj (h.symm.trans hout)⟩
    case inr => cases h.symm.trans hout

end Loader

end EnvProvision
