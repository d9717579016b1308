import EnvProvision.Proofs.Pass

namespace EnvProvision

namespace LoadResult

-- The results differ in the variables only, and these are related.
structure Matches {σ τ : Type} (R : σ → τ → Prop) (a : LoadResult σ) (b : LoadResult τ) :
    Prop where
  env : R a.env b.env
  outcome : a.outcome = b.outcome
  events : a.events = b.events

theorem Matches.after {σ τ : Type} {R : σ → τ → Prop} {a : LoadResult σ} {b : LoadResult τ}
    (h : a.Matches R b) (events : List Event) : (a.after events).Matches R (b.after events) where
  env := h.env
  outcome := h.outcome
  events := congrArg (events ++ ·) h.events

end LoadResult

-- Related holders read alike. The second takes the writes that the first one takes, unless it
-- refuses one with the error that `refusal?` tells.
structure Restriction {σ τ : Type} [Variables σ] [Variables τ] (R : σ → τ → Prop)
    (refusal? : String → String → Option Error) : Prop where
  value? {a b} : R a b → Variables.value? a = Variables.value? b
  assign_error {a b e name value} :
    R a b → Variables.assign a name value = .error e → Variables.assign b name value = .error e
  accepted {a b a' name value} :
    R a b → refusal? name value = none → Variables.assign a name value = .ok a' →
    ∃ b', Variables.assign b name value = .ok b' ∧ R a' b'
  refused {b : τ} {name value e} :
    refusal? name value = some e → Variables.assign b name value = .error e

-- No write is refused.
def Accepted (refusal? : String → String → Option Error) (writes : List (String × String)) : Prop :=
  ∀ write ∈ writes, refusal? write.1 write.2 = none

theorem exists_refused_of_not_accepted {refusal? : String → String → Option Error}
    {writes : List (String × String)} (h : ¬Accepted refusal? writes) :
    ∃ before key value after e, writes = before ++ (key, value) :: after ∧
      Accepted refusal? before ∧ refusal? key value = some e := by
  cases hf : writes.find? fun write => (refusal? write.1 write.2).isSome with
  | none => exact absurd (fun write hm => by simpa using List.find?_eq_none.mp hf write hm) h
  | some write =>
    obtain ⟨hs, before, after, rfl, hb⟩ := List.find?_eq_some_iff_append.mp hf
    obtain ⟨e, he⟩ := Option.isSome_iff_exists.mp hs
    exact ⟨before, write.1, write.2, after, e, rfl, fun w hm => by simpa using hb w hm, he⟩

namespace Restriction

variable {σ τ : Type} [Variables σ] [Variables τ] {R : σ → τ → Prop}
  {refusal? : String → String → Option Error} {a a' a'' : σ} {b : τ} {batch : Batch}
  {record : Record} {value? : Option String} {visits : List Visit} {e : Error}
  {events events' : List Event}

theorem isSet (h : Restriction R refusal?) (hr : R a b) (name : String) :
    Variables.isSet a name = Variables.isSet b name := by
  unfold Variables.isSet
  rw [h.value? hr]

theorem step (h : Restriction R refusal?) (hr : R a b)
    (hs : batch.Step a record value? a' events)
    (hw : Accepted refusal? (Visit.additions [(record, value?)])) :
    ∃ b', batch.Step b record value? b' events ∧ R a' b' := by
  cases hs with
  | skipped hset =>
    rw [h.isSet hr] at hset
    exact ⟨b, .skipped hset, hr⟩
  | @exported value _ _ hset hres ha =>
    rw [h.isSet hr] at hset
    rw [h.value? hr] at hres
    obtain ⟨b', hb, hr'⟩ := h.accepted hr (hw (record.key, value) (by simp [Visit.additions])) ha
    exact ⟨b', .exported hset hres hb, hr'⟩

theorem steps (h : Restriction R refusal?) (hr : R a b)
    (hs : batch.Steps a visits a' events) (hw : Accepted refusal? (Visit.additions visits)) :
    ∃ b', batch.Steps b visits b' events ∧ R a' b' := by
  induction hs generalizing b with
  | nil => exact ⟨b, .nil, hr⟩
  | @cons _ _ _ record value? visits _ _ hs _ ih =>
    have heq : Visit.additions ((record, value?) :: visits) =
        Visit.additions [(record, value?)] ++ Visit.additions visits :=
      Visit.additions_append [_] visits
    rw [heq] at hw
    obtain ⟨b', hs', hr'⟩ := h.step hr hs fun w hm => hw w (List.mem_append_left _ hm)
    obtain ⟨b'', hs'', hr''⟩ := ih hr' fun w hm => hw w (List.mem_append_right _ hm)
    exact ⟨b'', .cons hs' hs'', hr''⟩

theorem stop (h : Restriction R refusal?) (hr : R a b) (hs : batch.Stop a record e events) :
    batch.Stop b record e events := by
  cases hs with
  | unreadable hset => exact .unreadable (h.isSet hr _ ▸ hset)
  | unresolved hset hres => exact .unresolved (h.isSet hr _ ▸ hset) (h.value? hr ▸ hres)
  | unwritable hset hres ha =>
    exact .unwritable (h.isSet hr _ ▸ hset) (h.value? hr ▸ hres) (h.assign_error hr ha)

theorem stop_of_refused (h : Restriction R refusal?) (hr : R a b) {value : String}
    (hs : batch.Step a record (some value) a' events) (he : refusal? record.key value = some e) :
    ∃ events', batch.Stop b record e events' := by
  cases hs with
  | exported hset hres ha =>
    rw [h.isSet hr] at hset
    rw [h.value? hr] at hres
    exact ⟨_, .unwritable hset hres (h.refused he)⟩

-- `hend` tells that the first pass gets no further than `a'`.
theorem exportAll_of_accepted (h : Restriction R refusal?) (hr : R a b)
    (hs : batch.Steps a visits a' events) (hw : Accepted refusal? (Visit.additions visits))
    {rest : List Record}
    (hend : rest = [] ∨ ∃ record tail e events', rest = record :: tail ∧
      batch.Stop a' record e events') (report : Report) :
    let second := batch.exportAll b report (visits.map Prod.fst ++ rest)
    (batch.exportAll a report (visits.map Prod.fst ++ rest)).Matches R second ∧
      batch.Steps b visits second.env events := by
  obtain ⟨b', hs', hr'⟩ := h.steps hr hs hw
  rw [Batch.exportAll_of_steps hs, Batch.exportAll_of_steps hs']
  obtain rfl | ⟨record, tail, e, events', rfl, hstop⟩ := hend
  case inl =>
    refine ⟨LoadResult.Matches.after ?_ events, hs'⟩
    exact ⟨hr', rfl, rfl⟩
  case inr =>
    rw [Batch.exportAll_of_stop hstop, Batch.exportAll_of_stop (h.stop hr' hstop)]
    refine ⟨LoadResult.Matches.after ?_ events, hs'⟩
    exact ⟨hr', rfl, rfl⟩

theorem exportAll_of_refused (h : Restriction R refusal?) (hr : R a b)
    (hs : batch.Steps a visits a' events) (hw : Accepted refusal? (Visit.additions visits))
    {value : String} (hnext : batch.Step a' record (some value) a'' events')
    (he : refusal? record.key value = some e) (report : Report) (rest : List Record) :
    let second := batch.exportAll b report (visits.map Prod.fst ++ record :: rest)
    second.outcome = .error e ∧ R a' second.env ∧ batch.Steps b visits second.env events := by
  obtain ⟨b', hs', hr'⟩ := h.steps hr hs hw
  obtain ⟨_, hstop⟩ := h.stop_of_refused hr' hnext he
  rw [Batch.exportAll_of_steps hs', Batch.exportAll_of_stop hstop]
  exact ⟨rfl, hr', hs'⟩

-- The writes of the first load are those of `visits`. If none is refused, the loads go alike; if
-- one is, the second load takes the steps before it, and ends with its error.
theorem load (h : Restriction R refusal?) (hr : R a b) {loader : Loader} {files : Files}
    {environment : String} (hb : (loader.batch files environment).outcome = .ok batch) :
    let first := loader.load files environment a
    let second := loader.load files environment b
    ∃ visits events, (visits.map Prod.fst <+: loader.records environment) ∧
      batch.Steps a visits first.env events ∧
      (∀ report, first.outcome = .ok report →
        report = Report.addVisits ⟨environment, [], []⟩ visits) ∧
      (Accepted refusal? (Visit.additions visits) →
        first.Matches R second ∧ batch.Steps b visits second.env events) ∧
      ∀ before key value after e, Visit.additions visits = before ++ (key, value) :: after →
        Accepted refusal? before → refusal? key value = some e →
        second.outcome = .error e ∧ ∃ earlier later mid events,
          visits = earlier ++ later ∧ Visit.additions earlier = before ∧
          batch.Steps a earlier mid events ∧ R mid second.env ∧
          batch.Steps b earlier second.env events := by
  intro first second
  obtain ⟨visits, rest, events, hrecords, hsteps, hend⟩ := Loader.exists_steps_of_load hb a
  cases hbatch : loader.batch files environment with | mk outcome setup
  rw [hbatch] at hb
  obtain rfl : outcome = .ok batch := hb
  have hfirst : first = _ := Loader.load_of_batch hbatch a
  have hsecond : second = _ := Loader.load_of_batch hbatch b
  refine ⟨visits, events, ⟨rest, hrecords.symm⟩, hsteps, fun report hok => ?_, fun hw => ?_, ?_⟩
  · obtain ⟨_, hout⟩ | ⟨_, _, _, _, _, _, hout⟩ := hend
    case inl => exact Except.ok.inj (hok.symm.trans hout)
    case inr => cases hok.symm.trans hout
  · have hend : rest = [] ∨ ∃ record tail e events', rest = record :: tail ∧
        batch.Stop first.env record e events' :=
      hend.imp And.left fun ⟨record, tail, e, events', hrest, hstop, _⟩ =>
        ⟨record, tail, e, events', hrest, hstop⟩
    rw [hfirst, hsecond, hrecords]
    obtain ⟨hmatches, hsteps'⟩ :=
      h.exportAll_of_accepted hr hsteps hw hend ⟨environment, [], []⟩
    exact ⟨hmatches.after setup, hsteps'⟩
  · intro before key value after e hadd hw he
    obtain ⟨earlier, record, later, rfl, rfl, rfl⟩ := Visit.additions_eq_append_cons hadd
    obtain ⟨mid, trace, _, hearlier, hlater⟩ := hsteps.append_inv
    cases hlater with | cons hnext _
    obtain ⟨hout, henv, hearlier'⟩ := h.exportAll_of_refused hr hearlier hw hnext he
      ⟨environment, [], []⟩ (later.map Prod.fst ++ rest)
    have hsplit : loader.records environment =
        earlier.map Prod.fst ++ record :: (later.map Prod.fst ++ rest) := by
      simp [hrecords]
    rw [hsecond, hsplit]
    exact ⟨hout, earlier, _, mid, trace, rfl, rfl, hearlier, henv, hearlier'⟩

end Restriction

-- Without a batch there is nothing to write.
theorem Loader.load_matches_of_error {σ τ : Type} [Variables σ] [Variables τ] {R : σ → τ → Prop}
    {a : σ} {b : τ} {loader : Loader} {files : Files} {environment : String} {e : Error}
    (h : (loader.batch files environment).outcome = .error e) (hr : R a b) :
    (loader.load files environment a).Matches R (loader.load files environment b) := by
  unfold load
  cases hb : loader.batch files environment with | mk outcome events
  rw [hb] at h
  obtain rfl : outcome = .error e := h
  exact ⟨hr, rfl, rfl⟩

end EnvProvision
