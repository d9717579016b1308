import EnvProvision.Load.Preview
import EnvProvision.Proofs.Refusal
import EnvProvision.Variables.Memory

namespace EnvProvision

-- Holders that are related read alike, and stay related when the same is written to both.
structure Simulation {σ τ : Type} [Variables σ] [Variables τ] (R : σ → τ → Prop) : Prop where
  value? {a b} : R a b → Variables.value? a = Variables.value? b
  assign_ok {a b a' name value} :
    R a b → Variables.assign a name value = .ok a' →
    ∃ b', Variables.assign b name value = .ok b' ∧ R a' b'
  assign_error {a b e name value} :
    R a b → Variables.assign a name value = .error e → Variables.assign b name value = .error e

namespace Simulation

variable {σ τ : Type} [Variables σ] [Variables τ] {R : σ → τ → Prop} {a : σ} {b : τ}

theorem restriction (sim : Simulation R) : Restriction R fun _ _ => none where
  value? := sim.value?
  assign_error := sim.assign_error
  accepted h _ ha := sim.assign_ok h ha
  refused h := nomatch h

theorem load (sim : Simulation R) (h : R a b) (loader : Loader) (files : Files)
    (environment : String) :
    (loader.load files environment a).Matches R (loader.load files environment b) := by
  cases hb : (loader.batch files environment).outcome with
  | error e => exact Loader.load_matches_of_error hb h
  | ok batch =>
    obtain ⟨_, _, _, _, _, haccepted, _⟩ := sim.restriction.load h hb
    exact (haccepted fun _ _ => rfl).left

end Simulation

namespace Overlay

-- The overlay is one over `base`, and shows what the variables hold.
structure Mirrors (base : MemoryVariables) (overlay : Overlay MemoryVariables)
    (env : MemoryVariables) : Prop where
  base_eq : overlay.base = base
  get? (name : String) : env.get? name = (overlay.written.get? name).or (base.get? name)

theorem mirrors_ofBase (env : MemoryVariables) : Mirrors env (ofBase env) env :=
  ⟨rfl, fun _ => rfl⟩

theorem value?_eq (overlay : Overlay MemoryVariables) (name : String) :
    Variables.value? overlay name =
      .ok ((overlay.written.get? name).or (overlay.base.get? name)) := by
  simp only [Variables.value?]
  split
  case h_1 hw => rw [hw]; rfl
  case h_2 hw => rw [hw]; rfl

theorem simulation_mirrors (base : MemoryVariables) : Simulation (Mirrors base) where
  value? {overlay env} h := by
    funext name
    rw [value?_eq, h.base_eq, ← h.get?]
    rfl
  assign_ok {overlay env overlay' name value} h ha := by
    obtain rfl := Except.ok.inj ha
    refine ⟨env.set name value, rfl, h.base_eq, fun n => ?_⟩
    rw [MemoryVariables.get?_set, Table.get?_insert, h.get?]
    split <;> rfl
  assign_error _ ha := nomatch ha

end Overlay

namespace Batch

variable {σ : Type} [Variables σ] {overlay overlay' : Overlay σ} {batch : Batch} {record : Record}
  {value? : Option String} {visits : List Visit} {events : List Event}

theorem Step.written_eq (h : batch.Step overlay record value? overlay' events) :
    overlay'.written = (Visit.additions [(record, value?)]).foldl
      (fun t (key, value) => t.insert key value) overlay.written := by
  cases h with
  | skipped => rfl
  | exported _ _ ha => cases ha; rfl

theorem Steps.written_eq (h : batch.Steps overlay visits overlay' events) :
    overlay'.written = (Visit.additions visits).foldl
      (fun t (key, value) => t.insert key value) overlay.written := by
  induction h with
  | nil => rfl
  | @cons _ _ _ record value? visits _ _ hs _ ih =>
    rw [ih, hs.written_eq, ← List.foldl_append, ← Visit.additions_append]
    rfl

-- The names are distinct, so what was written first is never written again.
theorem Steps.entries_written {base : σ} (h : batch.Steps (.ofBase base) visits overlay' events)
    (hd : ((visits.map Prod.fst).map Record.key).Nodup) :
    overlay'.written.entries = Visit.additions visits := by
  rw [h.written_eq]
  exact Table.entries_ofList (hd.sublist (Visit.sublist_keys_additions visits))

end Batch

namespace Loader

-- A preview lists what was written to the overlay, which is what its load reports as exported.
theorem preview_eq_dry {σ : Type} [Variables σ] (loader : Loader) (files : Files)
    (environment : String) (base : σ) :
    let dry := loader.load files environment (Overlay.ofBase base)
    let preview := loader.preview files environment base
    preview.outcome.map Table.keys = dry.outcome.map Report.exported ∧
      ∀ pairs, preview.outcome = .ok pairs →
        pairs.keys.Nodup ∧ pairs.entries = dry.env.written.entries := by
  intro dry preview
  have heq : preview.outcome = dry.outcome.map fun report =>
    .ofList (report.exported.filterMap fun key => (dry.env.written.get? key).map (key, ·)) := rfl
  cases hdry : dry.outcome with
  | error e =>
    rw [heq, hdry]
    exact ⟨rfl, fun _ h => nomatch h⟩
  | ok report =>
    obtain ⟨batch, visits, _, _, hr, hsteps, rfl⟩ := exists_steps_of_load_ok hdry
    have hd := nodup_keys_of_passed ⟨[], (List.append_nil _).trans hr.symm⟩
    have hnodup := hd.sublist (Visit.sublist_keys_additions visits)
    have hentries : dry.env.written.entries = Visit.additions visits := hsteps.entries_written hd
    have hget : ∀ pair ∈ Visit.additions visits, dry.env.written.get? pair.1 = some pair.2 := by
      intro pair hm
      rw [Table.get?_eq_some_iff, hentries]
      exact hm
    have hp : preview.outcome = .ok (.ofList (Visit.additions visits)) := by
      rw [heq, hdry]
      simp only [Except.map, Report.addVisits, List.nil_append, Table.filterMap_get? hget]
    rw [hp, hentries]
    constructor
    · simp [Except.map, Table.keys, Table.entries_ofList hnodup, Report.addVisits]
    · rintro _ ⟨⟩
      exact ⟨Table.nodup_keys _, Table.entries_ofList hnodup⟩

variable {loader : Loader} {files : Files} {environment : String} {env : MemoryVariables}

theorem load_mirrors (loader : Loader) (files : Files) (environment : String)
    (env : MemoryVariables) :
    (loader.load files environment (Overlay.ofBase env)).Matches (Overlay.Mirrors env)
      (loader.load files environment env) :=
  (Overlay.simulation_mirrors env).load (Overlay.mirrors_ofBase env) ..

theorem preview_of_load_error {e : Error}
    (h : (loader.load files environment env).outcome = .error e) :
    (loader.preview files environment env).outcome = .error e := by
  simp [preview, (loader.load_mirrors files environment env).outcome, h, Except.map]

theorem exists_preview_of_load_ok {report : Report}
    (h : (loader.load files environment env).outcome = .ok report) :
    ∃ pairs, (loader.preview files environment env).outcome = .ok pairs ∧
      pairs.keys.Nodup ∧ pairs.keys = report.exported ∧
      ∀ key value, (key, value) ∈ pairs.entries →
        (loader.load files environment env).env.get? key = some value := by
  have hm := loader.load_mirrors files environment env
  obtain ⟨hkeys, hpairs⟩ := loader.preview_eq_dry files environment env
  rw [hm.outcome, h] at hkeys
  cases hp : (loader.preview files environment env).outcome with
  | error e => rw [hp] at hkeys; cases hkeys
  | ok pairs =>
    rw [hp] at hkeys
    obtain ⟨hd, hentries⟩ := hpairs pairs hp
    refine ⟨pairs, rfl, hd, Except.ok.inj hkeys, fun key value hpair => ?_⟩
    rw [hentries, ← Table.get?_eq_some_iff] at hpair
    rw [hm.env.get?, hpair, Option.some_or]

-- A load into the overlay of some variables does what a load into these variables would do, and
-- leaves them as they are. The preview lists what the load exports, with the values it sets.
theorem preview_eq_load (loader : Loader) (files : Files) (environment : String)
    (env : MemoryVariables) :
    let real := loader.load files environment env
    let dry := loader.load files environment (Overlay.ofBase env)
    let preview := loader.preview files environment env
    preview.outcome.map Table.keys = real.outcome.map Report.exported ∧
      (∀ pairs, preview.outcome = .ok pairs →
        pairs.keys.Nodup ∧
        ∀ key value, (key, value) ∈ pairs.entries → real.env.get? key = some value) ∧
      preview.events = real.events ∧
      dry.env.base = env := by
  intro real dry preview
  have hm := loader.load_mirrors files environment env
  cases hout : real.outcome with
  | error e =>
    have hp : preview.outcome = .error e := preview_of_load_error hout
    rw [hp]
    exact ⟨rfl, fun _ h => (nomatch h), hm.events, hm.env.base_eq⟩
  | ok report =>
    obtain ⟨pairs, hp, hd, hkeys, hset⟩ := exists_preview_of_load_ok hout
    have hp : preview.outcome = .ok pairs := hp
    rw [hp]
    refine ⟨congrArg Except.ok hkeys, ?_, hm.events, hm.env.base_eq⟩
    rintro _ ⟨⟩
    exact ⟨hd, hset⟩

end Loader

end EnvProvision
