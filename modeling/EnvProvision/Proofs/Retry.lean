import EnvProvision.Proofs.Frame

namespace EnvProvision

namespace Traced

variable {α β : Type}

theorem lookups_append (kind : StorageKind) (xs ys : List Event) :
    lookups kind (xs ++ ys) = lookups kind xs ++ lookups kind ys :=
  List.filterMap_append

-- No backend is asked for anything.
def Silent (events : List Event) : Prop :=
  ∀ kind, lookups kind events = []

theorem Silent.append {xs ys : List Event} (hx : Silent xs) (hy : Silent ys) :
    Silent (xs ++ ys) := by
  intro kind
  rw [lookups_append, hx kind, hy kind, List.append_nil]

theorem Silent.map {f : α → Event} (h : ∀ a, Silent [f a]) (as : List α) :
    Silent (as.map f) := by
  induction as with
  | nil => exact fun _ => rfl
  | cons a rest ih => exact (h a).append ih

theorem Silent.bind {t : Traced α} {f : α → Traced β} (ht : Silent t.events)
    (hf : ∀ a, Silent (f a).events) : Silent (t >>= f).events := by
  obtain ⟨outcome, events⟩ := t
  cases outcome with
  | error e => exact ht
  | ok a => exact ht.append (hf a)

end Traced

open Traced (Silent)

theorem StorageSource.silent_openSecrets (files : Files) (path scope : String) :
    Silent (openSecrets files path scope).events := by
  unfold openSecrets
  cases files.readText path with
  | error fault => exact fun _ => rfl
  | ok contents =>
    have hlines : Silent ((SecretsFile.strayLines contents).map .lineIgnored) :=
      .map (fun _ _ => rfl) _
    exact hlines.append fun _ => rfl

-- A backend is set up without being asked for a key.
theorem StorageSource.silent_setup (source : StorageSource) (files : Files)
    (descriptor? : Option StorageDescriptor) : Silent (source.setup files descriptor?).events := by
  cases descriptor? with
  | none => exact fun _ => rfl
  | some descriptor =>
    have hkind : Silent (Traced.ofExcept descriptor.kind).events := fun _ => rfl
    refine hkind.bind fun kind => ?_
    have hset : Silent (Traced.emit (.storageSetUp kind descriptor.effectiveScope)).events :=
      fun _ => rfl
    refine hset.bind fun _ => ?_
    cases kind with
    | plain | remote => exact fun _ => rfl
    | file => exact silent_openSecrets _ _ _

theorem Loader.silent_batch (loader : Loader) (files : Files) (environment : String) :
    Silent (loader.batch files environment).events := by
  have hfound : Silent (Traced.ofExcept (loader.configuration.requireSection environment)).events :=
    fun _ => rfl
  refine hfound.bind fun found => ?_
  exact (loader.source.silent_setup files found.storage).bind fun _ _ => rfl

namespace Batch

-- Records whose variables are set are passed without a change.
theorem exportAll_of_set (batch : Batch) {env : MemoryVariables} {records : List Record}
    (h : ∀ r ∈ records, env.get? r.key ≠ none) (report : Report) (rest : List Record) :
    batch.exportAll env report (records ++ rest) =
      (batch.exportAll env { report with skipped := report.skipped ++ records.map Record.key }
        rest).after (records.map fun r => .leftUntouched r.key) := by
  induction records generalizing report with
  | nil => simp [LoadResult.after]
  | cons record tail ih =>
    obtain ⟨hr, htail⟩ := List.forall_mem_cons.mp h
    have hset : Variables.isSet env record.key = .ok true := by
      rw [MemoryVariables.isSet_eq, Option.isSome_iff_ne_none.mpr hr]
    simp [exportAll, hset, ih htail, LoadResult.after, Report.addSkipped]

end Batch

namespace Loader

-- A second load over what a first one left changes nothing. If the first one succeeded, it skips
-- all keys of the section and asks no backend; if not, it fails with the same error.
theorem load_again (loader : Loader) (files : Files) (environment : String)
    (env : MemoryVariables) :
    let first := loader.load files environment env
    let second := loader.load files environment first.env
    second.env = first.env ∧
      (∀ report, first.outcome = .ok report →
        second.outcome =
          .ok ⟨environment, [], (loader.records environment).map Record.key⟩ ∧
        ∀ kind, Traced.lookups kind second.events = []) ∧
      ∀ e, first.outcome = .error e → second.outcome = .error e := by
  intro first second
  cases hb : loader.batch files environment with | mk outcome setup
  cases outcome with
  | error e =>
    have hfails : (loader.batch files environment).outcome = .error e := by rw [hb]
    obtain ⟨hout, henv⟩ : first.outcome = _ ∧ first.env = env := load_of_error hfails
    obtain ⟨hout', henv'⟩ : second.outcome = _ ∧ second.env = first.env := load_of_error hfails
    rw [hout, hout']
    exact ⟨henv', by rintro _ ⟨⟩, fun _ h => h⟩
  | ok batch =>
    have hok : (loader.batch files environment).outcome = .ok batch := by rw [hb]
    obtain ⟨visits, rest, events, hr, hsteps, hend⟩ := exists_steps_of_load hok env
    have hsecond : second = _ := load_of_batch hb first.env
    rw [hr, batch.exportAll_of_set hsteps.get?_ne_none] at hsecond
    obtain ⟨rfl, hout⟩ | ⟨record, tail, e, events', rfl, hstop, hout⟩ := hend
    case inl =>
      rw [List.append_nil] at hr
      rw [Batch.exportAll] at hsecond
      rw [hsecond, hout, hr]
      refine ⟨rfl, fun _ _ => ⟨rfl, ?_⟩, by rintro _ ⟨⟩⟩
      have hsetup : Silent setup := by simpa [hb] using loader.silent_batch files environment
      exact hsetup.append (.append (.map (fun _ _ => rfl) _) fun _ => rfl)
    case inr =>
      rw [Batch.exportAll_of_stop hstop] at hsecond
      rw [hsecond, hout]
      exact ⟨rfl, by rintro _ ⟨⟩, fun _ h => h⟩

end Loader

end EnvProvision
