import EnvProvision.Proofs.Reach
import EnvProvision.Proofs.Retry
import EnvProvision.Proofs.SecretValues

namespace EnvProvision

def LoadResult.mapEvents {σ : Type} (f : Event → Event) (result : LoadResult σ) : LoadResult σ :=
  { result with events := result.events.map f }

theorem LoadResult.mapEvents_after {σ : Type} {f : Event → Event} (events : List Event)
    (result : LoadResult σ) :
    (result.after events).mapEvents f = (result.mapEvents f).after (events.map f) := by
  simp [LoadResult.mapEvents, LoadResult.after]

-- The same records over a storage that answers alike, but is asked for keys of other names.
structure Batch.Readdressed (rename : String → String) (batch batch' : Batch) : Prop where
  table : batch.table = batch'.table
  retrieve : ∀ key, batch.storage.retrieve key = batch'.storage.retrieve key
  fullKey : ∀ key,
    Storage.fullKey batch.storage.scope key = rename (Storage.fullKey batch'.storage.scope key)

namespace Batch.Readdressed

variable {rename : String → String} {batch batch' : Batch}

theorem alikeAt (h : batch.Readdressed rename batch') (env : Reader) (name : String) :
    batch.AlikeAt rename env batch' env name where
  environment := rfl
  get? := by rw [Batch.get?, Batch.get?, h.table]
  retrieve := h.retrieve name
  fullKey := h.fullKey name

theorem resolveWithin_eq (h : batch.Readdressed rename batch') (env : Reader) (room : Nat)
    (chain : List String) (record : Record) :
    (batch'.resolveWithin env room chain record).mapEvents
        (.readdress batch.storage.kind rename) =
      batch.resolveWithin env room chain record :=
  batch.closedUnder_all.resolveWithin_eq (fun name _ => h.alikeAt env name) room chain
    fun _ _ => trivial

theorem exportAll_eq {σ : Type} [Variables σ] (h : batch.Readdressed rename batch') (env : σ)
    (report : Report) (records : List Record) :
    (batch'.exportAll env report records).mapEvents (.readdress batch.storage.kind rename) =
      batch.exportAll env report records := by
  induction records generalizing env report with
  | nil => rfl
  | cons record rest ih =>
    unfold exportAll
    cases Variables.isSet env record.key with
    | error e => rfl
    | ok set =>
      cases set with
      | true => simp [LoadResult.mapEvents_after, ih, Event.readdress]
      | false =>
        have hres := h.resolveWithin_eq (Variables.value? env) depthLimit [] record
        unfold resolveRecord
        rw [← hres]
        cases batch'.resolveWithin (Variables.value? env) depthLimit [] record with
        | mk outcome events
        cases outcome with
        | error e => rfl
        | ok value =>
          simp only [Traced.mapEvents_mk]
          cases Variables.assign env record.key value with
          | error e => rfl
          | ok env' => simp [LoadResult.mapEvents_after, ih, Event.readdress]

theorem refl (batch : Batch) : batch.Readdressed id batch :=
  ⟨rfl, fun _ => rfl, fun _ => rfl⟩

end Batch.Readdressed

namespace Store

-- What a store has under a scope, as a store without one.
def under (store : Store) (scope : String) : Store :=
  ⟨fun key => store.get (scope ++ key)⟩

@[simp]
theorem get_under (store : Store) (scope key : String) :
    (store.under scope).get key = store.get (scope ++ key) :=
  rfl

end Store

namespace StorageSource

-- A described backend has this content under its full keys.
inductive Serves (source : StorageSource) (files : Files) (descriptor : StorageDescriptor) :
    StorageKind → (String → Except Error (Option String)) → Prop
  | file {contents : String} :
    descriptor.kind = .ok .file →
    files.readText (source.secretsPath descriptor.path) = .ok contents →
    Serves source files descriptor .file fun key => .ok ((SecretsFile.entries contents).get? key)
  | remote :
    descriptor.kind = .ok .remote →
    Serves source files descriptor .remote (source.remoteStore descriptor).get

theorem Serves.exists_storage {source : StorageSource} {files : Files}
    {descriptor : StorageDescriptor} {kind : StorageKind}
    {content : String → Except Error (Option String)}
    (h : source.Serves files descriptor kind content) :
    ∃ storage, (source.setup files (some descriptor)).outcome = .ok storage ∧
      storage.kind = kind ∧ storage.scope = descriptor.effectiveScope ∧
      ∀ key, storage.retrieve key = content (descriptor.effectiveScope ++ key) := by
  cases h with
  | @file contents hk hr =>
    refine ⟨.file descriptor.effectiveScope (SecretsFile.entries contents), ?_, rfl, rfl, ?_⟩
    · rw [setup_of_file hk, openSecrets, hr]
      rfl
    · exact fun _ => rfl
  | remote hk =>
    refine ⟨.remote descriptor.effectiveScope (source.remoteStore descriptor), ?_, rfl, rfl, ?_⟩
    · rw [setup_of_remote hk]
      rfl
    · exact fun _ => rfl

end StorageSource

namespace Loader

variable {σ : Type} [Variables σ] {loader loader' : Loader} {files files' : Files}
  {environment : String}

theorem load_of_readdressed {batch batch' : Batch} {rename : String → String}
    (hb : (loader.batch files environment).outcome = .ok batch)
    (hb' : (loader'.batch files' environment).outcome = .ok batch')
    (h : batch.Readdressed rename batch') (env : σ) :
    let result := loader.load files environment env
    let result' := loader'.load files' environment env
    result.outcome = result'.outcome ∧ result.env = result'.env ∧
      Traced.lookups batch.storage.kind result.events =
        (Traced.lookups batch'.storage.kind result'.events).map rename ∧
      ∃ steps,
        result'.events = (loader'.batch files' environment).events ++ steps ∧
        result.events = (loader.batch files environment).events ++
          steps.map (.readdress batch.storage.kind rename) := by
  intro result result'
  have hsilent := loader.silent_batch files environment
  have hsilent' := loader'.silent_batch files' environment
  have hrecords : loader.records environment = loader'.records environment := by
    rw [← records_of_batch hb, ← records_of_batch hb', Batch.records, Batch.records, h.table]
  cases hl : loader.batch files environment with | mk outcome setup
  cases hl' : loader'.batch files' environment with | mk outcome' setup'
  rw [hl] at hb hsilent
  rw [hl'] at hb' hsilent'
  obtain rfl : outcome = .ok batch := hb
  obtain rfl : outcome' = .ok batch' := hb'
  let exports := batch'.exportAll env ⟨environment, [], []⟩ (loader'.records environment)
  have hresult' : result' = exports.after setup' := load_of_batch hl' env
  have hresult : result =
      (exports.mapEvents (.readdress batch.storage.kind rename)).after setup := by
    rw [h.exportAll_eq, ← hrecords]
    exact load_of_batch hl env
  -- The backend of the second load tells its own kind in all events.
  have hself : exports.events.map (.readdress batch'.storage.kind id) = exports.events :=
    congrArg LoadResult.events ((Batch.Readdressed.refl batch').exportAll_eq ..)
  rw [hresult, hresult']
  refine ⟨rfl, rfl, ?_, exports.events, rfl, rfl⟩
  simp only [LoadResult.after, LoadResult.mapEvents, Traced.lookups_append, hsilent _, hsilent' _,
    List.nil_append]
  exact Traced.lookups_readdress hself

theorem exists_batch_of_serves {found : Section} {descriptor : StorageDescriptor}
    {kind : StorageKind} {content : String → Except Error (Option String)}
    (hfound : loader.configuration.section? environment = some found)
    (hd : found.storage = some descriptor)
    (hs : loader.source.Serves files descriptor kind content) :
    ∃ storage, (loader.batch files environment).outcome =
        .ok (.ofEntries storage found.bindings.entries) ∧
      storage.kind = kind ∧ storage.scope = descriptor.effectiveScope ∧
      ∀ key, storage.retrieve key = content (descriptor.effectiveScope ++ key) := by
  obtain ⟨storage, hsetup, hstorage⟩ := hs.exists_storage
  have hb := batch_eq_ok_iff.mpr ⟨found, hfound, storage, by rw [hd, hsetup], rfl⟩
  exact ⟨storage, hb, hstorage⟩

-- A load over a backend with a scope is the load without a scope over what the backend has under
-- it: it ends alike and takes the same course, up to the keys that it asks its backend for, which
-- stand under the scope. So what the backend has under other keys makes no difference.
theorem load_under_scope (env : σ) {found found' : Section}
    {descriptor descriptor' : StorageDescriptor} {kind kind' : StorageKind}
    {content content' : String → Except Error (Option String)}
    (hfound : loader.configuration.section? environment = some found)
    (hfound' : loader'.configuration.section? environment = some found')
    (hbindings : found.bindings = found'.bindings)
    (hd : found.storage = some descriptor) (hd' : found'.storage = some descriptor')
    (hs : loader.source.Serves files descriptor kind content)
    (hs' : loader'.source.Serves files' descriptor' kind' content') :
    let scope := descriptor.effectiveScope
    let result := loader.load files environment env
    let result' := loader'.load files' environment env
    let alikeUp (rename : String → String) :=
      result.outcome = result'.outcome ∧ result.env = result'.env ∧
        Traced.lookups kind result.events =
          (Traced.lookups kind' result'.events).map rename ∧
        ∃ steps,
          result'.events = (loader'.batch files' environment).events ++ steps ∧
          result.events = (loader.batch files environment).events ++
            steps.map (.readdress kind rename)
    (descriptor'.effectiveScope = "" → (∀ key, content' key = content (scope ++ key)) →
        alikeUp (scope ++ ·)) ∧
      (descriptor'.effectiveScope = scope →
        (∀ key, content' (scope ++ key) = content (scope ++ key)) → alikeUp id) := by
  intro scope result result' alikeUp
  obtain ⟨storage, hb, rfl, hscope, hretrieve⟩ := exists_batch_of_serves hfound hd hs
  obtain ⟨storage', hb', rfl, hscope', hretrieve'⟩ := exists_batch_of_serves hfound' hd' hs'
  rw [← hbindings] at hb'
  have halike (rename : String → String)
      (hr : ∀ key, storage.retrieve key = storage'.retrieve key)
      (hk : ∀ key, scope ++ key = rename (descriptor'.effectiveScope ++ key)) :
      alikeUp rename := by
    have h : (Batch.ofEntries storage found.bindings.entries).Readdressed rename
        (.ofEntries storage' found.bindings.entries) := by
      refine ⟨?_, by simpa using hr, ?_⟩
      · simp [Batch.ofEntries, Batch.table_foldl_insert, Batch.new]
      · simpa [Storage.fullKey, hscope, hscope'] using hk
    simpa using load_of_readdressed hb hb' h env
  constructor
  · intro hempty hcontent
    apply halike
    · intro key
      simp [hretrieve, hretrieve', hempty, hcontent, scope]
    · simp [hempty]
  · intro hsame hcontent
    apply halike
    · intro key
      rw [hretrieve, hretrieve', hsame]
      exact (hcontent key).symm
    · simp [hsame]

-- A vault that knows a key under `app.` and the same key without it, and fails on all others.
def vault : Store :=
  ⟨fun key =>
    if key = "app.KEY" then .ok (some "s3cret")
    else if key = "KEY" then .ok (some "other")
    else .error (.backend "vault" key "sealed" none)⟩

theorem load_under_scope_vault :
    let bindings := [("A", "#\x7bKEY\x7d!"), ("B", "#\x7bA\x7d #\x7bE || KEY || A\x7d")]
    let found : Section := ⟨some { type := "remote", scope := some "app." }, .ofList bindings⟩
    let loader := ofStore found vault
    let loader' := ofStore (Section.remote bindings) (vault.under "app.")
    let result := loader.load ⟨[], []⟩ "dev" (MemoryVariables.ofList [])
    let result' := loader'.load ⟨[], []⟩ "dev" (MemoryVariables.ofList [])
    result.outcome = .error (.backend "vault" "app.E" "sealed" none) ∧
      result.outcome = result'.outcome ∧ result.env = result'.env ∧
      Traced.lookups .remote result.events = ["app.KEY", "app.E"] ∧
      Traced.lookups .remote result.events =
        (Traced.lookups .remote result'.events).map ("app." ++ ·) := by
  intro bindings found loader loader' result result'
  have hfound : loader.configuration.section? "dev" = some found := by decide +kernel
  have hfound' : loader'.configuration.section? "dev" = some (Section.remote bindings) := by
    decide +kernel
  have hs : loader.source.Serves ⟨[], []⟩ { type := "remote", scope := some "app." } .remote
      vault.get := .remote rfl
  have hs' : loader'.source.Serves ⟨[], []⟩ { type := "remote" } .remote
      (vault.under "app.").get := .remote rfl
  have hload :=
    load_under_scope (MemoryVariables.ofList []) hfound hfound' rfl rfl rfl hs hs'
  obtain ⟨houtcome, henv, hkeys, _⟩ := hload.left rfl fun key => vault.get_under "app." key
  exact ⟨by decide +kernel, houtcome, henv, by decide +kernel, hkeys⟩

end Loader

end EnvProvision
