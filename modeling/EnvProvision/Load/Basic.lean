import EnvProvision.Batch.Resolve
import EnvProvision.Configuration.Basic
import EnvProvision.Variables.Basic

namespace EnvProvision

-- What a load did to the keys of its section, in declared order.
structure Report where
  environment : String
  exported : List String
  skipped : List String
  deriving Repr, DecidableEq

-- The end of a load: the variables it leaves, its outcome and its trace.
structure LoadResult (σ : Type) where
  env : σ
  outcome : Except Error Report
  events : List Event

namespace LoadResult

variable {σ : Type}

-- The same load with events before it.
def after (events : List Event) (result : LoadResult σ) : LoadResult σ :=
  { result with events := events ++ result.events }

end LoadResult

namespace Report

def addSkipped (report : Report) (key : String) : Report :=
  { report with skipped := report.skipped ++ [key] }

def addExported (report : Report) (key : String) : Report :=
  { report with exported := report.exported ++ [key] }

end Report

namespace Batch

variable {σ : Type} [Variables σ]

-- Export records one after the other, adding to a report. Each is resolved against the variables as
-- they are by then. The first error ends the load, and what was exported before it stays.
def exportAll (batch : Batch) (env : σ) (report : Report) : List Record → LoadResult σ
  | [] =>
    ⟨env, .ok report, [.loaded report.environment batch.storage.kind report.exported.length
      report.skipped.length]⟩
  | record :: rest =>
    match Variables.isSet env record.key with
    | .error e => ⟨env, .error e, []⟩
    -- A variable that is set is left alone, also if it is empty.
    | .ok true =>
      (batch.exportAll env (report.addSkipped record.key) rest).after [.leftUntouched record.key]
    | .ok false =>
      match batch.resolveRecord (Variables.value? env) record with
      | ⟨.error e, events⟩ => ⟨env, .error e, events⟩
      | ⟨.ok value, events⟩ =>
        match Variables.assign env record.key value with
        | .error e => ⟨env, .error e, events⟩
        -- Later records see what was exported so far.
        | .ok env =>
          (batch.exportAll env (report.addExported record.key) rest).after
            (events ++ [.exported record.key])

end Batch

-- A configuration and where its storage comes from.
structure Loader where
  configuration : Configuration
  source : StorageSource

namespace Loader

variable {σ : Type} [Variables σ]

-- The records of an environment over its storage.
def batch (loader : Loader) (files : Files) (environment : String) : Traced Batch := do
  let found ← .ofExcept (loader.configuration.requireSection environment)
  let storage ← loader.source.setup files found.storage
  pure (.ofEntries storage found.bindings.entries)

-- Export the unset variables of an environment.
def load (loader : Loader) (files : Files) (environment : String) (env : σ) : LoadResult σ :=
  match loader.batch files environment with
  | ⟨.error e, events⟩ => ⟨env, .error e, events⟩
  | ⟨.ok batch, events⟩ =>
    (batch.exportAll env ⟨environment, [], []⟩ batch.records).after events

end Loader

end EnvProvision
