import EnvProvision.Load.Locate
import EnvProvision.Proofs.Lawful
import Mathlib.Control.Monad.Basic

namespace EnvProvision

-- The same is found at two paths, each in its own file system.
def Files.SameFile (files : Files) (path : String) (files' : Files) (path' : String) : Prop :=
  files'.isFile path' = files.isFile path ∧ files'.readText path' = files.readText path

instance (files files' : Files) (path path' : String) :
    Decidable (files.SameFile path files' path') :=
  inferInstanceAs (Decidable (_ ∧ _))

theorem toOption_eq_some_iff {ε α : Type} {outcome : Except ε α} {a : α} :
    outcome.toOption = some a ↔ outcome = .ok a := by
  cases outcome <;> simp [Except.toOption]

namespace Path

-- What is written between a path and one that starts from it.
def closing (base : String) : String :=
  if base.toList.getLast?.all (· == '/') then "" else "/"

theorem join_eq (base path : String) : join base path = base ++ closing base ++ path := by
  unfold join closing
  split
  case h_1 hlast =>
    obtain rfl : base = "" := by simpa using hlast
    simp
  case h_2 hlast => simp [hlast]
  case h_3 c hc hlast =>
    have hne : c ≠ '/' := by
      rintro rfl
      exact hc rfl
    simp [hlast, hne]

theorem closing_join (base path : String) : closing (join base path) = closing path := by
  rw [join_eq]
  cases hlast : path.toList.getLast? with
  | some c => simp [closing, List.getLast?_append, hlast]
  | none =>
    -- What was written between the two is the end, so it is not written again.
    obtain rfl : path = "" := by simpa using hlast
    unfold closing
    split <;> simp_all

theorem join_assoc (base directory path : String) :
    join base (join directory path) = join (join base directory) path := by
  rw [join_eq (join base directory), closing_join, join_eq base, join_eq base, join_eq directory]
  simp only [String.append_assoc]

theorem isAbsolute_join {directory path : String} (h : isAbsolute path = false) :
    isAbsolute (join directory path) = isAbsolute directory := by
  cases hhead : directory.toList.head? with
  | some c => simp [join_eq, isAbsolute, hhead]
  | none =>
    obtain rfl : directory = "" := by simpa using hhead
    exact h

theorem resolve_of_relative {path : String} (base : String) (h : isAbsolute path = false) :
    resolve base path = join base path := by
  simp [resolve, h]

theorem resolve_resolve (base directory path : String) :
    resolve base (resolve directory path) = resolve (resolve base directory) path := by
  cases hpath : isAbsolute path with
  | true => simp only [resolve_of_isAbsolute _ hpath]
  | false =>
    have hjoin : isAbsolute (join directory path) = isAbsolute directory := isAbsolute_join hpath
    rw [resolve_of_relative _ hpath, resolve_of_relative _ hpath]
    cases hdirectory : isAbsolute directory with
    | true =>
      rw [hdirectory] at hjoin
      rw [resolve_of_isAbsolute _ hjoin, resolve_of_isAbsolute _ hdirectory]
    | false =>
      rw [hdirectory] at hjoin
      rw [resolve_of_relative _ hjoin, resolve_of_relative _ hdirectory, join_assoc]

end Path

namespace StorageSource

variable {source source' : StorageSource} {files files' : Files} {storage : Storage}

-- The storage that is set up depends on the place of a secrets file only through what is there.
theorem setup_eq_ok_iff {descriptor : StorageDescriptor} (hstore : source'.store = source.store)
    (hkeyring : source'.keyring = source.keyring)
    (hread : files'.readText (source'.secretsPath descriptor.path) =
      files.readText (source.secretsPath descriptor.path)) :
    (source'.setup files' (some descriptor)).outcome = .ok storage ↔
      (source.setup files (some descriptor)).outcome = .ok storage := by
  unfold setup
  rw [Traced.bind_eq_ok_iff, Traced.bind_eq_ok_iff]
  refine exists_congr fun kind => and_congr_right fun _ => ?_
  rw [Traced.bind_eq_ok_iff, Traced.bind_eq_ok_iff]
  refine exists_congr fun _ => and_congr_right fun _ => ?_
  cases kind with
  | plain => rfl
  | file => simp only [openSecrets_eq_ok_iff, hread]
  | remote => rw [hstore, hkeyring]

end StorageSource

namespace Location

variable {location : Location} {files : Files}

theorem documentPath_eq {base : String} (h : location.workingDirectory files = .ok base) :
    location.documentPath files = .ok (Path.resolve base (location.path.getD defaultPath)) := by
  rw [documentPath, h]
  rfl

theorem readDocument_eq_ok_iff {document text : String}
    (h : location.documentPath files = .ok document) :
    (location.readDocument files).outcome = .ok text ↔
      files.isFile document ∧ files.readText document = .ok text := by
  unfold readDocument
  rw [h, Traced.bind_eq_ok_iff]
  simp only [Traced.ofExcept, Except.ok.injEq, exists_eq_left']
  split
  case isFalse hfile => simp [hfile, Traced.fail]
  case isTrue hfile => cases files.readText document <;> simp [hfile, Traced.emit, Traced.fail]

end Location

namespace Loader

theorem ofLocation_eq_ok_iff {keyring : Keyring} {location : Location} {files : Files}
    {base document : String} {loader : Loader} (hbase : location.workingDirectory files = .ok base)
    (hdocument : location.documentPath files = .ok document) :
    (ofLocation keyring location files).outcome = .ok loader ↔
      ∃ text configuration, files.isFile document ∧ files.readText document = .ok text ∧
        Configuration.ofYaml text = .ok configuration ∧
        loader = ⟨configuration, { baseDirectory := some base, keyring }⟩ := by
  unfold ofLocation Configuration.load
  simp only [hbase, Traced.bind_eq_ok_iff, Location.readDocument_eq_ok_iff hdocument,
    Traced.ofExcept, Traced.pure_def]
  constructor
  case mp =>
    rintro ⟨configuration, ⟨text, ⟨hfile, htext⟩, hyaml⟩, _, ⟨⟩, ⟨⟩⟩
    exact ⟨text, configuration, hfile, htext, hyaml, rfl⟩
  case mpr =>
    rintro ⟨text, configuration, hfile, htext, hyaml, rfl⟩
    exact ⟨configuration, ⟨text, ⟨hfile, htext⟩, hyaml⟩, base, rfl, rfl⟩

theorem configuration_ofLocation {keyring : Keyring} {location : Location} {files : Files}
    {base document : String} {found : Configuration}
    (hbase : location.workingDirectory files = .ok base)
    (hdocument : location.documentPath files = .ok document) :
    (ofLocation keyring location files).outcome.toOption.map configuration = some found ↔
      files.isFile document ∧ ∃ text, files.readText document = .ok text ∧
        Configuration.ofYaml text = .ok found := by
  simp only [Option.map_eq_some_iff, toOption_eq_some_iff, ofLocation_eq_ok_iff hbase hdocument]
  constructor
  case mp =>
    rintro ⟨_, ⟨text, _, hfile, htext, hyaml, rfl⟩, rfl⟩
    exact ⟨hfile, text, htext, hyaml⟩
  case mpr =>
    rintro ⟨hfile, text, htext, hyaml⟩
    exact ⟨_, ⟨text, found, hfile, htext, hyaml, rfl⟩, rfl⟩

-- Resolving paths is associative. So a loader that is told a directory uses paths that, below
-- `base`, are those of a loader whose working directory is that directory below `base`: for the
-- document and for secrets, given or left to the default. Where such paths lead to the same file,
-- both have the same configuration or neither is built, and they set up the same storage.
theorem ofLocation_below :
    (∀ base directory path, Path.resolve base (Path.resolve directory path) =
      Path.resolve (Path.resolve base directory) path) ∧
    ∀ (keyring : Keyring) (base directory : String) (path : Option String) (files files' : Files),
      files'.workingDirectory? = some (Path.resolve base directory) →
      let told := ofLocation keyring ⟨path, some directory⟩ files
      let standing := ofLocation keyring ⟨path, none⟩ files'
      ∃ document, Location.documentPath ⟨path, some directory⟩ files = .ok document ∧
        Location.documentPath ⟨path, none⟩ files' = .ok (Path.resolve base document) ∧
        (files.SameFile document files' (Path.resolve base document) →
          standing.outcome.toOption.map configuration = told.outcome.toOption.map configuration) ∧
        ∀ loader loader', told.outcome = .ok loader → standing.outcome = .ok loader' →
          ∀ descriptor : StorageDescriptor,
            let secrets := loader.source.secretsPath descriptor.path
            loader'.source.secretsPath descriptor.path = Path.resolve base secrets ∧
            (files.SameFile secrets files' (Path.resolve base secrets) →
              (loader'.source.setup files' (some descriptor)).outcome.toOption =
                (loader.source.setup files (some descriptor)).outcome.toOption) := by
  refine ⟨Path.resolve_resolve, fun keyring base directory path files files' hreported => ?_⟩
  intro told standing
  have hbase : Location.workingDirectory ⟨path, some directory⟩ files = .ok directory := rfl
  have hbase' : Location.workingDirectory ⟨path, none⟩ files' =
      .ok (Path.resolve base directory) := by
    simp [Location.workingDirectory, hreported]
  have hdocument := Location.documentPath_eq hbase
  have hdocument' := Location.documentPath_eq hbase'
  rw [← Path.resolve_resolve] at hdocument'
  refine ⟨_, hdocument, hdocument', ?document, ?secrets⟩
  case document =>
    refine fun hsame => Option.ext fun found => ?_
    rw [configuration_ofLocation hbase hdocument, configuration_ofLocation hbase' hdocument',
      hsame.left, hsame.right]
  case secrets =>
    intro loader loader' hloader hloader' descriptor secrets
    obtain ⟨_, _, -, -, -, rfl⟩ := (ofLocation_eq_ok_iff hbase hdocument).mp hloader
    obtain ⟨_, _, -, -, -, rfl⟩ := (ofLocation_eq_ok_iff hbase' hdocument').mp hloader'
    have hsecrets :
        StorageSource.secretsPath { baseDirectory := some (Path.resolve base directory), keyring }
          descriptor.path = Path.resolve base secrets :=
      (Path.resolve_resolve ..).symm
    refine ⟨hsecrets, fun hsame => Option.ext fun storage => ?_⟩
    rw [toOption_eq_some_iff, toOption_eq_some_iff]
    exact StorageSource.setup_eq_ok_iff rfl rfl (hsecrets ▸ hsame.right)

theorem ofLocation_below_settings :
    let files := ((Files.ofSystem ["w"]).addFile ["w", "app", "settings.yml"]
      (.ofText "dev:\n  storage:\n    type: file\n")).addFile
        ["w", "app", "config", "secret_env.local"] (.ofText "K=v")
    let files' := { files with workingPlace := ["w", "app"] }
    let keyring := Keyring.ofList []
    let told := ofLocation keyring ⟨some "../app/settings.yml", some "app"⟩ files
    let standing := ofLocation keyring ⟨some "../app/settings.yml", none⟩ files'
    files'.workingDirectory? = some (Path.resolve "/w" "app") ∧
      ∃ loader loader', told.outcome = .ok loader ∧ standing.outcome = .ok loader' ∧
        loader'.configuration = loader.configuration ∧
        loader.source.secretsPath none = "app/config/secret_env.local" ∧
        loader'.source.secretsPath none = "/w/app/config/secret_env.local" ∧
        (loader'.source.setup files' (some { type := "file" })).outcome.toOption =
          (loader.source.setup files (some { type := "file" })).outcome.toOption := by
  intro files files' keyring told standing
  have hreported : files'.workingDirectory? = some (Path.resolve "/w" "app") := by decide +kernel
  have hpath : told.outcome.toOption.map (·.source.secretsPath none) =
      some "app/config/secret_env.local" := by
    decide +kernel
  have hbuilt : standing.outcome.toOption.isSome := by decide +kernel
  obtain ⟨loader, hloader, hpath⟩ := Option.map_eq_some_iff.mp hpath
  obtain ⟨loader', hloader'⟩ := Option.isSome_iff_exists.mp hbuilt
  obtain ⟨document, htold, -, hconfiguration, hsecrets⟩ := ofLocation_below.right keyring "/w" "app"
    (some "../app/settings.yml") files files' hreported
  obtain rfl : "app/../app/settings.yml" = document := by
    have hdocument : Location.documentPath ⟨some "../app/settings.yml", some "app"⟩ files =
        .ok "app/../app/settings.yml" := by
      decide +kernel
    exact Except.ok.inj (hdocument.symm.trans htold)
  have hsame := hconfiguration (by decide +kernel)
  rw [toOption_eq_some_iff] at hloader hloader'
  obtain ⟨hbelow, hsetup⟩ := hsecrets loader loader' hloader hloader' { type := "file" }
  rw [hpath] at hbelow hsetup
  refine ⟨hreported, loader, loader', hloader, hloader', ?_, hpath, hbelow, ?_⟩
  · rw [hloader, hloader'] at hsame
    exact Option.some.inj hsame
  · exact hsetup (by decide +kernel)

end Loader

end EnvProvision
