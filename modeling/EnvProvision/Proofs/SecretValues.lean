import EnvProvision.Proofs.Concealment
import EnvProvision.Proofs.SecretsFormat
import Mathlib.Data.List.Forall2

namespace EnvProvision

instance (a b : String) : Decidable (SameEmptiness a b) :=
  inferInstanceAs (Decidable (_ ↔ _))

-- Entries of one key, of whose values both or neither is empty.
def AlikeEntries (entry entry' : String × String) : Prop :=
  entry.1 = entry'.1 ∧ SameEmptiness entry.2 entry'.2

namespace Table

-- The same keys in the same order, with values that differ in their texts only.
def Alike (t t' : Table String String) : Prop :=
  List.Forall₂ AlikeEntries t.entries t'.entries

theorem Alike.insert {t t' : Table String String} (h : t.Alike t') {a b : String}
    (hv : SameEmptiness a b) (key : String) : (t.insert key a).Alike (t'.insert key b) := by
  show List.Forall₂ AlikeEntries (insert.go key a t.entries) (insert.go key b t'.entries)
  unfold Alike at h
  generalize t.entries = es, t'.entries = es' at h
  induction h with
  | nil => exact .cons ⟨rfl, hv⟩ .nil
  | @cons e e' _ _ he hrest ih =>
    obtain ⟨k, v⟩ := e
    obtain ⟨k', v'⟩ := e'
    obtain ⟨rfl, he⟩ : k = k' ∧ SameEmptiness v v' := he
    by_cases hk : key = k
    case pos =>
      simp only [insert.go, if_pos hk]
      exact .cons ⟨rfl, hv⟩ hrest
    case neg =>
      simp only [insert.go, if_neg hk]
      exact .cons ⟨rfl, he⟩ ih

theorem Alike.get? {t t' : Table String String} (h : t.Alike t') (key : String) :
    SameShape (t.get? key) (t'.get? key) := by
  unfold Alike Table.get? at *
  generalize t.entries = es, t'.entries = es' at h
  induction h with
  | nil => exact .none
  | @cons e e' _ _ he hrest ih =>
    obtain ⟨k, v⟩ := e
    obtain ⟨k', v'⟩ := e'
    obtain ⟨rfl, he⟩ : k = k' ∧ SameEmptiness v v' := he
    by_cases hk : key = k
    case pos =>
      simp only [get?.go, if_pos hk]
      exact .some he
    case neg =>
      simp only [get?.go, if_neg hk]
      exact ih

theorem alike_ofList {pairs pairs' : List (String × String)}
    (h : List.Forall₂ AlikeEntries pairs pairs') : (ofList pairs).Alike (ofList pairs') := by
  have hfold {t t' : Table String String} (ht : t.Alike t') :
      (pairs.foldl (fun t pair => t.insert pair.1 pair.2) t).Alike
        (pairs'.foldl (fun t pair => t.insert pair.1 pair.2) t') := by
    induction h generalizing t t' with
    | nil => exact ht
    | @cons e e' _ _ he _ ih =>
      obtain ⟨k, v⟩ := e
      obtain ⟨k', v'⟩ := e'
      obtain ⟨rfl, he⟩ : k = k' ∧ SameEmptiness v v' := he
      exact ih (ht.insert he k)
  exact hfold .nil

end Table

namespace SecretsFile

-- The same line, or two with the same text up to the first `=`. Behind that both are blank, or
-- neither is.
inductive Rewrites : List Char → List Char → Prop
  | same (line) : Rewrites line line
  | value {key text text'} :
    '=' ∉ key → ((∀ c ∈ text, Text.isBlank c) ↔ ∀ c ∈ text', Text.isBlank c) →
    Rewrites (key ++ '=' :: text) (key ++ '=' :: text')

-- The contents are the same but for the values of entries, line by line.
def DifferInValues (contents contents' : String) : Prop :=
  List.Forall₂ Rewrites (Text.lines contents.toList) (Text.lines contents'.toList)

inductive Line.Alike : Line → Line → Prop
  | same (line) : Line.Alike line line
  | entry {key value value'} :
    (value = [] ↔ value' = []) → Line.Alike (.entry key value) (.entry key value')

theorem Rewrites.ofText {line line' : List Char} (h : Rewrites line line') :
    (Line.ofText line).Alike (Line.ofText line') := by
  cases h with
  | same => exact .same _
  | value hk ht =>
    rw [Line.ofText_append hk, Line.ofText_append hk]
    split
    case isTrue => exact .same _
    case isFalse =>
      refine .entry ?_
      rwa [Text.trim_eq_nil_iff, Text.trim_eq_nil_iff]

theorem Line.Alike.entry? {line line' : Line} (h : line.Alike line') :
    Option.Rel AlikeEntries line.entry? line'.entry? := by
  cases h with
  | same =>
    cases line with
    | entry key value => exact .some ⟨rfl, Iff.rfl⟩
    | blank | comment | stray => exact .none
  | entry hv => exact .some ⟨rfl, by simpa [SameEmptiness] using hv⟩

theorem Line.Alike.eq_stray_iff {line line' : Line} (h : line.Alike line') :
    line = .stray ↔ line' = .stray := by
  cases h <;> simp

section Lines

variable {ls ls' : List Line}

theorem strayLines_eq (h : List.Forall₂ Line.Alike ls ls') (n : Nat) :
    ((ls.zipIdx n).filterMap fun (line, number) => if line = .stray then some number else none) =
      (ls'.zipIdx n).filterMap fun (line, number) =>
        if line = .stray then some number else none := by
  induction h generalizing n with
  | nil => rfl
  | cons hl _ ih =>
    simp only [List.zipIdx_cons, List.filterMap_cons, hl.eq_stray_iff]
    rw [ih]

theorem alike_entries (h : List.Forall₂ Line.Alike ls ls') (n : Nat) :
    List.Forall₂ AlikeEntries ((ls.zipIdx n).filterMap fun (line, _) => line.entry?)
      ((ls'.zipIdx n).filterMap fun (line, _) => line.entry?) := by
  induction h generalizing n with
  | nil => exact .nil
  | @cons line line' _ _ hl _ ih =>
    have he := hl.entry?
    simp only [List.zipIdx_cons, List.filterMap_cons]
    generalize line.entry? = a, line'.entry? = b at he
    cases he with
    | none => exact ih _
    | some he => exact .cons he (ih _)

end Lines

namespace DifferInValues

variable {contents contents' : String}

theorem alike_lines (h : DifferInValues contents contents') :
    List.Forall₂ Line.Alike ((Text.lines contents.toList).map Line.ofText)
      ((Text.lines contents'.toList).map Line.ofText) := by
  rw [List.forall₂_map_left_iff, List.forall₂_map_right_iff]
  exact h.imp fun _ _ => Rewrites.ofText

theorem strayLines_eq (h : DifferInValues contents contents') :
    strayLines contents = strayLines contents' :=
  SecretsFile.strayLines_eq h.alike_lines 1

theorem entries (h : DifferInValues contents contents') :
    (entries contents).Alike (entries contents') :=
  Table.alike_ofList (alike_entries h.alike_lines 1)

end DifferInValues

end SecretsFile

open Traced (Matches)

-- Stores that fail on the same keys with the same error, and differ in values only.
def Store.Alike (store store' : Store) : Prop :=
  ∀ key, Agree SameShape (store.get key) (store'.get key)

theorem Table.Alike.storage {secrets secrets' : Table String String}
    (h : secrets.Alike secrets') (scope : String) :
    (Storage.file scope secrets).Alike (.file scope secrets') :=
  ⟨rfl, rfl, fun _ => .ok (h.get? _)⟩

theorem Store.Alike.storage {store store' : Store} (h : store.Alike store') (scope : String) :
    (Storage.remote scope store).Alike (.remote scope store') :=
  ⟨rfl, rfl, fun _ => h _⟩

namespace StorageSource

variable {source source' : StorageSource} {files files' : Files} {descriptor : StorageDescriptor}

-- The store that remote storage asks.
def remoteStore (source : StorageSource) (descriptor : StorageDescriptor) : Store :=
  source.store.getD (.ofKeyring source.keyring (descriptor.service.getD defaultService))

theorem matches_openSecrets {path contents contents' : String}
    (hr : files.readText path = .ok contents) (hr' : files'.readText path = .ok contents')
    (h : SecretsFile.DifferInValues contents contents') (scope : String) :
    (openSecrets files path scope).Matches Storage.Alike (openSecrets files' path scope) := by
  have hsize : (SecretsFile.entries contents).size = (SecretsFile.entries contents').size :=
    h.entries.length_eq
  unfold openSecrets
  rw [hr, hr']
  exact ⟨by simp [h.strayLines_eq, hsize], .ok (h.entries.storage scope)⟩

theorem setup_of_file (hk : descriptor.kind = .ok .file) :
    source.setup files (some descriptor) = (do
      .emit (.storageSetUp .file descriptor.effectiveScope)
      openSecrets files (source.secretsPath descriptor.path) descriptor.effectiveScope) := by
  simp [setup, hk, Traced.ofExcept]

theorem setup_of_remote (hk : descriptor.kind = .ok .remote) :
    source.setup files (some descriptor) = (do
      .emit (.storageSetUp .remote descriptor.effectiveScope)
      pure (.remote descriptor.effectiveScope (source.remoteStore descriptor))) := by
  simp [setup, hk, Traced.ofExcept, remoteStore]

-- Secrets files at one path that differ in values lead to storages that do.
theorem matches_setup_of_file {contents contents' : String} (hk : descriptor.kind = .ok .file)
    (hb : source.baseDirectory = source'.baseDirectory)
    (hr : files.readText (source.secretsPath descriptor.path) = .ok contents)
    (hr' : files'.readText (source.secretsPath descriptor.path) = .ok contents')
    (h : SecretsFile.DifferInValues contents contents') :
    (source.setup files (some descriptor)).Matches Storage.Alike
      (source'.setup files' (some descriptor)) := by
  have hp : source'.secretsPath descriptor.path = source.secretsPath descriptor.path := by
    simp [secretsPath, hb]
  rw [setup_of_file hk, setup_of_file hk, hp]
  exact (Matches.refl _).bind fun _ _ _ => matches_openSecrets hr hr' h _

theorem matches_setup_of_remote (hk : descriptor.kind = .ok .remote)
    (h : (source.remoteStore descriptor).Alike (source'.remoteStore descriptor)) :
    (source.setup files (some descriptor)).Matches Storage.Alike
      (source'.setup files' (some descriptor)) := by
  rw [setup_of_remote hk, setup_of_remote hk]
  exact (Matches.refl _).bind fun _ _ _ => .pure (h.storage _)

end StorageSource

namespace Loader

-- What a load traces and reports, and which keys it asks its storage for, does not tell the values
-- of variables and secrets, and all that they decide in the variables it leaves is values. For
-- secrets files, all that stands behind the first `=` of a line is a value, unless it is blank.
theorem load_conceals_values {loader loader' : Loader} (files files' : Files)
    {environment : String} {env env' : MemoryVariables} {found : Section}
    (hfound : loader.configuration.section? environment = some found)
    (hfound' : loader'.configuration.section? environment = some found)
    (he : env.Alike env') :
    let result := loader.load files environment env
    let result' := loader'.load files' environment env'
    let indistinct := result.Matches MemoryVariables.Alike result' ∧
      ∀ kind, Traced.lookups kind result.events = Traced.lookups kind result'.events
    ((loader.source.setup files found.storage).Matches Storage.Alike
        (loader'.source.setup files' found.storage) → indistinct) ∧
      ∀ descriptor, found.storage = some descriptor →
        (descriptor.kind = .ok .remote →
          (loader.source.remoteStore descriptor).Alike (loader'.source.remoteStore descriptor) →
          indistinct) ∧
        (descriptor.kind = .ok .file →
          loader.source.baseDirectory = loader'.source.baseDirectory →
          ∀ contents contents',
            files.readText (loader.source.secretsPath descriptor.path) = .ok contents →
            files'.readText (loader.source.secretsPath descriptor.path) = .ok contents' →
            SecretsFile.DifferInValues contents contents' → indistinct) := by
  intro result result' indistinct
  have hload (hs : (loader.source.setup files found.storage).Matches Storage.Alike
      (loader'.source.setup files' found.storage)) : indistinct := by
    have hm : result.Matches MemoryVariables.Alike result' := load_matches hfound hfound' hs he
    exact ⟨hm, fun kind => by rw [hm.events]⟩
  refine ⟨hload, fun descriptor hd => ⟨fun hk hstore => hload ?_, ?_⟩⟩
  · rw [hd]
    exact StorageSource.matches_setup_of_remote hk hstore
  · intro hk hb contents contents' hr hr' h
    refine hload ?_
    rw [hd]
    exact StorageSource.matches_setup_of_file hk hb hr hr' h

-- `A` is a secret with a mark behind it, `B` refers to `A`, and `C` is set.
def sealedSection : Section :=
  ⟨some { type := "file", path := some "secrets" },
    .ofList [("A", "#\x7bKEY\x7d!"), ("B", "#\x7bC || A\x7d"), ("C", "")]⟩

def sealedLoader : Loader :=
  ⟨⟨.ofList [("dev", sealedSection)]⟩, { keyring := .ofList [] }⟩

def sealedFiles (contents : String) : Files :=
  ⟨[(["secrets"], .file (.ofText contents))], []⟩

theorem load_sealedLoader :
    let contents := "KEY = s3cret\n# KEY\nnote\n"
    let contents' := "KEY = 0th=er\n# KEY\nnote\n"
    let result :=
      sealedLoader.load (sealedFiles contents) "dev" (MemoryVariables.ofList [("C", "x")])
    let result' :=
      sealedLoader.load (sealedFiles contents') "dev" (MemoryVariables.ofList [("C", "y")])
    SecretsFile.DifferInValues contents contents' ∧
      result.outcome = .ok ⟨"dev", ["A", "B"], ["C"]⟩ ∧
      result.env.get? "A" = some "s3cret!" ∧ result'.env.get? "A" = some "0th=er!" ∧
      result.Matches MemoryVariables.Alike result' := by
  intro contents contents' result result'
  have hlines : Text.lines contents.toList =
      ["KEY ".toList ++ '=' :: " s3cret".toList, "# KEY".toList, "note".toList, []] := by
    decide +kernel
  have hlines' : Text.lines contents'.toList =
      ["KEY ".toList ++ '=' :: " 0th=er".toList, "# KEY".toList, "note".toList, []] := by
    decide +kernel
  have h : SecretsFile.DifferInValues contents contents' := by
    unfold SecretsFile.DifferInValues
    have hblank : (∀ c ∈ " s3cret".toList, Text.isBlank c) ↔
        ∀ c ∈ " 0th=er".toList, Text.isBlank c := by
      rw [← List.all_eq_true, ← List.all_eq_true]
      decide
    rw [hlines, hlines']
    exact .cons (.value (by decide) hblank) (.cons (.same _) (.cons (.same _)
      (.cons (.same _) .nil)))
  have hr : (sealedFiles contents).readText "secrets" = .ok contents := by decide +kernel
  have hr' : (sealedFiles contents').readText "secrets" = .ok contents' := by decide +kernel
  have hvalues : List.Forall₂ AlikeEntries [("C", "x")] [("C", "y")] :=
    .cons ⟨rfl, by decide⟩ .nil
  have he : (MemoryVariables.ofList [("C", "x")]).Alike (.ofList [("C", "y")]) :=
    (Table.alike_ofList hvalues).get?
  have hfound : sealedLoader.configuration.section? "dev" = some sealedSection := by
    decide +kernel
  have hload := load_conceals_values (sealedFiles contents) (sealedFiles contents') hfound hfound he
  exact ⟨h, by decide +kernel, by decide +kernel, by decide +kernel,
    ((hload.right _ rfl).right rfl rfl contents contents' hr hr' h).left⟩

end Loader

end EnvProvision
