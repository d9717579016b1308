import EnvProvision.Configuration.OfYaml
import EnvProvision.Proofs.TableEntries
import Mathlib.Tactic.MkIffOfInductiveProp

namespace EnvProvision

namespace Yaml.Value

def untagged : Value → Value
  | tagged _ content => content.untagged
  | value => value

def isCollection : Value → Bool
  | sequence _ | mapping _ => true
  | _ => false

-- The text that stands for a scalar.
@[mk_iff spells_iff]
inductive Spells : Value → String → Prop
  | null : Spells .null ""
  | isTrue : Spells (.bool true) "true"
  | isFalse : Spells (.bool false) "false"
  | int (i) : Spells (.int i) (toString i)
  | float (x) : Spells (.float x) (layout.write x)
  | text (s) : Spells (.text s) s

theorem scalarText?_untagged (value : Value) : value.untagged.scalarText? = value.scalarText? := by
  fun_induction untagged value with
  | case1 tag content ih => rw [ih, scalarText?]
  | case2 => rfl

theorem untagged_ne_tagged (value : Value) (tag : String) (content : Value) :
    value.untagged ≠ tagged tag content := by
  fun_induction untagged value with
  | case1 _ _ ih => exact ih
  | case2 value hne => exact hne tag content

theorem scalarText?_eq_some_iff {value : Value} {text : String} :
    value.scalarText? = some text ↔ value.untagged.Spells text := by
  have hne := untagged_ne_tagged value
  rw [← scalarText?_untagged]
  cases hvalue : value.untagged with
  | tagged tag content => exact absurd hvalue (hne tag content)
  | bool b => cases b <;> simp [scalarText?, spells_iff, eq_comm]
  | _ => simp [scalarText?, spells_iff, eq_comm]

theorem scalarText?_eq_none_iff {value : Value} :
    value.scalarText? = none ↔ value.untagged.isCollection := by
  have hne := untagged_ne_tagged value
  rw [← scalarText?_untagged]
  cases hvalue : value.untagged with
  | tagged tag content => exact absurd hvalue (hne tag content)
  | _ => simp [scalarText?, isCollection]

end Yaml.Value

open Yaml (Value)

-- What the entries of a section declare. Of a null section, and of a null block of variables, these
-- are none.
structure SectionDeclaration where
  storage : Option StorageDescriptor
  bindings : List (String × Value)

def SectionDeclaration.ofEntries (entries : Option SectionEntries) : SectionDeclaration where
  storage := (entries.getD {}).storage
  bindings := lastEntries ((entries.getD {}).bindings.getD [])

-- A variable as declared.
structure Declaration where
  environment : String
  name : String
  value : Value

namespace DocumentEntries

-- The sections that a document declares, under their names.
def sections (entries : DocumentEntries) : List (String × SectionDeclaration) :=
  lastEntries ((entries.getD []).map fun entry => (entry.1, .ofEntries entry.2))

-- The variables of all sections, section by section.
def declarations (entries : DocumentEntries) : List Declaration :=
  entries.sections.flatMap fun declared =>
    declared.2.bindings.map fun binding => ⟨declared.1, binding.1, binding.2⟩

-- The entries of two documents that differ only in what is entered under a name that is entered
-- again later, for a section or, in a section that they share, for a variable.
inductive Overwritten : DocumentEntries → DocumentEntries → Prop
  | environment {environment before after} (old new) :
    environment ∈ after.map Prod.fst →
      Overwritten (some (before ++ (environment, old) :: after))
        (some (before ++ (environment, new) :: after))
  | binding {environment before after storage name earlier later} (old new) :
    name ∈ later.map Prod.fst →
      Overwritten
        (some (before ++
          (environment, some ⟨storage, some (earlier ++ (name, old) :: later)⟩) :: after))
        (some (before ++
          (environment, some ⟨storage, some (earlier ++ (name, new) :: later)⟩) :: after))

theorem Overwritten.sections_eq {entries others : DocumentEntries}
    (h : entries.Overwritten others) : entries.sections = others.sections := by
  cases h with
  | environment old new hm =>
    simp only [sections, Option.getD_some, lastEntries_map, lastEntries_overwritten hm old new]
  | binding old new hm =>
    simp only [sections, Option.getD_some, List.map_append, List.map_cons,
      SectionDeclaration.ofEntries, lastEntries_overwritten hm old new]

end DocumentEntries

-- The section has the storage that is declared, and each variable has the text of its value.
structure Section.Builds (declared : SectionDeclaration) (found : Section) : Prop where
  storage : found.storage = declared.storage
  bindings : declared.bindings.Forall₂
    (fun binding bound => bound.1 = binding.1 ∧ binding.2.untagged.Spells bound.2)
    found.bindings.entries

-- The configuration has the sections that are declared, in their order.
def Configuration.Builds (entries : DocumentEntries) (configuration : Configuration) : Prop :=
  List.Forall₂ (fun declared found => found.1 = declared.1 ∧ Section.Builds declared.2 found.2)
    entries.sections configuration.sections.entries

theorem findSome?_ite {α β : Type} (p : α → Bool) (f : α → β) (items : List α) :
    (items.findSome? fun item => if p item then some (f item) else none) =
      (items.find? p).map f := by
  rw [← List.findSome?_guard, List.map_findSome?]
  congr 1
  funext item
  cases h : p item <;> simp [Option.guard, h]

namespace Section

variable {environment name text : String} {value : Value} {entries : Option SectionEntries}
  {found : Section}

theorem coerce_eq_ok_iff :
    coerce environment name value = .ok text ↔ value.untagged.Spells text := by
  rw [← Value.scalarText?_eq_some_iff, coerce]
  cases value.scalarText? <;> simp

theorem failure?_coerce (environment name : String) (value : Value) :
    failure? (coerce environment name value) =
      if value.untagged.isCollection then some (.configuration (.notScalar name environment))
      else none := by
  unfold coerce
  cases ht : value.scalarText? with
  | none => simp [failure?, Value.scalarText?_eq_none_iff.mp ht]
  | some text =>
    have hscalar : ¬value.untagged.isCollection := by
      rw [← Value.scalarText?_eq_none_iff, ht]
      simp
    simp [failure?, hscalar]

theorem ofEntries_eq_ok_iff :
    ofEntries environment entries = .ok found ↔ Section.Builds (.ofEntries entries) found := by
  have hbuild : ofEntries environment entries = .ok found ↔
      found.storage = (entries.getD {}).storage ∧
        (Table.ofList ((entries.getD {}).bindings.getD [])).mapM (coerce environment) =
          .ok found.bindings := by
    obtain ⟨storage, bindings⟩ := found
    simp only [ofEntries]
    cases (Table.ofList ((entries.getD {}).bindings.getD [])).mapM (coerce environment) <;>
      simp [Except.map, eq_comm]
  rw [hbuild, Table.mapM_eq_ok_iff, Table.entries_ofList_eq]
  simp only [coerce_eq_ok_iff]
  constructor
  case mp => exact fun h => ⟨h.left, h.right⟩
  case mpr => exact fun h => ⟨h.storage, h.bindings⟩

theorem failure?_ofEntries (environment : String) (entries : Option SectionEntries) :
    failure? (ofEntries environment entries) =
      ((SectionDeclaration.ofEntries entries).bindings.find? (·.2.untagged.isCollection)).map
        fun binding => .configuration (.notScalar binding.1 environment) := by
  unfold ofEntries
  rw [failure?_map, Table.failure?_mapM, Table.entries_ofList_eq]
  simp only [failure?_coerce]
  exact findSome?_ite ..

end Section

namespace Configuration

variable {entries : DocumentEntries} {configuration : Configuration}

theorem ofEntries_eq_ok_iff :
    ofEntries entries = .ok configuration ↔ configuration.Builds entries := by
  obtain ⟨sections⟩ := configuration
  have hbuild : ofEntries entries = .ok ⟨sections⟩ ↔
      (Table.ofList (entries.getD [])).mapM Section.ofEntries = .ok sections := by
    unfold ofEntries
    cases (Table.ofList (entries.getD [])).mapM Section.ofEntries <;> simp [Except.map]
  rw [hbuild, Table.mapM_eq_ok_iff, Table.entries_ofList_eq, Configuration.Builds,
    DocumentEntries.sections, lastEntries_map, List.forall₂_map_left_iff]
  simp only [Section.ofEntries_eq_ok_iff]

theorem failure?_ofEntries (entries : DocumentEntries) :
    failure? (ofEntries entries) =
      (entries.declarations.find? (·.value.untagged.isCollection)).map fun declaration =>
        .configuration (.notScalar declaration.name declaration.environment) := by
  rw [ofEntries, failure?_map, Table.failure?_mapM, Table.entries_ofList_eq,
    DocumentEntries.declarations, List.find?_flatMap, DocumentEntries.sections, lastEntries_map,
    List.findSome?_map, List.map_findSome?]
  congr 1
  funext entry
  rw [Section.failure?_ofEntries]
  simp [List.find?_map, Function.comp_def]

theorem ofEntries_congr {others : DocumentEntries} (h : entries.sections = others.sections) :
    ofEntries entries = ofEntries others := by
  cases hbuilt : ofEntries entries with
  | ok configuration =>
    have hbuilds := ofEntries_eq_ok_iff.mp hbuilt
    rw [Builds, h] at hbuilds
    exact (ofEntries_eq_ok_iff.mpr hbuilds).symm
  | error e =>
    have hfailure : failure? (ofEntries others) = failure? (ofEntries entries) := by
      simp only [failure?_ofEntries, DocumentEntries.declarations, h]
    rw [hbuilt] at hfailure
    exact (failure?_eq_some_iff.mp hfailure).symm

end Configuration

end EnvProvision
