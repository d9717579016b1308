import EnvProvision.Proofs.Quoting
import EnvProvision.Shell.Expansion

namespace EnvProvision.Shell

namespace Word

-- The word expanded, if nothing is put in for a part of it.
def items (word : Word) : List Item :=
  word.map fun
    | .char c quoted => .char c quoted
    | _ => .quotes

namespace Spells

variable {word value : Word} {cs : List Char}

theorem isOrdinary_of_mem (h : word.Spells cs) {c : Char} (hm : .char c false ∈ word) :
    isOrdinary c := by
  induction h with
  | nil => cases hm
  | quotes _ ih => exact ih (by simpa using hm)
  | quoted _ _ ih => exact ih (by simpa using hm)
  | bare hc _ ih =>
    obtain heq | hm := List.mem_cons.mp hm
    case inl => cases heq; exact hc
    case inr => exact ih hm

theorem text_items (h : word.Spells cs) : Item.text word.items = String.ofList cs := by
  unfold Item.text
  congr 1
  induction h with
  | nil => rfl
  | quotes _ ih => exact ih
  | quoted c _ ih | bare _ _ ih => exact congrArg (_ :: ·) ih

theorem map_char_marked (h : word.Spells cs) :
    (Item.marked word.items).map (·.char) = cs := by
  induction h with
  | nil => rfl
  | quotes _ ih => exact ih
  | quoted c _ ih | bare _ _ ih => exact congrArg (_ :: ·) ih

theorem isPattern_marked (h : word.Spells cs) :
    Pattern.isPattern (Item.marked word.items) = false := by
  induction h with
  | nil => rfl
  | quotes _ ih | quoted _ _ ih => exact ih
  | @bare word cs c hc _ ih =>
    have hne (d : Char) (hd : isOrdinary d = false) : (c == d) = false := by
      rw [beq_eq_false_iff_ne]
      rintro rfl
      cases hd.symm.trans hc
    have hchar : (c == '*' || c == '?' || c == '[') = false := by
      rw [hne '*' rfl, hne '?' rfl, hne '[' rfl]
      rfl
    exact Bool.or_eq_false_iff.mpr ⟨hchar, ih⟩

theorem cut_items_field (h : word.Spells cs) (separators : List Char)
    (reversed : List MarkedChar) :
    Item.cut separators (.field reversed) word.items =
      [reversed.reverse ++ Item.marked word.items] := by
  induction h generalizing reversed with
  | nil => simp [items, Item.cut, Item.Cutting.fields, Item.marked]
  | quotes _ ih => exact ih reversed
  | @quoted word _ c _ ih =>
    refine (ih (⟨c, true⟩ :: reversed)).trans ?_
    simp [items, Item.marked]
  | @bare word _ c _ _ ih =>
    refine (ih (⟨c, false⟩ :: reversed)).trans ?_
    simp [items, Item.marked]

theorem cut_items (h : word.Spells cs) (hne : word ≠ []) (separators : List Char) :
    Item.cut separators .start word.items = [Item.marked word.items] := by
  cases h with
  | nil => exact absurd rfl hne
  | quotes h => exact h.cut_items_field separators []
  | quoted c h => exact h.cut_items_field separators [⟨c, true⟩]
  | @bare _ _ c _ h => exact h.cut_items_field separators [⟨c, false⟩]

theorem expandTilde_eq (h : word.Spells cs) (s : Session) : s.expandTilde word = word := by
  unfold Session.expandTilde
  extract_lets isHome mark
  have hmark : '~' ∉ mark := by
    intro hm
    obtain ⟨piece, hp, hc⟩ := List.mem_map.mp hm
    split at hc
    case h_1 =>
      subst hc
      cases h.isOrdinary_of_mem (List.takeWhile_subset _ hp)
    case h_2 => cases hc
  have hne (home : String) (hm : '~' ∈ home.toList) : String.ofList mark ≠ home := by
    rintro rfl
    rw [String.toList_ofList] at hm
    exact hmark hm
  split
  case h_1 heq _ => exact absurd heq (hne _ (by decide))
  case h_2 heq => exact absurd heq (hne _ (by decide))
  case h_3 => rfl

theorem flatMapM_expandPiece (h : word.Spells cs) (helpers : Helpers) :
    word.flatMapM (Session.expandPiece helpers) = pure word.items := by
  induction h with
  | nil => rfl
  | quotes _ ih | quoted _ _ ih | bare _ _ ih =>
    rw [List.flatMapM_cons, ih]
    rfl

theorem expandWord_eq (h : word.Spells cs) (helpers : Helpers) :
    Session.expandWord helpers word = pure word.items := by
  have hne : word ≠ [.quotes, .parameter "@" true] := by
    rintro rfl
    cases h with | quotes h
    cases h
  funext s
  simp only [Session.expandWord, hne, decide_false, Bool.false_and]
  show (List.flatMapM (Session.expandPiece helpers) (s.expandTilde word)).run s = _
  rw [h.expandTilde_eq, h.flatMapM_expandPiece]
  rfl

theorem expandText_eq (h : word.Spells cs) (helpers : Helpers) :
    Session.expandText helpers word = pure (String.ofList cs) := by
  rw [Session.expandText, h.expandWord_eq, pure_bind, h.text_items]

theorem expandFields_eq (h : word.Spells cs) (hne : word ≠ []) (helpers : Helpers) :
    Session.expandFields helpers word = pure [String.ofList cs] := by
  rw [Session.expandFields, h.expandWord_eq, pure_bind]
  funext s
  change (List.flatMap _ (Item.cut s.separators .start word.items), s) = _
  rw [h.cut_items hne, List.flatMap_singleton, h.isPattern_marked, h.map_char_marked]
  simp
  rfl

end Spells

theorem eq_of_literal? {word : Word} {text : String} (h : word.literal? = some text) :
    word = text.toList.map (.char · false) := by
  obtain ⟨cs, hcs, rfl⟩ := Option.map_eq_some_iff.mp h
  rw [String.toList_ofList]
  clear h
  induction word generalizing cs with
  | nil => cases hcs; rfl
  | cons piece rest ih =>
    rw [List.mapM_cons] at hcs
    obtain ⟨c, hc, hcs⟩ := Option.bind_eq_some_iff.mp hcs
    obtain ⟨cs', hrest, hcs⟩ := Option.bind_eq_some_iff.mp hcs
    cases hcs
    rw [List.map_cons, ← ih cs' hrest]
    split at hc
    case h_1 => cases hc; rfl
    case h_2 => cases hc

-- A word that assigns a variable starts with its name, and what is behind it is the value.
theorem eq_of_assignment? {word value : Word} {name : String}
    (h : word.assignment? = some (name, value)) :
    word = name.toList.map (.char · false) ++ .char '=' false :: value := by
  simp only [assignment?] at h
  split at h
  case h_2 => cases h
  case h_1 hname hdrop =>
    split at h
    case isFalse => cases h
    case isTrue =>
      cases h
      rw [← eq_of_literal? hname, ← hdrop]
      exact (List.prefix_iff_eq_append.mp (List.takeWhile_prefix _)).symm

namespace Spells

variable {word value : Word} {cs name : List Char}

theorem exists_of_append (h : Spells (name.map (.char · false) ++ .char '=' false :: value) cs) :
    ∃ rest, cs = name ++ '=' :: rest ∧ value.Spells rest := by
  induction name generalizing cs with
  | nil =>
    cases h with | bare _ h
    exact ⟨_, rfl, h⟩
  | cons c name ih =>
    cases h with | bare _ h
    obtain ⟨rest, rfl, hvalue⟩ := ih h
    exact ⟨rest, rfl, hvalue⟩

theorem expandAssigning_eq (h : word.Spells cs) (hne : word ≠ []) (helpers : Helpers) :
    Session.expandAssigning helpers word = pure [String.ofList cs] := by
  unfold Session.expandAssigning
  split
  case h_1 name value ha =>
    rw [eq_of_assignment? ha] at h
    obtain ⟨rest, rfl, hvalue⟩ := h.exists_of_append
    rw [hvalue.expandText_eq, pure_bind]
    simp [String.append_assoc]
  case h_2 => exact h.expandFields_eq hne helpers

end Spells

end Word

end EnvProvision.Shell
