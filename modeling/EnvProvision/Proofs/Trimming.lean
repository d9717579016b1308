import EnvProvision.Text.Blank
import Mathlib.Data.List.Induction
import Mathlib.Data.List.TakeWhile
import Mathlib.Tactic.Conv

namespace EnvProvision.Text

-- There is no white space at either end.
def Trimmed (cs : List Char) : Prop :=
  cs.head?.all (!isBlank ·) ∧ cs.getLast?.all (!isBlank ·)

instance (cs : List Char) : Decidable (Trimmed cs) :=
  inferInstanceAs (Decidable (_ ∧ _))

variable {blanks cs ds : List Char} {c : Char}

theorem trimStart_append (hc : isBlank c = false) :
    trimStart (cs ++ c :: ds) = trimStart cs ++ c :: ds := by
  unfold trimStart
  rw [List.dropWhile_append]
  split
  case isTrue h => simp [hc, List.isEmpty_iff.mp h]
  case isFalse => rfl

theorem trimEnd_append (hc : isBlank c = false) :
    trimEnd (cs ++ c :: ds) = cs ++ c :: trimEnd ds := by
  have h : (cs ++ c :: ds).reverse = ds.reverse ++ c :: cs.reverse := by simp
  have hs : trimStart (ds.reverse ++ c :: cs.reverse) = trimStart ds.reverse ++ c :: cs.reverse :=
    trimStart_append hc
  unfold trimStart at hs
  rw [trimEnd, h, hs, trimEnd]
  simp

theorem trim_append (hc : isBlank c = false) :
    trim (cs ++ c :: ds) = trimStart cs ++ c :: trimEnd ds := by
  rw [trim, trimStart_append hc, trimEnd_append hc]

theorem forall_trimStart : (∀ c ∈ trimStart cs, isBlank c) ↔ ∀ c ∈ cs, isBlank c := by
  conv_rhs => rw [← List.takeWhile_append_dropWhile (p := isBlank) (l := cs)]
  simp only [List.mem_append, or_imp, forall_and]
  exact ⟨fun h => ⟨fun c hc => List.mem_takeWhile_imp hc, h⟩, And.right⟩

theorem trim_eq_nil_iff : trim cs = [] ↔ ∀ c ∈ cs, isBlank c := by
  rw [← forall_trimStart, trim, trimEnd, List.reverse_eq_nil_iff, List.dropWhile_eq_nil_iff]
  simp

theorem trimStart_append_of_blank (h : ∀ c ∈ blanks, isBlank c) :
    trimStart (blanks ++ cs) = trimStart cs :=
  List.dropWhile_append_of_pos h

theorem trimEnd_append_of_blank (h : ∀ c ∈ blanks, isBlank c) :
    trimEnd (cs ++ blanks) = trimEnd cs := by
  have hstart : trimStart (blanks.reverse ++ cs.reverse) = trimStart cs.reverse :=
    trimStart_append_of_blank (by simpa using h)
  unfold trimStart at hstart
  rw [trimEnd, List.reverse_append, hstart, trimEnd]

theorem trim_append_left (h : ∀ c ∈ blanks, isBlank c) : trim (blanks ++ cs) = trim cs := by
  rw [trim, trimStart_append_of_blank h, trim]

theorem trim_append_right (h : ∀ c ∈ blanks, isBlank c) : trim (cs ++ blanks) = trim cs := by
  unfold trim
  by_cases hcs : trimStart cs = []
  case pos =>
    have hall : ∀ c ∈ cs, isBlank c := List.dropWhile_eq_nil_iff.mp hcs
    have hblanks : trimStart blanks = [] := List.dropWhile_eq_nil_iff.mpr h
    rw [trimStart_append_of_blank hall, hblanks, hcs]
  case neg =>
    have hstart : trimStart (cs ++ blanks) = trimStart cs ++ blanks := by
      unfold trimStart at hcs ⊢
      rw [List.dropWhile_append, if_neg (by simpa using hcs)]
    rw [hstart, trimEnd_append_of_blank h]

theorem trim_trimStart (cs : List Char) : trim (trimStart cs) = trim cs := by
  conv_rhs => rw [← List.takeWhile_append_dropWhile (p := isBlank) (l := cs)]
  exact (trim_append_left fun c => List.mem_takeWhile_imp).symm

theorem exists_trimEnd_append (cs : List Char) :
    ∃ behind, (∀ c ∈ behind, isBlank c) ∧ cs = trimEnd cs ++ behind := by
  refine ⟨(cs.reverse.takeWhile isBlank).reverse, fun c hc => ?_, ?_⟩
  · exact List.mem_takeWhile_imp (List.mem_reverse.mp hc)
  · rw [trimEnd, ← List.reverse_append, List.takeWhile_append_dropWhile, List.reverse_reverse]

theorem trim_trimEnd (cs : List Char) : trim (trimEnd cs) = trim cs := by
  obtain ⟨behind, hbehind, hcs⟩ := exists_trimEnd_append cs
  conv_rhs => rw [hcs]
  exact (trim_append_right hbehind).symm

theorem trimStart_of_trimmed (h : Trimmed cs) : trimStart cs = cs := by
  cases cs with
  | nil => rfl
  | cons c rest =>
    have hc : isBlank c = false := by simpa using h.left
    simp [trimStart, hc]

theorem trim_of_trimmed (h : Trimmed cs) : trim cs = cs := by
  rw [trim, trimStart_of_trimmed h]
  cases cs using List.reverseRecOn with
  | nil => rfl
  | append_singleton cs c =>
    have hc : isBlank c = false := by simpa using h.right
    exact trimEnd_append hc

theorem trim_padded {before behind : List Char} (h : Trimmed cs) (hbefore : ∀ c ∈ before, isBlank c)
    (hbehind : ∀ c ∈ behind, isBlank c) : trim (before ++ cs ++ behind) = cs := by
  rw [trim_append_right hbehind, trim_append_left hbefore, trim_of_trimmed h]

theorem head?_trimStart (cs : List Char) : (trimStart cs).head?.all (!isBlank ·) := by
  have h := List.head?_dropWhile_not isBlank cs
  unfold trimStart
  cases hhead : (cs.dropWhile isBlank).head? with
  | none => rfl
  | some c => simpa [hhead] using h

theorem getLast?_trimEnd (cs : List Char) : (trimEnd cs).getLast?.all (!isBlank ·) := by
  rw [trimEnd, List.getLast?_reverse]
  exact head?_trimStart cs.reverse

theorem head?_trim (cs : List Char) : (trim cs).head? = (trimStart cs).head? := by
  have hhead := head?_trimStart cs
  unfold trim
  cases hcs : trimStart cs with
  | nil => rfl
  | cons c rest =>
    have hc : isBlank c = false := by simpa [hcs] using hhead
    rw [← List.nil_append (c :: rest), trimEnd_append hc]
    rfl

theorem trimmed_trim (cs : List Char) : Trimmed (trim cs) := by
  refine ⟨?_, getLast?_trimEnd _⟩
  rw [head?_trim]
  exact head?_trimStart cs

-- What is trimmed away is white space.
theorem exists_padding (cs : List Char) :
    ∃ before behind, (∀ c ∈ before, isBlank c) ∧ (∀ c ∈ behind, isBlank c) ∧
      cs = before ++ trim cs ++ behind := by
  obtain ⟨behind, hbehind, heq⟩ := exists_trimEnd_append (trimStart cs)
  refine ⟨cs.takeWhile isBlank, behind, fun c => List.mem_takeWhile_imp, hbehind, ?_⟩
  rw [List.append_assoc, trim, ← heq]
  exact List.takeWhile_append_dropWhile.symm

theorem mem_of_mem_trim (h : c ∈ trim cs) : c ∈ cs := by
  have hend : c ∈ trimStart cs := by
    simpa using (List.dropWhile_sublist _).subset (List.mem_reverse.mp h)
  exact (List.dropWhile_sublist _).subset hend

end EnvProvision.Text
