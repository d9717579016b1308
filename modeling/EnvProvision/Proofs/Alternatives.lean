import EnvProvision.Proofs.Trimming
import EnvProvision.Template

namespace EnvProvision

theorem Text.isInfix_trim (cs : List Char) : trim cs <:+: cs := by
  have hend : trim cs <+: trimStart cs := by
    rw [trim, trimEnd, ← List.reverse_suffix, List.reverse_reverse]
    exact List.dropWhile_suffix _
  exact hend.isInfix.trans (List.dropWhile_suffix _).isInfix

namespace Template

-- What stands between two alternatives.
def separator : List Char :=
  ['|', '|']

variable {cs alternative : List Char}

theorem intercalate_alternatives (cs : List Char) :
    separator.intercalate (alternatives cs) = cs := by
  fun_induction alternatives cs with
  | case1 => rfl
  | case2 rest ih =>
    rw [List.intercalate_cons_of_ne_nil (alternatives_ne_nil rest), ih]
    rfl
  | case3 c rest _ hnil => exact absurd hnil (alternatives_ne_nil rest)
  | case4 c rest _ first more hrest ih =>
    rw [hrest] at ih
    cases more with
    | nil => simpa using ih
    | cons second more => simpa [List.intercalate_cons_cons] using ih

theorem prefix_of_alternatives {first : List Char} {more : List (List Char)}
    (h : alternatives cs = first :: more) : first <+: cs := by
  have hcs := intercalate_alternatives cs
  rw [h] at hcs
  cases more with
  | nil => exact ⟨[], by simpa using hcs⟩
  | cons second more => exact ⟨_, by simpa [List.intercalate_cons_cons] using hcs⟩

theorem separator_prefix_iff {c : Char} :
    separator <+: c :: cs ↔ c = '|' ∧ ∃ rest, cs = '|' :: rest := by
  rw [separator, List.cons_prefix_cons, eq_comm]
  cases cs <;> simp [List.cons_prefix_cons, eq_comm]

theorem not_separator_infix_of_mem (h : alternative ∈ alternatives cs) :
    ¬separator <:+: alternative := by
  fun_induction alternatives cs generalizing alternative with
  | case1 => simp_all [separator]
  | case2 rest ih =>
    obtain rfl | hmem := List.mem_cons.mp h
    case inl => simp [separator]
    case inr => exact ih hmem
  | case3 c rest _ hnil => exact absurd hnil (alternatives_ne_nil rest)
  | case4 c rest hcut first more hrest ih =>
    rw [hrest] at ih
    obtain rfl | hmem := List.mem_cons.mp h
    case inr => exact ih (List.mem_cons_of_mem _ hmem)
    case inl =>
      rw [List.infix_cons_iff, separator_prefix_iff, not_or]
      refine ⟨?_, ih List.mem_cons_self⟩
      rintro ⟨rfl, more, rfl⟩
      obtain ⟨after, rfl⟩ := prefix_of_alternatives hrest
      exact hcut _ rfl rfl

theorem alternatives_eq_singleton (h : ¬separator <:+: cs) : alternatives cs = [cs] := by
  fun_induction alternatives cs with
  | case1 => rfl
  | case2 rest => exact absurd (List.prefix_append separator rest).isInfix h
  | case3 c rest _ hnil => exact absurd hnil (alternatives_ne_nil rest)
  | case4 c rest _ first more hrest ih =>
    rw [List.infix_cons_iff, not_or] at h
    obtain ⟨rfl, rfl⟩ := List.cons.inj (hrest.symm.trans (ih h.right))
    rfl

end Template

end EnvProvision
