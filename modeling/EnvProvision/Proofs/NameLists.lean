import EnvProvision.Proofs.Alternatives

namespace EnvProvision

namespace Template

-- A name that a placeholder can offer.
structure IsName (name : List Char) : Prop where
  trimmed : Text.Trimmed name
  separator_notInfix : ¬separator <:+: name

-- How a list of names can be written. A bar at the end of a name would be taken for the start of
-- the separator, so there has to be white space between the two.
inductive Lists : List String → List Char → Prop
  | last {name : String} {before behind : List Char} :
    IsName name.toList → (∀ c ∈ before, Text.isBlank c) → (∀ c ∈ behind, Text.isBlank c) →
    Lists [name] (before ++ name.toList ++ behind)
  | more {name : String} {before behind : List Char} {names : List String} {rest : List Char} :
    IsName name.toList → (∀ c ∈ before, Text.isBlank c) → (∀ c ∈ behind, Text.isBlank c) →
    (name.toList.getLast? = some '|' → behind ≠ []) → Lists names rest →
    Lists (name :: names) (before ++ name.toList ++ behind ++ separator ++ rest)

variable {cs name blanks before behind inner : List Char} {names : List String}
  {pieces : List (List Char)}

theorem separator_infix_append_left (h : ∀ c ∈ blanks, Text.isBlank c) :
    separator <:+: blanks ++ cs ↔ separator <:+: cs := by
  induction blanks with
  | nil => rfl
  | cons b rest ih =>
    obtain ⟨hb, hrest⟩ := List.forall_mem_cons.mp h
    have hbar : b ≠ '|' := by
      rintro rfl
      exact absurd hb (by decide)
    rw [List.cons_append, List.infix_cons_iff, separator_prefix_iff, ih hrest]
    simp [hbar]

theorem separator_infix_append_right (h : ∀ c ∈ blanks, Text.isBlank c) :
    separator <:+: cs ++ blanks ↔ separator <:+: cs := by
  have hreverse (ds : List Char) : separator <:+: ds.reverse ↔ separator <:+: ds :=
    @List.reverse_infix _ separator ds
  rw [← hreverse, List.reverse_append, separator_infix_append_left (by simpa using h), hreverse]

-- The first separator of the text is the one behind `cs`: none is within it, and none starts with
-- its last character.
theorem alternatives_append (h : ¬separator <:+: cs) (hbar : cs.getLast? ≠ some '|')
    (rest : List Char) : alternatives (cs ++ separator ++ rest) = cs :: alternatives rest := by
  induction cs with
  | nil => rfl
  | cons c more ih =>
    rw [List.infix_cons_iff, separator_prefix_iff, not_or] at h
    have hcut : ∀ tail, c = '|' → more ++ separator ++ rest = '|' :: tail → False := by
      intro tail hc htail
      cases more with
      | nil => simp [hc] at hbar
      | cons d more =>
        obtain rfl : d = '|' := by simpa using (List.cons.inj htail).left
        exact h.left ⟨hc, more, rfl⟩
    have hmore : more.getLast? ≠ some '|' := by
      cases more with
      | nil => simp
      | cons d more => simpa using hbar
    rw [List.cons_append, List.cons_append, alternatives.eq_3 _ _ hcut, ih h.right hmore]

theorem IsName.separator_notInfix_padded (h : IsName name) (hbefore : ∀ c ∈ before, Text.isBlank c)
    (hbehind : ∀ c ∈ behind, Text.isBlank c) : ¬separator <:+: before ++ name ++ behind := by
  rw [separator_infix_append_right hbehind, separator_infix_append_left hbefore]
  exact h.separator_notInfix

-- A bar at the end of the padded name is the last character of the name.
theorem getLast?_padded (hbefore : ∀ c ∈ before, Text.isBlank c)
    (hbehind : ∀ c ∈ behind, Text.isBlank c) (hbar : name.getLast? = some '|' → behind ≠ []) :
    (before ++ name ++ behind).getLast? ≠ some '|' := by
  intro hlast
  have hblank : Text.isBlank '|' = false := by decide
  cases behind using List.reverseRecOn with
  | append_singleton behind c =>
    obtain rfl : c = '|' := by simpa using hlast
    simpa [hblank] using hbehind '|' (by simp)
  | nil =>
    cases name using List.reverseRecOn with
    | append_singleton name c =>
      obtain rfl : c = '|' := by simpa using hlast
      simp at hbar
    | nil =>
      have hmem : '|' ∈ before := List.mem_of_getLast? (by simpa using hlast)
      simpa [hblank] using hbefore _ hmem

theorem Lists.candidates_eq (h : Lists names inner) : candidates inner = names := by
  induction h with
  | last hname hbefore hbehind =>
    rw [candidates, alternatives_eq_singleton (hname.separator_notInfix_padded hbefore hbehind),
      List.map_singleton, Text.trim_padded hname.trimmed hbefore hbehind, String.ofList_toList]
  | more hname hbefore hbehind hbar _ ih =>
    unfold candidates at ih ⊢
    rw [alternatives_append (hname.separator_notInfix_padded hbefore hbehind)
      (getLast?_padded hbefore hbehind hbar), List.map_cons, ih,
      Text.trim_padded hname.trimmed hbefore hbehind, String.ofList_toList]

theorem getLast?_of_mem_dropLast_alternatives :
    ∀ piece ∈ (alternatives cs).dropLast, piece.getLast? ≠ some '|' := by
  fun_induction alternatives cs with
  | case1 => simp
  | case2 rest ih =>
    rw [List.dropLast_cons_of_ne_nil (alternatives_ne_nil rest), List.forall_mem_cons]
    exact ⟨by simp, ih⟩
  | case3 c rest _ hnil => exact absurd hnil (alternatives_ne_nil rest)
  | case4 c rest hcut first more hrest ih =>
    cases more with
    | nil => simp
    | cons second more =>
      rw [hrest, List.dropLast_cons_of_ne_nil (by simp), List.forall_mem_cons] at ih
      rw [List.dropLast_cons_of_ne_nil (by simp), List.forall_mem_cons]
      refine ⟨?_, ih.right⟩
      cases first with
      | cons d first => simpa using ih.left
      | nil =>
        -- The separator follows at once, and a bar in front of it would have been taken into it.
        have hjoined := intercalate_alternatives rest
        rw [hrest, List.intercalate_cons_cons] at hjoined
        have hbar : c ≠ '|' := fun hc => hcut _ hc hjoined.symm
        simpa using hbar

theorem isName_trim (h : ¬separator <:+: cs) : IsName (Text.trim cs) where
  trimmed := Text.trimmed_trim cs
  separator_notInfix hwithin := h (hwithin.trans (Text.isInfix_trim cs))

theorem lists_intercalate (hne : pieces ≠ []) (hpieces : ∀ piece ∈ pieces, ¬separator <:+: piece)
    (hbars : ∀ piece ∈ pieces.dropLast, piece.getLast? ≠ some '|') :
    Lists (pieces.map fun piece => String.ofList (Text.trim piece))
      (separator.intercalate pieces) := by
  induction pieces with
  | nil => exact absurd rfl hne
  | cons piece rest ih =>
    obtain ⟨hpiece, hrest⟩ := List.forall_mem_cons.mp hpieces
    obtain ⟨before, behind, hbefore, hbehind, heq⟩ := Text.exists_padding piece
    have hname : IsName (String.ofList (Text.trim piece)).toList := by
      simpa using isName_trim hpiece
    cases rest with
    | nil => simpa [← heq] using Lists.last hname hbefore hbehind
    | cons second more =>
      rw [List.dropLast_cons_of_ne_nil (by simp), List.forall_mem_cons] at hbars
      have hlists := ih (by simp) hrest hbars.right
      have hbar : (String.ofList (Text.trim piece)).toList.getLast? = some '|' → behind ≠ [] := by
        rintro hlast rfl
        rw [String.toList_ofList] at hlast
        refine hbars.left ?_
        rw [heq, List.append_nil, List.getLast?_append, hlast, Option.some_or]
      simpa [← heq, List.intercalate_cons_cons] using
        Lists.more hname hbefore hbehind hbar hlists

theorem lists_candidates (inner : List Char) : Lists (candidates inner) inner := by
  have hlists := lists_intercalate (alternatives_ne_nil inner)
    (fun _ => not_separator_infix_of_mem) getLast?_of_mem_dropLast_alternatives
  rwa [intercalate_alternatives] at hlists

-- A text can be written for a list of names if and only if they are its candidates. A text has at
-- least one candidate, all of them are names, and the pieces that they are trimmed from make up the
-- text with a separator between each two.
theorem lists_iff_candidates_eq :
    (∀ names inner, Lists names inner ↔ candidates inner = names) ∧
    ∀ inner, candidates inner ≠ [] ∧ (∀ name ∈ candidates inner, IsName name.toList) ∧
      candidates inner = (alternatives inner).map (fun piece => String.ofList (Text.trim piece)) ∧
      separator.intercalate (alternatives inner) = inner := by
  constructor
  case left =>
    intro names inner
    constructor
    case mp => exact Lists.candidates_eq
    case mpr =>
      rintro rfl
      exact lists_candidates inner
  case right =>
    intro inner
    refine ⟨candidates_ne_nil inner, fun name hname => ?_, rfl, intercalate_alternatives inner⟩
    obtain ⟨piece, hpiece, rfl⟩ := List.mem_map.mp hname
    simpa using isName_trim (not_separator_infix_of_mem hpiece)

theorem lists_iff_candidates_eq_bars :
    let inner := " ||a|\t|||b||c\u2003".toList
    Lists ["", "a|", "|b", "c"] inner ∧ candidates inner = ["", "a|", "|b", "c"] ∧
      IsName "a|".toList ∧ ¬Lists ["a|", "b"] "a|||b".toList := by
  intro inner
  have hinner : inner =
      [' '] ++ "".toList ++ [] ++ separator ++ ([] ++ "a|".toList ++ ['\t'] ++ separator ++
      ([] ++ "|b".toList ++ [] ++ separator ++ ([] ++ "c".toList ++ ['\u2003']))) := by
    decide
  have hnone : ∀ c ∈ ([] : List Char), Text.isBlank c := List.forall_mem_nil _
  have hone (c : Char) (h : Text.isBlank c) : ∀ d ∈ [c], Text.isBlank d :=
    List.forall_mem_singleton.mpr h
  have hlists : Lists ["", "a|", "|b", "c"] inner := by
    rw [hinner]
    exact .more ⟨by decide, by decide⟩ (hone ' ' rfl) hnone (by decide) <|
      .more ⟨by decide, by decide⟩ hnone (hone '\t' rfl) (by decide) <|
      .more ⟨by decide, by decide⟩ hnone hnone (by decide) <|
      .last ⟨by decide, by decide⟩ hnone (hone '\u2003' rfl)
  obtain ⟨hread, hnames⟩ := lists_iff_candidates_eq
  have hcandidates := (hread _ inner).mp hlists
  refine ⟨hlists, hcandidates, ?name, ?joined⟩
  case name => exact (hnames inner).right.left "a|" (by simp [hcandidates])
  case joined =>
    -- Without white space the bar of the first name goes to the second.
    rw [hread]
    decide +kernel

end Template

end EnvProvision
