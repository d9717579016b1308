import EnvProvision.Proofs.Trimming
import EnvProvision.Storage.SecretsFile
import Mathlib.Tactic.MkIffOfInductiveProp

namespace EnvProvision

namespace Text

theorem lines_of_notMem {cs : List Char} (h : '\n' ∉ cs) : lines cs = [cs] :=
  List.splitOn_eq_singleton h

theorem lines_append_cons {cs : List Char} (h : '\n' ∉ cs) (ds : List Char) :
    lines (cs ++ '\n' :: ds) = cs :: lines ds :=
  List.splitOn_append_cons_self_of_not_mem h ds

theorem lineFeed_notMem_of_mem_lines {cs : List Char} : ∀ line ∈ lines cs, '\n' ∉ line := by
  unfold lines
  induction cs with
  | nil => simp
  | cons c rest ih =>
    rw [List.splitOn_cons_eq_if_modifyHead]
    split
    case isTrue => simpa using ih
    case isFalse hc =>
      cases hrest : rest.splitOn '\n' with
      | nil => simp
      | cons first more =>
        rw [hrest, List.forall_mem_cons] at ih
        have hne : '\n' ≠ c := by
          rintro rfl
          exact hc (beq_self_eq_true _)
        simpa [hne] using ih

end Text

namespace SecretsFile

-- An entry that a line can hold.
@[mk_iff]
structure IsEntry (key value : List Char) : Prop where
  key_trimmed : Text.Trimmed key
  value_trimmed : Text.Trimmed value
  equals_notMem : '=' ∉ key
  head?_ne : key.head? ≠ some '#'
  lineFeed_notMem_key : '\n' ∉ key
  lineFeed_notMem_value : '\n' ∉ value

instance (key value : List Char) : Decidable (IsEntry key value) :=
  decidable_of_iff' _ (isEntry_iff key value)

-- White space that does not end the line.
def isPadding (cs : List Char) : Bool :=
  cs.all fun c => Text.isBlank c && c != '\n'

-- How a line can be written, with the entry it has if it has one. A line without an equals sign
-- may be blank.
inductive WritesLine : Option (String × String) → List Char → Prop
  | entry {key value : String} {before behind before' behind' : List Char} :
    IsEntry key.toList value.toList → isPadding before → isPadding behind → isPadding before' →
    isPadding behind' →
    WritesLine (some (key, value))
      (before ++ key.toList ++ behind ++ '=' :: (before' ++ value.toList ++ behind'))
  | comment {before text : List Char} :
    isPadding before → '\n' ∉ text → WritesLine none (before ++ '#' :: text)
  | withoutEquals {text : List Char} : '=' ∉ text → '\n' ∉ text → WritesLine none text

-- How a file with these entries can be written. The last line may be empty, so that the file ends
-- with the end of the line before.
inductive Writes : List (String × String) → List Char → Prop
  | last {held line} : WritesLine held line → Writes held.toList line
  | line {held line ending pairs rest} :
    WritesLine held line → ending = ['\n'] ∨ ending = ['\r', '\n'] → Writes pairs rest →
    Writes (held.toList ++ pairs) (line ++ ending ++ rest)

-- The plainest way: nothing but the entries, and each line ended.
def print (pairs : List (String × String)) : List Char :=
  pairs.flatMap fun (key, value) => key.toList ++ '=' :: value.toList ++ ['\n']

variable {cs : List Char} {held : Option (String × String)} {line : List Char}

theorem isBlank_of_isPadding (h : isPadding cs) : ∀ c ∈ cs, Text.isBlank c := fun c hc =>
  (Bool.and_eq_true_iff.mp (List.all_eq_true.mp h c hc)).left

theorem lineFeed_notMem_of_isPadding (h : isPadding cs) : '\n' ∉ cs := by
  intro hm
  simpa using List.all_eq_true.mp h _ hm

theorem equals_notMem_of_isPadding (h : isPadding cs) : '=' ∉ cs := fun hm =>
  absurd (isBlank_of_isPadding h _ hm) (by decide)

theorem Line.ofText_append {key : List Char} (h : '=' ∉ key) (text : List Char) :
    Line.ofText (key ++ '=' :: text) =
      if (Text.trim key).head? = some '#' then .comment
      else .entry (Text.trim key) (Text.trim text) := by
  have hn : '=' ∉ Text.trimStart key := fun hm => h ((List.dropWhile_sublist _).subset hm)
  have hsplit := Text.splitFirst?_append hn (Text.trimEnd text)
  rw [Text.head?_trim, ← Text.trim_trimStart key, ← Text.trim_trimEnd text]
  unfold Line.ofText
  rw [Text.trim_append (by decide)]
  cases hk : Text.trimStart key with
  | nil => simp [Text.splitFirst?]
  | cons c rest =>
    rw [hk] at hsplit
    by_cases hc : c = '#'
    case pos => simp [hc]
    case neg =>
      rw [List.cons_append] at hsplit ⊢
      simp [hc, hsplit]

theorem Line.entry?_of_comment {before : List Char} (h : isPadding before) (text : List Char) :
    Line.entry? (Line.ofText (before ++ '#' :: text)) = none := by
  have hblank : Text.trimStart before = [] :=
    List.dropWhile_eq_nil_iff.mpr (isBlank_of_isPadding h)
  unfold Line.ofText
  rw [Text.trim_append (by decide), hblank]
  rfl

theorem Line.entry?_of_withoutEquals (h : '=' ∉ cs) : Line.entry? (Line.ofText cs) = none := by
  unfold Line.ofText
  split
  case h_1 | h_2 => rfl
  case h_3 c rest _ hcs =>
    have hn : '=' ∉ c :: rest := fun hm => h (Text.mem_of_mem_trim (hcs ▸ hm))
    rw [Text.splitFirst?_eq_none_iff.mpr hn]
    rfl

-- What a line is written for is what is read from it.
theorem WritesLine.entry?_ofText (h : WritesLine held line) :
    Line.entry? (Line.ofText line) = held := by
  cases h with
  | comment hbefore => exact Line.entry?_of_comment hbefore _
  | withoutEquals h => exact Line.entry?_of_withoutEquals h
  | @entry key value before behind before' behind' he h₁ h₂ h₃ h₄ =>
    have hn : '=' ∉ before ++ key.toList ++ behind := by
      simp [equals_notMem_of_isPadding h₁, equals_notMem_of_isPadding h₂, he.equals_notMem]
    have hkey : Text.trim (before ++ key.toList ++ behind) = key.toList :=
      Text.trim_padded he.key_trimmed (isBlank_of_isPadding h₁) (isBlank_of_isPadding h₂)
    have hvalue : Text.trim (before' ++ value.toList ++ behind') = value.toList :=
      Text.trim_padded he.value_trimmed (isBlank_of_isPadding h₃) (isBlank_of_isPadding h₄)
    rw [Line.ofText_append hn, hkey, hvalue, if_neg he.head?_ne]
    simp [Line.entry?]

theorem WritesLine.lineFeed_notMem (h : WritesLine held line) : '\n' ∉ line := by
  cases h with
  | comment hbefore ht => simp [lineFeed_notMem_of_isPadding hbefore, ht]
  | withoutEquals _ h => exact h
  | entry he h₁ h₂ h₃ h₄ =>
    simp [he.lineFeed_notMem_key, he.lineFeed_notMem_value, lineFeed_notMem_of_isPadding, *]

-- A carriage return before the end of the line belongs to its white space.
theorem WritesLine.append_return (h : WritesLine held line) :
    WritesLine held (line ++ ['\r']) := by
  cases h with
  | comment hbefore ht =>
    rw [List.append_assoc, List.cons_append]
    exact .comment hbefore (by simp [ht])
  | withoutEquals he hn => exact .withoutEquals (by simp [he]) (by simp [hn])
  | @entry key value before behind before' behind' he h₁ h₂ h₃ h₄ =>
    have hreturn : isPadding (behind' ++ ['\r']) := by
      rw [isPadding, List.all_append, Bool.and_eq_true]
      exact ⟨h₄, by decide⟩
    rw [List.append_assoc, List.cons_append, List.append_assoc (before' ++ value.toList)]
    exact .entry he h₁ h₂ h₃ hreturn

variable {pairs : List (String × String)}

theorem entries_eq (contents : String) :
    entries contents = .ofList
      ((Text.lines contents.toList).filterMap fun line => Line.entry? (Line.ofText line)) := by
  calc entries contents
    _ = .ofList ((lines contents).filterMap (Line.entry? ∘ Prod.fst)) := rfl
    _ = .ofList (((Text.lines contents.toList).map Line.ofText).filterMap Line.entry?) := by
      rw [← List.filterMap_map, lines, List.zipIdx_map_fst]
    _ = _ := by
      rw [List.filterMap_map]
      rfl

-- The entries that a file is written for are those of its lines, in their order.
theorem Writes.filterMap_lines (h : Writes pairs cs) :
    ((Text.lines cs).filterMap fun line => Line.entry? (Line.ofText line)) = pairs := by
  induction h with
  | @last held line h =>
    rw [Text.lines_of_notMem h.lineFeed_notMem, List.filterMap_cons, h.entry?_ofText]
    cases held <;> rfl
  | @line held line ending pairs rest h hending _ ih =>
    have hline (line) (h : WritesLine held line) :
        (Text.lines (line ++ '\n' :: rest)).filterMap (fun line => Line.entry? (Line.ofText line)) =
          held.toList ++ pairs := by
      rw [Text.lines_append_cons h.lineFeed_notMem, List.filterMap_cons, h.entry?_ofText, ih]
      cases held <;> rfl
    obtain rfl | rfl := hending
    · rw [List.append_assoc]
      exact hline line h
    · have hreturn : line ++ ['\r', '\n'] ++ rest = line ++ ['\r'] ++ '\n' :: rest := by simp
      rw [hreturn]
      exact hline _ h.append_return

theorem Writes.entries_eq {contents : String} (h : Writes pairs contents.toList) :
    entries contents = .ofList pairs := by
  rw [SecretsFile.entries_eq, h.filterMap_lines]

theorem writes_print (h : ∀ pair ∈ pairs, IsEntry pair.1.toList pair.2.toList) :
    Writes pairs (print pairs) := by
  induction pairs with
  | nil => exact .last (.withoutEquals List.not_mem_nil List.not_mem_nil)
  | cons pair rest ih =>
    obtain ⟨hpair, hrest⟩ := List.forall_mem_cons.mp h
    have hline : WritesLine (some pair) (pair.1.toList ++ '=' :: pair.2.toList) := by
      simpa using @WritesLine.entry pair.1 pair.2 [] [] [] [] hpair rfl rfl rfl rfl
    exact .line hline (.inl rfl) (ih hrest)

theorem Line.isEntry {key value : List Char} (h : Line.ofText line = .entry key value)
    (hn : '\n' ∉ line) : IsEntry key value := by
  by_cases hequals : '=' ∈ line
  case neg =>
    have hentry := Line.entry?_of_withoutEquals hequals
    rw [h] at hentry
    cases hentry
  case pos =>
    obtain ⟨before, behind, rfl, hbefore⟩ := List.eq_append_cons_of_mem hequals
    rw [Line.ofText_append hbefore] at h
    split at h
    case isTrue => cases h
    case isFalse hhead =>
      cases h
      exact {
        key_trimmed := Text.trimmed_trim before
        value_trimmed := Text.trimmed_trim behind
        equals_notMem := fun hm => hbefore (Text.mem_of_mem_trim hm)
        head?_ne := hhead
        lineFeed_notMem_key := fun hm => hn (by simp [Text.mem_of_mem_trim hm])
        lineFeed_notMem_value := fun hm => hn (by simp [Text.mem_of_mem_trim hm]) }

theorem isEntry_of_mem {contents : String} {pair : String × String}
    (h : pair ∈ (entries contents).entries) : IsEntry pair.1.toList pair.2.toList := by
  rw [entries_eq] at h
  obtain ⟨line, hline, hentry⟩ := List.mem_filterMap.mp (Table.mem_of_mem_entries_ofList h)
  cases hl : Line.ofText line with
  | blank | comment | stray => simp [hl, Line.entry?] at hentry
  | entry key value =>
    have he := Line.isEntry hl (Text.lineFeed_notMem_of_mem_lines line hline)
    obtain rfl : (String.ofList key, String.ofList value) = pair := by
      simpa [hl, Line.entry?] using hentry
    simpa using he

-- A file that is written for some entries is read as the table of them: it knows the last value of
-- each key, and no other keys. All that is read from any file can be written, and each way to write
-- it is read as the same table.
theorem entries_inverts_writing :
    (∀ pairs (contents : String), Writes pairs contents.toList →
      (entries contents).keys.Nodup ∧
        ∀ key, (entries contents).get? key = pairs.reverse.lookup key) ∧
    ∀ contents, let secrets := entries contents
      (∀ pair ∈ secrets.entries, IsEntry pair.1.toList pair.2.toList) ∧
        Writes secrets.entries (print secrets.entries) ∧
        ∀ contents' : String, Writes secrets.entries contents'.toList →
          entries contents' = secrets := by
  constructor
  case left =>
    intro pairs contents h
    rw [h.entries_eq]
    exact ⟨Table.nodup_keys _, Table.get?_ofList pairs⟩
  case right =>
    intro contents secrets
    have hentries : ∀ pair ∈ secrets.entries, IsEntry pair.1.toList pair.2.toList :=
      fun _ => isEntry_of_mem
    refine ⟨hentries, writes_print hentries, fun contents' h => ?_⟩
    rw [h.entries_eq]
    exact Table.ext (Table.entries_ofList secrets.nodup)

theorem entries_inverts_writing_mixed :
    let contents := " # A=b\r\n A\t= x=y \r\n\nnote\n=\nA=#z"
    let pairs := [("A", "x=y"), ("", ""), ("A", "#z")]
    Writes pairs contents.toList ∧ (entries contents).get? "A" = some "#z" ∧
      (entries contents).get? "" = some "" ∧ (entries contents).get? "note" = none := by
  intro contents pairs
  have hcontents : contents.toList =
      ([' '] ++ '#' :: " A=b".toList) ++ ['\r', '\n'] ++
      (([' '] ++ "A".toList ++ ['\t'] ++ '=' :: ([' '] ++ "x=y".toList ++ [' '])) ++ ['\r', '\n'] ++
      ([] ++ ['\n'] ++ ("note".toList ++ ['\n'] ++
      (([] ++ "".toList ++ [] ++ '=' :: ([] ++ "".toList ++ [])) ++ ['\n'] ++
      ([] ++ "A".toList ++ [] ++ '=' :: ([] ++ "#z".toList ++ [])))))) := by
    decide
  have h : Writes pairs contents.toList := by
    rw [hcontents]
    have hA : WritesLine (some ("A", "x=y"))
        ([' '] ++ "A".toList ++ ['\t'] ++ '=' :: ([' '] ++ "x=y".toList ++ [' '])) :=
      .entry (by decide) rfl rfl rfl rfl
    have hempty : WritesLine (some ("", ""))
        ([] ++ "".toList ++ [] ++ '=' :: ([] ++ "".toList ++ [])) :=
      .entry (by decide) rfl rfl rfl rfl
    have hlast : WritesLine (some ("A", "#z"))
        ([] ++ "A".toList ++ [] ++ '=' :: ([] ++ "#z".toList ++ [])) :=
      .entry (by decide) rfl rfl rfl rfl
    exact .line (.comment rfl (by decide)) (.inr rfl) (.line hA (.inr rfl)
      (.line (.withoutEquals (by decide) (by decide)) (.inl rfl)
      (.line (.withoutEquals (by decide) (by decide)) (.inl rfl)
      (.line hempty (.inl rfl) (.last hlast)))))
  have hread := (entries_inverts_writing.left pairs contents h).right
  exact ⟨h, hread "A", hread "", hread "note"⟩

end SecretsFile

end EnvProvision
