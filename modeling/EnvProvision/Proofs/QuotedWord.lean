import EnvProvision.CommandLine.Run
import EnvProvision.Proofs.SpelledWords

namespace EnvProvision

namespace Shell

-- The characters that can mean something to a shell outside of quotes: everywhere, at the start of
-- a word, or in some places of it.
def activeChars : List Char :=
  specialChars ++ "#=%!^\x7b\x7d".toList

-- A character that a quoted text can start with.
def opensWord (c : Char) : Bool :=
  isBare c || c == '\'' || c == '"'

theorem quoteChars_eq_cons (cs : List Char) :
    ∃ c rest, quoteChars cs = c :: rest ∧ opensWord c := by
  cases cs with
  | nil => exact ⟨'\'', _, rfl, rfl⟩
  | cons c rest =>
    have hhold := (chunks_spec (c :: rest)).right
    simp only [quoteChars, chunks_cons, List.flatMap_cons, writeChunk]
    split
    case isTrue hb =>
      rw [chunks_cons] at hhold
      have hc : isBare c := (hhold _ List.mem_cons_self).bare hb c List.mem_cons_self
      exact ⟨c, _, rfl, by simp [opensWord, hc]⟩
    case isFalse =>
      split
      case isTrue => exact ⟨'\'', _, rfl, rfl⟩
      case isFalse => exact ⟨'"', _, rfl, rfl⟩

namespace Reader

-- Such a character starts a word in the way in which it goes on with one.
theorem stepOn_of_opensWord {c : Char} (h : opensWord c) :
    stepOn {} c = stepOn { word := some [] } c := by
  simp only [opensWord, Bool.or_eq_true, beq_iff_eq] at h
  obtain (hc | rfl) | rfl := h
  · have hne : c ≠ '#' := by
      rintro rfl
      cases hc
    have hordinary := isOrdinary_of_isBare hc
    rw [stepOn, stepOn, stepPlain_ordinary rfl hordinary fun heq => absurd heq hne,
      stepPlain_ordinary rfl hordinary fun _ => rfl]
    rfl
  · rfl
  · rfl

theorem reads_of_opensWord {c : Char} {cs : List Char} {r : Reader} (hc : opensWord c)
    (h : Reads { word := some [] } (c :: cs) r) : Reads {} (c :: cs) r := by
  unfold Reads at h ⊢
  rwa [List.foldlM_cons, step, stepOn_of_opensWord hc, ← step, ← List.foldlM_cons]

end Reader

-- On its own a quoted text is one word, in which no quotes are left open. Within a word it adds the
-- same pieces to what is there.
theorem exists_word_of_quoteChars (cs : List Char) :
    ∃ word line, Token.ofText (quoteChars cs) = ([.word word line], true) ∧
      Reader.Adds (quoteChars cs) .plain .plain word ∧ word.Quotes cs ∧ word ≠ [] := by
  obtain ⟨word, hadds, hquotes, hne⟩ := Reader.adds_quoteChars cs
  refine ⟨word, 1 + (quoteChars cs).count '\n', ?_, hadds, hquotes, hne⟩
  obtain ⟨c, rest, hcs, hc⟩ := quoteChars_eq_cons cs
  have hreads := hadds { word := some [] } [] rfl rfl rfl
  rw [hcs] at hreads ⊢
  exact Token.go_of_reads (Reader.reads_of_opensWord hc hreads)

end Shell

namespace CommandLine

-- The line that exports a value lacks only for a value with a NUL. What it has behind the equals
-- sign is one word, read to its end without an open quote, that spells the value, expands to it in
-- every session, and has no character outside of quotes that could mean something to a shell.
theorem exportLine?_quotes_value (key value : String) :
    ∃ (quoted : String) (word : Shell.Word),
      exportLine? key value =
        (if '\x00' ∈ value.toList then none else some s!"export {key}={quoted}\n") ∧
      (∃ line, Shell.Token.ofText quoted.toList = ([.word word line], true)) ∧
      Shell.Reader.Adds quoted.toList .plain .plain word ∧
      word.Spells value.toList ∧
      (∀ helpers, Shell.Session.expandFields helpers word = pure [value]) ∧
      ∀ c ∈ word.bareChars, c ∉ Shell.activeChars := by
  obtain ⟨word, line, htoken, hadds, hquotes, hne⟩ :=
    Shell.exists_word_of_quoteChars value.toList
  refine ⟨String.ofList (Shell.quoteChars value.toList), word, ?_, ?_, ?_, hquotes.spells, ?_, ?_⟩
  · by_cases hnul : '\x00' ∈ value.toList <;> simp [exportLine?, Shell.quote?, hnul]
  · exact ⟨line, by rw [String.toList_ofList, htoken]⟩
  · rwa [String.toList_ofList]
  · intro helpers
    rw [hquotes.spells.expandFields_eq hne, String.ofList_toList]
  · intro c hc
    have hactive : Shell.activeChars.all (!Shell.isBare ·) := by decide
    exact Shell.notMem_of_isBare hactive (hquotes.isBare c hc)

end CommandLine

end EnvProvision
