import EnvProvision.Shell.Quote
import EnvProvision.Shell.Token
import Mathlib.Data.List.Basic

namespace EnvProvision.Shell

namespace Styles

-- A way is left, and each way that is left can hold the text.
structure Hold (styles : Styles) (cs : List Char) : Prop where
  isNone : styles.isNone = false
  bare : styles.bare → ∀ c ∈ cs, isBare c
  single : styles.single → ∀ c ∈ cs, c ≠ '\''
  double : styles.double → ∀ c ∈ cs, c ≠ '\x60' ∧ c ≠ '$'

variable {styles : Styles} {cs : List Char} {c : Char}

theorem ne_quote_of_singleHolds (h : singleHolds c) : c ≠ '\'' := by
  rintro rfl
  cases h

theorem ne_of_doubleHolds (h : doubleHolds c) : c ≠ '\x60' ∧ c ≠ '$' := by
  constructor <;> (rintro rfl; cases h)

theorem Hold.after (h : styles.Hold cs) (hn : (styles.after c).isNone = false) :
    (styles.after c).Hold (cs ++ [c]) := by
  refine ⟨hn, fun hb => ?_, fun hs => ?_, fun hd => ?_⟩
  · obtain ⟨hb, hc⟩ := Bool.and_eq_true_iff.mp hb
    exact List.forall_mem_append.mpr ⟨h.bare hb, List.forall_mem_singleton.mpr hc⟩
  · obtain ⟨hs, hc⟩ := Bool.and_eq_true_iff.mp hs
    exact List.forall_mem_append.mpr
      ⟨h.single hs, List.forall_mem_singleton.mpr (ne_quote_of_singleHolds hc)⟩
  · obtain ⟨hd, hc⟩ := Bool.and_eq_true_iff.mp hd
    exact List.forall_mem_append.mpr
      ⟨h.double hd, List.forall_mem_singleton.mpr (ne_of_doubleHolds hc)⟩

theorem hold_start (c : Char) : (start c).Hold [c] := by
  by_cases hc : c = '^'
  case pos =>
    subst hc
    have hne : ∀ c ∈ ['^'], c ≠ '\'' := List.forall_mem_singleton.mpr (by decide)
    exact ⟨rfl, fun h => (nomatch h), fun _ => hne, fun h => (nomatch h)⟩
  case neg =>
    have hn := start_isNone c
    rw [start, if_neg hc] at hn ⊢
    have hnil : Hold ⟨true, true, true⟩ [] :=
      ⟨rfl, fun _ => List.forall_mem_nil _, fun _ => List.forall_mem_nil _,
        fun _ => List.forall_mem_nil _⟩
    exact hnil.after hn

end Styles

theorem hold_restOfChunk {styles : Styles} {before : List Char} (h : styles.Hold before)
    (cs : List Char) :
    (restOfChunk styles cs).1 ++ (restOfChunk styles cs).2.2 = cs ∧
      (restOfChunk styles cs).2.1.Hold (before ++ (restOfChunk styles cs).1) := by
  induction cs generalizing styles before with
  | nil => exact ⟨rfl, by simpa [restOfChunk] using h⟩
  | cons c rest ih =>
    cases hn : (styles.after c).isNone with
    | true => simpa [restOfChunk, hn] using h
    | false => simpa [restOfChunk, hn] using ih (h.after hn)

theorem chunks_cons (c : Char) (rest : List Char) :
    chunks (c :: rest) =
      ((restOfChunk (Styles.start c) rest).2.1, c :: (restOfChunk (Styles.start c) rest).1) ::
        chunks (restOfChunk (Styles.start c) rest).2.2 := by
  rw [chunks]

-- The chunks are the text, and each can be written in the ways that are kept with it.
theorem chunks_spec (cs : List Char) :
    (chunks cs).flatMap Prod.snd = cs ∧ ∀ chunk ∈ chunks cs, chunk.1.Hold chunk.2 := by
  induction h : cs.length using Nat.strongRecOn generalizing cs with | ind n ih
  cases cs with
  | nil => simp [chunks]
  | cons c rest =>
    obtain ⟨happend, hhold⟩ := hold_restOfChunk (Styles.hold_start c) rest
    have hlt : (restOfChunk (Styles.start c) rest).2.2.length < n := by
      rw [← h]
      exact Nat.lt_succ_of_le (length_restOfChunk_le ..)
    obtain ⟨hchunks, hholds⟩ := ih _ hlt _ rfl
    rw [chunks_cons, List.flatMap_cons, List.forall_mem_cons, hchunks]
    exact ⟨congrArg (c :: ·) happend, hhold, hholds⟩

-- The characters that mean something to a shell outside of quotes, wherever they stand.
def specialChars : List Char :=
  " \t\n;&|()<>'\"\\$\x60*?[~\x00".toList

def isOrdinary (c : Char) : Bool :=
  !specialChars.contains c

theorem notMem_of_isBare {c : Char} {chars : List Char} (hchars : chars.all (!isBare ·))
    (h : isBare c) : c ∉ chars := by
  intro hm
  have hbare := List.all_eq_true.mp hchars c hm
  rw [h] at hbare
  cases hbare

theorem isOrdinary_of_isBare {c : Char} (h : isBare c) : isOrdinary c := by
  have hspecial : specialChars.all (!isBare ·) := by decide
  simpa [isOrdinary] using notMem_of_isBare hspecial h

namespace Word

-- Nothing is put in for a part of the word, so it stands for the text and nothing else.
inductive Spells : Word → List Char → Prop
  | nil : Spells [] []
  | quotes {word cs} : Spells word cs → Spells (.quotes :: word) cs
  | quoted {word cs} (c : Char) : Spells word cs → Spells (.char c true :: word) (c :: cs)
  | bare {word cs c} : isOrdinary c → Spells word cs → Spells (.char c false :: word) (c :: cs)

theorem Spells.append {word word' : Word} {cs cs' : List Char} (h : word.Spells cs)
    (h' : Spells word' cs') : Spells (word ++ word') (cs ++ cs') := by
  induction h with
  | nil => exact h'
  | quotes _ ih => exact .quotes ih
  | quoted c _ ih => exact .quoted c ih
  | bare hc _ ih => exact .bare hc ih

theorem spells_quoted (cs : List Char) : Spells (cs.map (.char · true)) cs := by
  induction cs with
  | nil => exact .nil
  | cons c rest ih => exact .quoted c ih

theorem spells_bare {cs : List Char} (h : ∀ c ∈ cs, isOrdinary c) :
    Spells (cs.map (.char · false)) cs := by
  induction cs with
  | nil => exact .nil
  | cons c rest ih =>
    obtain ⟨hc, hrest⟩ := List.forall_mem_cons.mp h
    exact .bare hc (ih hrest)

def bareChars (word : Word) : List Char :=
  word.filterMap fun
    | .char c false => some c
    | _ => none

-- The word stands for the text, and what is not within quotes could be written nowhere else.
structure Quotes (word : Word) (cs : List Char) : Prop where
  spells : word.Spells cs
  isBare : ∀ c ∈ word.bareChars, isBare c

theorem Quotes.append {word word' : Word} {cs cs' : List Char} (h : word.Quotes cs)
    (h' : Quotes word' cs') : Quotes (word ++ word') (cs ++ cs') where
  spells := h.spells.append h'.spells
  isBare := by
    rw [bareChars, List.filterMap_append]
    exact List.forall_mem_append.mpr ⟨h.isBare, h'.isBare⟩

theorem quotes_quoted (cs : List Char) : Quotes (.quotes :: cs.map (.char · true)) cs where
  spells := .quotes (spells_quoted cs)
  isBare := by simp [bareChars]

theorem quotes_bare {cs : List Char} (h : ∀ c ∈ cs, Shell.isBare c) :
    Quotes (cs.map (.char · false)) cs where
  spells := spells_bare fun c hc => isOrdinary_of_isBare (h c hc)
  isBare := by simpa [bareChars, Function.comp_def] using h

end Word

namespace Reader

-- Reading `cs` leads from one reader to the other.
def Reads (r : Reader) (cs : List Char) (r' : Reader) : Prop :=
  cs.foldlM step r = some r'

-- Reading `cs` within a word of a script adds pieces to it and changes the mode.
def Adds (cs : List Char) (before after : Mode) (pieces : List Piece) : Prop :=
  ∀ (r : Reader) (word : Word), r.kind = .script → r.mode = before → r.word = some word →
    r.Reads cs
      { r with word := some (word ++ pieces), mode := after, line := r.line + cs.count '\n' }

variable {r r' r'' : Reader} {c : Char} {cs ds : List Char} {m₁ m₂ m₃ : Mode} {ps qs : List Piece}

theorem reads_nil (r : Reader) : r.Reads [] r :=
  rfl

theorem Reads.append (h : r.Reads cs r') (h' : r'.Reads ds r'') : r.Reads (cs ++ ds) r'' := by
  unfold Reads at *
  rw [List.foldlM_append, h, Option.bind_eq_bind, Option.bind_some, h']

theorem reads_char (h : r.stepOn c = some r') :
    r.Reads [c] { r' with line := r'.line + [c].count '\n' } := by
  rw [Reads, List.foldlM_cons, step, h]
  by_cases hc : c = '\n' <;> simp [hc]

theorem adds_nil (mode : Mode) : Adds [] mode mode [] := by
  rintro ⟨⟩ word rfl rfl rfl
  simp [Reads]

theorem Adds.append (h : Adds cs m₁ m₂ ps) (h' : Adds ds m₂ m₃ qs) :
    Adds (cs ++ ds) m₁ m₃ (ps ++ qs) := by
  intro r word hk hm hw
  have hreads := (h r word hk hm hw).append (h' _ (word ++ ps) hk rfl rfl)
  rwa [List.append_assoc, Nat.add_assoc, ← List.count_append] at hreads

-- What one character does, by the rule for its mode.
theorem adds_char (h : ∀ (r : Reader) (word : Word), r.kind = .script → r.mode = m₁ →
      r.word = some word →
      r.stepOn c = some { r with word := some (word ++ ps), mode := m₂ }) :
    Adds [c] m₁ m₂ ps :=
  fun r word hk hm hw => reads_char (h r word hk hm hw)

theorem adds_map {quoted : Bool} {mode : Mode} (h : ∀ c ∈ cs, Adds [c] mode mode [.char c quoted]) :
    Adds cs mode mode (cs.map (.char · quoted)) := by
  induction cs with
  | nil => exact adds_nil mode
  | cons c rest ih =>
    obtain ⟨hc, hrest⟩ := List.forall_mem_cons.mp h
    exact hc.append (ih hrest)

-- An ordinary character stands for itself, but a `#` does so within a word only.
theorem stepPlain_ordinary (hk : r.kind = .script) (hc : isOrdinary c)
    (hword : c = '#' → r.word.isNone = false) : r.stepPlain c = r.push (.char c false) := by
  have hne : (r.kind != .script) = false := by rw [hk]; rfl
  have htext : r.stepText c = r.push (.char c false) := by
    unfold stepText
    split <;> first | rfl | cases hc
  unfold stepPlain
  rw [hne, if_neg Bool.false_ne_true]
  split
  case h_11 => rw [hword rfl, if_neg Bool.false_ne_true]
  case h_12 => exact htext
  all_goals cases hc

theorem adds_ordinary (h : ∀ c ∈ cs, isOrdinary c) :
    Adds cs .plain .plain (cs.map (.char · false)) := by
  refine adds_map fun c hc => adds_char fun r word hk hm hw => ?_
  rw [stepOn, hm]
  simp [stepPlain_ordinary hk (h c hc) (by simp [hw]), push, hw, hm]

theorem adds_open_single : Adds ['\''] .plain .single [.quotes] := by
  refine adds_char fun r word hk hm hw => ?_
  rw [stepOn, hm]
  simp [stepPlain, stepText, hk, push, enter, hw]

theorem adds_close_single : Adds ['\''] .single .plain [] := by
  refine adds_char fun r word hk hm hw => ?_
  rw [stepOn, hm]
  simp [enter, hw]

theorem adds_single (h : ∀ c ∈ cs, c ≠ '\'') : Adds cs .single .single (cs.map (.char · true)) := by
  refine adds_map fun c hc => adds_char fun r word hk hm hw => ?_
  rw [stepOn, hm]
  simp [h c hc, push, hw, hm]

theorem adds_open_double : Adds ['"'] .plain .double [.quotes] := by
  refine adds_char fun r word hk hm hw => ?_
  rw [stepOn, hm]
  simp [stepPlain, stepText, hk, push, enter, hw]

theorem adds_close_double : Adds ['"'] .double .plain [] := by
  refine adds_char fun r word hk hm hw => ?_
  rw [stepOn, hm]
  simp [stepDouble, hk, enter, hw]

theorem adds_escaped (hc : c = '"' ∨ c = '\\') :
    Adds ['\\', c] .double .double [.char c true] := by
  have hescape : Adds ['\\'] .double .doubleEscaped [] := by
    refine adds_char fun r word hk hm hw => ?_
    rw [stepOn, hm]
    simp [stepDouble, enter, hw]
  have hchar : Adds [c] .doubleEscaped .double [.char c true] := by
    refine adds_char fun r word hk hm hw => ?_
    rw [stepOn, hm]
    obtain rfl | rfl := hc <;> simp [push, enter, hk, hw]
  exact hescape.append hchar

theorem adds_double_char (hq : c ≠ '"') (hb : c ≠ '\\') (hc : c ≠ '\x60' ∧ c ≠ '$') :
    Adds [c] .double .double [.char c true] := by
  refine adds_char fun r word hk hm hw => ?_
  rw [stepOn, hm]
  simp [stepDouble, hc, push, hw, hm]

theorem adds_escapeDouble (h : ∀ c ∈ cs, c ≠ '\x60' ∧ c ≠ '$') :
    Adds (escapeDouble cs) .double .double (cs.map (.char · true)) := by
  induction cs with
  | nil => exact adds_nil _
  | cons c rest ih =>
    obtain ⟨hc, hrest⟩ := List.forall_mem_cons.mp h
    by_cases hescaped : c = '"' ∨ c = '\\'
    case pos =>
      rw [escapeDouble, if_pos (by simpa using hescaped)]
      exact (adds_escaped hescaped).append (ih hrest)
    case neg =>
      rw [escapeDouble, if_neg (by simpa using hescaped)]
      rw [not_or] at hescaped
      exact (adds_double_char hescaped.left hescaped.right hc).append (ih hrest)

-- However a chunk is written, it is read back.
theorem adds_writeChunk {styles : Styles} (h : styles.Hold cs) :
    ∃ pieces, Adds (writeChunk styles cs) .plain .plain pieces ∧ Word.Quotes pieces cs := by
  unfold writeChunk
  split
  case isTrue hb =>
    have hordinary c (hc : c ∈ cs) := isOrdinary_of_isBare (h.bare hb c hc)
    exact ⟨_, adds_ordinary hordinary, Word.quotes_bare (h.bare hb)⟩
  case isFalse hb =>
    split
    case isTrue hs =>
      refine ⟨_, (adds_open_single.append (adds_single (h.single hs))).append adds_close_single, ?_⟩
      rw [List.append_nil]
      exact Word.quotes_quoted cs
    case isFalse hs =>
      have hd : styles.double := by simpa [Styles.isNone, hb, hs] using h.isNone
      refine ⟨_, (adds_open_double.append (adds_escapeDouble (h.double hd))).append
        adds_close_double, ?_⟩
      rw [List.append_nil]
      exact Word.quotes_quoted cs

theorem adds_writeChunks {parts : List (Styles × List Char)}
    (h : ∀ part ∈ parts, part.1.Hold part.2) :
    ∃ pieces, Adds (parts.flatMap fun (styles, chunk) => writeChunk styles chunk) .plain .plain
      pieces ∧ Word.Quotes pieces (parts.flatMap Prod.snd) := by
  induction parts with
  | nil => exact ⟨[], adds_nil _, Word.quotes_bare (List.forall_mem_nil _)⟩
  | cons part rest ih =>
    obtain ⟨hpart, hrest⟩ := List.forall_mem_cons.mp h
    obtain ⟨ps, hps, hquotes⟩ := adds_writeChunk hpart
    obtain ⟨qs, hqs, hquotes'⟩ := ih hrest
    exact ⟨ps ++ qs, hps.append hqs, hquotes.append hquotes'⟩

-- A quoted text is read back as what it was. There are quotes for it even if it is empty.
theorem adds_quoteChars (cs : List Char) :
    ∃ pieces, Adds (quoteChars cs) .plain .plain pieces ∧ Word.Quotes pieces cs ∧ pieces ≠ [] := by
  unfold quoteChars
  split
  case h_1 =>
    exact ⟨_, adds_open_single.append adds_close_single, Word.quotes_quoted [],
      List.cons_ne_nil _ _⟩
  case h_2 hne =>
    obtain ⟨hchunks, hholds⟩ := chunks_spec cs
    obtain ⟨pieces, hadds, hquotes⟩ := adds_writeChunks hholds
    rw [hchunks] at hquotes
    refine ⟨pieces, hadds, hquotes, ?_⟩
    rintro rfl
    cases hquotes.spells
    exact hne rfl

end Reader

theorem Token.go_of_reads {r r' : Reader} {cs : List Char} (h : r.Reads cs r') :
    ofText.go r cs = ofText.go r' [] := by
  induction cs generalizing r with
  | nil => cases h; rfl
  | cons c rest ih =>
    rw [Reader.Reads, List.foldlM_cons] at h
    obtain ⟨mid, hstep, h⟩ := Option.bind_eq_some_iff.mp h
    have hgo : ofText.go r (c :: rest) = ofText.go mid rest := by
      simp only [ofText.go, hstep]
    rw [hgo]
    exact ih h

end EnvProvision.Shell
