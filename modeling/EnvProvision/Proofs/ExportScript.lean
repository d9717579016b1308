import EnvProvision.CommandLine.Run
import EnvProvision.Proofs.Records
import EnvProvision.Proofs.SpelledWords
import EnvProvision.Shell.Run
import Mathlib.Data.List.Forall2

namespace EnvProvision

namespace Shell

-- The text starts a word that stands for itself: a `#` at its start would make a comment of it.
def isPlain (text : String) : Bool :=
  text.toList.all isOrdinary && text.toList.head? != some '#'

theorem isOrdinary_of_isPlain {text : String} (h : isPlain text) :
    ∀ c ∈ text.toList ++ ['='], isOrdinary c :=
  List.forall_mem_append.mpr
    ⟨List.all_eq_true.mp (Bool.and_eq_true_iff.mp h).left, List.forall_mem_singleton.mpr rfl⟩

def exportWord : Word :=
  "export".toList.map (.char · false)

theorem isOrdinary_export : ∀ c ∈ "export".toList, isOrdinary c :=
  List.all_eq_true.mp (by decide)

def exportLine (key value : String) : List Char :=
  "export".toList ++ [' '] ++ (key.toList ++ ['=']) ++ quoteChars value.toList ++ ['\n']

theorem toList_of_quote? {text quoted : String} (h : quote? text = some quoted) :
    quoted.toList = quoteChars text.toList := by
  unfold quote? at h
  split at h
  case isTrue => cases h
  case isFalse =>
    rw [← Option.some.inj h]
    exact String.toList_ofList

namespace Reader

variable {tokens : List Token} {line : Nat} {c : Char} {cs : List Char} {word : Word}

theorem reads_ordinary (h : ∀ d ∈ c :: cs, isOrdinary d) (hc : c ≠ '#') :
    Reads { tokens, line } (c :: cs)
      { tokens, word := some ((c :: cs).map (.char · false))
        line := line + (c :: cs).count '\n' } := by
  obtain ⟨hfirst, hrest⟩ := List.forall_mem_cons.mp h
  have hpush : stepOn { tokens, line } c = some { tokens, word := some [.char c false], line } :=
    congrArg some (stepPlain_ordinary rfl hfirst fun heq => absurd heq hc)
  have hreads := (reads_char hpush).append (adds_ordinary hrest _ [.char c false] rfl rfl rfl)
  rwa [Nat.add_assoc, ← List.count_append] at hreads

theorem reads_blank :
    Reads { tokens, word := some word, line } [' ']
      { tokens := tokens ++ [.word word line], line } := by
  have hstep : stepOn { tokens, word := some word, line } ' ' =
      some { tokens := tokens ++ [.word word line], line } := rfl
  exact reads_char hstep

theorem reads_lineFeed :
    Reads { tokens, word := some word, line } ['\n']
      { tokens := tokens ++ [.word word line] ++ [.newline], line := line + 1 } := by
  have hstep : stepOn { tokens, word := some word, line } '\n' =
      some { tokens := tokens ++ [.word word line] ++ [.newline], line } := rfl
  exact reads_char hstep

-- The name of a variable and the sign behind it are read as they stand.
theorem reads_name {name : String} (h : isPlain name) :
    Reads { tokens, line } (name.toList ++ ['='])
      { tokens, word := some ((name.toList ++ ['=']).map (.char · false))
        line := line + (name.toList ++ ['=']).count '\n' } := by
  have hordinary := isOrdinary_of_isPlain h
  cases hname : name.toList with
  | nil =>
    rw [hname] at hordinary
    exact reads_ordinary hordinary (by decide)
  | cons c cs =>
    have hc : c ≠ '#' := by simpa [isPlain, hname] using (Bool.and_eq_true_iff.mp h).right
    rw [hname] at hordinary
    exact reads_ordinary hordinary hc

-- A line becomes two words and the end of the line.
theorem reads_exportLine (tokens : List Token) (line : Nat) {key : String} (hkey : isPlain key)
    (value : String) :
    ∃ word line₁ line₂, Word.Spells word (key.toList ++ '=' :: value.toList) ∧ word ≠ [] ∧
      Reads { tokens, line } (exportLine key value)
        { tokens := tokens ++ [.word exportWord line] ++ [.word word line₁] ++ [.newline]
          line := line₂ } := by
  obtain ⟨pieces, hadds, hquotes, -⟩ := adds_quoteChars value.toList
  let name : Word := (key.toList ++ ['=']).map (.char · false)
  have hexport : Reads { tokens, line } "export".toList { tokens, word := some exportWord, line } :=
    reads_ordinary isOrdinary_export (by decide)
  have hname := (hexport.append reads_blank).append (reads_name hkey)
  have hvalue := hname.append (hadds _ name rfl rfl rfl)
  have hline := hvalue.append reads_lineFeed
  refine ⟨name ++ pieces, _, _, ?_, by simp [name], hline⟩
  rw [List.append_cons]
  exact (Word.spells_bare (isOrdinary_of_isPlain hkey)).append hquotes.spells

end Reader

-- The tokens of commands that export pairs, one command a line.
inductive ExportTokens : List (String × String) → List Token → Prop
  | nil : ExportTokens [] []
  | cons {key value word line line' pairs tokens} :
    Word.Spells word (key.toList ++ '=' :: value.toList) → word ≠ [] →
    ExportTokens pairs tokens →
    ExportTokens ((key, value) :: pairs)
      (.word exportWord line :: .word word line' :: .newline :: tokens)

theorem ExportTokens.length_eq {pairs : List (String × String)} {tokens : List Token}
    (h : ExportTokens pairs tokens) : tokens.length = 3 * pairs.length := by
  induction h with
  | nil => rfl
  | cons _ _ _ ih => simp [ih]; omega

def exportLines (pairs : List (String × String)) : List Char :=
  pairs.flatMap fun (key, value) => exportLine key value

theorem Reader.reads_exportLines (tokens : List Token) (line : Nat) {pairs : List (String × String)}
    (h : ∀ pair ∈ pairs, isPlain pair.1) :
    ∃ added line', ExportTokens pairs added ∧
      Reads { tokens, line } (exportLines pairs) { tokens := tokens ++ added, line := line' } := by
  induction pairs generalizing tokens line with
  | nil =>
    refine ⟨[], line, .nil, ?_⟩
    rw [List.append_nil]
    exact reads_nil _
  | cons pair rest ih =>
    obtain ⟨key, value⟩ := pair
    obtain ⟨hkey, hrest⟩ := List.forall_mem_cons.mp h
    obtain ⟨word, line₁, line₂, hspells, hne, hline⟩ := reads_exportLine tokens line hkey value
    obtain ⟨added, line₃, hadded, hlines⟩ := ih _ line₂ hrest
    refine ⟨.word exportWord line :: .word word line₁ :: .newline :: added, line₃,
      .cons hspells hne hadded, ?_⟩
    rw [List.append_cons, List.append_cons, List.append_cons]
    exact hline.append hlines

theorem ofText_exportLines {pairs : List (String × String)} (h : ∀ pair ∈ pairs, isPlain pair.1) :
    ∃ tokens, ExportTokens pairs tokens ∧ Token.ofText (exportLines pairs) = (tokens, true) := by
  obtain ⟨tokens, _, htokens, hreads⟩ := Reader.reads_exportLines [] 1 h
  exact ⟨tokens, htokens, Token.go_of_reads hreads⟩

-- The pipeline is one command. In whatever session, its words expand to `export` and the pair.
def Exports (pair : String × String) (pipeline : Pipeline Command) : Prop :=
  ∃ line words, pipeline = { connector := .always, stages := [.simple line words] } ∧
    (words.head?.bind Word.literal?) = some "export" ∧
    ∀ helpers, Session.expandCommand helpers words = pure ["export", pair.1 ++ "=" ++ pair.2]

theorem spells_exportWord : Word.Spells exportWord "export".toList :=
  Word.spells_bare isOrdinary_export

theorem exports_simple {key value : String} {word : Word} (line : Nat)
    (h : word.Spells (key.toList ++ '=' :: value.toList)) (hne : word ≠ []) :
    Exports (key, value)
      { connector := .always, stages := [.simple line [exportWord, word]] } := by
  refine ⟨line, _, rfl, rfl, fun helpers => ?_⟩
  have hexport := spells_exportWord.expandAssigning_eq (by decide) helpers
  have hword := h.expandAssigning_eq hne helpers
  have hdeclares : Session.declares [exportWord, word] = true := rfl
  unfold Session.expandCommand
  rw [if_pos hdeclares, List.flatMapM_cons, List.flatMapM_cons, List.flatMapM_nil, hexport, hword]
  simp [String.append_assoc]

namespace Script

theorem readPipeline_export (fuel : Nat) (word : Word) (line line' : Nat) (rest : List Token) :
    readPipeline (fuel + 3) .always
        (.word exportWord line :: .word word line' :: .newline :: rest) =
      some ({ connector := .always, stages := [.simple line [exportWord, word]] },
        .newline :: rest) := by
  have hliteral : exportWord.literal? = some "export" := rfl
  have hexpect : expect "!" (.word exportWord line :: .word word line' :: .newline :: rest) =
      none := rfl
  have hsimple : readSimple (.word exportWord line :: .word word line' :: .newline :: rest) =
      some ([exportWord, word], [], .newline :: rest) := rfl
  simp [readPipeline, readStages, readCommand, hexpect, hliteral, hsimple, redirected, firstLine]

-- Each line takes two steps of the reader, one for its command and one for its end.
theorem readLines_exportTokens {pairs : List (String × String)} {tokens : List Token}
    (h : ExportTokens pairs tokens) {fuel : Nat} (hfuel : 2 * pairs.length < fuel) :
    ∃ script, readLines true [] .always fuel tokens = (script, true) ∧
      List.Forall₂ Exports pairs script := by
  induction h generalizing fuel with
  | nil =>
    obtain ⟨fuel, rfl⟩ := Nat.exists_eq_add_of_lt hfuel
    exact ⟨[], rfl, .nil⟩
  | @cons key value word line line' pairs tokens hspells hne htokens ih =>
    rw [List.length_cons] at hfuel
    obtain ⟨fuel, rfl⟩ : ∃ n, fuel = n + 2 := ⟨fuel - 2, by omega⟩
    obtain ⟨script, hread, hexports⟩ := ih (by omega : 2 * pairs.length < fuel)
    refine ⟨_ :: script, ?_, .cons (exports_simple line hspells hne) hexports⟩
    have hends : ends (.word exportWord line :: .word word line' :: .newline :: tokens) =
        false := rfl
    have hpipeline := readPipeline_export (10 * (tokens.length + 3) + 7) word line line' tokens
    simp only [readLines, if_true, hends, List.length_cons, Bool.false_eq_true, if_false]
    rw [hpipeline]
    simp [hread]

theorem ofText?_exportLines {pairs : List (String × String)}
    (h : ∀ pair ∈ pairs, isPlain pair.1) :
    ∃ script, ofText? (exportLines pairs) = some script ∧ List.Forall₂ Exports pairs script := by
  obtain ⟨tokens, htokens, hread⟩ := ofText_exportLines h
  obtain ⟨script, hlines, hexports⟩ := readLines_exportTokens htokens
    (by have := htokens.length_eq; omega : 2 * pairs.length < 2 * tokens.length + 2)
  refine ⟨script, ?_, hexports⟩
  simp only [ofText?, ofText, hread, hlines]

end Script

end Shell

namespace CommandLine

theorem toList_of_exportLine? {key value line : String} (h : exportLine? key value = some line) :
    line.toList = Shell.exportLine key value := by
  unfold exportLine? at h
  obtain ⟨quoted, hq, hline⟩ := Option.map_eq_some_iff.mp h
  have hline : line = "export " ++ key ++ "=" ++ quoted ++ "\n" := hline.symm
  unfold Shell.exportLine
  rw [← Shell.toList_of_quote? hq, hline]
  simp

-- The lines of these pairs, one behind the other.
def script (pairs : List (String × String)) : String :=
  .ofList (Shell.exportLines pairs)

theorem script_cons {key value line : String} (h : exportLine? key value = some line)
    (rest : List (String × String)) : script ((key, value) :: rest) = line ++ script rest := by
  have hlines : Shell.exportLines ((key, value) :: rest) =
      line.toList ++ Shell.exportLines rest := by
    rw [toList_of_exportLine? h]
    rfl
  rw [script, hlines, String.ofList_append, String.ofList_toList]
  rfl

-- No variables, this keyring, and a document where it is looked for. All output is taken, and no
-- command is found.
def World.ofDocument (keyring : Keyring) (contents : String) : World where
  files :=
    ⟨[(["config"], .directory), (["config", "secret_env.yml"], .file (.ofText contents))], []⟩
  env := .ofList []
  keyring := keyring
  refusal? _ _ := none
  launch _ _ _ := .error .missing

theorem World.write_cases (world : World) (output : Bytes) (text : String) :
    world.write output text = (output ++ Bytes.ofText text, none) ∨
      ∃ fault, world.refusal? output text = some fault ∧ world.write output text =
        (output ++ (Bytes.ofText text).take fault.written, some fault.text) := by
  unfold World.write
  cases hrefusal : world.refusal? output text with
  | none => exact .inl rfl
  | some fault => exact .inr ⟨fault, rfl, rfl⟩

section

variable {world : World} {key value line : String}

-- What stops a script at a pair, once these bytes are on the output: the value has a NUL, or the
-- line is refused. Then this is on the output, and this is reported.
inductive Stops (world : World) (taken : Bytes) (key value : String) : Bytes → String → Prop
  | unquotable : '\x00' ∈ value.toList → Stops world taken key value taken (unquotable key)
  | refused {line fault} :
    exportLine? key value = some line → world.refusal? taken line = some fault →
    Stops world taken key value (taken ++ (Bytes.ofText line).take fault.written) fault.text

theorem nul_mem_of_exportLine? (h : exportLine? key value = none) : '\x00' ∈ value.toList := by
  simpa [exportLine?, Shell.quote?] using h

theorem exportScript_cons {output output' : Bytes} (hline : exportLine? key value = some line)
    (hwrite : world.write output line = (output', none)) (rest : List (String × String)) :
    exportScript world output ((key, value) :: rest) = exportScript world output' rest := by
  simp [exportScript, hline, hwrite]

-- The first pair of a script has its line printed, or it stops the script.
theorem exportScript_first (world : World) (output : Bytes) (key value : String)
    (rest : List (String × String)) :
    (∃ line, exportLine? key value = some line ∧
        world.write output line = (output ++ Bytes.ofText line, none)) ∨
      ∃ output' report, Stops world output key value output' report ∧
        exportScript world output ((key, value) :: rest) = (output', some report) := by
  cases hline : exportLine? key value with
  | none =>
    refine .inr ⟨output, unquotable key, .unquotable (nul_mem_of_exportLine? hline), ?_⟩
    simp [exportScript, hline]
  | some line =>
    obtain hwrite | ⟨fault, hfault, hwrite⟩ := world.write_cases output line
    case inl => exact .inl ⟨line, rfl, hwrite⟩
    case inr =>
      refine .inr ⟨_, fault.text, .refused hline hfault, ?_⟩
      simp [exportScript, hline, hwrite]

-- The lines of all the pairs are printed, or those of the pairs before one that stops the script.
theorem exportScript_cases (world : World) (output : Bytes) (pairs : List (String × String)) :
    exportScript world output pairs = (output ++ Bytes.ofText (script pairs), none) ∨
      ∃ before key value after output' report, pairs = before ++ (key, value) :: after ∧
        exportScript world output before = (output ++ Bytes.ofText (script before), none) ∧
        Stops world (output ++ Bytes.ofText (script before)) key value output' report ∧
        exportScript world output pairs = (output', some report) := by
  have hnil (output : Bytes) : output ++ Bytes.ofText (script []) = output :=
    List.append_nil output
  induction pairs generalizing output with
  | nil =>
    rw [hnil]
    exact .inl rfl
  | cons pair rest ih =>
    obtain ⟨key, value⟩ := pair
    obtain ⟨line, hline, hwrite⟩ | ⟨output', report, hstops, hscript⟩ :=
      exportScript_first world output key value rest
    case inr =>
      refine .inr ⟨[], key, value, rest, output', report, rfl, ?_, ?_, hscript⟩
      all_goals rw [hnil]
      · rfl
      · exact hstops
    case inl =>
      have hprinted (pairs : List (String × String)) :
          output ++ Bytes.ofText (script ((key, value) :: pairs)) =
            output ++ Bytes.ofText line ++ Bytes.ofText (script pairs) := by
        rw [script_cons hline, Bytes.ofText_append, List.append_assoc]
      rw [exportScript_cons hline hwrite, hprinted]
      obtain hall | ⟨before, key', value', after, output', report, rfl, hbefore, hstops, hrest⟩ :=
        ih (output ++ Bytes.ofText line)
      case inl => exact .inl hall
      case inr =>
        refine .inr ⟨(key, value) :: before, key', value', after, output', report, rfl, ?_, ?_,
          hrest⟩
        · rw [exportScript_cons hline hwrite, hprinted, hbefore]
        · rw [hprinted]
          exact hstops

-- Of the second line three bytes are taken.
example :
    let refusal? (output : Bytes) (_ : String) : Option WriteFault :=
      if output.isEmpty then none else some { written := 3, text := "no space left" }
    exportScript { World.ofDocument (.ofList []) "" with refusal? } [] [("A", "x"), ("B", "y")] =
      (.ofText "export A=x\nexp", some "no space left") := by
  decide +kernel

-- A script that is not stopped has all of its lines on the output.
theorem output_of_exportScript {output output' : Bytes} {pairs : List (String × String)}
    (h : exportScript world output pairs = (output', none)) :
    output' = output ++ Bytes.ofText (script pairs) := by
  obtain hall | ⟨_, _, _, _, _, _, -, -, -, hstopped⟩ := exportScript_cases world output pairs
  case inl =>
    rw [h] at hall
    exact congrArg Prod.fst hall
  case inr =>
    rw [h] at hstopped
    cases hstopped

end

namespace Result

-- The run has failed, and it has printed nothing.
structure FailsSilently (result : Result) : Prop where
  code_ne : result.code ≠ 0
  output_eq : result.output = []

-- What a run leaves that has come to print a script.
def ofScript (script : Bytes × Option String) (events : List Event) : Result :=
  match script with
  | (output, none) => { code := 0, output, events }
  | (output, some report) => .failure report output events

theorem failsSilently_failure (report : String) (events : List Event) :
    (failure report [] events).FailsSilently :=
  ⟨Nat.one_ne_zero, rfl⟩

theorem failsSilently_usage : usage.FailsSilently :=
  ⟨by decide, rfl⟩

theorem after_ofScript (script : Bytes × Option String) (events events' : List Event) :
    (ofScript script events').after events = ofScript script (events ++ events') := by
  obtain ⟨output, report⟩ := script
  cases report <;> rfl

theorem ofScript_of_code {script : Bytes × Option String} {events : List Event}
    (h : (ofScript script events).code = 0) : script = ((ofScript script events).output, none) := by
  obtain ⟨output, report⟩ := script
  cases report with
  | none => rfl
  | some report => cases h

end Result

theorem exportValues_cases (world : World) (loader : Loader) (environment : String) :
    (exportValues world loader environment).FailsSilently ∨
      ∃ pairs events, (loader.preview world.files environment world.env).outcome = .ok pairs ∧
        exportValues world loader environment =
          .ofScript (exportScript world [] pairs.entries) events := by
  unfold exportValues
  split
  case h_1 => exact .inl (Result.failsSilently_failure _ _)
  case h_2 pairs events hpreview =>
    rw [hpreview]
    exact .inr ⟨pairs, events, rfl, rfl⟩

theorem act_cases (world : World) (settings : Settings) (action : Action) :
    (act world settings action).FailsSilently ∨
      ∃ loader events, settings.loader world.keyring world.files = ⟨.ok loader, events⟩ := by
  unfold act
  split
  case h_1 => exact .inl (Result.failsSilently_failure _ _)
  case h_2 loader events hl => exact .inr ⟨loader, events, hl⟩

theorem act_exportValues {world : World} {settings : Settings} {loader : Loader}
    {events : List Event} (h : settings.loader world.keyring world.files = ⟨.ok loader, events⟩) :
    act world settings .exportValues =
      (exportValues world loader settings.environment).after events := by
  rw [act, h]

theorem run_cases (world : World) (arguments : List String) :
    (run world arguments).FailsSilently ∨ run world arguments = answer world arguments := by
  unfold run
  split
  case h_1 => exact .inl ⟨by decide, rfl⟩
  case h_2 => exact .inr rfl

theorem run_act_cases {arguments : List String} {options : Options} {action : Action}
    (hread : read arguments = some (.act options action)) (world : World) :
    (run world arguments).FailsSilently ∨
      ∃ settings, Settings.of? options world.env = some settings ∧
        run world arguments = act world settings action := by
  obtain hfails | hrun := run_cases world arguments
  case inl => exact .inl hfails
  case inr =>
    rw [hrun]
    cases hs : Settings.of? options world.env with
    | none =>
      have husage : answer world arguments = .usage := by simp [answer, hread, hs]
      exact .inl (husage ▸ Result.failsSilently_usage)
    | some settings => exact .inr ⟨settings, rfl, by simp [answer, hread, hs]⟩

-- The pairs that a load with these options would set.
def World.pairs? (world : World) (options : Options) :
    Option (Except Error (Table String String)) := do
  let settings ← Settings.of? options world.env
  return do
    let loader ← (settings.loader world.keyring world.files).outcome
    (loader.preview world.files settings.environment world.env).outcome

-- A run that is asked to export values fails before it prints, or comes to print its script.
theorem run_export_cases {arguments : List String} {options : Options}
    (hread : read arguments = some (.act options .exportValues)) (world : World) :
    (run world arguments).FailsSilently ∨
      ∃ pairs events, world.pairs? options = some (.ok pairs) ∧
        run world arguments = .ofScript (exportScript world [] pairs.entries) events := by
  obtain hfails | ⟨settings, hsettings, hrun⟩ := run_act_cases hread world
  case inl => exact .inl hfails
  case inr =>
    rw [hrun]
    obtain hfails | ⟨loader, events, hloader⟩ := act_cases world settings .exportValues
    case inl => exact .inl hfails
    case inr =>
      rw [act_exportValues hloader]
      obtain hfails | ⟨pairs, events', hpairs, hvalues⟩ :=
        exportValues_cases world loader settings.environment
      case inl => exact .inl ⟨hfails.code_ne, hfails.output_eq⟩
      case inr =>
        rw [hvalues, Result.after_ofScript]
        refine .inr ⟨pairs, events ++ events', ?_, rfl⟩
        simp [World.pairs?, hsettings, hloader, hpairs, bind, Except.bind]

end CommandLine

end EnvProvision
