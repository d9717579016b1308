import EnvProvision.Shell.Expansion

namespace EnvProvision.Shell

namespace Session

inductive Declaration where
  | exported
  | frozen
  | plain
  deriving Repr, DecidableEq

-- Declare a variable by an argument, which is a name or a name with a value.
def declare (declaration : Declaration) (s : Session) (argument : String) : Session :=
  let mark (s : Session) (name : String) : Session :=
    match declaration with
    | .exported => s.markExported name
    | .frozen => { s with frozen := name :: s.frozen }
    | .plain => s
  let (chars, value) := argument.toList.span (· != '=')
  let name := String.ofList chars
  if !isName name then s.failWith s!"export: {name}: bad variable name"
  else
    match value with
    | [] => mark s name
    | _ :: value => mark (s.assign name (String.ofList value)) name

def singleQuoted (text : String) : String :=
  "'" ++ ("'\"'\"'".intercalate ((text.toList.splitOn '\'').map String.ofList)) ++ "'"

def exportListing (s : Session) : String :=
  let visible := (s.env.entries.filter fun (name, _) => s.exported.contains name).mergeSort
    fun a b => decide (a.1 ≤ b.1)
  String.join (visible.map fun (name, value) => s!"export {name}={singleQuoted value}\n")

def exportAll (s : Session) (arguments : List String) : Session :=
  match arguments with
  | [] | ["-p"] => (s.print s.exportListing).withStatus 0
  | _ => arguments.foldl (declare .exported) (s.withStatus 0)

def unsetAll (s : Session) (arguments : List String) : Session :=
  let names := arguments.filter fun name => name != "-v" && name != "-f"
  names.foldl unset (s.withStatus 0)

-- `local` with one argument. What the variable held comes back at the end of the function.
def makeLocal (s : Session) (argument : String) : Session :=
  let name := String.ofList (argument.toList.takeWhile (· != '='))
  let s := { s with hidden := (name, s.env.get? name) :: s.hidden }
  if argument.toList.contains '=' then s.declare .plain argument else s

def restoreHidden (s : Session) : Session :=
  s.hidden.foldl (fun s (name, old) =>
    match old with
    | some value => s.assign name value
    | none => { s with env := s.env.erase name }) s

def exit (s : Session) (code : Option String) : Session :=
  match code with
  | none => s.finish (.exited s.status)
  | some text =>
    match text.toNat? with
    | some n => s.finish (.exited (n % 256))
    | none => s.fail

def signalNames : List String :=
  ["HUP", "INT", "QUIT", "ILL", "TRAP", "ABRT", "BUS", "FPE", "KILL", "USR1", "SEGV", "USR2",
    "PIPE", "ALRM", "TERM", "STKFLT", "CHLD", "CONT", "STOP", "TSTP", "TTIN", "TTOU", "URG", "XCPU",
    "XFSZ", "VTALRM", "PROF", "WINCH", "IO", "PWR", "SYS"]

def quietSignals : List String :=
  ["CHLD", "CONT", "URG", "WINCH"]

def signalName? (text : String) : Option String :=
  match text.toNat? with
  | some n => if n = 0 then none else signalNames[n - 1]?
  | none =>
    let name := text.map Char.toUpper
    if signalNames.contains name then some name else none

-- Take a signal up: what is to be run for it becomes due, or else it ends the shell.
def signal (s : Session) (name : String) : Session :=
  let s := s.withStatus 0
  match s.actions.get? name with
  | some action =>
    if name = "KILL" then s.finish (.killed 9)
    else if action = "" then s
    else { s with due := s.due ++ [action] }
  | none =>
    if quietSignals.contains name then s
    else s.finish (.killed (signalNames.idxOf name + 1))

-- `kill`: of all processes only the shell itself can be reached. The signal 0 does nothing.
def kill (s : Session) (arguments : List String) : Session :=
  let send (signal : String) (processes : List String) : Session :=
    if processes != [processNumber] then s.withStatus 1
    else if signal = "0" then s.withStatus 0
    else
      match signalName? signal with
      | some name => s.signal name
      | none => s.withStatus 2
  match arguments with
  | "-s" :: signal :: "--" :: processes | "-s" :: signal :: processes => send signal processes
  | "-l" :: number :: _ =>
    match (number.toNat?.map (· % 128)).bind fun n => signalNames[n - 1]? with
    | some name => (s.print (name ++ "\n")).withStatus 0
    | none => s.withStatus 2
  | "--" :: processes => send "TERM" processes
  | argument :: processes =>
    match argument.toList with
    | '-' :: name => send (String.ofList name) processes
    | _ => send "TERM" arguments
  | [] => s.withStatus 2

def changeDirectory (s : Session) (path : String) : Session :=
  match s.files.find path, s.files.placeOf path with
  | .ok .directory, .ok place =>
    let before := (s.env.get? "PWD").getD ""
    let s := { s with files := { s.files with workingPlace := place } }
    let s := (s.assign "OLDPWD" before).assign "PWD" ("/" ++ "/".intercalate place)
    ((s.markExported "OLDPWD").markExported "PWD").withStatus 0
  | _, _ => (s.complain s!"cd: can't cd to {path}").withStatus 2

def cd (s : Session) (arguments : List String) : Session :=
  match arguments.filter fun a => a != "--" && a != "-P" && a != "-L" with
  | [] =>
    match s.env.get? "HOME" with
    | some home => s.changeDirectory home
    | none => s.withStatus 0
  | "-" :: _ =>
    match s.env.get? "OLDPWD" with
    | some path =>
      let s := s.changeDirectory path
      if s.status = 0 then s.print (path ++ "\n") else s
    | none => s.withStatus 2
  | path :: _ => s.changeDirectory path

def optionNames : List (Char × String) :=
  [('e', "errexit"), ('f', "noglob"), ('I', "ignoreeof"), ('i', "interactive"), ('m', "monitor"),
    ('n', "noexec"), ('s', "stdin"), ('x', "xtrace"), ('v', "verbose"), ('V', "vi"), ('E', "emacs"),
    ('C', "noclobber"), ('a', "allexport"), ('b', "notify"), ('u', "nounset")]

-- Switch an option on or off. One that is not known ends the script.
def setOption (on : Bool) (s : Session) (letter : Char) : Session :=
  match letter with
  | 'e' => { s with endsOnFailure := on }
  | 'u' => { s with needsValues := on }
  | 'f' => { s with expandsNames := !on }
  | 'a' => { s with exportsAll := on }
  | 'n' => { s with runs := !on }
  | 'C' => { s with keepsFiles := on }
  | _ => if (optionNames.lookup letter).isSome then s else s.failWith s!"Illegal option -{letter}"

def setNamedOption (on : Bool) (s : Session) (name : String) : Session :=
  match optionNames.find? (·.2 == name) with
  | some (letter, _) => setOption on s letter
  | none => s.failWith s!"Illegal option -o {name}"

def listing (s : Session) : String :=
  let sorted := s.env.entries.mergeSort fun a b => decide (a.1 ≤ b.1)
  String.join (sorted.map fun (name, value) => s!"{name}={singleQuoted value}\n")

def setAll (s : Session) : List String → Session
  | [] => s.withStatus 0
  | "--" :: arguments => { s with arguments, status := 0 }
  | "-o" :: name :: rest => setAll (setNamedOption true s name) rest
  | "+o" :: name :: rest => setAll (setNamedOption false s name) rest
  | argument :: rest =>
    match argument.toList with
    | '-' :: letters@(_ :: _) => setAll (letters.foldl (setOption true) s) rest
    | '+' :: letters@(_ :: _) => setAll (letters.foldl (setOption false) s) rest
    | _ => { s with arguments := argument :: rest, status := 0 }

def setCommand (s : Session) (arguments : List String) : Session :=
  if arguments.isEmpty then (s.print s.listing).withStatus 0 else s.setAll arguments

def shift (s : Session) (arguments : List String) : Session :=
  let n := (arguments.head?.bind String.toNat?).getD 1
  if n ≤ s.arguments.length then { s with arguments := s.arguments.drop n, status := 0 }
  else s.failWith "shift: can't shift that many"

-- Read a line of the input: its characters, and whether it was complete. A backslash takes the
-- meaning from the next character, also from a line feed, unless `raw` is asked for.
def readLine (raw : Bool) : List Char → List Item × Bool × List Char
  | [] => ([], false, [])
  | '\n' :: rest => ([], true, rest)
  | '\\' :: c :: rest =>
    if raw then
      let (items, complete, left) := readLine raw (c :: rest)
      (.loose '\\' :: items, complete, left)
    else
      let (items, complete, left) := readLine raw rest
      (if c == '\n' then items else .char c true :: items, complete, left)
  | c :: rest =>
    let (items, complete, left) := readLine raw rest
    (.loose c :: items, complete, left)
termination_by cs => cs.length

def nextField (separators : List Char) (items : List Item) : List Item × List Item :=
  let separates : Item → Bool
    | .loose c => separators.contains c
    | _ => false
  let isBlank : Item → Bool
    | .loose c => separators.contains c && (c == ' ' || c == '\t' || c == '\n')
    | _ => false
  let items := items.dropWhile isBlank
  let field := items.takeWhile (!separates ·)
  let behind := (items.drop field.length).dropWhile isBlank
  match behind with
  | item :: rest => (field, if separates item then rest.dropWhile isBlank else behind)
  | [] => (field, [])

-- The last variable takes what is left of a line, without the blanks at its ends.
def lastField (separators : List Char) (items : List Item) : List Item :=
  let isBlank : Item → Bool
    | .loose c => separators.contains c && (c == ' ' || c == '\t' || c == '\n')
    | _ => false
  ((items.dropWhile isBlank).reverse.dropWhile isBlank).reverse

def assignFields (s : Session) (items : List Item) : List String → Session
  | [] => s
  | [name] => s.assign name (Item.text (lastField s.separators items))
  | name :: more@(_ :: _) =>
    let (field, rest) := nextField s.separators items
    (s.assign name (Item.text field)).assignFields rest more

def readVariables (s : Session) (arguments : List String) : Session :=
  let names := arguments.filter (!·.startsWith "-")
  let raw := arguments.contains "-r"
  let (items, complete, left) := readLine raw (Bytes.units s.input).toList
  let s := { s with input := .ofUnits (String.ofList left) }
  (s.assignFields items names).withStatus (if complete then 0 else 1)

def leaveLoops (s : Session) (stop : Nat → Stop) (arguments : List String) : Session :=
  { s with stop := some (stop ((arguments.head?.bind String.toNat?).getD 1)), status := 0 }

def returnWith (s : Session) (code : Option String) : Session :=
  let status := (code.bind String.toNat?).getD s.status
  { s with stop := some .returning, status }

def builtinNames : List String :=
  [":", "true", "false", "exit", "export", "readonly", "unset", "echo", "printf", "test", "[",
    "pwd", "kill", "cd", "set", "shift", "read", "local", "break", "continue", "return", "wait",
    "umask", "trap", "times", "hash", "alias", "unalias", "ulimit", "getopts", "eval", ".", "exec",
    "command", "type", "bg", "fg", "jobs"]

def keywords : List String :=
  ["!", "\x7b", "\x7d", "case", "do", "done", "elif", "else", "esac", "fi", "for", "if", "then",
    "until", "while"]

def describe? (s : Session) (name : String) : Option String :=
  if (s.functions.get? name).isSome || builtinNames.contains name || keywords.contains name then
    some name
  else (Program.locateInShell s.files (s.env.get? "PATH") name).toOption

def describeAll (s : Session) (names : List String) : Session :=
  let found := names.filterMap s.describe?
  (s.print (String.join (found.map (· ++ "\n")))).withStatus
    (if found.length = names.length then 0 else 127)

def explainAll (s : Session) (names : List String) : Session :=
  let explain (name : String) : String :=
    if keywords.contains name then s!"{name} is a shell keyword\n"
    else if (s.functions.get? name).isSome then s!"{name} is a shell function\n"
    else if builtinNames.contains name then s!"{name} is a shell builtin\n"
    else
      match s.describe? name with
      | some path => s!"{name} is {path}\n"
      | none => s!"{name}: not found\n"
  let complete := names.all fun name => (s.describe? name).isSome
  (s.print (String.join (names.map explain))).withStatus (if complete then 0 else 127)

def conditionName? (text : String) : Option String :=
  if text = "0" || text.map Char.toUpper = "EXIT" then some "EXIT" else signalName? text

def trap (s : Session) (arguments : List String) : Session :=
  let change (conditions : List String) (f : Session → String → Session) : Session :=
    conditions.foldl (fun s text =>
      match conditionName? text with
      | some name => f s name
      | none => (s.write 2 (.ofUnits s!"trap: {text}: bad trap\n")).withStatus 1) (s.withStatus 0)
  let clear (s : Session) (name : String) : Session := { s with actions := s.actions.erase name }
  match arguments with
  | [] =>
    let lines := s.actions.entries.map fun (name, action) =>
      s!"trap -- {singleQuoted action} {name}\n"
    (s.print (String.join lines)).withStatus 0
  | "--" :: rest => if rest.isEmpty then s.withStatus 0 else change (rest.drop 1) (act rest)
  | "-" :: conditions => change conditions clear
  | [condition] => change [condition] clear
  | _ :: conditions => change conditions (act arguments)
where
  act (arguments : List String) (s : Session) (name : String) : Session :=
    { s with actions := s.actions.insert name (arguments.headD "") }

-- Take the next option off arguments: which one, its value, and the place behind it. An option that
-- is not known, or that lacks its value, is reported.
structure ScriptOption where
  letter : Option Char
  value : Option String
  index : Nat
  place : Nat
  complaint : Option String := none

-- The option at a place among arguments. `place` counts the characters of an argument that are
-- passed.
def nextOption (known : List Char) (arguments : List String) (index place : Nat) :
    Option ScriptOption := do
  let argument ← arguments[index - 1]?
  let cs := argument.toList
  if place ≤ 1 && (argument = "--" || cs.head? != some '-' || cs.length < 2) then none
  let place := max place 1
  let letter ← cs[place]?
  let (nextIndex, nextPlace) :=
    if place + 1 < cs.length then (index, place + 1) else (index + 1, 0)
  let quiet := known.head? == some ':'
  match letter != ':', known.dropWhile (· != letter) with
  | true, _ :: ':' :: _ =>
    if place + 1 < cs.length then
      return { letter, value := some (String.ofList (cs.drop (place + 1))), index := index + 1,
               place := 0 }
    else
      match arguments[index]? with
      | some value => return { letter, value := some value, index := index + 2, place := 0 }
      | none =>
        let found : ScriptOption :=
          { letter := some '?', value := none, index := index + 1, place := 0 }
        if quiet then return { found with letter := some ':', value := some letter.toString }
        else return { found with complaint := some s!"No arg for -{letter} option" }
  | true, _ :: _ => return { letter, value := none, index := nextIndex, place := nextPlace }
  | _, _ =>
    let found : ScriptOption :=
      { letter := some '?', value := none, index := nextIndex, place := nextPlace }
    if quiet then return { found with value := some letter.toString }
    else return { found with complaint := some s!"Illegal option -{letter}" }

def getopts (s : Session) (arguments : List String) : Session :=
  match arguments with
  | known :: name :: given =>
    let given := if given.isEmpty then s.arguments else given
    let index := (((s.env.get? "OPTIND").bind String.toNat?).getD 1)
    match nextOption known.toList given (max index 1) s.optionPlace with
    | some found =>
      let s := (found.complaint.map fun text => s.write 2 (.ofUnits (text ++ "\n"))).getD s
      let s := s.assign name ((found.letter.map Char.toString).getD "?")
      let s :=
        match found.value with
        | some value => s.assign "OPTARG" value
        | none => s.unset "OPTARG"
      { s.assign "OPTIND" (toString found.index) with optionPlace := found.place, status := 0 }
    | none =>
      let index := if given[index - 1]? = some "--" then index + 1 else index
      { (s.assign name "?").assign "OPTIND" (toString index) with optionPlace := 0, status := 1 }
  | _ => s.fail

-- Run a command of the shell itself that runs no others, if there is one of that name.
def builtin? (s : Session) (name : String) (arguments : List String) : Option Session :=
  let program (p : Program) : Option Session :=
    let own := s!"{s.name}: {s.line}: {name}"
    some (s.complete { p (s.invocation own arguments) with files := none })
  match name with
  | ":" | "true" | "times" | "hash" | "alias" | "unalias" | "ulimit" | "bg" | "jobs" =>
    some (s.withStatus 0)
  | "false" | "fg" => some (s.withStatus 1)
  | "wait" =>
    some (s.withStatus (if arguments.isEmpty then 0 else s.backgroundStatus.getD 127))
  | "getopts" => some (s.getopts arguments)
  | "umask" =>
    match arguments with
    | [] => some ((s.print (s.mask ++ "\n")).withStatus 0)
    | mask :: _ =>
      let digits := mask.toList
      let zeros := List.replicate (4 - digits.length) '0'
      some { s with mask := String.ofList (zeros ++ digits), status := 0 }
  | "exit" => some (s.exit arguments.head?)
  | "export" => some (s.exportAll arguments)
  | "readonly" => some (arguments.foldl (declare .frozen) (s.withStatus 0))
  | "local" => some (arguments.foldl makeLocal (s.withStatus 0))
  | "unset" => some (s.unsetAll arguments)
  | "echo" => program (if s.extended then Program.echo else Program.shellEcho)
  | "printf" => program (if s.extended then Program.printf else Program.shellPrintf)
  | "test" => program (Program.testWith true)
  | "[" => program (Program.bracketWith true)
  | "pwd" => some ((s.print ((s.files.workingPath?.getD "") ++ "\n")).withStatus 0)
  | "kill" => some (s.kill arguments)
  | "cd" => some (s.cd arguments)
  | "set" => some (s.setCommand arguments)
  | "shift" => some (s.shift arguments)
  | "read" => some (s.readVariables arguments)
  | "break" => some (s.leaveLoops .leaving arguments)
  | "continue" => some (s.leaveLoops .restarting arguments)
  | "return" => some (s.returnWith arguments.head?)
  | "trap" => some (s.trap arguments)
  | "type" => some (s.explainAll arguments)
  | _ => none

end Session

end EnvProvision.Shell
