import EnvProvision.Shell.Builtin

namespace EnvProvision.Shell

namespace Session

def redirect (s : Session) (descriptor : Nat) (target : Target) : Session :=
  { s with targets := (descriptor, target) :: s.targets.filter (·.1 != descriptor) }

def absolute? (s : Session) (path : String) : Option String := do
  let place ← (s.files.placeOf path).toOption
  return "/" ++ "/".intercalate place

def descriptorAt? (path : String) : Option Nat :=
  if path = "/dev/stdin" then some 0
  else if path = "/dev/stdout" then some 1
  else if path = "/dev/stderr" then some 2
  else if path.startsWith "/dev/fd/" then (String.ofList (path.toList.drop 8)).toNat?
  else none

def duplicateInput (s : Session) (other : Nat) : Except String Session :=
  match s.inputs.lookup other with
  | some input => .ok { s with input }
  | none => if other < 3 then .ok s else .error s!"{other}: Bad file descriptor"

def duplicate (s : Session) (descriptor other : Nat) : Except String Session :=
  if descriptor = 0 then s.duplicateInput other
  else
    match s.targets.lookup other with
    | some target => .ok (s.redirect descriptor target)
    | none => .error s!"{other}: Bad file descriptor"

-- What the shell says about a fault: `text` if something on the way is missing.
def missingOr (text : String) (fault : FileFault) : String :=
  if fault = .missing || fault = .notDirectory then text else fault.reason

def openFile (s : Session) (descriptor : Nat) (path : String) (content : Bytes) :
    Except String Session :=
  match descriptorAt? path, s.files.write path content, s.absolute? path with
  | some other, _, _ => s.duplicate descriptor other
  | none, .ok files, some absolute =>
    .ok ({ s with files }.redirect descriptor (.file absolute))
  | none, .error fault, _ =>
    let reason := missingOr "Directory nonexistent" fault
    .error s!"cannot create {path}: {reason}"
  | none, _, none => .error s!"cannot create {path}: Directory nonexistent"

def open? (s : Session) (r : Redirect) (target : String) : Except String Session :=
  let input (content : Bytes) : Session :=
    if r.descriptor = 0 then { s with input := content }
    else
      let others := s.inputs.filter (·.1 != r.descriptor)
      { s with inputs := (r.descriptor, content) :: others }
  match r.direction with
  | .document => .ok (input (.ofUnits target))
  | .input =>
    match descriptorAt? target, s.files.readBytes target with
    | some _, _ => .ok s
    | none, .ok content => .ok (input content)
    | none, .error .isDirectory => .ok (input [])
    | none, .error fault =>
      let reason := missingOr "No such file" fault
      .error s!"cannot open {target}: {reason}"
  | .output =>
    if s.keepsFiles && s.files.holdsFile target then .error s!"cannot create {target}: File exists"
    else s.openFile r.descriptor target []
  | .overwrite => s.openFile r.descriptor target []
  | .append =>
    s.openFile r.descriptor target (((s.files.readBytes target).toOption).getD [])
  | .duplicate =>
    if target = "-" then .ok (s.redirect r.descriptor .nowhere)
    else
      match target.toNat? with
      | some other => s.duplicate r.descriptor other
      | none => .error "Bad fd number"

def openAll (h : Helpers) : List Redirect → Running Bool
  | [] => return true
  | r :: rest => do
    let target ← expandText h r.target
    if (← get).stop.isSome then return false
    match (← get).open? r target with
    | .ok s =>
      set s
      openAll h rest
    | .error message =>
      modify (·.complain message)
      return false

-- Run something with other targets, and say whether they could be opened. If not, it is not run.
def redirecting (h : Helpers) (redirects : List Redirect) (action : Running Unit) :
    Running Bool := do
  let before ← get
  let opened ← openAll h redirects
  if opened then action
  else modify fun s => if s.stop.isSome then s else s.withStatus 2
  let own := redirects.filter fun r => r.descriptor = 0
  modify fun s =>
    -- What is left of a descriptor that was read from is kept for the next time.
    let shared := (own.getLast?.bind fun r =>
      if r.direction = .duplicate then r.target.literal?.bind String.toNat? else none).filter
        fun n => (s.inputs.lookup n).isSome
    { s with
      targets := before.targets
      input := if own.isEmpty then s.input else before.input
      inputs := shared.elim s.inputs fun n => (n, s.input) :: s.inputs.filter (·.1 != n) }
  return opened

def scriptOf (command : Command) : Script :=
  [{ connector := .always, stages := [command] }]

def looking (action : Running Unit) : Running Unit := do
  let before := (← get).looksAtFailure
  modify fun s => { s with looksAtFailure := true }
  action
  modify fun s => { s with looksAtFailure := before }

def call (h : Helpers) (body : Command) (arguments : List String) : Running Unit := do
  let before ← get
  set { before with arguments, hidden := [] }
  h.script (scriptOf body)
  modify fun s =>
    let s := s.restoreHidden
    { s with
      arguments := before.arguments, hidden := before.hidden
      stop := if s.stop = some .returning then none else s.stop }

def runText (h : Helpers) (text : String) : Running Unit := do
  let (script, complete) := Script.ofText text.toList
  if script.isEmpty then modify (·.withStatus 0)
  h.script script
  if !complete && (← get).stop.isNone then modify fail

def source (h : Helpers) (path : String) : Running Unit := do
  match (← get).files.readBytes path with
  | .ok bytes =>
    runText h bytes.units
    modify fun s => { s with stop := if s.stop = some .returning then none else s.stop }
  | .error _ => modify fail

def runProgram (h : Helpers) (command : String) (arguments : List String) : Running Ending := do
  let s ← get
  let refuse (message : String) (code : Nat) : Running Ending := do
    set ((s.complain s!"{command}: {message}").withStatus code)
    return .exited code
  match Program.locateInShell s.files (s.env.get? "PATH") command with
  | .error .denied => refuse FileFault.denied.reason 126
  | .error _ => refuse "not found" 127
  | .ok path =>
    let i := s.invocation command arguments
    match h.programs (Program.nameAt path) with
    | some program =>
      if !i.fits path then refuse FileFault.argumentsTooLong.reason 126
      else
        let completion := program i
        set (s.complete completion)
        return completion.ending
    | none => refuse FileFault.denied.reason 126

def runNamed (h : Helpers) (command : String) (arguments : List String) : Running Unit := do
  let s ← get
  match command, arguments with
  | "eval", _ => runText h (" ".intercalate arguments)
  | ".", path :: _ => source h path
  | "exec", [] => set (s.withStatus 0)
  | "exec", command :: arguments =>
    let ending ← runProgram h command arguments
    modify fun s => { s with actions := .empty }.finish ending
  | "command", "-v" :: names => set (s.describeAll names)
  | "command", "-V" :: names => set (s.explainAll names)
  | "command", command :: arguments =>
    match s.builtin? command arguments with
    | some s => set s
    | none => discard (runProgram h command arguments)
  | _, _ =>
    match s.builtin? command arguments with
    | some s => set s
    | none => discard (runProgram h command arguments)

-- Run a command by its name: a function, a command of the shell itself, or a program.
def runFields (h : Helpers) (command : String) (arguments : List String) : Running Unit := do
  match (← get).functions.get? command with
  | some body => call h body arguments
  | none => runNamed h command arguments

def declares (words : List Word) : Bool :=
  (words.head?.bind Word.literal?).any ["export", "readonly", "local"].contains

def expandCommand (h : Helpers) (words : List Word) : Running (List String) := do
  if declares words then words.flatMapM (expandAssigning h) else words.flatMapM (expandFields h)

def assignAll (h : Helpers) (exporting : Bool) : List (String × Word) → Running Unit
  | [] => return
  | (name, word) :: rest => do
    let value ← expandText h word
    modify (·.assign name value)
    if exporting then modify (·.markExported name)
    assignAll h exporting rest

def specialCommands : List String :=
  [":", ".", "break", "continue", "eval", "exec", "exit", "export", "readonly", "return", "set",
    "shift", "times", "trap", "unset"]

-- Run a simple command. Assignments before a command hold for that command alone.
def runSimple (h : Helpers) (line : Nat) (words : List Word) (redirects : List Redirect) :
    Running Unit := do
  let assignments := (words.map Word.assignment?).takeWhile Option.isSome
  let pairs := assignments.filterMap id
  modify fun s => { s with outputStatus := none, line }
  let fields ← expandCommand h (words.drop assignments.length)
  if (← get).stop.isSome then return
  match fields with
  | [] =>
    discard (redirecting h redirects do
      assignAll h false pairs
      modify fun s => if s.stop.isSome then s else s.withStatus (s.outputStatus.getD 0))
  | ["exec"] =>
    if !(← openAll h redirects) then modify fail
  | command :: arguments =>
    let opened ← redirecting h redirects do
      let before ← get
      assignAll h (!specialCommands.contains command) pairs
      runFields h command arguments
      if !pairs.isEmpty && !specialCommands.contains command then
        modify fun s => pairs.foldl (fun s (name, _) =>
          let s := { s with exported := if before.exported.contains name then s.exported
            else s.exported.filter (· != name) }
          match before.env.get? name with
          | some value => s.assign name value
          | none => { s with env := s.env.erase name }) s
    if !opened && specialCommands.contains command then modify fail

def loopLimit : Nat := 100000

-- Whether a loop goes on behind a run of its body. What stops this loop alone is over then.
def loopGoesOn : Running Bool := do
  let s ← get
  match s.stop with
  | none => return true
  | some (.leaving n) =>
    set { s with stop := if n ≤ 1 then none else some (.leaving (n - 1)) }
    return false
  | some (.restarting n) =>
    set { s with stop := if n ≤ 1 then none else some (.restarting (n - 1)) }
    return n ≤ 1
  | some _ => return false

-- Run a body as long as a condition asks for it. `status` is that of the last run.
def runLoop (condition : Running Bool) (body : Running Unit) (status : Nat) : Nat → Running Unit
  | 0 => modify fail
  | limit + 1 => do
    if ← condition then
      body
      let status := (← get).status
      if ← loopGoesOn then runLoop condition body status limit
    else if (← get).stop.isNone then modify (·.withStatus status)

def runEach (name : String) (body : Running Unit) : List String → Running Unit
  | [] => return
  | value :: rest => do
    modify (·.assign name value)
    body
    if ← loopGoesOn then runEach name body rest

def matchesAny (h : Helpers) (text : String) : List Word → Running Bool
  | [] => return false
  | word :: rest => do
    let pattern := Pattern.ofChars (Item.marked (← expandWord h word))
    if pattern.isMatch text.toList then return true else matchesAny h text rest

def runSelect (h : Helpers) (text : String) : List (List Word × Script) → Running Unit
  | [] => modify (·.withStatus 0)
  | (patterns, body) :: rest => do
    if ← matchesAny h text patterns then
      modify (·.withStatus 0)
      h.script body
    else runSelect h text rest

def runCommand (h : Helpers) : Command → Running Unit
  | .simple line words => runSimple h line words []
  | .redirected (.simple line words) redirects => runSimple h line words redirects
  | .redirected command redirects =>
    discard (redirecting h redirects (h.script (scriptOf command)))
  | .group body => h.script body
  | .subshell body => within (h.script body)
  | .function name body => modify fun s =>
    { s with functions := s.functions.insert name body, status := 0 }
  | .choice condition body otherwise => do
    looking (h.script condition)
    let s ← get
    if s.stop.isSome then return
    else if s.status = 0 then h.script body
    else
      set (s.withStatus 0)
      h.script otherwise
  | .loop untilSuccess condition body =>
    let holds : Running Bool := do
      looking (h.script condition)
      let s ← get
      return s.stop.isNone && (s.status == 0) != untilSuccess
    runLoop holds (h.script body) 0 loopLimit
  | .each name words body => do
    let values ←
      match words with
      | some words => words.flatMapM (expandFields h)
      | none => pure (← get).arguments
    modify (·.withStatus 0)
    runEach name (h.script body) values
  | .select subject branches => do
    runSelect h (← expandText h subject) branches

def runStages (h : Helpers) : List Command → Running Unit
  | [] => return
  | [command] => within (runCommand h command)
  | command :: rest => do
    let bytes ← capture (runCommand h command)
    let before := (← get).input
    modify fun s => { s with input := bytes }
    runStages h rest
    modify fun s => { s with input := before }

def runPipeline (h : Helpers) (p : Pipeline Command) : Running Unit := do
  match p.stages with
  | [command] => runCommand h command
  | stages => runStages h stages
  if p.negated then modify fun s => s.withStatus (if s.status = 0 then 1 else 0)

def passesOver (status : Nat) : Connector → Bool
  | .always => false
  | .ifSuccess => status != 0
  | .ifFailure => status == 0

-- Run the actions for signals that have come. The status remains the same.
def runDue (h : Helpers) : Running Unit := do
  let s ← get
  if s.due.isEmpty || s.stop.isSome then return
  set { s with due := [] }
  for action in s.due do
    runText h action
  modify fun after => if after.stop.isSome then after else after.withStatus s.status

def runScript (h : Helpers) : Script → Running Unit
  | [] => return
  | p :: rest => do
    let s ← get
    if s.stop.isSome || !s.runs then return
    if passesOver s.status p.connector then runScript h rest
    else
      -- The failure of a command is looked at by what waits for it.
      let waitedFor := p.negated || rest.head?.any (·.connector != .always)
      if p.background then
        within (runPipeline h p)
        modify fun s => { s with backgroundStatus := some s.status, status := 0 }
      else if waitedFor then looking (runPipeline h p)
      else runPipeline h p
      runDue h
      let s ← get
      if s.endsOnFailure && !s.looksAtFailure && !waitedFor && s.status != 0 && s.stop.isNone then
        set (s.finish (.exited s.status))
      runScript h rest

def helpers (programs : String → Option Program) : Nat → Helpers
  | 0 => { programs, script := fun _ => modify fail, word := fun _ => return [] }
  | depth + 1 =>
    let inner := helpers programs depth
    { programs, script := runScript inner, word := expandWord inner }

def nestingLimit : Nat := 400

end Session

-- Run the text of a script, and what it wants to be run at its end. One that cannot be read ends
-- with status 2.
def Session.completion (s : Session) (programs : String → Option Program) (text : String) :
    Completion :=
  let h := Session.helpers programs Session.nestingLimit
  let ((), s) := (if s.stop.isSome then pure () else Session.runText h text).run s
  let ending :=
    match s.stop with
    | some (.ended ending) => ending
    | _ => .exited s.status
  let isKilled :=
    match ending with
    | .killed _ => true
    | .exited _ => false
  let s :=
    match s.actions.get? "EXIT" with
    | none => s
    | some action =>
      if isKilled then s
      else ((Session.runText h action).run { s with stop := none, actions := .empty }).2
  let ending :=
    match s.stop with
    | some (.ended ending) => ending
    | _ => ending
  { written := s.written.toList.filterMap fun (target, bytes) =>
      match target with
      | .channel channel => some (channel, bytes)
      | _ => none
    ending
    files := some s.files
    readsInput := s.input.isEmpty }

-- The options of a shell before its other arguments, and whether a script is an argument.
def readShellOptions (s : Session) (isArgument : Bool) :
    List String → Session × Bool × List String
  | "--" :: rest | "-" :: rest => (s, isArgument, rest)
  | "-o" :: name :: rest => readShellOptions (s.setNamedOption true name) isArgument rest
  | "+o" :: name :: rest => readShellOptions (s.setNamedOption false name) isArgument rest
  | argument :: rest =>
    match argument.toList with
    | '-' :: letters =>
      let own := letters.filter fun c => c != 'c' && c != 'l'
      readShellOptions (own.foldl (Session.setOption true) s) (isArgument || letters.contains 'c')
        rest
    | '+' :: letters => readShellOptions (letters.foldl (Session.setOption false) s) isArgument rest
    | _ => (s, isArgument, argument :: rest)
  | [] => (s, isArgument, [])

-- The shell as a program: it runs its argument behind `-c`, or a file, or else its input.
def program (programs : String → Option Program) (extended : Bool) : Program := fun i =>
  let start := { Session.start i i.name [] extended with line := 0 }
  match readShellOptions start false i.arguments with
  | (s, isArgument, arguments) =>
    if s.stop.isSome then s.completion programs ""
    else
      match isArgument, arguments with
      | true, [] => (s.failWith "-c requires an argument").completion programs ""
      | true, text :: rest =>
        { s with name := rest.headD i.name, arguments := rest.drop 1 }.completion programs text
      | false, path :: arguments =>
        match i.files.readBytes path with
        | .ok bytes => { s with name := path, arguments }.completion programs bytes.units
        | .error fault =>
          (s.failWith s!"cannot open {path}: {fault.reason}").completion programs ""
      | false, [] => { s with input := [] }.completion programs (Bytes.units i.input)

end EnvProvision.Shell
