import EnvProvision.Program.Naming
import EnvProvision.Program.Search
import EnvProvision.Shell.Script
import EnvProvision.Table

namespace EnvProvision.Shell

inductive Target where
  | channel (channel : Channel)
  | pipe
  | file (path : String)
  | nowhere
  deriving Repr, DecidableEq

-- What keeps the commands that are left from being run.
inductive Stop where
  | ended (ending : Ending)
  | leaving (loops : Nat)
  | restarting (loops : Nat)
  | returning
  deriving Repr, DecidableEq

structure Session where
  env : Table String String
  exported : List String
  functions : Table String Command := .empty
  files : Files
  name : String
  arguments : List String
  status : Nat := 0
  input : Bytes := []
  inputs : List (Nat × Bytes) := []
  targets : List (Nat × Target) := [(1, .channel .output), (2, .channel .errors)]
  written : Array (Target × Bytes) := #[]
  stop : Option Stop := none
  -- The status of the last script whose output was put in, within the command that is run.
  outputStatus : Option Nat := none
  hidden : List (String × Option String) := []
  -- Whether the first command that fails ends the script, unless its failure is looked at.
  endsOnFailure : Bool := false
  looksAtFailure : Bool := false
  needsValues : Bool := false
  expandsNames : Bool := true
  exportsAll : Bool := false
  runs : Bool := true
  keepsFiles : Bool := false
  frozen : List String := []
  actions : Table String String := .empty
  due : List String := []
  backgroundStatus : Option Nat := none
  optionPlace : Nat := 0
  mask : String := "0022"
  line : Nat := 1
  extended : Bool := false

abbrev Running := StateM Session

namespace Session

def processNumber : String := "100"

def parentNumber : String := "99"

def backgroundNumber : String := "101"

def defaultSeparators : String := " \t\n"

def separators (s : Session) : List Char :=
  ((s.env.get? "IFS").getD defaultSeparators).toList

def joint (s : Session) : String :=
  String.ofList (s.separators.take 1)

def value? (s : Session) (name : String) : Option String :=
  match name with
  | "?" => some (toString s.status)
  | "#" => some (toString s.arguments.length)
  | "$" => some processNumber
  | "@" | "*" => if s.arguments.isEmpty then none else some (s.joint.intercalate s.arguments)
  | "-" => some ((if s.endsOnFailure then "e" else "") ++ (if s.expandsNames then "" else "f") ++
      (if s.exportsAll then "a" else "") ++ (if s.needsValues then "u" else ""))
  | "!" => s.backgroundStatus.map fun _ => backgroundNumber
  | "0" => some s.name
  | _ =>
    match name.toNat? with
    | some n => s.arguments[n - 1]?
    | none => s.env.get? name

def listingPlace (name : String) : Nat :=
  let bytes := (Bytes.ofUnits name).map UInt8.toNat
  (16 * bytes.headD 0 + bytes.foldl (· + ·) 0) % 39

def visible (s : Session) : List (String × String) :=
  let shown := s.env.entries.filter fun (name, _) => s.exported.contains name
  shown.mergeSort fun a b => listingPlace a.1 ≤ listingPlace b.1

def invocation (s : Session) (name : String) (arguments : List String) : Invocation :=
  { name, arguments, env := s.visible, files := s.files, input := s.input }

def write (s : Session) (descriptor : Nat) (bytes : Bytes) : Session :=
  match s.targets.lookup descriptor with
  | none | some .nowhere => s
  | some (.file path) =>
    let before := ((s.files.readBytes path).toOption).getD []
    { s with files := ((s.files.write path (before ++ bytes)).toOption).getD s.files }
  | some target => { s with written := s.written.push (target, bytes) }

def print (s : Session) (text : String) : Session :=
  s.write 1 (.ofUnits text)

def withStatus (s : Session) (status : Nat) : Session :=
  { s with status }

def statusOf : Ending → Nat
  | .exited code => code
  | .killed signal => 128 + signal

-- Take over what a program leaves. The working directory remains the own one.
def complete (s : Session) (completion : Completion) : Session :=
  let s := completion.written.foldl (fun s (channel, bytes) =>
    s.write (match channel with
      | .output => 1
      | .errors => 2) bytes) s
  let entries := (completion.files.getD s.files).entries
  { s with
    files := { s.files with entries }
    status := statusOf completion.ending
    input := if completion.readsInput then [] else s.input }

def finish (s : Session) (ending : Ending) : Session :=
  { s with stop := some (.ended ending), status := statusOf ending }

def fail (s : Session) : Session :=
  s.finish (.exited 2)

-- Report something that is wrong, with the name of the script and the number of the line.
def complain (s : Session) (message : String) : Session :=
  s.write 2 (.ofUnits s!"{s.name}: {s.line}: {message}\n")

def failWith (s : Session) (message : String) : Session :=
  (s.complain message).fail

def markExported (s : Session) (name : String) : Session :=
  if s.exported.contains name then s else { s with exported := s.exported ++ [name] }

def assign (s : Session) (name value : String) : Session :=
  if s.frozen.contains name then s.failWith s!"{name}: is read only"
  else
    let s := { s with env := s.env.insert name value }
    if s.exportsAll then s.markExported name else s

def unset (s : Session) (name : String) : Session :=
  if s.frozen.contains name then s.failWith s!"unset: {name}: is read only"
  else { s with
    env := s.env.erase name, exported := s.exported.filter (· != name)
    functions := s.functions.erase name }

def finalStatus (s : Session) : Nat :=
  match s.stop with
  | some (.ended ending) => statusOf ending
  | _ => s.status

-- Take over what a shell within this one leaves. `piped` is where its pipe led to.
def afterInner (s inner : Session) : Session :=
  { s with
    written := s.written ++ inner.written.filter fun (target, _) => target != .pipe
    files := { s.files with entries := inner.files.entries }
    input := inner.input
    inputs := inner.inputs
    status := inner.finalStatus
    -- A signal that ends this shell may come from the inner one.
    stop := match inner.stop with
      | some (.ended (.killed signal)) => some (.ended (.killed signal))
      | _ => s.stop }

def within (action : Running Unit) : Running Unit := do
  let s ← get
  let ((), inner) := action.run { s with written := #[] }
  let piped := inner.written.filter fun (target, _) => target == .pipe
  let s := s.afterInner inner
  set { s with written := s.written ++ piped }

def capture (action : Running Unit) : Running Bytes := do
  let s ← get
  let targets := (1, .pipe) :: s.targets.filter (·.1 != 1)
  let ((), inner) := action.run { s with written := #[], targets }
  let piped := inner.written.filter fun (target, _) => target == .pipe
  set (s.afterInner inner)
  return piped.toList.flatMap (·.2)

def start (i : Invocation) (name : String) (arguments : List String) (extended : Bool) : Session :=
  let own := [("IFS", defaultSeparators), ("OPTIND", "1"), ("PPID", parentNumber), ("PS1", "# "),
    ("PS2", "> "), ("PS4", "+ ")]
  let known := i.env.filter fun (name, _) => isName name
  let given := known.filter fun (name, _) => name != "IFS"
  let directory := i.files.workingPath?.getD ""
  { env := .ofList (own ++ given ++ [("PWD", directory)])
    exported := known.map Prod.fst ++ (if (known.lookup "PWD").isNone then ["PWD"] else [])
    files := i.files, input := i.input, name, arguments, extended }

end Session

end EnvProvision.Shell
