import EnvProvision.Program.Columns
import EnvProvision.Program.Digest
import EnvProvision.Program.Directory
import EnvProvision.Program.Editing
import EnvProvision.Program.Encoding

namespace EnvProvision.Program

def currentDirectory : Program := fun i =>
  match i.files.workingPath? with
  | some directory => .printing (directory ++ "\n")
  | none => .failure 1

-- Print the values of the named variables; it fails if one of them is not set. Without names it
-- prints all variables.
def printenv : Program :=
  withOptions { flags := "0", names := [("null", '0')] } 2 fun given i =>
    let ending := if given.has '0' then "\x00" else "\n"
    if given.operands.isEmpty then
      .printing (String.join (i.env.map fun (name, value) => name ++ "=" ++ value ++ ending))
    else
      let values := given.operands.map i.value?
      .writing (.ofUnits (String.join (values.filterMap fun value? => value?.map (· ++ ending))))
        (if values.all Option.isSome then 0 else 1)

-- How many lines of an endless output are made. What reads it stops far earlier.
def endlessLines : Nat := 20000

def yes : Program := fun i =>
  let words := if i.arguments.isEmpty then ["y"] else i.arguments
  .writing (List.replicate endlessLines (Bytes.ofUnits (" ".intercalate words ++ "\n"))).flatten 0

-- Take a factor out of a number as often as it is in it. The next factor to try comes first.
def factorsFrom : Nat → Nat → Nat → List Nat
  | 0, _, n => [n]
  | fuel + 1, factor, n =>
    if n < 2 then []
    else if n < factor * factor then [n]
    else if n % factor = 0 then factor :: factorsFrom fuel factor (n / factor)
    else factorsFrom fuel (if factor = 2 then 3 else factor + 2) n

def factor : Program := fun i =>
  let texts := if i.arguments.isEmpty then lineFields none (textOf i.input) else i.arguments
  let lines := texts.filterMap fun text => text.toNat?.map fun n =>
    " ".intercalate ((toString n ++ ":") :: (factorsFrom 1000000 2 n).map toString) ++ "\n"
  .writing (.ofUnits (String.join lines)) (if lines.length = texts.length then 0 else 1)

def sleep : Program := fun i =>
  let isTime (text : String) : Bool :=
    let cs := text.toList
    let cs := if cs.getLast?.any "smhd".toList.contains then cs.dropLast else cs
    (decimalArgument? (String.ofList cs)).isSome
  if !i.arguments.isEmpty && i.arguments.all isTime then .success else .failure 1

def userName : String := "root"

def userFacts : Program :=
  withOptions { flags := "ugnr", names := [("user", 'u'), ("group", 'g'), ("name", 'n')] } 1
    fun given _ =>
      if !given.has 'u' && !given.has 'g' then
        .printing s!"uid=0({userName}) gid=0({userName}) groups=0({userName})\n"
      else .printing (if given.has 'n' then userName ++ "\n" else "0\n")

def simplePrograms : List (String × Program) :=
  [("true", fun _ => .success), ("false", fun _ => .failure 1), ("echo", echo),
    ("printf", printf), ("test", test), ("[", bracket), ("pwd", currentDirectory),
    ("printenv", printenv), ("cat", cat), ("head", head), ("tail", tail), ("wc", wc), ("tac", tac),
    ("rev", rev), ("tee", tee), ("sort", sort), ("uniq", uniq), ("cut", cut), ("tr", tr),
    ("grep", grep), ("egrep", fun i => grep { i with arguments := "-E" :: i.arguments }),
    ("fgrep", fun i => grep { i with arguments := "-F" :: i.arguments }), ("sed", sed),
    ("paste", paste), ("nl", nl), ("fold", fold), ("expand", expand), ("comm", comm),
    ("cmp", cmp), ("diff", diff), ("base64", digitProgram .base64),
    ("base32", digitProgram .base32), ("od", od), ("md5sum", digestProgram Digest.md5),
    ("sha1sum", digestProgram Digest.sha1), ("sha256sum", digestProgram Digest.sha256),
    ("cksum", cksum), ("sum", sum), ("basename", basename), ("dirname", dirname),
    ("realpath", realpath), ("readlink", readlink), ("seq", seq), ("expr", expr),
    ("factor", factor), ("ls", ls), ("find", find), ("stat", stat), ("which", which),
    ("mkdir", mkdir), ("touch", touch), ("truncate", truncate), ("rm", rm), ("rmdir", rmdir),
    ("cp", cp), ("mv", mv), ("chmod", chmod), ("yes", yes), ("sleep", sleep),
    ("sync", fun _ => .success), ("tty", fun _ => .writing (.ofUnits "not a tty\n") 1),
    ("uname", fun _ => .printing "Linux\n"), ("whoami", fun _ => .printing (userName ++ "\n")),
    ("id", userFacts)]

end EnvProvision.Program
