import EnvProvision.Shell.Arithmetic
import EnvProvision.Shell.Pattern
import EnvProvision.Shell.Session

namespace EnvProvision.Shell

-- A character of an expanded word, or what lies between characters.
inductive Item where
  | char (c : Char) (quoted : Bool)
  | loose (c : Char)
  | quotes
  | border
  | gap
  deriving Repr, DecidableEq

-- What the shell can do beside reading words, one level of nesting further down.
structure Helpers where
  programs : String → Option Program
  script : Script → Running Unit
  word : Word → Running (List Item)

namespace Item

def ofText (quoted : Bool) (text : String) : List Item :=
  text.toList.map fun c => if quoted then .char c true else .loose c

def text (items : List Item) : String :=
  String.ofList (items.filterMap fun
    | .char c _ | .loose c => some c
    | .border | .gap => some ' '
    | .quotes => none)

def marked (items : List Item) : List MarkedChar :=
  items.filterMap fun
    | .char c quoted => some ⟨c, quoted⟩
    | .loose c => some ⟨c, false⟩
    | _ => none

inductive Cutting where
  | start
  | behindBlank
  | field (reversed : List MarkedChar)

def Cutting.reversed : Cutting → List MarkedChar
  | .field cs => cs
  | .start | .behindBlank => []

def Cutting.fields : Cutting → List (List MarkedChar)
  | .field cs => [cs.reverse]
  | .start | .behindBlank => []

-- Cut an expanded word at its separators. Blanks among them separate together, each other one
-- separates alone.
def cut (separators : List Char) (state : Cutting) : List Item → List (List MarkedChar)
  | [] => state.fields
  | .quotes :: rest => cut separators (.field state.reversed) rest
  | .char c quoted :: rest => cut separators (.field (⟨c, quoted⟩ :: state.reversed)) rest
  | .border :: rest => state.reversed.reverse :: cut separators (.field []) rest
  | .gap :: rest => state.fields ++ cut separators .start rest
  | .loose c :: rest =>
    if !separators.contains c then cut separators (.field (⟨c, false⟩ :: state.reversed)) rest
    else if c == ' ' || c == '\t' || c == '\n' then
      match state with
      | .field _ => state.fields ++ cut separators .behindBlank rest
      | .start | .behindBlank => cut separators state rest
    else
      match state with
      | .field _ => state.fields ++ cut separators .start rest
      | .start => [] :: cut separators .start rest
      | .behindBlank => cut separators .start rest

end Item

namespace Session

-- What is put in for a parameter. Outside of quotes, and in quotes for `@`, the arguments remain
-- apart.
def parameterItems (s : Session) (name : String) (quoted : Bool) : List Item :=
  let apart (between : Item) (argument : String) : List Item :=
    between :: .quotes :: Item.ofText quoted argument
  match name, quoted with
  | "@", true => (s.arguments.flatMap (apart .border)).drop 1
  | "@", false | "*", false =>
    (s.arguments.flatMap fun argument => .gap :: Item.ofText false argument).drop 1
  | _, _ => Item.ofText quoted ((s.value? name).getD "")

def putParameter (name : String) (quoted : Bool) : Running (List Item) := do
  let s ← get
  if s.needsValues && (s.value? name).isNone && name != "@" && name != "*" then
    set (s.failWith s!"{name}: parameter not set")
    return []
  else return s.parameterItems name quoted

-- The name of a parameter at the start of a text, and what is behind it.
def splitName (text : List Char) : List Char × List Char :=
  match text with
  | [] => ([], [])
  | c :: rest =>
    if isNameStart c then (text.takeWhile isNameChar, text.dropWhile isNameChar)
    else if c.isDigit then (text.takeWhile Char.isDigit, text.dropWhile Char.isDigit)
    else if isSpecialName c then ([c], rest)
    else ([], text)

def expandInner (h : Helpers) (quoted : Bool) (text : List Char) : Running (List Item) := do
  match Word.ofText? quoted text with
  | some word =>
    let items ← h.word word
    return items.map fun
      | .char c false => .loose c
      | item => item
  | none =>
    modify fail
    return []

-- Take away what a pattern stands for from one end of a text, as little or as much as it can.
def trimPattern (pattern : Pattern) (atStart longest : Bool) (text : String) : String :=
  let cs := text.toList
  let lengths := if atStart then pattern.startLengths cs else pattern.endLengths cs
  match if longest then lengths.getLast? else lengths.head? with
  | none => text
  | some n => String.ofList (if atStart then cs.drop n else cs.take (cs.length - n))

def expandTrimmed (h : Helpers) (name : String) (quoted atStart : Bool) (text : List Char) :
    Running (List Item) := do
  let (longest, text) :=
    match text with
    | '%' :: rest => if atStart then (false, text) else (true, rest)
    | '#' :: rest => if atStart then (true, rest) else (false, text)
    | _ => (false, text)
  match Word.ofText? false text with
  | some word =>
    let pattern := Pattern.ofChars (Item.marked (← h.word word))
    let s ← get
    return Item.ofText quoted (trimPattern pattern atStart longest ((s.value? name).getD ""))
  | none =>
    modify fail
    return []

def measured? (text : List Char) : Option String :=
  match text with
  | '#' :: rest =>
    match splitName rest with
    | (name@(_ :: _), []) => some (String.ofList name)
    | _ => none
  | _ => none

-- Put in what an operator makes of a parameter. Behind a colon an empty value counts as none.
def expandOperation (h : Helpers) (name : String) (behind : List Char) (quoted : Bool) :
    Running (List Item) := do
  let s ← get
  let value := s.value? name
  let (present, operation) :=
    match behind with
    | ':' :: rest => (value.any (· != ""), rest)
    | _ => (value.isSome, behind)
  match operation with
  | '-' :: word =>
    if present then return s.parameterItems name quoted else expandInner h quoted word
  | '+' :: word => if present then expandInner h quoted word else return []
  | '=' :: word =>
    if present then return s.parameterItems name quoted
    else
      let value := Item.text (← expandInner h quoted word)
      modify (·.assign name value)
      return Item.ofText quoted value
  | '?' :: word =>
    if present then return s.parameterItems name quoted
    else
      let message := Item.text (← expandInner h quoted word)
      let orNull := if behind.head? == some ':' then " or null" else ""
      let message := if message = "" then "parameter not set" ++ orNull else message
      modify (·.failWith s!"{name}: {message}")
      return []
  | '%' :: pattern => expandTrimmed h name quoted false pattern
  | '#' :: pattern => expandTrimmed h name quoted true pattern
  | _ =>
    modify (·.failWith "Bad substitution")
    return []

-- Put a parameter in braces in. What follows `#` alone is a parameter to be measured, even if it is
-- none.
def expandBraces (h : Helpers) (text : List Char) (quoted : Bool) : Running (List Item) := do
  match measured? text, splitName text with
  | none, (['#'], ['+']) | none, (['#'], ['=']) | none, (['#'], ['%']) =>
    modify (·.failWith "Bad substitution")
    return []
  | some name, _ =>
    return Item.ofText quoted (toString (((← get).value? name).getD "").length)
  | none, ([], _) =>
    modify (·.failWith "Bad substitution")
    return []
  | none, (name, []) => putParameter (String.ofList name) quoted
  | none, (name, behind) => expandOperation h (String.ofList name) behind quoted

-- The value of a number expression, in which parameters are put in before it is read.
def expandNumber (h : Helpers) (expression : List Char) (quoted : Bool) : Running (List Item) := do
  let text := Item.text (← expandInner h true expression)
  let s ← get
  match Arithmetic.evaluate? s.env.get? text.toList with
  | some (n, assigned) =>
    set (assigned.foldl (fun s (name, n) => s.assign name (toString n)) s)
    return Item.ofText quoted (toString n)
  | none =>
    set s.fail
    return []

def expandOutput (h : Helpers) (script : List Char) (quoted : Bool) : Running (List Item) := do
  match Script.ofText? script with
  | some script =>
    let bytes ← capture (h.script script)
    modify fun s => { s with outputStatus := some s.status }
    let text := (textOfBytes bytes).reverse.dropWhile (· == '\n') |>.reverse
    return Item.ofText quoted (String.ofList text)
  | none =>
    modify fail
    return []
where
  textOfBytes (bytes : Bytes) : List Char :=
    (Bytes.units (bytes.filter (· != 0))).toList

def expandPiece (h : Helpers) : Piece → Running (List Item)
  | .char c quoted => return [.char c quoted]
  | .quotes => return [.quotes]
  | .parameter name quoted => putParameter name quoted
  | .braces text quoted => expandBraces h text quoted
  | .output script quoted => expandOutput h script quoted
  | .number expression quoted => expandNumber h expression quoted

def expandTilde (s : Session) (word : Word) : Word :=
  let isHome (home : String) (mark : String) : Word :=
    home.toList.map (.char · true) ++ word.drop mark.length
  let mark := (word.takeWhile (· != .char '/' false)).map fun
    | .char c false => c
    | _ => ' '
  match String.ofList mark, s.env.get? "HOME" with
  | "~", some home => isHome home "~"
  | "~root", _ => isHome "/root" "~root"
  | _, _ => word

-- Expand a word. Quotes around no arguments at all make no field.
def expandWord (h : Helpers) (word : Word) : Running (List Item) := do
  let s ← get
  if word = [.quotes, .parameter "@" true] && s.arguments.isEmpty then return []
  else (s.expandTilde word).flatMapM (expandPiece h)

def expandText (h : Helpers) (word : Word) : Running String := do
  return Item.text (← expandWord h word)

-- The fields of a word. A pattern that stands for no file stands for itself.
def expandFields (h : Helpers) (word : Word) : Running (List String) := do
  let items ← expandWord h word
  let s ← get
  return (Item.cut s.separators .start items).flatMap fun field =>
    let names :=
      if s.expandsNames && Pattern.isPattern field then Pattern.expandPath s.files field else []
    if names.isEmpty then [String.ofList (field.map (·.char))] else names

-- The fields of an argument that may assign a variable: one that does is not cut.
def expandAssigning (h : Helpers) (word : Word) : Running (List String) := do
  match word.assignment? with
  | some (name, value) => return [name ++ "=" ++ (← expandText h value)]
  | none => expandFields h word

end Session

end EnvProvision.Shell
