import EnvProvision.CommandLine.ValuePattern
import EnvProvision.Text.Split

namespace EnvProvision.CommandLine

inductive Level where
  | error
  | warn
  | info
  | debug
  | trace
  deriving Repr, DecidableEq

namespace Level

def detail : Level → Nat
  | error => 1
  | warn => 2
  | info => 3
  | debug => 4
  | trace => 5

def name : Level → String
  | error => "ERROR"
  | warn => "WARN"
  | info => "INFO"
  | debug => "DEBUG"
  | trace => "TRACE"

end Level

abbrev Detail := Nat

namespace Detail

def full : Detail := Level.trace.detail

-- A detail is given by the name of a level, in letters of either case, or as a number, be it with a
-- plus sign.
def ofText? (text : List Char) : Option Detail :=
  let digits := if text.head? == some '+' then text.drop 1 else text
  if !digits.isEmpty && digits.all Char.isDigit then
    let n := digits.foldl (fun n c => 10 * n + (c.toNat - '0'.toNat)) 0
    if n ≤ full then some n else none
  else
    match String.ofList (text.map Char.toLower) with
    | "off" => some 0
    | "error" => some Level.error.detail
    | "warn" => some Level.warn.detail
    | "info" => some Level.info.detail
    | "debug" => some Level.debug.detail
    | "trace" => some Level.trace.detail
    | _ => none

end Detail

inductive FilterFault where
  | malformed
  | splitsCharacter
  deriving Repr, DecidableEq

-- How much detail is wanted of certain entries. Of the directives that an entry meets the most
-- specific one decides, and an entry that meets none is left out.
structure Directive where
  source : Option String := none
  fields : List String := []
  detail : Detail
  deriving Repr, DecidableEq

namespace Directive

-- Whether a directive can start with a character: a letter, a digit, or one of a few marks.
def startsDirective (c : Char) : Bool :=
  "-:_[".toList.contains c || Text.isAlphanumeric c

-- How far a directive has been read. Its parts are told by the places where they begin.
inductive Stage where
  | start
  | name
  | span (start : Nat)
  | field (start : Nat)
  | fields
  | bracketed
  | detail (start : Nat)
  deriving Repr, DecidableEq

structure Draft where
  source : Option String := none
  fields : List String := []
  -- It asks for a span, or for the value of a field. No entry has the one or is told by the other.
  isUnmet : Bool := false
  deriving Repr, DecidableEq

namespace Draft

def addField (draft : Draft) (field : List Char) : Except FilterFault Draft :=
  if field.isEmpty then .error .malformed
  else
    match field.splitOn '=' with
    | name :: value :: _ =>
      if ValuePattern.isValue value then
        .ok { draft with fields := draft.fields ++ [String.ofList name], isUnmet := true }
      else .error .malformed
    | _ => .ok { draft with fields := draft.fields ++ [String.ofList field] }

def directive? (draft : Draft) (detail : Detail) : Option Directive :=
  if draft.isUnmet then none
  else some { source := draft.source, fields := draft.fields, detail }

end Draft

def slice (text : List Char) (start stop : Nat) : Except FilterFault (List Char) :=
  match Text.splitAtByte? stop text with
  | none => .error .splitsCharacter
  | some (before, _) =>
    match Text.splitAtByte? start before with
    | none => .error .splitsCharacter
    | some (_, part) => .ok part

def step (text : List Char) (draft : Draft) (stage : Stage) (place : Nat) (c : Char) :
    Except FilterFault (Draft × Stage) := do
  match stage, c with
  | .start, '[' => return (draft, .span (place + 1))
  | .start, _ => if startsDirective c then return (draft, .name) else throw .malformed
  | .name, '=' =>
    let source := String.ofList (← slice text 0 place)
    return ({ draft with source := some source }, .detail (place + 1))
  | .name, '[' =>
    let source := String.ofList (← slice text 0 place)
    return ({ draft with source := some source }, .span (place + 1))
  | .span start, ']' =>
    let _ ← slice text start place
    return ({ draft with isUnmet := true }, .bracketed)
  | .span start, '\x7b' =>
    let span ← slice text start place
    return ({ draft with isUnmet := !span.isEmpty }, .field (place + 1))
  | .field start, '\x7d' => return (← draft.addField (← slice text start place), .fields)
  | .fields, ']' => return (draft, .bracketed)
  | .bracketed, '=' => return (draft, .detail (place + 1))
  | .fields, _ | .bracketed, _ => throw .malformed
  | _, _ => return (draft, stage)

def readFrom (text : List Char) (draft : Draft) (stage : Stage) (place : Nat) :
    List Char → Except FilterFault (Draft × Stage)
  | [] => .ok (draft, stage)
  | c :: rest => do
    let (draft, stage) ← step text draft stage place c
    readFrom text draft stage (place + c.utf8Size) rest

-- Read the end of a directive. A name alone is a detail or else a source; a detail may be left out.
def finish (text : List Char) (draft : Draft) : Stage → Except FilterFault (Option Directive)
  | .name =>
    match Detail.ofText? text with
    | some detail => .ok (draft.directive? detail)
    | none => .ok ({ draft with source := some (String.ofList text) }.directive? .full)
  | .bracketed => .ok (draft.directive? .full)
  | .detail start =>
    match Text.splitAtByte? start text with
    | none => .error .splitsCharacter
    | some (_, []) => .ok (draft.directive? .full)
    | some (_, detail) =>
      match Detail.ofText? detail with
      | some detail => .ok (draft.directive? detail)
      | none => .error .malformed
  | .start | .span _ | .field _ | .fields => .error .malformed

-- Read a directive. One that says nothing is read all the same. Places are counted from the first
-- character that is no blank, but parts are cut out of the text with its blanks, so blanks in front
-- shift what is read.
def ofText (text : List Char) : Except FilterFault (Option Directive) := do
  let (draft, stage) ← readFrom text {} .start 0 (Text.trim text)
  finish text draft stage

def covers (d : Directive) (source : String) (fields : List String) : Bool :=
  (d.source.all fun start => start.toList.isPrefixOf source.toList) && d.fields.all fields.contains

-- Whether a directive is less specific than another: first a longer source counts, then more
-- fields, then their order.
def isLessSpecific (d e : Directive) : Bool :=
  let length (d : Directive) := (d.source.map (·.utf8ByteSize + 1)).getD 0
  if length d = length e then
    if d.fields.length = e.fields.length then decide (d.fields < e.fields)
    else d.fields.length < e.fields.length
  else length d < length e

end Directive

abbrev Filter := List Directive

namespace Filter

def default : Filter :=
  [{ detail := Level.warn.detail }]

-- The directives of a text, which stand between commas. A text without any asks for errors.
def ofText (text : String) : Except FilterFault Filter := do
  let pieces := (text.toList.splitOn ',').filter fun piece => !piece.isEmpty
  if pieces.isEmpty then return [{ detail := Level.error.detail }]
  return (← pieces.mapM Directive.ofText).filterMap id

-- The directive that decides on an entry. Of two equal ones the later counts.
def decisive? (filter : Filter) (source : String) (fields : List String) : Option Directive :=
  filter.foldl (fun best d =>
    if !d.covers source fields then best
    else
      match best with
      | none => some d
      | some b => if d.isLessSpecific b then some b else some d) none

def admits (filter : Filter) (source : String) (fields : List String) (level : Level) : Bool :=
  (filter.decisive? source fields).any fun d => level.detail ≤ d.detail

end Filter

end EnvProvision.CommandLine
