import EnvProvision.Yaml.Node.Basic
import EnvProvision.Yaml.Token.Lexer

namespace EnvProvision.Yaml

namespace Node

abbrev Handles := List (String × Tag)

def coreHandles : Handles :=
  [("!", .mark), ("!!", .core "")]

-- The tag that a handle and the rest of a tag make up. An unknown handle is an error.
def resolveTag (handles : Handles) (handle : String) (tag : Tag) : Option Tag :=
  if handle = "" then some tag else (handles.lookup handle).map (·.append tag)

-- What stands before the content of a node.
structure Properties where
  anchor : Option String := none
  tag : Option Tag := none

def properties (handles : Handles) : List Token → Option (Properties × List Token)
  | .anchor name :: .tag handle tag :: rest
  | .tag handle tag :: .anchor name :: rest => do
    return ({ anchor := some name, tag := ← resolveTag handles handle tag }, rest)
  | .anchor name :: rest => some ({ anchor := some name }, rest)
  | .tag handle tag :: rest => do return ({ tag := ← resolveTag handles handle tag }, rest)
  | tokens => some ({}, tokens)

theorem length_properties_le {handles : Handles} {tokens rest : List Token} {p : Properties}
    (h : properties handles tokens = some (p, rest)) : rest.length ≤ tokens.length := by
  unfold properties at h
  split at h <;>
    simp only [bind, Option.bind_eq_some_iff, pure, Option.some.injEq, Prod.mk.injEq] at h <;>
    grind

-- Whether a block collection goes on with its own tokens, so that no node is written here.
def endsEntry : Option Token → Bool
  | some .key | some .value | some .blockEnd => true
  | _ => false

def endsItem : Option Token → Bool
  | some .item | some .blockEnd => true
  | _ => false

def endsFlow (close : Token) : Option Token → Bool
  | some .comma => true
  | some token => token = close
  | none => false

-- The kinds of content that a node may have beside scalars and flow collections.
structure Allowed where
  block : Bool
  -- Whether the items of a sequence may stand here without an indentation of their own.
  bareItems : Bool

namespace Allowed

def inFlow : Allowed := ⟨false, false⟩

def inSequence : Allowed := ⟨true, false⟩

def inMapping : Allowed := ⟨true, true⟩

end Allowed

def readBlank (p : Properties) (tokens : List Token) : Option (Node String × List Token) :=
  if p.anchor.isSome || p.tag.isSome then some (.scalar p.anchor p.tag true "", tokens) else none

mutual

def read (handles : Handles) (allowed : Allowed) (tokens : List Token) :
    Option (Node String × List Token) :=
  match tokens.head? with
  | some (.alias name) => some (.alias name, tokens.drop 1)
  | _ =>
    match h : properties handles tokens with
    | none => none
    | some (p, rest) =>
      have := length_properties_le h
      readContent handles allowed p rest
termination_by 4 * tokens.length + 2

def readContent (handles : Handles) (allowed : Allowed) (p : Properties) (tokens : List Token) :
    Option (Node String × List Token) := do
  match tokens with
  | .item :: rest =>
    if allowed.bareItems then
      let (items, rest) ← readBareItems handles (.item :: rest)
      return (.sequence p.anchor p.tag items, rest)
    else readBlank p tokens
  | .scalar text plain :: rest => return (.scalar p.anchor p.tag plain text, rest)
  | .flowSequenceStart :: rest =>
    let (items, rest) ← readFlowItems handles rest
    return (.sequence p.anchor p.tag items, rest)
  | .flowMappingStart :: rest =>
    let (entries, rest) ← readFlowEntries handles rest
    return (.mapping p.anchor p.tag entries, rest)
  | .sequenceStart :: rest =>
    if allowed.block then
      let (items, rest) ← readItems handles rest
      return (.sequence p.anchor p.tag items, rest)
    else readBlank p tokens
  | .mappingStart :: rest =>
    if allowed.block then
      let (entries, rest) ← readEntries handles rest
      return (.mapping p.anchor p.tag entries, rest)
    else readBlank p tokens
  | _ => readBlank p tokens
termination_by 4 * tokens.length + 1

def readItems (handles : Handles) (tokens : List Token) :
    Option (List (Node String) × List Token) := do
  match tokens with
  | .blockEnd :: rest => return ([], rest)
  | .item :: rest =>
    let (item, rest') ←
      if endsItem rest.head? then some (blank, rest) else read handles .inSequence rest
    if rest'.length ≤ rest.length then
      let (items, left) ← readItems handles rest'
      return (item :: items, left)
    else none
  | _ => none
termination_by 4 * tokens.length + 0

def readBareItems (handles : Handles) (tokens : List Token) :
    Option (List (Node String) × List Token) := do
  match tokens with
  | .item :: rest =>
    let (item, rest') ←
      if endsItem rest.head? || endsEntry rest.head? then some (blank, rest)
      else read handles .inSequence rest
    if rest'.length ≤ rest.length then
      let (items, left) ← readBareItems handles rest'
      return (item :: items, left)
    else none
  | _ => return ([], tokens)
termination_by 4 * tokens.length + 0

-- The entries of a block mapping to its end. Behind a key mark the key and the value may both be
-- missing.
def readEntries (handles : Handles) (tokens : List Token) :
    Option (List (Node String × Node String) × List Token) := do
  match tokens with
  | .blockEnd :: rest => return ([], rest)
  | .key :: rest =>
    let (key, rest') ←
      if endsEntry rest.head? then some (blank, rest) else read handles .inMapping rest
    if rest'.length ≤ rest.length then
      let (value, left) ← readValue handles rest'
      if left.length ≤ rest'.length then
        let (entries, left) ← readEntries handles left
        return ((key, value) :: entries, left)
      else none
    else none
  | _ => none
termination_by 4 * tokens.length + 1

def readValue (handles : Handles) (tokens : List Token) : Option (Node String × List Token) :=
  match tokens with
  | .value :: rest =>
    if endsEntry rest.head? then some (blank, rest) else read handles .inMapping rest
  | _ => some (blank, tokens)
termination_by 4 * tokens.length + 0

-- The items of a flow sequence to its end, from the start of an item. An entry of a mapping may
-- stand as an item, and makes a mapping of its own.
def readFlowItems (handles : Handles) (tokens : List Token) :
    Option (List (Node String) × List Token) := do
  match tokens with
  | .flowSequenceEnd :: rest => return ([], rest)
  | .key :: rest =>
    let (item, left) ← readFlowPair handles rest
    if left.length ≤ rest.length then
      let (items, left) ← readMoreFlowItems handles left
      return (item :: items, left)
    else none
  | first :: rest =>
    let (item, left) ← read handles .inFlow (first :: rest)
    if left.length ≤ rest.length then
      let (items, left) ← readMoreFlowItems handles left
      return (item :: items, left)
    else none
  | [] => none
termination_by 4 * tokens.length + 3

def readMoreFlowItems (handles : Handles) (tokens : List Token) :
    Option (List (Node String) × List Token) := do
  match tokens with
  | .flowSequenceEnd :: rest => return ([], rest)
  | .comma :: rest => readFlowItems handles rest
  | _ => none
termination_by 4 * tokens.length

-- The entry of a flow sequence from behind its key mark. If the key is missing, the token that
-- stands in its place is passed over.
def readFlowPair (handles : Handles) (tokens : List Token) :
    Option (Node String × List Token) := do
  let (key, rest) ←
    if tokens.head? = some .value || endsFlow .flowSequenceEnd tokens.head? then
      some (blank, tokens.drop 1)
    else read handles .inFlow tokens
  if rest.length ≤ tokens.length then
    let (value, left) ← readFlowValue handles .flowSequenceEnd rest
    return (.mapping none none [(key, value)], left)
  else none
termination_by 4 * tokens.length + 3

def readFlowValue (handles : Handles) (close : Token) (tokens : List Token) :
    Option (Node String × List Token) :=
  match tokens with
  | .value :: rest =>
    if endsFlow close rest.head? then some (blank, rest) else read handles .inFlow rest
  | _ => some (blank, tokens)
termination_by 4 * tokens.length + 0

-- The entries of a flow mapping to its end, from the start of an entry. A node without a key mark
-- is a key without a value.
def readFlowEntries (handles : Handles) (tokens : List Token) :
    Option (List (Node String × Node String) × List Token) := do
  match tokens with
  | .flowMappingEnd :: rest => return ([], rest)
  | .key :: rest =>
    let (key, rest') ←
      if rest.head? = some .value || endsFlow .flowMappingEnd rest.head? then some (blank, rest)
      else read handles .inFlow rest
    if rest'.length ≤ rest.length then
      let (value, left) ← readFlowValue handles .flowMappingEnd rest'
      if left.length ≤ rest'.length then
        let (entries, left) ← readMoreFlowEntries handles left
        return ((key, value) :: entries, left)
      else none
    else none
  | first :: rest =>
    let (key, left) ← read handles .inFlow (first :: rest)
    if left.length ≤ rest.length then
      let (entries, left) ← readMoreFlowEntries handles left
      return ((key, blank) :: entries, left)
    else none
  | [] => none
termination_by 4 * tokens.length + 3

def readMoreFlowEntries (handles : Handles) (tokens : List Token) :
    Option (List (Node String × Node String) × List Token) := do
  match tokens with
  | .flowMappingEnd :: rest => return ([], rest)
  | .comma :: rest => readFlowEntries handles rest
  | _ => none
termination_by 4 * tokens.length

end

-- The directives before a document: at most one version, which must be 1.1 or 1.2, and handles,
-- each given once.
def readDirectives (version : Bool) (handles : Handles) :
    List Token → Option (Handles × List Token)
  | .version major minor :: rest =>
    if version || major != 1 || (minor != 1 && minor != 2) then none
    else readDirectives true handles rest
  | .handle name stem :: rest =>
    if (handles.lookup name).isSome then none
    else readDirectives version ((name, stem) :: handles) rest
  | tokens => some (handles, tokens)

def readMarked (handles : Handles) (tokens : List Token) : Option (Node String × List Token) :=
  match tokens with
  | [] | .version .. :: _ | .handle .. :: _ | .documentStart :: _ | .documentEnd :: _ =>
    some (blank, tokens)
  | _ => read handles .inSequence tokens

def ofTokens? (tokens : List Token) : Option (Option (Node String)) := do
  match tokens with
  | [] => return none
  | _ =>
    let (handles, rest) ← readDirectives false [] tokens
    let handles := handles ++ coreHandles
    let (node, rest) ←
      match rest with
      | .documentStart :: rest => readMarked handles rest
      | _ => if rest.length < tokens.length then none else read handles .inSequence rest
    if rest.all (· = .documentEnd) then return some node else none

end Node

end EnvProvision.Yaml
