import EnvProvision.Shell.Word

namespace EnvProvision.Shell

-- What a redirection does with a file, or with the descriptor that its word names.
inductive Direction where
  | input
  | output
  | overwrite
  | append
  | duplicate
  | document
  deriving Repr, DecidableEq

inductive Token where
  | word (word : Word) (line : Nat)
  | document (text : List Char) (expands : Bool)
  | newline
  | semicolon
  | doubleSemicolon
  | background
  | ifSuccess
  | ifFailure
  | pipe
  | openParen
  | closeParen
  | redirect (descriptor : Nat) (direction : Direction)
  deriving Repr, DecidableEq

-- What has to be closed within a text that is taken as a whole.
inductive Bracket where
  | paren
  | brace
  | single
  | double
  | backquote
  | comment
  deriving Repr, DecidableEq

inductive Mode where
  | plain
  | comment
  | escaped
  | single
  | double
  | doubleEscaped
  | dollar (quoted : Bool)
  | name (quoted : Bool) (name : List Char)
  -- Within a text that the bracket `whole` encloses and, in it, the brackets `inner`. The text is
  -- kept with the last character first.
  | enclosed (quoted : Bool) (whole : Bracket) (inner : List Bracket) (escaped : Bool)
      (text : List Char)
  | semicolon
  | ampersand
  | bar
  | input (descriptor : Nat)
  | inputs (descriptor : Nat)
  | output (descriptor : Nat)
  -- Within a text of the script: its lines so far and the last one, both backwards.
  | document (text line : List Char)
  deriving Repr, DecidableEq

inductive TextKind where
  | script
  | word
  | document
  deriving Repr, DecidableEq

-- A text within the script that is still to come: the place of the word that ends it among the
-- tokens, and whether tabulators at the starts of its lines are left out.
structure Announced where
  place : Nat
  trimsTabs : Bool
  deriving Repr, DecidableEq

-- How far a script is read: the tokens that are complete, and the word that is under way.
structure Reader where
  tokens : List Token := []
  word : Option Word := none
  mode : Mode := .plain
  kind : TextKind := .script
  line : Nat := 1
  announced : List Announced := []
  deriving Repr, DecidableEq

namespace Reader

def push (r : Reader) (piece : Piece) : Reader :=
  { r with word := some (r.word.getD [] ++ [piece]) }

def enter (r : Reader) (mode : Mode) : Reader :=
  { r with mode }

def emit (r : Reader) (token : Token) : Reader :=
  { r with tokens := r.tokens ++ [token] }

def endWord (r : Reader) : Reader :=
  match r.word with
  | none => r
  | some word => { r.emit (.word word r.line) with word := none }

def leave (r : Reader) (quoted : Bool) : Reader :=
  r.enter (if quoted then .double else .plain)

def startRedirect (r : Reader) (default : Nat) (mode : Nat → Mode) : Reader :=
  match r.word with
  | some [.char c false] =>
    if c.isDigit then { r with word := none, mode := mode (c.toNat - '0'.toNat) }
    else r.endWord.enter (mode default)
  | _ => r.endWord.enter (mode default)

-- End a line. Behind it the next text of the script starts, if one is announced.
def endLine (r : Reader) : Reader :=
  let r := r.endWord.emit .newline
  if r.announced.isEmpty then r else r.enter (.document [] [])

-- A redirection from a text of the script. The word that ends the text comes next.
def announce (r : Reader) (descriptor : Nat) (trimsTabs : Bool) : Reader :=
  let r := (r.enter .plain).emit (.redirect descriptor .document)
  { r with announced := r.announced ++ [⟨r.tokens.length, trimsTabs⟩] }

def stepText (r : Reader) (c : Char) : Reader :=
  match c with
  | '\'' => (r.push .quotes).enter .single
  | '"' => (r.push .quotes).enter .double
  | '\\' => r.enter .escaped
  | '$' => r.enter (.dollar false)
  | '\x60' => r.enter (.enclosed false .backquote [] false [])
  | _ => r.push (.char c false)

def stepPlain (r : Reader) (c : Char) : Reader :=
  if r.kind != .script then r.stepText c
  else
    match c with
    | ' ' | '\t' => r.endWord
    | '\n' => r.endLine
    | ';' => r.endWord.enter .semicolon
    | '&' => r.endWord.enter .ampersand
    | '|' => r.endWord.enter .bar
    | '(' => r.endWord.emit .openParen
    | ')' => r.endWord.emit .closeParen
    | '<' => r.startRedirect 0 .input
    | '>' => r.startRedirect 1 .output
    | '#' => if r.word.isNone then r.enter .comment else r.push (.char c false)
    | _ => r.stepText c

def stepDouble (r : Reader) (c : Char) : Reader :=
  match c with
  | '"' => if r.kind = .document then r.push (.char c true) else r.enter .plain
  | '\\' => r.enter .doubleEscaped
  | '$' => r.enter (.dollar true)
  | '\x60' => r.enter (.enclosed true .backquote [] false [])
  | _ => r.push (.char c true)

def stepBehind (r : Reader) (quoted : Bool) (c : Char) : Reader :=
  if quoted then (r.enter .double).stepDouble c else (r.enter .plain).stepPlain c

-- Between backquotes a backslash before one of them, before itself and before a dollar sign goes
-- away, in double quotes also before one of these.
def unescapeBackquotes (quoted : Bool) : List Char → List Char
  | '\\' :: c :: rest =>
    if c == '\x60' || c == '\\' || c == '$' || (quoted && c == '"') then
      c :: unescapeBackquotes quoted rest
    else '\\' :: c :: unescapeBackquotes quoted rest
  | c :: rest => c :: unescapeBackquotes quoted rest
  | [] => []

-- The piece that an enclosed text makes. Two parentheses enclose a number expression.
def enclosedPiece (quoted : Bool) (whole : Bracket) (text : List Char) : Piece :=
  match whole with
  | .brace => .braces text quoted
  | .backquote => .output (unescapeBackquotes quoted text) quoted
  | _ =>
    if text.head? == some '(' && text.getLast? == some ')' then
      .number (text.drop 1).dropLast quoted
    else .output text quoted

-- The brackets that are open behind a character, of which the innermost one is the first.
def opened (quoted : Bool) (brackets : List Bracket) (c : Char) (text : List Char) :
    List Bracket :=
  let behindDollar := text.head? == some '$'
  match brackets with
  | .single :: outer => if c == '\'' then outer else brackets
  | .backquote :: outer => if c == '\x60' then outer else brackets
  | .comment :: outer => if c == '\n' then outer else brackets
  | .double :: outer =>
    if c == '"' then outer
    else if c == '\x60' then .backquote :: brackets
    else if c == '(' && behindDollar then .paren :: brackets
    else if c == '{' && behindDollar then .brace :: brackets
    else brackets
  | innermost :: outer =>
    let closing := if innermost = .paren then ')' else '}'
    if c == closing then outer
    else if c == '"' then .double :: brackets
    else if c == '\x60' then .backquote :: brackets
    else if c == '(' && (innermost = .paren || behindDollar) then .paren :: brackets
    else if c == '{' && behindDollar then .brace :: brackets
    else if c == '\'' && (innermost = .paren || !(quoted || outer.contains .double)) then
      .single :: brackets
    else if c == '#' && innermost = .paren && text.head?.all " \t\n;&|(".toList.contains then
      .comment :: brackets
    else brackets
  | [] => []

def stepEnclosed (r : Reader) (quoted : Bool) (whole : Bracket) (inner : List Bracket)
    (escaped : Bool) (text : List Char) (c : Char) : Reader :=
  if escaped then r.enter (.enclosed quoted whole inner false (c :: text))
  else if c == '\\' && inner.head? != some .single && inner.head? != some .comment then
    r.enter (.enclosed quoted whole inner true (c :: text))
  else
    let brackets := opened quoted (inner ++ [whole]) c text
    if brackets.isEmpty then (r.push (enclosedPiece quoted whole text.reverse)).leave quoted
    else r.enter (.enclosed quoted whole brackets.dropLast false (c :: text))

-- Put a text of the script in the place of the word that ends it. If a part of that word is quoted,
-- nothing is put in for parameters of the text.
def placeDocument (r : Reader) (place : Nat) (text : List Char) : Option Reader :=
  match r.tokens[place]? with
  | some (.word word _) =>
    let quoted := word.any fun
      | .char _ quoted => quoted
      | _ => true
    some { r with tokens := r.tokens.set place (.document text (!quoted)) }
  | _ => none

def isLastLine (r : Reader) (place : Nat) (line : List Char) : Bool :=
  match r.tokens[place]? with
  | some (.word word _) => line == word.filterMap fun
    | .char c _ => some c
    | _ => none
  | _ => false

def stepDocument (r : Reader) (text line : List Char) (c : Char) : Option Reader :=
  match r.announced with
  | [] => (r.enter .plain).stepPlain c
  | next :: later =>
    if c != '\n' then r.enter (.document text (c :: line))
    else
      let read := line.reverse
      let read := if next.trimsTabs then read.dropWhile (· == '\t') else read
      if r.isLastLine next.place read then do
        let r ← r.placeDocument next.place text.reverse
        let r := { r with announced := later }
        return r.enter (if later.isEmpty then .plain else .document [] [])
      else r.enter (.document ('\n' :: read.reverse ++ text) [])

def stepOn (r : Reader) (c : Char) : Option Reader :=
  match r.mode with
  | .plain => some (r.stepPlain c)
  | .double => some (r.stepDouble c)
  | .comment => some (if c = '\n' then (r.enter .plain).endLine else r)
  | .document text line => r.stepDocument text line c
  | .escaped =>
    some ((if c = '\n' then r else r.push (.char c true)).enter .plain)
  | .single => some (if c = '\'' then r.enter .plain else r.push (.char c true))
  | .doubleEscaped =>
    let r := r.enter .double
    if c = '\n' then some r
    else if c = '$' || c = '\x60' || c = '\\' || (c = '"' && r.kind != .document) then
      some (r.push (.char c true))
    else some ((r.push (.char '\\' true)).push (.char c true))
  | .dollar quoted =>
    if isNameStart c then some (r.enter (.name quoted [c]))
    else if isSpecialName c then some ((r.push (.parameter c.toString quoted)).leave quoted)
    else if c = '{' then some (r.enter (.enclosed quoted .brace [] false []))
    else if c = '(' then some (r.enter (.enclosed quoted .paren [] false []))
    else some ((r.push (.char '$' quoted)).stepBehind quoted c)
  | .name quoted name =>
    if isNameChar c then some (r.enter (.name quoted (name ++ [c])))
    else some ((r.push (.parameter (String.ofList name) quoted)).stepBehind quoted c)
  | .enclosed quoted whole inner escaped text =>
    some (r.stepEnclosed quoted whole inner escaped text c)
  | .semicolon =>
    let r := r.enter .plain
    some (if c = ';' then r.emit .doubleSemicolon else (r.emit .semicolon).stepPlain c)
  | .ampersand =>
    let r := r.enter .plain
    some (if c = '&' then r.emit .ifSuccess else (r.emit .background).stepPlain c)
  | .bar =>
    let r := r.enter .plain
    some (if c = '|' then r.emit .ifFailure else (r.emit .pipe).stepPlain c)
  | .input descriptor =>
    let r := r.enter .plain
    if c = '<' then some (r.enter (.inputs descriptor))
    else if c = '&' then some (r.emit (.redirect descriptor .duplicate))
    else some ((r.emit (.redirect descriptor .input)).stepPlain c)
  | .inputs descriptor =>
    some (if c = '-' then r.announce descriptor true
      else (r.announce descriptor false).stepPlain c)
  | .output descriptor =>
    let r := r.enter .plain
    if c = '&' then some (r.emit (.redirect descriptor .duplicate))
    else if c = '>' then some (r.emit (.redirect descriptor .append))
    else if c = '|' then some (r.emit (.redirect descriptor .overwrite))
    else some ((r.emit (.redirect descriptor .output)).stepPlain c)

def step (r : Reader) (c : Char) : Option Reader := do
  let r ← r.stepOn c
  return if c = '\n' then { r with line := r.line + 1 } else r

def endDocuments (r : Reader) : Option Reader :=
  let text :=
    match r.mode with
    | .document text line => (line ++ text).reverse
    | _ => []
  match r.announced with
  | [] => some r
  | next :: later =>
    later.foldlM (fun (r : Reader) next => r.placeDocument next.place []) =<<
      r.placeDocument next.place text

-- The reader behind the last character. Quotes and brackets must be closed by then.
def finish? (r : Reader) : Option Reader :=
  match r.mode with
  | .plain => some r.endWord
  | .comment => some r
  | .document text line =>
    if r.announced.head?.any fun next => r.isLastLine next.place line.reverse then
      r.stepDocument text line '\n'
    else some r
  | .escaped => some (r.push (.char '\\' true)).endWord
  | .dollar false => some (r.push (.char '$' false)).endWord
  | .name false name => some (r.push (.parameter (String.ofList name) false)).endWord
  | .semicolon => some (r.emit .semicolon)
  | .ampersand => some (r.emit .background)
  | .bar => some (r.emit .pipe)
  | _ => none

end Reader

-- The tokens of a text, and whether it is complete; if not, its last line may lack some.
def Token.ofText (text : List Char) : List Token × Bool :=
  go {} text
where
  go (r : Reader) : List Char → List Token × Bool
    | [] =>
      match r.finish?.bind Reader.endDocuments with
      | some r => (r.tokens, true)
      | none => (r.tokens, false)
    | c :: rest =>
      match r.step c with
      | some r => go r rest
      | none => (r.tokens, false)

-- A text as a single word. Within double quotes it may end without any.
def Word.ofKind? (kind : TextKind) (quoted : Bool) (text : List Char) : Option Word := do
  let start : Reader := { kind, mode := if quoted then .double else .plain }
  let r ← text.foldlM Reader.step start
  let r ← (match r.mode with
    | .plain => some r
    | .double => if quoted then some r else none
    | .escaped | .doubleEscaped => some (r.push (.char '\\' true))
    | .dollar quoted => some (r.push (.char '$' quoted))
    | .name quoted name => some (r.push (.parameter (String.ofList name) quoted))
    | _ => none)
  return r.word.getD []

def Word.ofText? (quoted : Bool) (text : List Char) : Option Word :=
  ofKind? .word quoted text

def Word.ofDocument? (text : List Char) : Option Word :=
  ofKind? .document true text

end EnvProvision.Shell
