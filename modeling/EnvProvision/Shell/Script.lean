import EnvProvision.Shell.Token

namespace EnvProvision.Shell

inductive Connector where
  | always
  | ifSuccess
  | ifFailure
  deriving Repr, DecidableEq

structure Redirect where
  descriptor : Nat
  direction : Direction
  target : Word
  deriving Repr, DecidableEq

-- Commands that hand their output on to each other.
structure Pipeline (α : Type) where
  connector : Connector
  negated : Bool := false
  background : Bool := false
  stages : List α

inductive Command where
  | simple (line : Nat) (words : List Word)
  | group (body : List (Pipeline Command))
  | subshell (body : List (Pipeline Command))
  | choice (condition body otherwise : List (Pipeline Command))
  | loop (untilSuccess : Bool) (condition body : List (Pipeline Command))
  | each (name : String) (words : Option (List Word)) (body : List (Pipeline Command))
  | select (subject : Word) (branches : List (List Word × List (Pipeline Command)))
  | function (name : String) (body : Command)
  | redirected (command : Command) (redirects : List Redirect)

abbrev Script := List (Pipeline Command)

namespace Script

def isClosingWord (word : String) : Bool :=
  ["then", "else", "elif", "fi", "do", "done", "esac", "\x7d"].contains word

def ends : List Token → Bool
  | [] => true
  | .closeParen :: _ | .doubleSemicolon :: _ => true
  | .word word _ :: _ => word.literal?.any isClosingWord
  | _ => false

def dropNewlines : List Token → List Token
  | .newline :: rest => dropNewlines rest
  | tokens => tokens

def expect (expected : String) : List Token → Option (List Token)
  | .word word _ :: rest => if word.literal? = some expected then some rest else none
  | _ => none

def target? : Token → Option Word
  | .word word _ => some word
  | .document text true => Word.ofDocument? text
  | .document text false => some (.quotes :: text.map (.char · true))
  | _ => none

def readSimple : List Token → Option (List Word × List Redirect × List Token)
  | .word word _ :: rest => do
    let (words, redirects, rest) ← readSimple rest
    return (word :: words, redirects, rest)
  | .redirect descriptor direction :: next :: rest => do
    let (words, redirects, rest) ← readSimple rest
    return (words, ⟨descriptor, direction, ← target? next⟩ :: redirects, rest)
  | [.redirect ..] => none
  | tokens => some ([], [], tokens)

def readRedirects : List Token → Option (List Redirect × List Token)
  | .redirect descriptor direction :: next :: rest => do
    let (redirects, rest) ← readRedirects rest
    return (⟨descriptor, direction, ← target? next⟩ :: redirects, rest)
  | [.redirect ..] => none
  | tokens => some ([], tokens)

def firstLine : List Token → Nat
  | .word _ line :: _ => line
  | _ :: rest => firstLine rest
  | [] => 1

def redirected (command : Command) (redirects : List Redirect) : Command :=
  if redirects.isEmpty then command else .redirected command redirects

def readWords : List Token → List Word × List Token
  | .word word _ :: rest =>
    let (words, rest) := readWords rest
    (word :: words, rest)
  | tokens => ([], tokens)

def readPatterns : List Token → Option (List Word × List Token)
  | .word word _ :: .pipe :: rest => do
    let (words, rest) ← readPatterns rest
    return (word :: words, rest)
  | .word word _ :: .closeParen :: rest => some ([word], rest)
  | _ => none

mutual

-- Read commands up to a token that ends them. Each call takes one of `fuel`; there are always fewer
-- than ten calls to a token.
def read (fuel : Nat) (connector : Connector) (tokens : List Token) :
    Option (Script × List Token) :=
  match fuel with
  | 0 => none
  | fuel + 1 => do
    let tokens := dropNewlines tokens
    if ends tokens then
      if connector = .always then return ([], tokens) else none
    else
      let (pipeline, rest) ← readPipeline fuel connector tokens
      match rest with
      | .semicolon :: rest | .newline :: rest =>
        let (script, rest) ← read fuel .always rest
        return (pipeline :: script, rest)
      | .background :: rest =>
        let (script, rest) ← read fuel .always rest
        return ({ pipeline with background := true } :: script, rest)
      | .ifSuccess :: rest =>
        let (script, rest) ← read fuel .ifSuccess rest
        return (pipeline :: script, rest)
      | .ifFailure :: rest =>
        let (script, rest) ← read fuel .ifFailure rest
        return (pipeline :: script, rest)
      | _ => return ([pipeline], rest)

def readPipeline (fuel : Nat) (connector : Connector) (tokens : List Token) :
    Option (Pipeline Command × List Token) :=
  match fuel with
  | 0 => none
  | fuel + 1 => do
    match expect "!" tokens with
    | some rest =>
      let (stages, rest) ← readStages fuel rest
      return ({ connector, negated := true, stages }, rest)
    | none =>
      let (stages, rest) ← readStages fuel tokens
      return ({ connector, stages }, rest)

def readStages (fuel : Nat) (tokens : List Token) : Option (List Command × List Token) :=
  match fuel with
  | 0 => none
  | fuel + 1 => do
    let (command, rest) ← readCommand fuel tokens
    match rest with
    | .pipe :: rest =>
      let (commands, rest) ← readStages fuel (dropNewlines rest)
      return (command :: commands, rest)
    | _ => return ([command], rest)

def readCommand (fuel : Nat) (tokens : List Token) : Option (Command × List Token) :=
  match fuel with
  | 0 => none
  | fuel + 1 => do
    match tokens with
    | .openParen :: rest =>
      match ← read fuel .always rest with
      | (body, .closeParen :: rest) =>
        let (redirects, rest) ← readRedirects rest
        return (redirected (.subshell body) redirects, rest)
      | _ => none
    | .word name _ :: .openParen :: .closeParen :: rest =>
      let name ← name.literal?
      let (body, rest) ← readCommand fuel (dropNewlines rest)
      if isName name then return (.function name body, rest) else none
    | .word word _ :: rest =>
      match word.literal? with
      | some "\x7b" =>
        let (body, rest) ← read fuel .always rest
        let (redirects, rest) ← readRedirects (← expect "\x7d" rest)
        return (redirected (.group body) redirects, rest)
      | some "if" =>
        let (command, rest) ← readChoice fuel rest
        let (redirects, rest) ← readRedirects (← expect "fi" rest)
        return (redirected command redirects, rest)
      | some "while" => readLoop fuel false rest
      | some "until" => readLoop fuel true rest
      | some "for" => readEach fuel rest
      | some "case" => readSelect fuel rest
      | _ =>
        let (words, redirects, rest) ← readSimple tokens
        return (redirected (.simple (firstLine tokens) words) redirects, rest)
    | _ =>
      let (words, redirects, rest) ← readSimple tokens
      if words.isEmpty && redirects.isEmpty then none
      else return (redirected (.simple (firstLine tokens) words) redirects, rest)

def readChoice (fuel : Nat) (tokens : List Token) : Option (Command × List Token) :=
  match fuel with
  | 0 => none
  | fuel + 1 => do
    let (condition, rest) ← read fuel .always tokens
    let (body, rest) ← read fuel .always (← expect "then" rest)
    match expect "else" rest, expect "elif" rest with
    | some rest, _ =>
      let (otherwise, rest) ← read fuel .always rest
      return (.choice condition body otherwise, rest)
    | _, some rest =>
      let (other, rest) ← readChoice fuel rest
      return (.choice condition body [{ connector := .always, stages := [other] }], rest)
    | none, none => return (.choice condition body [], rest)

def readBody (fuel : Nat) (tokens : List Token) :
    Option (Script × List Redirect × List Token) :=
  match fuel with
  | 0 => none
  | fuel + 1 => do
    let (body, rest) ← read fuel .always (← expect "do" (dropNewlines tokens))
    let (redirects, rest) ← readRedirects (← expect "done" rest)
    return (body, redirects, rest)

def readLoop (fuel : Nat) (untilSuccess : Bool) (tokens : List Token) :
    Option (Command × List Token) :=
  match fuel with
  | 0 => none
  | fuel + 1 => do
    let (condition, rest) ← read fuel .always tokens
    let (body, redirects, rest) ← readBody fuel rest
    return (redirected (.loop untilSuccess condition body) redirects, rest)

def readEach (fuel : Nat) (tokens : List Token) : Option (Command × List Token) :=
  match fuel with
  | 0 => none
  | fuel + 1 => do
    let .word name _ :: rest := tokens | none
    let name ← name.literal?
    if !isName name then none
    let (words, rest) :=
      match expect "in" (dropNewlines rest) with
      | some rest =>
        let (words, rest) := readWords rest
        (some words, rest)
      | none => (none, rest)
    let rest :=
      match rest with
      | .semicolon :: rest => rest
      | _ => rest
    let (body, redirects, rest) ← readBody fuel rest
    return (redirected (.each name words body) redirects, rest)

def readSelect (fuel : Nat) (tokens : List Token) : Option (Command × List Token) :=
  match fuel with
  | 0 => none
  | fuel + 1 => do
    let .word subject _ :: rest := tokens | none
    let (branches, rest) ← readBranches fuel (← expect "in" (dropNewlines rest))
    let (redirects, rest) ← readRedirects (← expect "esac" rest)
    return (redirected (.select subject branches) redirects, rest)

def readBranches (fuel : Nat) (tokens : List Token) :
    Option (List (List Word × Script) × List Token) :=
  match fuel with
  | 0 => none
  | fuel + 1 => do
    let tokens := dropNewlines tokens
    if (expect "esac" tokens).isSome then return ([], tokens)
    else
      let tokens :=
        match tokens with
        | .openParen :: rest => rest
        | _ => tokens
      let (patterns, rest) ← readPatterns tokens
      let (body, rest) ← read fuel .always rest
      match rest with
      | .doubleSemicolon :: rest =>
        let (branches, rest) ← readBranches fuel rest
        return ((patterns, body) :: branches, rest)
      | _ => return ([(patterns, body)], rest)

end

-- Read a script line by line, as far as it can be read, and say whether that is to its end. `line`
-- holds the commands of the line so far.
def readLines (complete : Bool) (line : Script) (connector : Connector) :
    Nat → List Token → Script × Bool
  | 0, _ => ([], false)
  | fuel + 1, tokens =>
    let atEnd (line : Script) : Script × Bool := if complete then (line, true) else ([], false)
    match if connector = .always then tokens else dropNewlines tokens with
    | [] => if connector = .always then atEnd line else ([], false)
    | .newline :: rest =>
      let (script, complete) := readLines complete [] .always fuel rest
      (line ++ script, complete)
    | tokens =>
      match if ends tokens then none
        else readPipeline (10 * tokens.length + 10) connector tokens with
      | none => ([], false)
      | some (pipeline, rest) =>
        let ended := line ++ [pipeline]
        match rest with
        | [] => atEnd ended
        | .newline :: _ => readLines complete ended .always fuel rest
        | .semicolon :: rest => readLines complete ended .always fuel rest
        | .background :: rest =>
          readLines complete (line ++ [{ pipeline with background := true }]) .always fuel rest
        | .ifSuccess :: rest => readLines complete ended .ifSuccess fuel rest
        | .ifFailure :: rest => readLines complete ended .ifFailure fuel rest
        | _ => ([], false)

-- Read a script as far as it can be read, and say whether that is to its end.
def ofText (text : List Char) : Script × Bool :=
  let (tokens, complete) := Token.ofText text
  readLines complete [] .always (2 * tokens.length + 2) tokens

def ofText? (text : List Char) : Option Script :=
  match ofText text with
  | (script, true) => some script
  | _ => none

end Script

end EnvProvision.Shell
