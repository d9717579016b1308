import EnvProvision.Program.Selection

namespace EnvProvision.Program

def dropSlashes (cs : List Char) : List Char :=
  (cs.reverse.dropWhile (· == '/')).reverse

-- The last part of a path, without an ending that is not all of it.
def lastPart (path ending : String) : String :=
  let cs := dropSlashes path.toList
  if cs.isEmpty then (if path.isEmpty then "" else "/")
  else
    let name := (cs.reverse.takeWhile (· != '/')).reverse
    let bare := name.take (name.length - ending.length)
    if !bare.isEmpty && bare ++ ending.toList = name then String.ofList bare else String.ofList name

def basename : Program :=
  withOptions { flags := "a", valued := "s" } 1 fun given _ =>
    match given.operands with
    | [] => .failure 1
    | path :: rest =>
      if given.has 'a' || given.has 's' then
        let ending := (given.value? 's').getD ""
        .printing (String.join (given.operands.map fun path => lastPart path ending ++ "\n"))
      else if rest.length > 1 then .failure 1
      else .printing (lastPart path (rest.headD "") ++ "\n")

def withoutLastPart (path : String) : String :=
  let cs := dropSlashes path.toList
  if cs.isEmpty then (if path.isEmpty then "." else "/")
  else
    let around := (cs.reverse.dropWhile (· != '/')).reverse
    if around.isEmpty then "."
    else
      let around := dropSlashes around
      if around.isEmpty then "/" else String.ofList around

def dirname : Program :=
  withOptions {} 1 fun given _ =>
    if given.operands.isEmpty then .failure 1
    else .printing (String.join (given.operands.map fun path => withoutLastPart path ++ "\n"))

def realpath : Program :=
  withOptions { flags := "em" } 1 fun given i =>
    let places := given.operands.map fun path => (i.files.placeOf path).toOption
    let lines := places.filterMap fun place => place.map fun parts =>
      "/" ++ "/".intercalate parts ++ "\n"
    .writing (.ofUnits (String.join lines)) (if places.all Option.isSome then 0 else 1)

def readlink : Program := fun i =>
  match i.arguments with
  | "-f" :: paths | "-e" :: paths | "-m" :: paths => realpath { i with arguments := paths }
  | _ => .failure 1

def countUp (first step last : Int) : List Int :=
  if step = 0 then []
  else
    let count := ((last - first).tdiv step + 1).toNat
    if (step > 0 && first > last) || (step < 0 && first < last) then []
    else (List.range count).map fun (k : Nat) => first + step * (k : Int)

def isNumber (argument : String) : Bool :=
  (decimalArgument? argument).isSome

def readSequence (separator : String) (padded : Bool) :
    List String → Option (String × Bool × List String)
  | "-w" :: rest => readSequence separator true rest
  | "-s" :: value :: rest => readSequence value padded rest
  | "--" :: rest => some (separator, padded, rest)
  | argument :: rest =>
    if isNumber argument then some (separator, padded, argument :: rest)
    else
      match argument.toList with
      | '-' :: 's' :: value => readSequence (String.ofList value) padded rest
      | _ => none
  | [] => some (separator, padded, [])

-- Print numbers from one to another. All have as many places as the first or the step.
def seq : Program := fun i =>
  match readSequence "\n" false i.arguments with
  | none => .failure 1
  | some (separator, padded, texts) =>
    match texts.mapM decimalArgument? with
    | none => .failure 1
    | some numbers =>
      let bounds :=
        match numbers with
        | [last] => some ((1, 0), (1, 0), last)
        | [first, last] => some (first, (1, 0), last)
        | [first, step, last] => some (first, step, last)
        | _ => none
      match bounds with
      | none => .failure 1
      | some (first, step, last) =>
        let shown := max first.2 step.2
        let places := max shown last.2
        let scale (n : Int × Nat) : Int := n.1 * Int.ofNat (Nat.pow 10 (places - n.2))
        if (scale step) = 0 then .failure 1
        else
          let write (n : Int) : String :=
            (if n < 0 then "-" else "") ++ String.ofList (fixedDigits n.natAbs places shown)
          let texts := (countUp (scale first) (scale step) (scale last)).map write
          let width := if padded then (texts.map String.length).max?.getD 0 else 0
          let pad (text : String) : String :=
            let digits := if text.startsWith "-" then text.toList.drop 1 else text.toList
            let zeros := List.replicate (width - text.length) '0'
            (if text.startsWith "-" then "-" else "") ++ String.ofList (zeros ++ digits)
          .printing (if texts.isEmpty then "" else separator.intercalate (texts.map pad) ++ "\n")

-- The value of an expression in arguments is a text, which may write a number.
def expressionInteger? (text : String) : Option Int :=
  match text.toList with
  | '-' :: digits =>
    if digits.isEmpty || !digits.all Char.isDigit then none
    else some (-(digitsValue 10 digits : Int))
  | digits =>
    if digits.isEmpty || !digits.all Char.isDigit then none
    else some (digitsValue 10 digits : Int)

def isNullValue (text : String) : Bool :=
  text.isEmpty || (!text.startsWith "--" && expressionInteger? text == some 0)

def expressionOperators : Nat → List String
  | 5 => ["|"]
  | 4 => ["&"]
  | 3 => ["<", "<=", "=", "==", "!=", ">=", ">"]
  | 2 => ["+", "-"]
  | 1 => ["*", "/", "%"]
  | _ => [":"]

def hasGroup : Expression → Bool
  | .group number _ => number != 0
  | .sequence first second | .either first second => hasGroup first || hasGroup second
  | .repeated _ _ part => hasGroup part
  | _ => false

-- What an expression matches at the start of a text: its first group, or else the number of its
-- characters.
def matchStart (text pattern : String) : Option String := do
  let e ← Expression.ofText? false pattern
  let found := (Expression.sequence .start (.group 0 e)).find? text.toList
  if hasGroup e then
    return String.ofList ((found.bind fun f => f.groups.lookup 1).getD [])
  else return toString ((found.map fun f => f.matched.length).getD 0)

def applyOperator (left operator right : String) : Option String :=
  let compare (p : Ordering → Bool) : Option String :=
    let order :=
      match expressionInteger? left, expressionInteger? right with
      | some m, some n => compareOfLessAndEq m n
      | _, _ => compareOfLessAndEq left right
    some (if p order then "1" else "0")
  let calculate (f : Int → Int → Option Int) : Option String := do
    return toString (← f (← expressionInteger? left) (← expressionInteger? right))
  match operator with
  | "|" =>
    some (if !isNullValue left then left else if isNullValue right then "0" else right)
  | "&" => some (if isNullValue left || isNullValue right then "0" else left)
  | "<" => compare (· == .lt)
  | "<=" => compare (· != .gt)
  | "=" | "==" => compare (· == .eq)
  | "!=" => compare (· != .eq)
  | ">=" => compare (· != .lt)
  | ">" => compare (· == .gt)
  | "+" => calculate fun m n => some (m + n)
  | "-" => calculate fun m n => some (m - n)
  | "*" => calculate fun m n => some (m * n)
  | "/" => calculate fun m n => if n = 0 then none else some (m.tdiv n)
  | "%" => calculate fun m n => if n = 0 then none else some (m.tmod n)
  | _ => matchStart left right

mutual

def readOperation : Nat → Nat → List String → Option (String × List String)
  | 0, _, _ => none
  | fuel + 1, level, words => do
    let (left, rest) ←
      match level with
      | 0 => readOperand fuel words
      | lower + 1 => readOperation fuel lower words
    readOperators fuel level left rest

def readOperators : Nat → Nat → String → List String → Option (String × List String)
  | 0, _, _, _ => none
  | fuel + 1, level, left, operator :: words =>
    if (expressionOperators level).contains operator then do
      let (right, rest) ←
        match level with
        | 0 => readOperand fuel words
        | lower + 1 => readOperation fuel lower words
      readOperators fuel level (← applyOperator left operator right) rest
    else some (left, operator :: words)
  | _ + 1, _, left, [] => some (left, [])

def readOperand : Nat → List String → Option (String × List String)
  | 0, _ => none
  | fuel + 1, words =>
    match words with
    | "(" :: rest => do
      match ← readOperation fuel 5 rest with
      | (value, ")" :: rest) => return (value, rest)
      | _ => none
    | "length" :: text :: rest => some (toString text.length, rest)
    | "match" :: text :: pattern :: rest => do return (← matchStart text pattern, rest)
    | "index" :: text :: set :: rest =>
      let before := text.toList.takeWhile fun c => !set.toList.contains c
      some (if before.length = text.length then "0" else toString (before.length + 1), rest)
    | "substr" :: text :: start :: count :: rest => do
      let start ← start.toNat?
      let count ← count.toNat?
      let part := if start = 0 then [] else (text.toList.drop (start - 1)).take count
      return (String.ofList part, rest)
    | word :: rest => some (word, rest)
    | [] => none

end

def expr : Program := fun i =>
  match readOperation (8 * i.arguments.length + 16) 5 i.arguments with
  | some (value, []) =>
    .writing (.ofUnits (value ++ "\n")) (if isNullValue value then 1 else 0)
  | _ => .failure 2

end EnvProvision.Program
