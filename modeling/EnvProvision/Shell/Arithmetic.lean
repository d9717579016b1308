import EnvProvision.Shell.Word

namespace EnvProvision.Shell.Arithmetic

-- The values of variables, as far as they were assigned here, the last one first.
structure State where
  rest : List Char
  assigned : List (String × Int) := []

def wrap (n : Int) : Int :=
  Int.bmod n (Nat.pow 2 64)

-- The number that a text writes in one of the three bases of C, or the greatest one if it is above
-- that.
def literal? (cs : List Char) : Option Int :=
  let digit? (c : Char) : Option Nat :=
    if c.isDigit then some (c.toNat - '0'.toNat)
    else if 'a' ≤ c && c ≤ 'f' then some (c.toNat - 'a'.toNat + 10)
    else if 'A' ≤ c && c ≤ 'F' then some (c.toNat - 'A'.toNat + 10)
    else none
  let (base, digits) :=
    match cs with
    | '0' :: 'x' :: rest | '0' :: 'X' :: rest => (16, rest)
    | '0' :: rest => (8, '0' :: rest)
    | _ => (10, cs)
  if digits.isEmpty then none
  else digits.foldlM (fun (n : Int) c => do
    let d ← digit? c
    if d < base then some (min (base * n + d) (Int.ofNat (Nat.pow 2 63) - 1)) else none) 0

-- The number that a variable holds, with blanks around it and a sign. One without a value is zero.
def valueOf? (text : String) : Option Int :=
  let isSpace (c : Char) : Bool := c == ' ' || c == '\t' || c == '\n'
  match ((text.toList.dropWhile isSpace).reverse.dropWhile isSpace).reverse with
  | [] => some 0
  | '-' :: digits => (literal? digits).map (- ·)
  | '+' :: digits => literal? digits
  | digits => literal? digits

-- The operators with two operands, by their level of binding, the loosest first. Longer ones come
-- before those that they start with.
def operators : Nat → List String
  | 0 => ["||"]
  | 1 => ["&&"]
  | 2 => ["|"]
  | 3 => ["^"]
  | 4 => ["&"]
  | 5 => ["==", "!="]
  | 6 => ["<=", ">=", "<", ">"]
  | 7 => ["<<", ">>"]
  | 8 => ["+", "-"]
  | _ => ["*", "/", "%"]

def levels : Nat := 10

def ofBool (b : Bool) : Int :=
  if b then 1 else 0

-- Calculate. Division by zero has no result.
def result? (operator : String) (m n : Int) : Option Int :=
  let bits (f : BitVec 64 → BitVec 64 → BitVec 64) : Option Int :=
    some (f (BitVec.ofInt 64 m) (BitVec.ofInt 64 n)).toInt
  match operator with
  | "||" => some (ofBool (m != 0 || n != 0))
  | "&&" => some (ofBool (m != 0 && n != 0))
  | "|" => bits fun a b => a ||| b
  | "^" => bits fun a b => a ^^^ b
  | "&" => bits fun a b => a &&& b
  | "==" => some (ofBool (m == n))
  | "!=" => some (ofBool (m != n))
  | "<=" => some (ofBool (m ≤ n))
  | ">=" => some (ofBool (m ≥ n))
  | "<" => some (ofBool (m < n))
  | ">" => some (ofBool (m > n))
  | "<<" => bits fun a b => a.shiftLeft (b.toNat % 64)
  | ">>" => bits fun a b => a.sshiftRight (b.toNat % 64)
  | "+" => some (wrap (m + n))
  | "-" => some (wrap (m - n))
  | "*" => some (wrap (m * n))
  | "/" => if n = 0 then none else some (wrap (m.tdiv n))
  | "%" => if n = 0 then none else some (m.tmod n)
  | _ => none

namespace State

def skip (s : State) : State :=
  { s with rest := s.rest.dropWhile fun c => c == ' ' || c == '\t' || c == '\n' }

def drop (s : State) (n : Nat) : State :=
  { s with rest := s.rest.drop n }

-- The operator of a level at the start of what is left. One that is the start of an assignment or
-- of another operator is none.
def operator? (s : State) (level : Nat) : Option String :=
  (operators level).find? fun operator =>
    let behind := s.rest.drop operator.length
    operator.toList.isPrefixOf s.rest &&
      (behind.head? != some '=' || ["==", "!=", "<=", ">="].contains operator) &&
      !((operator == "|" || operator == "&" || operator == "<" || operator == ">") &&
        behind.head? == operator.toList.head?)

end State

def assigningOperator? (cs : List Char) : Option (String × List Char) :=
  match cs with
  | '=' :: '=' :: _ => none
  | '=' :: rest => some ("=", rest)
  | _ =>
    (["<<", ">>", "+", "-", "*", "/", "%", "&", "^", "|"].find? fun operator =>
      (operator.toList ++ ['=']).isPrefixOf cs).map fun operator =>
        (operator, cs.drop (operator.length + 1))

variable (environment : String → Option String)

mutual

-- Read an assignment, or a choice between two values. `live` says whether it has effect.
def readValue (fuel : Nat) (live : Bool) (s : State) : Option (Int × State) :=
  match fuel with
  | 0 => none
  | fuel + 1 => do
    let s := s.skip
    let name := s.rest.takeWhile isNameChar
    let behind := (s.drop name.length).skip
    match if name.head?.any isNameStart then assigningOperator? behind.rest else none with
    | some (operator, rest) =>
      let name := String.ofList name
      let (n, after) ← readValue fuel live { behind with rest }
      let (old, _) ← readAtom fuel live { s with rest := name.toList }
      let result ←
        if operator = "=" then some n else if live then result? operator old n else some 0
      let assigned := if live then (name, result) :: after.assigned else after.assigned
      return (result, { after with assigned })
    | none =>
      let (condition, s) ← readOperation fuel 0 live s
      match s.skip.rest with
      | '?' :: rest =>
        let (first, s) ← readValue fuel (live && condition != 0) { s with rest }
        match s.skip.rest with
        | ':' :: rest =>
          let (second, s) ← readValue fuel (live && condition == 0) { s with rest }
          return (if condition != 0 then first else second, s)
        | _ => none
      | _ => return (condition, s)

def readOperation (fuel level : Nat) (live : Bool) (s : State) : Option (Int × State) :=
  match fuel with
  | 0 => none
  | fuel + 1 => do
    let (n, s) ←
      if level + 1 < levels then readOperation fuel (level + 1) live s else readAtom fuel live s
    readOperators fuel level live n s

def readOperators (fuel level : Nat) (live : Bool) (left : Int) (s : State) :
    Option (Int × State) :=
  match fuel with
  | 0 => none
  | fuel + 1 => do
    let s := s.skip
    match s.operator? level with
    | none => return (left, s)
    | some operator =>
      let decided := (operator == "||" && left != 0) || (operator == "&&" && left == 0)
      let needed := live && !decided
      let s := s.drop operator.length
      let (right, s) ←
        if level + 1 < levels then readOperation fuel (level + 1) needed s
        else readAtom fuel needed s
      let result ← if live then (if decided then result? operator left left
        else result? operator left right) else some 0
      readOperators fuel level live result s

-- Read a number, a variable, an expression in parentheses, or a sign and what follows it.
def readAtom (fuel : Nat) (live : Bool) (s : State) : Option (Int × State) :=
  match fuel with
  | 0 => none
  | fuel + 1 => do
    let s := s.skip
    match s.rest with
    | '-' :: rest =>
      let (n, s) ← readAtom fuel live { s with rest }
      return (wrap (-n), s)
    | '+' :: rest => readAtom fuel live { s with rest }
    | '!' :: rest =>
      let (n, s) ← readAtom fuel live { s with rest }
      return (ofBool (n == 0), s)
    | '~' :: rest =>
      let (n, s) ← readAtom fuel live { s with rest }
      return (-n - 1, s)
    | '(' :: rest =>
      let (n, s) ← readValue fuel live { s with rest }
      match s.skip.rest with
      | ')' :: rest => return (n, { s with rest })
      | _ => none
    | cs =>
      let word := cs.takeWhile isNameChar
      let behind := s.drop word.length
      if word.head?.any isNameStart then
        let name := String.ofList word
        match s.assigned.lookup name with
        | some n => return (n, behind)
        | none => return (← valueOf? ((environment name).getD ""), behind)
      else return (← literal? word, behind)

end

-- The value of an expression, and the variables that it assigns, in order. An empty one is zero.
def evaluate? (text : List Char) : Option (Int × List (String × Int)) := do
  let s : State := ({ rest := text } : State).skip
  if s.rest.isEmpty then return (0, [])
  let (n, s) ← readValue environment (16 * text.length + 32) true s
  if s.skip.rest.isEmpty then return (n, s.assigned.reverse) else none

end EnvProvision.Shell.Arithmetic
