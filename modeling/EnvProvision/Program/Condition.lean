import EnvProvision.Program.Basic

namespace EnvProvision.Program

def integer? (text : String) : Option Int :=
  let cs := (text.toList.dropWhile (· == ' ')).reverse.dropWhile (· == ' ') |>.reverse
  let (negative, digits) :=
    match cs with
    | '-' :: digits => (true, digits)
    | '+' :: digits => (false, digits)
    | digits => (false, digits)
  if digits.isEmpty || !digits.all Char.isDigit then none
  else
    let n : Int := digits.foldl (fun n c => 10 * n + (c.toNat - '0'.toNat)) 0
    some (if negative then -n else n)

def unaryCondition (files : Files) (operator operand : String) : Option Bool :=
  let found := files.find operand
  match operator with
  | "-n" => some (operand != "")
  | "-z" => some (operand == "")
  | "-e" | "-r" | "-w" => some found.isOk
  | "-f" => some (files.holdsFile operand)
  | "-d" => some (found.toOption == some .directory)
  | "-c" => some (found.toOption == some .nullDevice)
  | "-x" => some (found.toOption == some .program || found.toOption == some .directory)
  | "-s" =>
    match found with
    | .ok (.file content) => some !content.isEmpty
    | .ok .nullDevice | .error _ => some false
    | .ok _ => some true
  | "-O" | "-G" => some found.isOk
  | "-b" | "-h" | "-L" | "-p" | "-S" | "-g" | "-u" | "-k" | "-t" => some false
  | _ => none

def compareIntegers (left right : String) (p : Int → Int → Bool) : Option Bool := do
  return p (← integer? left) (← integer? right)

-- Whether an operator stands between two operands. The shell itself also knows the order of texts.
def isBinaryOperator (ordered : Bool) (operator : String) : Bool :=
  ["=", "==", "!=", "-eq", "-ne", "-lt", "-le", "-gt", "-ge", "-ef", "-nt", "-ot"].contains operator
    || (ordered && (operator == "<" || operator == ">"))

def binaryCondition (files : Files) (left operator right : String) : Option Bool :=
  match operator with
  | "=" | "==" => some (left == right)
  | "!=" => some (left != right)
  | "<" => some (decide (left < right))
  | ">" => some (decide (right < left))
  | "-eq" => compareIntegers left right fun a b => a == b
  | "-ne" => compareIntegers left right fun a b => a != b
  | "-lt" => compareIntegers left right fun a b => a < b
  | "-le" => compareIntegers left right fun a b => a ≤ b
  | "-gt" => compareIntegers left right fun a b => a > b
  | "-ge" => compareIntegers left right fun a b => a ≥ b
  | "-ef" =>
    match files.placeOf left, files.placeOf right with
    | .ok a, .ok b => some (a == b && (files.find left).isOk)
    | _, _ => some false
  -- Of two files that exist it is not known which is older.
  | "-nt" => some ((files.find left).isOk && !(files.find right).isOk)
  | "-ot" => some (!(files.find left).isOk && (files.find right).isOk)
  | _ => none

-- Read a condition of any length from the front, as far as the connectives of `level` bind: `-o` is
-- level 2, `-a` level 1, and a single condition level 0.
def readCondition (ordered : Bool) (files : Files) :
    Nat → Nat → List String → Option (Bool × List String)
  | 0, _, _ => none
  | fuel + 1, 0, words =>
    match words with
    | "!" :: rest => do
      let (holds, rest) ← readCondition ordered files fuel 0 rest
      return (!holds, rest)
    | "(" :: rest => do
      match ← readCondition ordered files fuel 2 rest with
      | (holds, ")" :: rest) => return (holds, rest)
      | _ => none
    | left :: operator :: right :: rest =>
      if isBinaryOperator ordered operator then do
        return (← binaryCondition files left operator right, rest)
      else
        match unaryCondition files left operator with
        | some holds => some (holds, right :: rest)
        | none => some (left != "", operator :: right :: rest)
    | [operator, operand] =>
      match unaryCondition files operator operand with
      | some holds => some (holds, [])
      | none => some (operator != "", [operand])
    | [word] => some (word != "", [])
    | [] => none
  | fuel + 1, level + 1, words => do
    let (holds, rest) ← readCondition ordered files fuel level words
    match rest with
    | connective :: rest' =>
      if connective = (if level = 0 then "-a" else "-o") then
        let (more, rest) ← readCondition ordered files fuel (level + 1) rest'
        return (if level = 0 then holds && more else holds || more, rest)
      else return (holds, rest)
    | [] => return (holds, rest)

def longCondition (ordered : Bool) (files : Files) (words : List String) : Option Bool := do
  match ← readCondition ordered files (4 * words.length + 4) 2 words with
  | (holds, []) => return holds
  | _ => none

-- Whether a condition holds. No word is false, and one word is true if it is not empty.
def condition (ordered : Bool) (files : Files) : List String → Option Bool
  | [] => some false
  | [word] => some (word != "")
  | ["!", word] => some (word == "")
  | [operator, operand] => unaryCondition files operator operand
  | [left, operator, right] =>
    if isBinaryOperator ordered operator then binaryCondition files left operator right
    else if operator = "-a" then some (left != "" && right != "")
    else if operator = "-o" then some (left != "" || right != "")
    else if left = "!" then (condition ordered files [operator, right]).map not
    else if left = "(" && right = ")" then some (operator != "")
    else none
  | "!" :: rest => (condition ordered files rest).map not
  | words => longCondition ordered files words

def ofCondition : Option Bool → Completion
  | some true => .success
  | some false => .failure 1
  | none => .failure 2

def testWith (ordered : Bool) : Program := fun i =>
  ofCondition (condition ordered i.files i.arguments)

def bracketWith (ordered : Bool) : Program := fun i =>
  if i.arguments.getLast? = some "]" then
    ofCondition (condition ordered i.files i.arguments.dropLast)
  else .failure 2

def test : Program :=
  testWith false

def bracket : Program :=
  bracketWith false

end EnvProvision.Program
