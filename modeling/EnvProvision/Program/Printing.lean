import EnvProvision.Decimal.Places
import EnvProvision.Program.Condition
import EnvProvision.Program.ShellWord
import EnvProvision.Text.Hexadecimal

namespace EnvProvision.Program

def letterEscape? : Char → Option UInt8
  | 'a' => some 0x07
  | 'b' => some 0x08
  | 'e' => some 0x1B
  | 'f' => some 0x0C
  | 'n' => some 0x0A
  | 'r' => some 0x0D
  | 't' => some 0x09
  | 'v' => some 0x0B
  | '\\' => some 0x5C
  | _ => none

def isOctalDigit (c : Char) : Bool :=
  '0' ≤ c && c ≤ '7'

def digitsValue (base : Nat) (digits : List Char) : Nat :=
  digits.foldl (fun n c => base * n + (Text.hexDigit? c).getD 0) 0

-- Read an escape from behind its backslash. `extended` admits the ones that the shell lacks.
def escape? (extended : Bool) : List Char → Option (UInt8 × List Char)
  | [] => none
  | c :: rest =>
    if isOctalDigit c then
      let digits := ((c :: rest).take 3).takeWhile isOctalDigit
      some ((digitsValue 8 digits).toUInt8, (c :: rest).drop digits.length)
    else if extended && c == 'x' then
      let digits := (rest.take 2).takeWhile fun d => (Text.hexDigit? d).isSome
      if digits.isEmpty then none
      else some ((digitsValue 16 digits).toUInt8, rest.drop digits.length)
    else (letterEscape? c).map (·, rest)

def charBytes (c : Char) : Bytes :=
  .ofUnits c.toString

-- Replace the escapes of a text. An octal number may have one more zero before it. The flag says
-- that the text is cut off by `\c`, which ends all output.
def unescape (extended : Bool) (cs : List Char) : Bytes × Bool :=
  go cs.length cs
where
  go : Nat → List Char → Bytes × Bool
    | _, [] => ([], false)
    | 0, _ :: _ => ([], false)
    | left + 1, '\\' :: rest =>
      let digits :=
        match rest with
        | '0' :: d :: more => if isOctalDigit d then d :: more else rest
        | _ => rest
      match rest, escape? extended digits with
      | 'c' :: _, _ => ([], true)
      | _, some (byte, rest) =>
        let (bytes, cut) := go left rest
        (byte :: bytes, cut)
      | _, none =>
        let (bytes, cut) := go left rest
        (0x5C :: bytes, cut)
    | left + 1, c :: rest =>
      let (bytes, cut) := go left rest
      (charBytes c ++ bytes, cut)

def writeEcho (extended escapes lineFeed : Bool) (arguments : List String) : Completion :=
  let text := " ".intercalate arguments
  let (bytes, cut) := if escapes then unescape extended text.toList else (.ofUnits text, false)
  .writing (if lineFeed && !cut then bytes ++ [0x0A] else bytes) 0

-- The letters of an option of `echo`: they suppress the line feed, and switch escapes on and off.
def echoOption? (argument : String) : Option (List Char) :=
  match argument.toList with
  | '-' :: c :: rest => if (c :: rest).all "neE".toList.contains then some (c :: rest) else none
  | _ => none

def echoWith (escapes lineFeed : Bool) : List String → Completion
  | [] => writeEcho true escapes lineFeed []
  | argument :: rest =>
    match echoOption? argument with
    | none => writeEcho true escapes lineFeed (argument :: rest)
    | some letters =>
      let escapes := letters.foldl (fun on c => c == 'e' || (on && c != 'E')) escapes
      echoWith escapes (lineFeed && !letters.contains 'n') rest

def echo : Program := fun i =>
  echoWith false true i.arguments

def shellEcho : Program := fun i =>
  match i.arguments with
  | "-n" :: rest => writeEcho false true false rest
  | arguments => writeEcho false true true arguments

-- A width or a precision, which may be left to an argument.
inductive Size where
  | fixed (n : Nat)
  | argument
  deriving Repr, DecidableEq

-- How the argument of a conversion is laid out.
structure FieldLayout where
  flags : List Char := []
  width : Size := .fixed 0
  precision : Option Size := none
  deriving Repr, DecidableEq

inductive FormatPiece where
  | literal (bytes : Bytes)
  | conversion (layout : FieldLayout) (kind : Char)
  | stop
  | invalid
  deriving Repr, DecidableEq

def readSize (cs : List Char) : Size × List Char :=
  match cs with
  | '*' :: rest => (.argument, rest)
  | _ => (.fixed (digitsValue 10 (cs.takeWhile Char.isDigit)), cs.dropWhile Char.isDigit)

def readConversion (extended : Bool) (cs : List Char) : FormatPiece × List Char :=
  let isFlag (c : Char) := "-+ 0#".toList.contains c
  let (width, rest) := readSize (cs.dropWhile isFlag)
  let (precision, rest) :=
    match rest with
    | '.' :: rest =>
      let (size, rest) := readSize rest
      (some size, rest)
    | _ => (none, rest)
  match rest with
  | kind :: rest =>
    if "diouxXcsbfFeEgGq".toList.contains kind && !(kind == 'q' && !extended) then
      (.conversion ⟨cs.takeWhile isFlag, width, precision⟩ kind, rest)
    else (.invalid, rest)
  | [] => (.invalid, [])

-- A character by the number of its code point, of so many hexadecimal digits. One beyond ASCII
-- cannot be written, and stays an escape.
def readCodePoint (letter : Char) (size : Nat) (cs : List Char) : FormatPiece × List Char :=
  let digits := (cs.take size).takeWhile fun d => (Text.hexDigit? d).isSome
  let code := digitsValue 16 digits
  if digits.length < size || !code.isValidChar then (.invalid, [])
  else
    let escape := '\\' :: letter :: digits.map Char.toUpper
    let bytes := if code < 0x80 then [code.toUInt8] else Bytes.ofUnits (String.ofList escape)
    (.literal bytes, cs.drop size)

def readFormat (extended : Bool) (cs : List Char) : List FormatPiece :=
  go cs.length cs
where
  go : Nat → List Char → List FormatPiece
    | _, [] => []
    | 0, _ :: _ => []
    | left + 1, '%' :: '%' :: rest => .literal [0x25] :: go left rest
    | left + 1, '%' :: rest =>
      let (piece, rest) := readConversion extended rest
      piece :: go left rest
    | left + 1, '\\' :: rest =>
      match rest, escape? extended rest with
      | _, some (byte, rest) => .literal [byte] :: go left rest
      | 'c' :: _, none => if extended then [.stop] else .literal [0x5C] :: go left rest
      | 'x' :: _, none => if extended then [.invalid] else .literal [0x5C] :: go left rest
      | 'u' :: cs, none | 'U' :: cs, none =>
        if extended then
          let letter := rest.headD 'u'
          let (piece, rest) := readCodePoint letter (if letter = 'u' then 4 else 8) cs
          piece :: go left rest
        else .literal [0x5C] :: go left rest
      | '"' :: rest', none =>
        if extended then .literal [0x22] :: go left rest' else .literal [0x5C] :: go left rest
      | _, none => .literal [0x5C] :: go left rest
    | left + 1, c :: rest => .literal (charBytes c) :: go left rest

def fill (layout : FieldLayout) (width : Nat) (bytes : Bytes) : Bytes :=
  let blanks := List.replicate (width - bytes.length) 0x20
  if layout.flags.contains '-' then bytes ++ blanks else blanks ++ bytes

-- The number that an argument writes, in one of the notations of C, or as the code of the character
-- behind a quote, and whether that is all it says. What is behind the character is passed over.
def numericArgument (argument : String) : Int × Bool :=
  match argument.toList with
  | [] => (0, true)
  | quote :: rest =>
    if quote == '"' || quote == '\'' then
      (((rest.head?.map Char.toNat).getD 0 : Nat), true)
    else
      let cs := (quote :: rest).dropWhile (· == ' ')
      let (negative, cs) :=
        match cs with
        | '-' :: cs => (true, cs)
        | '+' :: cs => (false, cs)
        | _ => (false, cs)
      let (base, cs) :=
        match cs with
        | '0' :: x :: d :: more =>
          if (x == 'x' || x == 'X') && (Text.hexDigit? d).isSome then (16, d :: more) else (8, cs)
        | '0' :: _ => (8, cs)
        | _ => (10, cs)
      let digits := cs.takeWhile fun c => (Text.hexDigit? c).any (· < base)
      let n : Int := digitsValue base digits
      (if negative then -n else n, !digits.isEmpty && digits.length == cs.length)

def digitsOf (base n : Nat) : List Char :=
  Nat.toDigits base n

def layInteger (layout : FieldLayout) (width : Nat) (precision : Option Nat)
    (sign digits : List Char) : Bytes :=
  let digits := if precision = some 0 && digits = ['0'] then [] else digits
  let digits := List.replicate (precision.getD 0 - digits.length) '0' ++ digits
  let zeros :=
    if layout.flags.contains '0' && !layout.flags.contains '-' && precision.isNone then
      List.replicate (width - sign.length - digits.length) '0'
    else []
  fill layout width (.ofUnits (String.ofList (sign ++ zeros ++ digits)))

def decimalArgument? (argument : String) : Option (Int × Nat) :=
  let (negative, cs) :=
    match argument.toList with
    | '-' :: cs => (true, cs)
    | '+' :: cs => (false, cs)
    | cs => (false, cs)
  let whole := cs.takeWhile Char.isDigit
  let fraction :=
    match cs.dropWhile Char.isDigit with
    | '.' :: rest => some rest
    | [] => some []
    | _ => none
  fraction.bind fun fraction =>
    if fraction.all Char.isDigit && !(whole ++ fraction).isEmpty then
      let n : Int := digitsValue 10 (whole ++ fraction)
      some (if negative then -n else n, fraction.length)
    else none

-- The number that an argument writes with or without an exponent of ten: whether it is negative,
-- and its size.
def fractionArgument? (argument : String) : Option (Bool × Fraction) := do
  let cs := argument.toList
  let mantissa := cs.takeWhile fun c => c != 'e' && c != 'E'
  let (n, places) ← decimalArgument? (String.ofList mantissa)
  let exponent ←
    match cs.drop mantissa.length with
    | [] => some 0
    | _ :: digits => integer? (String.ofList digits)
  return (mantissa.head? == some '-', .ofScaled n.natAbs 10 (exponent - places))

-- A decimal fraction with `places` places, rounded to the nearest, a half to the even one.
def fixedDigits (n places wanted : Nat) : List Char :=
  (Fraction.ofScaled n 10 (-(places : Int))).fixedText wanted

structure Printed where
  output : Bytes := []
  arguments : List String
  asked : Bool := false
  failed : Bool := false
  stopped : Bool := false
  invalid : Bool := false

namespace Printed

def put (p : Printed) (bytes : Bytes) : Printed :=
  { p with output := p.output ++ bytes }

def next (p : Printed) : Option String × Printed :=
  (p.arguments.head?, { p with arguments := p.arguments.drop 1, asked := true })

def size (p : Printed) : Size → Nat × Printed
  | .fixed n => (n, p)
  | .argument =>
    let (argument, p) := p.next
    ((numericArgument (argument.getD "")).1.toNat, p)

def noting (p : Printed) (understood : Bool) : Printed :=
  { p with failed := p.failed || !understood }

-- The number of an argument between two bounds. A missing one is zero.
def number (low high : Int) : Option String → Int × Bool
  | none => (0, true)
  | some argument =>
    let (n, understood) := numericArgument argument
    if n < low then (low, false) else if high < n then (high, false) else (n, understood)

def signedBounds : Int × Int :=
  (-Int.ofNat (Nat.pow 2 63), Int.ofNat (Nat.pow 2 63) - 1)

def unsignedBound : Int :=
  Int.ofNat (Nat.pow 2 64) - 1

def sign (layout : FieldLayout) (negative : Bool) : List Char :=
  if negative then ['-']
  else if layout.flags.contains '+' then ['+']
  else if layout.flags.contains ' ' then [' ']
  else []

def convert (p : Printed) (extended : Bool) (layout : FieldLayout) (width : Nat)
    (precision : Option Nat) (kind : Char) (argument? : Option String) : Printed :=
  let argument := argument?.getD ""
  let cut (bytes : Bytes) : Bytes := (precision.map bytes.take).getD bytes
  let unsigned (base : Nat) (mark : List Char) (capital : Bool) : Printed :=
    let (n, understood) := number (-unsignedBound) unsignedBound argument?
    let n := if n < 0 then (n + Int.ofNat (Nat.pow 2 64)).toNat else n.toNat
    let digits := digitsOf base n
    let digits := if capital then digits.map Char.toUpper else digits
    let mark := if layout.flags.contains '#' && n != 0 then mark else []
    (p.put (layInteger layout width precision mark digits)).noting understood
  match kind with
  | 's' => p.put (fill layout width (cut (.ofUnits argument)))
  | 'b' =>
    let (bytes, stopped) := unescape extended argument.toList
    { p.put (fill layout width (cut bytes)) with stopped }
  | 'c' => p.put (fill layout width [(Bytes.ofUnits argument).headD 0])
  | 'u' => unsigned 10 [] false
  | 'o' => unsigned 8 ['0'] false
  | 'x' => unsigned 16 ['0', 'x'] false
  | 'X' => unsigned 16 ['0', 'X'] true
  | 'q' => p.put (fill layout width (.ofUnits (shellWord argument)))
  | 'f' | 'F' | 'e' | 'E' | 'g' | 'G' =>
    let (negative, size) := (fractionArgument? argument).getD (false, ⟨0, 1⟩)
    let size := size.nearBinary (if extended then 64 else 53)
    let places := precision.getD 6
    let digits :=
      if kind.toLower = 'f' then size.fixedText places
      else if kind.toLower = 'e' then size.scientificText places
      else size.generalText places (layout.flags.contains '#')
    let digits := if kind.isUpper then digits.map Char.toUpper else digits
    let text := layInteger layout width none (sign layout negative) digits
    (p.put text).noting (argument.isEmpty || (fractionArgument? argument).isSome)
  | _ =>
    let (n, understood) := number signedBounds.1 signedBounds.2 argument?
    let text := layInteger layout width precision (sign layout (n < 0)) (digitsOf 10 n.natAbs)
    (p.put text).noting understood

def piece (extended : Bool) (p : Printed) (piece : FormatPiece) : Printed :=
  if p.stopped then p
  else
    match piece with
    | .literal bytes => p.put bytes
    | .stop => { p with stopped := true }
    | .invalid => { p with stopped := true, failed := true, invalid := true }
    | .conversion layout kind =>
      let (width, p) := p.size layout.width
      let (precision, p) :=
        match layout.precision with
        | none => (none, p)
        | some size => (some (p.size size).1, (p.size size).2)
      let (argument, p) := p.next
      p.convert extended layout width precision kind argument

-- Go through a format until the arguments are used up, `limit` more times at most.
def all (extended : Bool) (format : List FormatPiece) (p : Printed) : Nat → Printed
  | 0 => p
  | limit + 1 =>
    let after := format.foldl (piece extended) { p with asked := false }
    if after.stopped || after.arguments.isEmpty || !after.asked then after
    else all extended format after limit

end Printed

def printfWith (extended : Bool) : Program := fun i =>
  let arguments := if i.arguments.head? = some "--" then i.arguments.drop 1 else i.arguments
  match arguments with
  | [] => .failure (if extended then 1 else 2)
  | format :: arguments =>
    let format := readFormat extended format.toList
    let printed := Printed.all extended format { arguments } (arguments.length + 1)
    let code := if printed.invalid && !extended then 2 else if printed.failed then 1 else 0
    .writing printed.output code

def printf : Program :=
  printfWith true

def shellPrintf : Program :=
  printfWith false

end EnvProvision.Program
