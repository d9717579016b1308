import EnvProvision.Yaml.Value.Basic
import EnvProvision.Yaml.Scalar.Quoted

namespace EnvProvision.Yaml.Plain

def isNull (s : String) : Bool :=
  s = "null" || s = "Null" || s = "NULL" || s = "~"

def bool? (s : String) : Option Bool :=
  if s = "true" || s = "True" || s = "TRUE" then some true
  else if s = "false" || s = "False" || s = "FALSE" then some false
  else none

-- A sign at the start of a text, if there is one, and the rest.
def splitSign : List Char → Option Char × List Char
  | '+' :: rest => (some '+', rest)
  | '-' :: rest => (some '-', rest)
  | rest => (none, rest)

def hasLeadingZero (cs : List Char) : Bool :=
  let digits := (splitSign cs).2
  digits.length > 1 && digits.head? == some '0' && digits.all Char.isDigit

def natural? (base : Nat) (cs : List Char) : Option Nat :=
  if cs.isEmpty then none
  else cs.foldlM (fun n c => do
    let d ← Text.hexDigit? c
    if d < base then some (base * n + d) else none) 0

def base? : List Char → Option (Nat × List Char)
  | '0' :: 'x' :: rest => some (16, rest)
  | '0' :: 'o' :: rest => some (8, rest)
  | '0' :: 'b' :: rest => some (2, rest)
  | _ => none

def integer? (cs : List Char) : Option Int := do
  let (sign, digits) := splitSign cs
  let magnitude ←
    match base? digits with
    | some (base, digits) => natural? base digits
    | none => if hasLeadingZero cs then none else natural? 10 digits
  return if sign = some '-' then -magnitude else magnitude

def fitsBits (bits : Nat) : Int → Bool
  | .ofNat n => n < Nat.pow 2 bits
  | .negSucc n => n < Nat.pow 2 (bits - 1)

def fitsWord (i : Int) : Bool :=
  fitsBits 64 i

-- The integers that are read as such, though the greatest of them are no values.
def fitsDoubleWord (i : Int) : Bool :=
  fitsBits 128 i

def exponent? : List Char → Option Int
  | [] => some 0
  | c :: rest =>
    if c == 'e' || c == 'E' then do
      let (sign, digits) := splitSign rest
      let n ← if digits.all Char.isDigit then natural? 10 digits else none
      return if sign = some '-' then -(n : Int) else n
    else none

-- A decimal number without its sign: digits with at most one point among them, and an exponent.
def decimal? (negative : Bool) (cs : List Char) : Option Binary64 := do
  let whole := cs.takeWhile Char.isDigit
  let rest := cs.dropWhile Char.isDigit
  let (fraction, rest) :=
    match rest with
    | '.' :: rest => (rest.takeWhile Char.isDigit, rest.dropWhile Char.isDigit)
    | _ => ([], rest)
  let digits := whole ++ fraction
  let n ← natural? 10 digits
  let exponent ← exponent? rest
  return .ofDecimal negative n digits.length (exponent - fraction.length)

-- The finite or infinite number that a text writes. A decimal that is too large writes none.
def float? (s : String) : Option Binary64 :=
  match s with
  | ".inf" | ".Inf" | ".INF" | "+.inf" | "+.Inf" | "+.INF" => some (.infinite false)
  | "-.inf" | "-.Inf" | "-.INF" => some (.infinite true)
  | ".nan" | ".NaN" | ".NAN" => some .nan
  | _ =>
    let (sign, rest) := splitSign s.toList
    (decimal? (sign = some '-') rest).filter Binary64.isFinite

-- The integer that a text writes; one of more than 64 bits but not more than 128 is an error, which
-- `none` inside stands for.
def int? (s : String) : Option (Option Value) :=
  match integer? s.toList with
  | none => none
  | some i =>
    if fitsWord i then some (some (.int i))
    else if fitsDoubleWord i then some none
    else none

def value? (s : String) : Option Value :=
  if s = "" || isNull s then some .null
  else
    match bool? s with
    | some b => some (.bool b)
    | none =>
      match int? s with
      | some i => i
      | none =>
        if hasLeadingZero s.toList then some (.text s)
        else
          match float? s with
          | some x => some (.float x)
          | none => some (.text s)

end EnvProvision.Yaml.Plain
