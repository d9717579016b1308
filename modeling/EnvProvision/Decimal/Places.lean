import EnvProvision.Decimal.Binary64

namespace EnvProvision

namespace Fraction

def nearBinary (a : Fraction) (bits : Nat) : Fraction :=
  if a.numerator = 0 then a
  else
    let step := a.order 2 ((a.numerator.log2 : Int) - a.denominator.log2) 1 - (bits - 1 : Nat)
    .ofScaled (a.mul (.ofScaled 1 2 (-step))).roundEven 2 step

def pointed (n places : Nat) : List Char :=
  let digits := Nat.toDigits 10 n
  let digits := List.replicate (places + 1 - digits.length) '0' ++ digits
  let whole := digits.take (digits.length - places)
  if places = 0 then whole else whole ++ '.' :: digits.drop (digits.length - places)

def fixedText (a : Fraction) (places : Nat) : List Char :=
  pointed (a.mul (.ofScaled 1 10 places)).roundEven places

-- The digits of a fraction from its first one on, so many places behind it, and the exponent of ten
-- of the first one.
def leadingDigits (a : Fraction) (places : Nat) : Nat × Int :=
  if a.numerator = 0 then (0, 0)
  else
    let bits := (a.numerator.log2 : Int) - a.denominator.log2
    -- The logarithm to base ten is about 0.30103 times that to base two.
    let exponent := a.order 10 ((bits * 30103) / 100000 + 1) 3
    let n := (a.mul (.ofScaled 1 10 (places - exponent))).roundEven
    if n = Nat.pow 10 (places + 1) then (n / 10, exponent + 1) else (n, exponent)

def exponentText (exponent : Int) : List Char :=
  let digits := Nat.toDigits 10 exponent.natAbs
  (if exponent < 0 then '-' else '+') :: List.replicate (2 - digits.length) '0' ++ digits

def scientificText (a : Fraction) (places : Nat) : List Char :=
  let (n, exponent) := a.leadingDigits places
  pointed n places ++ 'e' :: exponentText exponent

def dropZeros (text : List Char) : List Char :=
  if text.contains '.' then
    ((text.reverse.dropWhile (· == '0')).dropWhile (· == '.')).reverse
  else text

-- So many digits from the first one on, with an exponent if it is small or has more digits before
-- the point; zeros at the end are left out unless they are to be kept.
def generalText (a : Fraction) (digits : Nat) (keepsZeros : Bool) : List Char :=
  let digits := max digits 1
  let trim (text : List Char) : List Char := if keepsZeros then text else dropZeros text
  let (n, exponent) := a.leadingDigits (digits - 1)
  if exponent < -4 || (digits : Int) ≤ exponent then
    trim (pointed n (digits - 1)) ++ 'e' :: exponentText exponent
  else trim (a.fixedText ((digits : Int) - 1 - exponent).toNat)

end Fraction

end EnvProvision
