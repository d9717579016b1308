import EnvProvision.Decimal.Binary64

namespace EnvProvision

namespace Binary64

-- The interval of fractions that round to `m * 2 ^ e`, in quarters of the last place: below a power
-- of two the numbers lie twice as close.
structure Interval where
  low : Fraction
  high : Fraction
  closed : Bool

def Interval.ofNumber (m : Nat) (e : Int) : Interval :=
  let below := if m = Nat.pow 2 (precision - 1) && minExponent < e then 1 else 2
  ⟨.ofScaled (4 * m - below) 2 (e - 2), .ofScaled (4 * m + 2) 2 (e - 2), m % 2 = 0⟩

def Interval.contains (interval : Interval) (a : Fraction) : Bool :=
  match a.compare interval.low, a.compare interval.high with
  | .gt, .lt => true
  | .eq, _ | _, .eq => interval.closed
  | _, _ => false

structure Decimal where
  digits : Nat
  exponent : Int
  deriving Repr, DecidableEq

namespace Decimal

def value (d : Decimal) : Fraction :=
  .ofScaled d.digits 10 d.exponent

def trimZeros (d : Decimal) : Nat → Decimal
  | 0 => d
  | fuel + 1 =>
    if d.digits != 0 && d.digits % 10 = 0 then
      trimZeros ⟨d.digits / 10, d.exponent + 1⟩ fuel
    else d

end Decimal

-- The neighbour in the interval that is nearer to `a` on the grid of `10 ^ exponent`, of two
-- equally near ones the even one.
def nearest? (interval : Interval) (a : Fraction) (exponent : Int) : Option Decimal :=
  let scaled := a.mul (.ofScaled 1 10 (-exponent))
  let below : Decimal := ⟨scaled.floor, exponent⟩
  let above : Decimal := ⟨scaled.floor + 1, exponent⟩
  let near : Decimal := ⟨scaled.roundEven, exponent⟩
  if interval.contains near.value then some near
  else if interval.contains below.value then some below
  else if interval.contains above.value then some above
  else none

def maxDigits : Nat := 17

-- The decimal with the fewest digits that reads back as `m * 2 ^ e`.
def shortest (m : Nat) (e : Int) : Decimal :=
  let a := Fraction.ofScaled m 2 e
  let interval := Interval.ofNumber m e
  -- The logarithm to base ten is about 0.30103 times that to base two; `order` mends the rest.
  let bits := (m.log2 : Int) + e
  let order := a.order 10 ((bits * 30103) / 100000 + 1) 3
  -- The first grid has its step at the order itself, so it holds decimals of one digit.
  match (List.range maxDigits).findSome? fun (n : Nat) => nearest? interval a (order - n) with
  | some d => d.trimZeros maxDigits
  | none => ⟨(a.mul (.ofScaled 1 10 (maxDigits - order))).floor, order - maxDigits⟩

end Binary64

-- How a decimal is written. `point` is the place of the decimal point, counted from the start of
-- the digits.
structure DecimalLayout where
  firstPlain : Int
  lastPlain : Int
  wholeSuffix : String
  exponentMark : String
  zero : String
  infinity : String
  nan : String

namespace DecimalLayout

def digitsText (n : Nat) : List Char :=
  (toString n).toList

-- The digits with their point at `point`, or with an exponent if that is out of range.
def writeDigits (layout : DecimalLayout) (digits : List Char) (point : Int) : String :=
  let count : Int := digits.length
  if layout.firstPlain ≤ point && point ≤ layout.lastPlain then
    if count ≤ point then
      String.ofList (digits ++ List.replicate (point - count).toNat '0') ++ layout.wholeSuffix
    else if 0 < point then
      String.ofList (digits.take point.toNat ++ '.' :: digits.drop point.toNat)
    else
      String.ofList ('0' :: '.' :: List.replicate (-point).toNat '0' ++ digits)
  else
    let fraction := match digits.drop 1 with
      | [] => []
      | rest => '.' :: rest
    String.ofList (digits.take 1 ++ fraction) ++ layout.exponentMark ++ toString (point - 1)

def signText (negative : Bool) : String :=
  if negative then "-" else ""

def write (layout : DecimalLayout) : Binary64 → String
  | .finite negative m e =>
    if m = 0 then signText negative ++ layout.zero
    else
      let d := Binary64.shortest m e
      let digits := digitsText d.digits
      signText negative ++ layout.writeDigits digits (digits.length + d.exponent)
  | .infinite negative => signText negative ++ layout.infinity
  | .nan => layout.nan

end DecimalLayout

end EnvProvision
