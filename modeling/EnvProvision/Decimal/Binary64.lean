namespace EnvProvision

-- A fraction of two natural numbers; the denominator is not zero.
structure Fraction where
  numerator : Nat
  denominator : Nat

namespace Fraction

def ofScaled (n base : Nat) (exponent : Int) : Fraction :=
  match exponent with
  | .ofNat e => ⟨n * Nat.pow base e, 1⟩
  | .negSucc e => ⟨n, Nat.pow base (e + 1)⟩

def mul (a b : Fraction) : Fraction :=
  ⟨a.numerator * b.numerator, a.denominator * b.denominator⟩

def compare (a b : Fraction) : Ordering :=
  Ord.compare (a.numerator * b.denominator) (b.numerator * a.denominator)

def floor (a : Fraction) : Nat :=
  a.numerator / a.denominator

-- The nearest integer, of two equally near ones the even one.
def roundEven (a : Fraction) : Nat :=
  let q := a.numerator / a.denominator
  match Ord.compare (2 * (a.numerator % a.denominator)) a.denominator with
  | .lt => q
  | .gt => q + 1
  | .eq => q + q % 2

-- The exponent of the greatest power of `base` that is not above the fraction, if it is one of
-- `start` and the `count` exponents below.
def order (a : Fraction) (base : Nat) (start : Int) : Nat → Int
  | 0 => start
  | count + 1 =>
    if (ofScaled 1 base start).compare a != .gt then start
    else a.order base (start - 1) count

end Fraction

-- A number in double precision; a finite one is `significand * 2 ^ exponent`, and its exponent is
-- the least possible one.
inductive Binary64 where
  | finite (negative : Bool) (significand : Nat) (exponent : Int)
  | infinite (negative : Bool)
  | nan
  deriving Repr, DecidableEq

namespace Binary64

def precision : Nat := 53

def minExponent : Int := -1074

def maxExponent : Int := 971

def binaryOrder (a : Fraction) : Int :=
  a.order 2 ((a.numerator.log2 : Int) - a.denominator.log2) 1

def round (negative : Bool) (a : Fraction) : Binary64 :=
  if a.numerator = 0 then finite negative 0 minExponent
  else
    let e := max (binaryOrder a - (precision - 1)) minExponent
    let m := (a.mul (.ofScaled 1 2 (-e))).roundEven
    -- Rounding up may need one more bit.
    let (m, e) := if m = Nat.pow 2 precision then (m / 2, e + 1) else (m, e)
    if maxExponent < e then infinite negative else finite negative m e

def decimalReach : Nat := 400

def ofDecimal (negative : Bool) (digits count : Nat) (exponent : Int) : Binary64 :=
  if digits = 0 then finite negative 0 minExponent
  else if (decimalReach : Int) < exponent then infinite negative
  else if exponent + count < -decimalReach then finite negative 0 minExponent
  else round negative (.ofScaled digits 10 exponent)

def isFinite : Binary64 → Bool
  | finite .. => true
  | _ => false

def sameValue : Binary64 → Binary64 → Bool
  | finite s m e, finite s' m' e' => m = m' && e = e' && (s = s' || m = 0)
  | a, b => a = b

end Binary64

end EnvProvision
