/-! Double precision numbers as exact values. A finite number is a whole significand times a power
of two, so arithmetic on it is arithmetic on naturals followed by one rounding: to the nearest
representable value, ties to the even significand. -/
namespace NumberingPlan

/-- A double. A finite one is `significand * 2 ^ exponent` with its sign. -/
inductive Binary64 where
  | finite (negative : Bool) (significand : Nat) (exponent : Int)
  | infinite (negative : Bool)
  | notANumber
  deriving DecidableEq, Repr

/-- The quotient of naturals rounded to the nearest natural, ties to even. -/
def roundDiv (num den : Nat) : Nat :=
  let q := num / den
  let r := num % den
  if den < 2 * r || (2 * r == den && q % 2 == 1) then q + 1 else q

/-- `num / (den * 2 ^ e)` rounded to the nearest natural, ties to even. -/
def roundScaled (num den : Nat) (e : Int) : Nat :=
  match e with
  | .ofNat k => roundDiv num (den * Nat.pow 2 k)
  | .negSucc k => roundDiv (num * Nat.pow 2 (k + 1)) den

namespace Binary64

/-- The least exponent of a double. -/
def minExponent : Int := -1074

/-- The greatest exponent of a double. -/
def maxExponent : Int := 971

/-- The least significand of 53 bits. A significand below it has the least exponent. -/
def leastNormal : Nat := 4503599627370496

/-- The exponent at which a positive quotient has a significand of 53 bits, or the least one. -/
def scaleOf (num den : Nat) : Int :=
  let k : Int := (num.log2 : Int) - den.log2
  let reaches := match k with
    | .ofNat n => decide (den * Nat.pow 2 n ≤ num)
    | .negSucc n => decide (den ≤ num * Nat.pow 2 (n + 1))
  max minExponent (if reaches then k - 52 else k - 53)

/-- The significand and exponent of the double nearest to a quotient, none if it is beyond the
greatest double. -/
def nearest? (num den : Nat) : Option (Nat × Int) :=
  if num == 0 || den == 0 then some (0, minExponent)
  else
    let e := scaleOf num den
    let m := roundScaled num den e
    let (m, e) := if m == 2 * leastNormal then (leastNormal, e + 1) else (m, e)
    if maxExponent < e then none else some (m, e)

/-- The double nearest to a signed quotient; beyond the greatest double it is infinite. -/
def ofRatio (negative : Bool) (num den : Nat) : Binary64 :=
  match nearest? num den with
  | some (m, e) => finite negative m e
  | none => infinite negative

/-- The double nearest to `digits * 10 ^ exponent`. -/
def ofDecimal (negative : Bool) (digits : Nat) (exponent : Int) : Binary64 :=
  match exponent with
  | .ofNat k => if digits == 0 then finite negative 0 minExponent
      else if 400 < k then infinite negative else ofRatio negative (digits * Nat.pow 10 k) 1
  | .negSucc k => ofRatio negative digits (Nat.pow 10 (k + 1))

/-- The double nearest to an integer. -/
def ofInt (n : Int) : Binary64 := ofRatio (n < 0) n.natAbs 1

/-- Numerator and denominator of `m * 2 ^ e`. -/
def ratio (m : Nat) (e : Int) : Nat × Nat :=
  match e with
  | .ofNat k => (m * Nat.pow 2 k, 1)
  | .negSucc k => (m, Nat.pow 2 (k + 1))

/-- The whole part of `m * 2 ^ e`. -/
def whole (m : Nat) (e : Int) : Nat :=
  match e with
  | .ofNat k => m * Nat.pow 2 k
  | .negSucc k => m / Nat.pow 2 (k + 1)

def isZero : Binary64 → Bool
  | finite _ m _ => m == 0
  | _ => false

/-- The integer that a double is, if it is one. -/
def toInt? : Binary64 → Option Int
  | finite negative m e =>
    let (num, den) := ratio m e
    if num % den == 0 then some (if negative then -(num / den : Nat) else (num / den : Nat))
    else none
  | _ => none

end Binary64

end NumberingPlan
