import NumberingPlan.Decimal.Binary64

/-! Decimal text of doubles: the fewest digits that read back to the same double, and a fixed
number of places. Both choose digits by exact arithmetic on naturals. -/
namespace NumberingPlan.Decimal

/-- Decimal digits with the place of the first: `digits * 10 ^ exponent`. -/
structure Digits where
  digits : Nat
  exponent : Int
  deriving DecidableEq, Repr

/-- The greatest power of ten that a positive quotient reaches. -/
def magnitude (num den : Nat) : Int :=
  if den ≤ num then ((Nat.toDigits 10 (num / den)).length : Int) - 1
  else
    let k := (Nat.toDigits 10 (den / num)).length
    if den ≤ num * Nat.pow 10 (k - 1) then 1 - (k : Int) else -(k : Int)

/-- `num / den / 10 ^ e` as a quotient of naturals. -/
def scaleDown (num den : Nat) (e : Int) : Nat × Nat :=
  match e with
  | .ofNat k => (num, den * Nat.pow 10 k)
  | .negSucc k => (num * Nat.pow 10 (k + 1), den)

/-- How far the candidate `d` lies from the quotient `n / m`, in units of `1 / m`. -/
def offBy (n m d : Nat) : Nat := if d * m < n then n - d * m else d * m - n

/-- The numbers that round to `m * 2 ^ e` lie between these two quarters of its last place: a
quarter step below where the significand is a power of two, else half a step, and half a step
above. -/
def interval (m : Nat) (e : Int) : Nat × Nat :=
  let below := if m == Binary64.leastNormal && Binary64.minExponent < e then 1 else 2
  (4 * m - below, 4 * m + 2)

/-- Whether `d * 10 ^ p` rounds to `m * 2 ^ e`; the ends count if the significand is even. -/
def readsBack (m : Nat) (e p : Int) (d : Nat) : Bool :=
  let (low, high) := interval m e
  let (dNum, dDen) := scaleDown (4 * d) 1 (-p)
  let (num, den) := Binary64.ratio 1 e
  let scaled := dNum * den
  let below := low * num * dDen
  let above := high * num * dDen
  if m % 2 == 0 then below ≤ scaled && scaled ≤ above else below < scaled && scaled < above

/-- The candidate with `n` digits that reads back, if there is one: of the two neighbours on the
grid the nearer, and of equally near ones the even. -/
def candidate? (m : Nat) (e : Int) (n : Nat) : Option Digits :=
  let (num, den) := Binary64.ratio m e
  let p := magnitude num den - (n : Int) + 1
  let (sNum, sDen) := scaleDown num den p
  let low := sNum / sDen
  let lowOk := readsBack m e p low
  let highOk := readsBack m e p (low + 1)
  let lowOff := offBy sNum sDen low
  let highOff := offBy sNum sDen (low + 1)
  if lowOk && (!highOk || lowOff < highOff || (lowOff == highOff && low % 2 == 0)) then
    some ⟨low, p⟩
  else if highOk then
    some (if low + 1 == Nat.pow 10 n then ⟨Nat.pow 10 (n - 1), p + 1⟩ else ⟨low + 1, p⟩)
  else none

/-- The fewest digits that read back to `m * 2 ^ e`. Seventeen always do. -/
def shortest (m : Nat) (e : Int) : Digits :=
  ((List.range 17).findSome? fun n => candidate? m e (n + 1)).getD ⟨0, 0⟩

/-- Digits written with `places` digits after the point. -/
def pointed (places n : Nat) : String :=
  let digits := Nat.toDigits 10 n
  let padded := List.replicate (places + 1 - digits.length) '0' ++ digits
  let whole := padded.take (padded.length - places)
  let fraction := padded.drop (padded.length - places)
  String.ofList (if places == 0 then whole else whole ++ '.' :: fraction)

/-- A quotient with a fixed number of places, rounded half to even. -/
def fixed (places num den : Nat) : String := pointed places (roundDiv (num * Nat.pow 10 places) den)

/-- The exponent suffix: a sign and at least two digits. -/
def exponentText (e : Int) : String :=
  let digits := Nat.toDigits 10 e.natAbs
  (if e < 0 then "e-" else "e+") ++
    String.ofList (List.replicate (2 - digits.length) '0' ++ digits)

/-- The `n + 1` leading digits of a quotient, rounded half to even, and the place of the first. -/
def leading (n num den : Nat) : Nat × Int :=
  if num == 0 then (0, 0)
  else
    let k := magnitude num den
    let (sNum, sDen) := scaleDown num den (k - n)
    let d := roundDiv sNum sDen
    if d == Nat.pow 10 (n + 1) then (Nat.pow 10 n, k + 1) else (d, k)

end NumberingPlan.Decimal

namespace NumberingPlan.Binary64

/-- The text of a double: the fewest digits that read back, positional from 10^-4 up to below
10^16 and with at least one place, else with an exponent of at least two digits. -/
def text : Binary64 → String
  | notANumber => "nan"
  | infinite negative => if negative then "-inf" else "inf"
  | finite negative m e =>
    let sign := if negative then "-" else ""
    if m == 0 then sign ++ "0.0"
    else
      let ⟨d, p⟩ := Decimal.shortest m e
      let digits := Nat.toDigits 10 d
      let point : Int := digits.length + p
      if -4 < point && point ≤ 16 then
        match p with
        | .ofNat k => sign ++ toString (d * Nat.pow 10 k) ++ ".0"
        | .negSucc k => sign ++ Decimal.pointed (k + 1) d
      else
        let places := digits.length - 1
        sign ++ Decimal.pointed places d ++ Decimal.exponentText (point - 1)

end NumberingPlan.Binary64
