/-!
# Binary floating-point numbers

Fractions are kept as exact values of the 64-bit binary format: a sign, a significand below `2 ^ 53`
and a power of two. Nothing here computes with machine floats, so every rounding is visible: a
quotient becomes the nearest number of the format, and of two nearest ones the even one.
-/

namespace Docwright

/-- A value of the 64-bit binary format. A finite one stands for
`± significand * 2 ^ exponent`. -/
inductive Binary64 where
  /-- the value that is no number -/
  | nan
  /-- an infinity of either sign -/
  | infinite (negative : Bool)
  /-- a finite value, the two zeros included -/
  | finite (negative : Bool) (significand : Nat) (exponent : Int)
  deriving DecidableEq, Repr

namespace Binary64

/-- The exponent of the smallest values. -/
def minExponent : Int := -1074

/-- The exponent of the largest finite values. -/
def maxExponent : Int := 971

/-- The zero of either sign. -/
def zero (negative : Bool) : Binary64 :=
  .finite negative 0 minExponent

/-- A power of two. -/
def twoTo (k : Nat) : Nat :=
  Nat.pow 2 k

/-- A power of ten. -/
def tenTo (k : Nat) : Nat :=
  Nat.pow 10 k

/-- The whole number nearest to `n / d`, a tie going to the even neighbour. -/
def roundDiv (n d : Nat) : Nat :=
  let q := n / d
  let r := n % d
  if 2 * r < d then q
  else if d < 2 * r then q + 1
  else q + q % 2

/-- The whole number nearest to `n / d / 2 ^ e`, a tie going to the even neighbour. -/
def roundScaled (n d : Nat) (e : Int) : Nat :=
  if 0 ≤ e then roundDiv n (d * twoTo e.toNat) else roundDiv (n * twoTo (-e).toNat) d

/-- The largest `e` with `2 ^ e ≤ n / d`, for positive `n` and `d`. -/
def binaryLog (n d : Nat) : Int :=
  let k : Int := (n.log2 : Int) - d.log2
  let reached := if 0 ≤ k then d * twoTo k.toNat ≤ n else d ≤ n * twoTo (-k).toNat
  if reached then k else k - 1

/-- The value of the format nearest to `± n / d`. -/
def ofRatio (negative : Bool) (n d : Nat) : Binary64 :=
  if n = 0 then zero negative
  else
    let e := max (binaryLog n d - 52) minExponent
    let m := roundScaled n d e
    let (m, e) := if m = twoTo 53 then (twoTo 52, e + 1) else (m, e)
    if maxExponent < e then .infinite negative else .finite negative m e

/-- How many decimal digits `n` is written with. -/
def decimalLength (n : Nat) : Nat :=
  (Nat.toDigits 10 n).length

/-- The value of the format nearest to `± n * 10 ^ e`. Powers far out of the format's range are not
computed. -/
def ofDecimal (negative : Bool) (n : Nat) (e : Int) : Binary64 :=
  let reach := (decimalLength n : Int) + e
  if n = 0 then zero negative
  else if 310 < reach then .infinite negative
  else if reach < -330 then zero negative
  else if 0 ≤ e then ofRatio negative (n * tenTo e.toNat) 1
  else ofRatio negative n (tenTo (-e).toNat)

/-- Is the value neither infinite nor the non-number? -/
def isFinite : Binary64 → Bool
  | .finite _ _ _ => true
  | _ => false

/-- The value as a fraction of whole numbers with a positive denominator. -/
def ratio (negative : Bool) (m : Nat) (e : Int) : Int × Nat :=
  let magnitude := m * twoTo e.toNat
  (if negative then -(magnitude : Int) else magnitude, twoTo (-e).toNat)

/-- Is the value at most `k`? -/
def atMost (k : Int) : Binary64 → Bool
  | .nan => false
  | .infinite negative => negative
  | .finite negative m e =>
    let (n, d) := ratio negative m e
    n ≤ k * d

/-- Is the value at least `k`? -/
def atLeast (k : Int) : Binary64 → Bool
  | .nan => false
  | .infinite negative => !negative
  | .finite negative m e =>
    let (n, d) := ratio negative m e
    k * d ≤ n

/-- Is the value a zero? -/
def isZero : Binary64 → Bool
  | .finite _ 0 _ => true
  | _ => false

/-- The product with a natural number, rounded to the format. -/
def mulNat (x : Binary64) (k : Nat) : Binary64 :=
  match x with
  | .finite negative m e => ofRatio negative (m * k * twoTo e.toNat) (twoTo (-e).toNat)
  | other => other

/-- The whole number nearest to the magnitude of a finite value, a tie going to the even
neighbour. -/
def nearestNat : Binary64 → Nat
  | .finite _ m e => roundDiv (m * twoTo e.toNat) (twoTo (-e).toNat)
  | _ => 0

end Binary64

end Docwright
