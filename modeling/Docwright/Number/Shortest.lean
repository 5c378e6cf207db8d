import Docwright.Number.Binary64

/-!
# The shortest decimal text

A finite value is written with the fewest decimal digits that read back as the same value, and of
several such decimals with the one nearest to it. Exponents from -4 to 15 are written positionally,
always with a digit behind the point; others with a signed exponent of at least two digits.
-/

namespace Docwright

namespace Binary64

/-- A decimal `0.d₁d₂… * 10 ^ point`. -/
structure Decimal where
  /-- the digits, as one whole number -/
  digits : Nat
  /-- the power of ten that the point stands for -/
  point : Int

/-- The interval of reals that round to a value: its two ends over a common denominator, the value
itself over the same denominator, and whether the ends belong to it. -/
structure Basin where
  /-- numerator of the lower end -/
  low : Nat
  /-- numerator of the value -/
  middle : Nat
  /-- numerator of the upper end -/
  high : Nat
  /-- the common denominator -/
  denominator : Nat
  /-- do the ends round to the value? -/
  closed : Bool

/-- The basin of `m * 2 ^ e`. Below a power of two the neighbour is only half as far away. -/
def basin (m : Nat) (e : Int) : Basin :=
  let scale := twoTo e.toNat
  let near := m = twoTo 52 ∧ minExponent < e
  { low := (if near then 4 * m - 1 else 4 * m - 2) * scale
    middle := 4 * m * scale
    high := (4 * m + 2) * scale
    denominator := 4 * twoTo (-e).toNat
    closed := m % 2 = 0 }

/-- Does `n / d` lie in the basin? -/
def Basin.holds (b : Basin) (n d : Nat) : Bool :=
  let x := n * b.denominator
  if b.closed then b.low * d ≤ x && x ≤ b.high * d else b.low * d < x && x < b.high * d

/-- The power of ten just above the fraction `n / d`, as an exponent. -/
def decimalPoint (n d : Nat) : Int :=
  if d ≤ n then decimalLength (n / d) else 1 - (decimalLength (d / n) : Int)

/-- The decimal with `count` digits behind `point` that the basin holds, if there is one: of the
two neighbours of the value on that grid the nearer, a tie going to the even one. -/
def Basin.onGrid? (b : Basin) (point : Int) (count : Nat) : Option Decimal :=
  let unit := point - count
  -- a grid point `k` stands for `k * up / down`
  let up := tenTo unit.toNat
  let down := tenTo (-unit).toNat
  let n := b.middle * down
  let d := b.denominator * up
  let floor := n / d
  let nearest := roundDiv n d
  let other := if nearest = floor then floor + 1 else floor
  if b.holds (nearest * up) down then some ⟨nearest, point⟩
  else if b.holds (other * up) down then some ⟨other, point⟩
  else none

/-- The digits of a decimal without trailing zeros, and where its point stands. A decimal that was
rounded up to the next power of ten has one digit more than its grid. -/
def Decimal.spelled (x : Decimal) (count : Nat) : List Char × Int :=
  let digits := Nat.toDigits 10 x.digits
  let bare := (digits.reverse.dropWhile (· == '0')).reverse
  (bare, x.point + ((digits.length : Int) - count))

/-- The shortest digits of a positive value `m * 2 ^ e`, and where its point stands. -/
def shortest (m : Nat) (e : Int) : List Char × Int :=
  let b := basin m e
  let point := decimalPoint b.middle b.denominator
  match (List.range 17).findSome? fun i => (b.onGrid? point (i + 1)).map (·, i + 1) with
  | some (x, count) => x.spelled count
  | none => ([], point)

/-- An exponent with its sign and at least two digits. -/
def exponentText (x : Int) : List Char :=
  let digits := Nat.toDigits 10 x.natAbs
  (if x < 0 then '-' else '+') :: (if digits.length < 2 then '0' :: digits else digits)

/-- Digits with the point at its place. -/
def layout (digits : List Char) (point : Int) : List Char :=
  if -4 < point ∧ point ≤ 16 then
    if point ≤ 0 then '0' :: '.' :: List.replicate (-point).toNat '0' ++ digits
    else if digits.length ≤ point then
      digits ++ List.replicate (point.toNat - digits.length) '0' ++ ['.', '0']
    else digits.take point.toNat ++ '.' :: digits.drop point.toNat
  else
    let tail := digits.drop 1
    digits.take 1 ++ (if tail.isEmpty then [] else '.' :: tail) ++ 'e' :: exponentText (point - 1)

/-- The text of a value. -/
def text : Binary64 → String
  | .nan => "nan"
  | .infinite negative => if negative then "-inf" else "inf"
  | .finite negative m e =>
    let body :=
      if m = 0 then ['0', '.', '0']
      else
        let (digits, point) := shortest m e
        layout digits point
    String.ofList (if negative then '-' :: body else body)

end Binary64

end Docwright
