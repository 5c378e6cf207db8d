import Mathlib
import Docwright.Number.Reading
import Docwright.Proofs.Rounding

/-!
# The shortest digits

The digits that a value is written with, and what they are worth. A decimal that is taken from a
grid lies in the basin of the value, so it rounds to the value; the search for the coarsest such
grid ends, because on the grid of seventeen digits the neighbour of any value lies in its basin. The
digits are then spelled without the zeros at their end, which moves the point and keeps the value.
-/

namespace Docwright

namespace Number

/-- The value of digits as the library reads them. -/
theorem digitsValue_eq (digits : List Char) :
    digitsValue digits = Nat.ofDigitChars 10 digits 0 := by
  rw [digitsValue, Nat.ofDigitChars_eq_foldl]
  rfl

theorem digitsValue_toDigits (n : Nat) : digitsValue (Nat.toDigits 10 n) = n := by
  rw [digitsValue_eq, Nat.ofDigitChars_ten_toDigits]

/-- Zeros at the end multiply by a power of ten. -/
theorem digitsValue_append_zeros (digits : List Char) (k : Nat) :
    digitsValue (digits ++ List.replicate k '0') = 10 ^ k * digitsValue digits := by
  rw [digitsValue_eq, digitsValue_eq, Nat.ofDigitChars_append, Nat.ofDigitChars_replicate_zero]

theorem digitsValue_zeros_append (digits : List Char) (k : Nat) :
    digitsValue (List.replicate k '0' ++ digits) = digitsValue digits := by
  rw [digitsValue_eq, digitsValue_eq, Nat.ofDigitChars_append, Nat.ofDigitChars_replicate_zero,
    Nat.mul_zero]

end Number

namespace Binary64

/-- A positive number does not start with a zero. -/
theorem head?_toDigits_ne_zero {n : Nat} (hn : 0 < n) : (Nat.toDigits 10 n).head? ≠ some '0' := by
  induction n using Nat.strongRecOn with
  | _ n ih =>
    rcases Nat.lt_or_ge n 10 with h | h
    · rw [Nat.toDigits_of_lt_base h, List.head?_cons, ne_eq, Option.some.injEq,
        Nat.digitChar_eq_zero]
      omega
    · rw [Nat.toDigits_of_base_le (by decide) h, List.head?_append_of_ne_nil _ Nat.toDigits_ne_nil]
      exact ih (n / 10) (by omega) (by omega)

theorem zpow_decimalPoint_le {n d : Nat} (hn : 0 < n) (hd : 0 < d) :
    (10 : ℚ) ^ (decimalPoint n d - 1) ≤ n / d := by
  have hn' : (0 : ℚ) < n := by exact_mod_cast hn
  have hd' : (0 : ℚ) < d := by exact_mod_cast hd
  unfold decimalPoint
  split_ifs with h
  · have hpos : 0 < n / d := Nat.div_pos h hd
    have hlength := decimalLength_pos (n / d)
    calc (10 : ℚ) ^ ((decimalLength (n / d) : Int) - 1)
        = 10 ^ (decimalLength (n / d) - 1) := by
          rw [← zpow_natCast]
          congr 1
          omega
      _ ≤ (n / d : Nat) := by exact_mod_cast le_of_decimalLength hpos
      _ ≤ n / d := Nat.cast_div_le
  · -- the reciprocal lies below the next power
    have hbelow : d < 10 ^ decimalLength (d / n) * n := by
      calc d < (d / n + 1) * n := by
            rw [mul_comm]
            exact Nat.lt_mul_div_succ d hn
        _ ≤ 10 ^ decimalLength (d / n) * n := Nat.mul_le_mul_right n (lt_of_decimalLength (d / n))
    have hbelow' : (d : ℚ) < 10 ^ decimalLength (d / n) * n := by exact_mod_cast hbelow
    rw [show (1 : Int) - decimalLength (d / n) - 1 = -(decimalLength (d / n) : Int) by omega,
      zpow_neg, zpow_natCast, inv_le_iff_one_le_mul₀ (by positivity), div_mul_eq_mul_div,
      one_le_div hd']
    linarith

/-- A decimal from a grid rounds to the value of the basin. -/
theorem rounds_of_onGrid? {m : Nat} {e point : Int} {count : Nat} {x : Decimal} (hm : 0 < m)
    (h : (basin m e).onGrid? point count = some x) :
    x.point = point ∧ Rounds (x.digits * (10 : ℚ) ^ (point - count)) m e := by
  have hround : ∀ k : Nat, (basin m e).holds (k * tenTo (point - count).toNat)
      (tenTo (-(point - count)).toNat) = true → Rounds (k * (10 : ℚ) ^ (point - count)) m e := by
    intro k hk
    have := (holds_basin_iff hm (tenTo_pos _)).mp hk
    rwa [Nat.cast_mul, mul_div_assoc, tenTo_div_tenTo] at this
  have hpick : ∀ a b : Nat,
      (if (basin m e).holds (a * tenTo (point - count).toNat) (tenTo (-(point - count)).toNat) then
          some (⟨a, point⟩ : Decimal)
        else if (basin m e).holds (b * tenTo (point - count).toNat)
            (tenTo (-(point - count)).toNat) then some ⟨b, point⟩
        else none) = some x →
        x.point = point ∧ Rounds (x.digits * (10 : ℚ) ^ (point - count)) m e := by
    intro a b hx
    split_ifs at hx with ha hb
    · obtain rfl := Option.some.inj hx
      exact ⟨rfl, hround a ha⟩
    · obtain rfl := Option.some.inj hx
      exact ⟨rfl, hround b hb⟩
  exact hpick _ _ h

/-- The middle of a basin is the value. -/
theorem middle_div_denominator (m : Nat) (e : Int) :
    ((basin m e).middle : ℚ) / (basin m e).denominator = m * 2 ^ e := by
  have h₁ : (0 : ℚ) < twoTo e.toNat := by exact_mod_cast twoTo_pos _
  have h₂ : (0 : ℚ) < twoTo (-e).toNat := by exact_mod_cast twoTo_pos _
  rw [← twoTo_div_twoTo, basin]
  push_cast
  field_simp

/-- **Seventeen digits are enough.** The grid of seventeen digits is so fine that the neighbour of
a value lies in its basin. -/
theorem isSome_onGrid?_seventeen {m : Nat} {e : Int} (hm : 0 < m) (hlt : m < 2 ^ 53) :
    ((basin m e).onGrid? (decimalPoint (basin m e).middle (basin m e).denominator) 17).isSome := by
  have hmiddle : 0 < (basin m e).middle :=
    Nat.mul_pos (Nat.mul_pos (by decide) hm) (twoTo_pos _)
  have hdenominator : 0 < (basin m e).denominator := Nat.mul_pos (by decide) (twoTo_pos _)
  have hpoint := zpow_decimalPoint_le hmiddle hdenominator
  have hvalue := middle_div_denominator m e
  generalize hp : decimalPoint (basin m e).middle (basin m e).denominator = point at *
  have hpow : (0 : ℚ) < 2 ^ e := by positivity
  -- the unit of the grid, in units of the last place
  obtain ⟨u, hu⟩ : ∃ u : ℚ, (10 : ℚ) ^ (point - 17) / 2 ^ e = u := ⟨_, rfl⟩
  have hu0 : 0 < u := by rw [← hu]; positivity
  have hfine : u / 2 < reach m e := by
    have hunit : u * 10 ^ 16 ≤ m := by
      rw [hvalue] at hpoint
      rw [← hu, div_mul_eq_mul_div, div_le_iff₀ hpow]
      calc (10 : ℚ) ^ (point - 17) * 10 ^ 16 = 10 ^ (point - 1) := by
            rw [← zpow_natCast, ← zpow_add₀ (by norm_num)]
            congr 1
            push_cast
            ring
        _ ≤ m * 2 ^ e := hpoint
    unfold reach
    split_ifs with h
    · rw [h.1] at hunit
      push_cast at hunit
      linarith
    · have : (m : ℚ) < 2 ^ 53 := by exact_mod_cast hlt
      linarith
  -- the nearest point of the grid
  have hnearest := nearest_roundDiv ((basin m e).middle * tenTo (-(point - 17)).toNat)
    (Nat.mul_pos hdenominator (tenTo_pos (point - 17).toNat))
  generalize hk : roundDiv ((basin m e).middle * tenTo (-(point - 17)).toNat)
    ((basin m e).denominator * tenTo (point - 17).toNat) = k at hnearest
  have hgrid : (((basin m e).middle * tenTo (-(point - 17)).toNat : Nat) : ℚ) /
      ((basin m e).denominator * tenTo (point - 17).toNat : Nat) = m / u := by
    rw [Nat.cast_mul, Nat.cast_mul, mul_div_mul_comm, hvalue, ← hu, ← tenTo_div_tenTo]
    field_simp
  rw [hgrid] at hnearest
  have hclose : |(m : ℚ) - k * u| ≤ u / 2 := by
    calc |(m : ℚ) - k * u| = |m / u - k| * u := by
          rw [← abs_of_pos hu0, ← abs_mul, abs_of_pos hu0, sub_mul, div_mul_cancel₀ _ hu0.ne']
      _ ≤ 1 / 2 * u := by gcongr; exact hnearest.1
      _ = u / 2 := by ring
  have hrounds : Rounds ((k * tenTo (point - 17).toNat : Nat) / (tenTo (-(point - 17)).toNat : Nat))
      m e := by
    rw [Nat.cast_mul, mul_div_assoc, tenTo_div_tenTo, Rounds, mul_div_assoc, hu]
    have hreach := reach_le m e
    obtain ⟨hlow, hhigh⟩ := abs_le.mp hclose
    exact ⟨by linarith, by linarith, fun _ => ⟨by linarith, by linarith⟩⟩
  have hholds := (holds_basin_iff hm (tenTo_pos _)).mpr hrounds
  simp only [Basin.onGrid?, Nat.cast_ofNat, hk, hholds, if_true, Option.isSome_some]


/-- Only positive numbers round to a positive value. -/
theorem Rounds.pos {x : ℚ} {m : Nat} {e : Int} (h : Rounds x m e) (hm : 0 < m) : 0 < x := by
  have hone : (1 : ℚ) ≤ m := by exact_mod_cast hm
  have hpow : (0 : ℚ) < 2 ^ e := by positivity
  have hscaled : 0 < x / 2 ^ e := by linarith [h.1, reach_le m e]
  rwa [div_pos_iff_of_pos_right hpow] at hscaled

/-- Digits that a positive number can be written with: no other characters, and no zero in front. -/
def Leading (digits : List Char) : Prop :=
  ∃ c tail, digits = c :: tail ∧ c ≠ '0' ∧ ∀ d ∈ c :: tail, d.isDigit

/-- Taking the zeros off the end of a text leaves a run of them. -/
theorem exists_append_zeros (s : List Char) :
    ∃ k, s = (s.reverse.dropWhile (· == '0')).reverse ++ List.replicate k '0' := by
  refine ⟨(s.reverse.takeWhile (· == '0')).length, ?_⟩
  have hzeros : s.reverse.takeWhile (· == '0') =
      List.replicate (s.reverse.takeWhile (· == '0')).length '0' := by
    refine List.eq_replicate_iff.mpr ⟨rfl, fun c hc => ?_⟩
    simpa using List.mem_takeWhile_imp hc
  calc s = s.reverse.reverse := (List.reverse_reverse s).symm
    _ = (s.reverse.takeWhile (· == '0') ++ s.reverse.dropWhile (· == '0')).reverse := by
      rw [List.takeWhile_append_dropWhile]
    _ = _ := by
      rw [List.reverse_append, hzeros, List.reverse_replicate, List.length_replicate]

/-- A decimal keeps its value when it is spelled out. -/
theorem Decimal.spelled_eq {x : Decimal} (hx : 0 < x.digits) (count : Nat) :
    Leading (x.spelled count).1 ∧
      (Number.digitsValue (x.spelled count).1 : ℚ) *
        10 ^ ((x.spelled count).2 - (x.spelled count).1.length) =
      x.digits * 10 ^ (x.point - count) := by
  obtain ⟨k, hk⟩ := exists_append_zeros (Nat.toDigits 10 x.digits)
  simp only [Decimal.spelled]
  generalize ((Nat.toDigits 10 x.digits).reverse.dropWhile (· == '0')).reverse = bare at hk
  have hvalue : x.digits = 10 ^ k * Number.digitsValue bare := by
    rw [← Number.digitsValue_append_zeros, ← hk, Number.digitsValue_toDigits]
  have hhead := head?_toDigits_ne_zero hx
  rw [hk] at hhead
  constructor
  · cases bare with
    | nil =>
      rw [Number.digitsValue_eq] at hvalue
      simp at hvalue
      omega
    | cons c tail =>
      refine ⟨c, tail, rfl, fun h => hhead (by rw [h]; rfl), fun d hd => ?_⟩
      refine Nat.isDigit_of_mem_toDigits (b := 10) (n := x.digits) (by decide) (by decide) ?_
      rw [hk]
      exact List.mem_append_left _ hd
  · rw [hk, List.length_append, List.length_replicate]
    have hexponent : x.point + (((bare.length + k : Nat) : Int) - count) - bare.length =
        (k : Int) + (x.point - count) := by
      push_cast
      ring
    rw [hexponent, zpow_add₀ (by norm_num), zpow_natCast, hvalue]
    push_cast
    ring

/-- **The shortest digits** of a value read back as the value: where their point stands, they are a
decimal that rounds to it. -/
theorem shortest_spec {m : Nat} {e : Int} (hm : 0 < m) (hlt : m < 2 ^ 53) :
    Leading (shortest m e).1 ∧
      Rounds (Number.digitsValue (shortest m e).1 *
        (10 : ℚ) ^ ((shortest m e).2 - (shortest m e).1.length)) m e := by
  have hsome := isSome_onGrid?_seventeen (e := e) hm hlt
  unfold shortest
  dsimp only
  split
  next x count hfound =>
    obtain ⟨i, -, hi⟩ := List.exists_of_findSome?_eq_some hfound
    obtain ⟨y, hy, hpair⟩ := Option.map_eq_some_iff.mp hi
    obtain ⟨rfl, rfl⟩ := Prod.mk.inj hpair
    obtain ⟨hpoint, hrounds⟩ := rounds_of_onGrid? hm hy
    have hpos : 0 < y.digits := by
      have hx := hrounds.pos hm
      rw [mul_pos_iff_of_pos_right (by positivity)] at hx
      exact_mod_cast hx
    obtain ⟨hleading, hvalue⟩ := Decimal.spelled_eq hpos (i + 1)
    refine ⟨hleading, ?_⟩
    rw [hvalue, hpoint]
    exact hrounds
  next hnone =>
    have hlast := List.findSome?_eq_none_iff.mp hnone 16 (by decide)
    rw [Option.map_eq_none_iff] at hlast
    rw [hlast] at hsome
    cases hsome

end Binary64

end Docwright
