import Mathlib
import Docwright.Number.Shortest

/-!
# Rounding

The arithmetic of the binary format is whole-number arithmetic; here it is told in rationals.

* `Nearest` — the **nearest** whole number, of two the even one. Both divisions of the library that
  round give it.
* `Rounds` — the numbers that **round** to a value `m * 2 ^ e`, measured in units of its last place.
  They are what the basin of the value holds (`holds_basin_iff`).

A quotient that rounds to a value of the format is made that value (`ofRatio_of_rounds`), and a
decimal that rounds to it is read as it (`ofDecimal_of_rounds`): the cut for powers of ten far out
of range never gets in the way, because what rounds to a value is in range.
-/

namespace Docwright

namespace Binary64

/-! ## The nearest whole number -/

/-- The whole number nearest to `x`, the even one of two. -/
def Nearest (x : ℚ) (m : Nat) : Prop :=
  |x - m| ≤ 1 / 2 ∧ (|x - m| = 1 / 2 → m % 2 = 0)

/-- There is only one nearest number. -/
theorem Nearest.unique {x : ℚ} {a b : Nat} (ha : Nearest x a) (hb : Nearest x b) : a = b := by
  wlog hlt : a < b generalizing a b with hswap
  · rcases Nat.lt_or_eq_of_le (Nat.not_lt.mp hlt) with h | h
    · exact (hswap hb ha h).symm
    · exact h.symm
  obtain ⟨hale, hatie⟩ := ha
  obtain ⟨hble, hbtie⟩ := hb
  rw [abs_le] at hale hble
  -- neighbours whose middle is `x`
  have hnext : b = a + 1 := by
    have : (b : ℚ) ≤ a + 1 := by linarith
    have : b ≤ a + 1 := by exact_mod_cast this
    omega
  subst hnext
  push_cast at hble hbtie
  have hx : x = a + 1 / 2 := by linarith
  have heven : a % 2 = 0 := hatie (by rw [hx]; norm_num)
  have hodd : (a + 1) % 2 = 0 := hbtie (by rw [hx]; norm_num [abs_of_neg])
  omega

theorem twoTo_eq (k : Nat) : (twoTo k : ℚ) = 2 ^ k := by
  simp [twoTo]

theorem twoTo_pos (k : Nat) : 0 < twoTo k := Nat.pow_pos (by decide)

/-- The two powers of two that stand for one with a whole exponent. -/
theorem twoTo_div_twoTo (e : Int) : (twoTo e.toNat : ℚ) / twoTo (-e).toNat = 2 ^ e := by
  rw [twoTo_eq, twoTo_eq]
  rcases Int.le_total 0 e with h | h
  · obtain ⟨k, rfl⟩ := Int.eq_ofNat_of_zero_le h
    simp
  · obtain ⟨k, hk⟩ := Int.eq_ofNat_of_zero_le (Int.neg_nonneg_of_nonpos h)
    obtain rfl : e = -k := by omega
    simp

/-- A rounded quotient is nearest to the quotient. -/
theorem nearest_roundDiv (n : Nat) {d : Nat} (hd : 0 < d) : Nearest (n / d) (roundDiv n d) := by
  have hd' : (0 : ℚ) < d := by exact_mod_cast hd
  have hn : (n : ℚ) = d * (n / d : Nat) + (n % d : Nat) := by
    exact_mod_cast (Nat.div_add_mod n d).symm
  set q := n / d with hq
  set r := n % d with hr
  have hx : (n : ℚ) / d = q + r / d := by
    rw [hn, add_div, mul_div_cancel_left₀ _ hd'.ne']
  have hr0 : (0 : ℚ) ≤ r / d := by positivity
  have hr1 : (r : ℚ) / d < 1 := by
    rw [div_lt_one hd']
    exact_mod_cast Nat.mod_lt n hd
  rw [hx, roundDiv, ← hq, ← hr]
  split_ifs with hlow hhigh
  · have hf : (r : ℚ) / d < 1 / 2 := by
      rw [div_lt_div_iff₀ hd' (by norm_num)]
      exact_mod_cast (by omega : r * 2 < 1 * d)
    have habs : |(q : ℚ) + r / d - q| = r / d := by rw [add_sub_cancel_left, abs_of_nonneg hr0]
    rw [Nearest, habs]
    exact ⟨hf.le, fun h => absurd h hf.ne⟩
  · have hf : 1 / 2 < (r : ℚ) / d := by
      rw [div_lt_div_iff₀ (by norm_num) hd']
      exact_mod_cast (by omega : 1 * d < r * 2)
    have habs : |(q : ℚ) + r / d - (q + 1 : Nat)| = 1 - r / d := by
      push_cast
      rw [abs_of_neg (by linarith)]
      ring
    rw [Nearest, habs]
    exact ⟨by linarith, fun h => absurd h (by linarith)⟩
  · have hf : (r : ℚ) / d = 1 / 2 := by
      rw [div_eq_div_iff hd'.ne' (by norm_num)]
      exact_mod_cast (by omega : r * 2 = 1 * d)
    rw [Nearest, hf]
    rcases Nat.mod_two_eq_zero_or_one q with h | h
    · rw [h]
      norm_num [h]
    · rw [h]
      push_cast
      norm_num
      omega

/-- So it is when the quotient is scaled. -/
theorem nearest_roundScaled (n : Nat) {d : Nat} (hd : 0 < d) (e : Int) :
    Nearest ((n : ℚ) / d / 2 ^ e) (roundScaled n d e) := by
  have hpow := twoTo_div_twoTo e
  unfold roundScaled
  split_ifs with he
  · have hzero : (-e).toNat = 0 := by omega
    have hx : (n : ℚ) / d / 2 ^ e = n / (d * twoTo e.toNat : Nat) := by
      rw [← hpow, hzero]
      simp [twoTo, div_div]
    rw [hx]
    exact nearest_roundDiv n (Nat.mul_pos hd (twoTo_pos _))
  · have hzero : e.toNat = 0 := by omega
    have hx : (n : ℚ) / d / 2 ^ e = (n * twoTo (-e).toNat : Nat) / d := by
      rw [← hpow, hzero]
      have : (0 : ℚ) < twoTo (-e).toNat := by exact_mod_cast twoTo_pos _
      have : (0 : ℚ) < d := by exact_mod_cast hd
      push_cast
      simp only [twoTo_eq, pow_zero]
      field_simp
    rw [hx]
    exact nearest_roundDiv _ hd

/-! ## Quotients -/

/-- The two ways to compare a power of two with a quotient say the same. -/
theorem two_zpow_le_div_iff {n d : Nat} (hd : 0 < d) (k : Int) :
    (2 : ℚ) ^ k ≤ n / d ↔
      if 0 ≤ k then d * twoTo k.toNat ≤ n else d ≤ n * twoTo (-k).toNat := by
  have hd' : (0 : ℚ) < d := by exact_mod_cast hd
  have hpos : (0 : ℚ) < twoTo (-k).toNat := by exact_mod_cast twoTo_pos _
  have hcross : (2 : ℚ) ^ k ≤ n / d ↔ d * twoTo k.toNat ≤ n * twoTo (-k).toNat := by
    rw [← twoTo_div_twoTo k, div_le_div_iff₀ hpos hd', mul_comm (d : Nat)]
    exact_mod_cast Iff.rfl
  rw [hcross]
  split_ifs with h
  · rw [show (-k).toNat = 0 by omega, show twoTo 0 = 1 from rfl, Nat.mul_one]
  · rw [show k.toNat = 0 by omega, show twoTo 0 = 1 from rfl, Nat.mul_one]

/-- **The binary logarithm** is the largest power of two below a quotient. -/
theorem binaryLog_eq {n d : Nat} (hn : 0 < n) (hd : 0 < d) :
    binaryLog n d = Int.log 2 ((n : ℚ) / d) := by
  have hn' : (0 : ℚ) < n := by exact_mod_cast hn
  have hd' : (0 : ℚ) < d := by exact_mod_cast hd
  have hquot : (0 : ℚ) < n / d := div_pos hn' hd'
  have hnl : (2 : ℚ) ^ n.log2 ≤ n := by exact_mod_cast Nat.log2_self_le hn.ne'
  have hnu : (n : ℚ) < 2 ^ (n.log2 + 1) := by exact_mod_cast Nat.lt_log2_self
  have hdl : (2 : ℚ) ^ d.log2 ≤ d := by exact_mod_cast Nat.log2_self_le hd.ne'
  have hdu : (d : ℚ) < 2 ^ (d.log2 + 1) := by exact_mod_cast Nat.lt_log2_self
  -- the difference of the logarithms is right or one too large
  have hupper : (n : ℚ) / d < (2 : Nat) ^ ((n.log2 : Int) - d.log2 + 1) := by
    calc (n : ℚ) / d < 2 ^ (n.log2 + 1) / d := by gcongr
      _ ≤ 2 ^ (n.log2 + 1) / 2 ^ d.log2 := by gcongr
      _ = (2 : Nat) ^ ((n.log2 : Int) - d.log2 + 1) := by
        rw [← zpow_natCast, ← zpow_natCast, ← zpow_sub₀ two_ne_zero]
        congr 1
        push_cast
        ring
  have hlower : ((2 : Nat) : ℚ) ^ ((n.log2 : Int) - d.log2 - 1) ≤ n / d := by
    calc ((2 : Nat) : ℚ) ^ ((n.log2 : Int) - d.log2 - 1)
        = 2 ^ n.log2 / 2 ^ (d.log2 + 1) := by
          rw [← zpow_natCast, ← zpow_natCast, ← zpow_sub₀ two_ne_zero]
          congr 1
          push_cast
          ring
      _ ≤ n / 2 ^ (d.log2 + 1) := by gcongr
      _ ≤ n / d := by gcongr
  have hbelow := (Int.lt_zpow_iff_log_lt one_lt_two hquot).mp hupper
  have habove := (Int.zpow_le_iff_le_log one_lt_two hquot).mp hlower
  have hreached :=
    (Int.zpow_le_iff_le_log (x := (n.log2 : Int) - d.log2) one_lt_two hquot).symm.trans
      (two_zpow_le_div_iff hd _)
  unfold binaryLog
  dsimp only
  by_cases h : (n.log2 : Int) - d.log2 ≤ Int.log 2 ((n : ℚ) / d)
  · rw [if_pos (hreached.mp h)]
    omega
  · rw [if_neg (mt hreached.mpr h)]
    omega

/-! ## What rounds to a value -/

/-- The values that the format has: a significand of 53 bits, of which the first is set unless the
exponent is the smallest. -/
def InFormat : Binary64 → Prop
  | .finite _ m e =>
    m < 2 ^ 53 ∧ minExponent ≤ e ∧ e ≤ maxExponent ∧ (2 ^ 52 ≤ m ∨ e = minExponent)
  | _ => True

/-- How far the basin reaches below a value, in units of its last place. -/
def reach (m : Nat) (e : Int) : ℚ :=
  if m = 2 ^ 52 ∧ minExponent < e then 1 / 4 else 1 / 2

/-- A basin reaches no further than half a step. -/
theorem reach_le (m : Nat) (e : Int) : reach m e ≤ 1 / 2 := by
  unfold reach
  split_ifs <;> norm_num

/-- A number rounds to `m * 2 ^ e`: in units of the last place it lies around `m`, and at the ends
of that interval `m` has to be even. -/
def Rounds (x : ℚ) (m : Nat) (e : Int) : Prop :=
  m - reach m e ≤ x / 2 ^ e ∧ x / 2 ^ e ≤ m + 1 / 2 ∧
    (m % 2 = 1 → m - reach m e < x / 2 ^ e ∧ x / 2 ^ e < m + 1 / 2)

/-- **The basin of a value** holds the numbers that round to it. -/
theorem holds_basin_iff {m n d : Nat} {e : Int} (hm : 0 < m) (hd : 0 < d) :
    (basin m e).holds n d = true ↔ Rounds (n / d) m e := by
  have hunit : (0 : ℚ) < 4 * twoTo e.toNat * d := by
    have : (0 : ℚ) < twoTo e.toNat := by exact_mod_cast twoTo_pos _
    have : (0 : ℚ) < d := by exact_mod_cast hd
    positivity
  -- all three numbers over the same denominator
  have hvalue : (n : ℚ) / d / 2 ^ e =
      (n * (basin m e).denominator : Nat) / (4 * twoTo e.toNat * d) := by
    have h₁ : (0 : ℚ) < twoTo e.toNat := by exact_mod_cast twoTo_pos _
    have h₂ : (0 : ℚ) < twoTo (-e).toNat := by exact_mod_cast twoTo_pos _
    have h₃ : (0 : ℚ) < d := by exact_mod_cast hd
    rw [← twoTo_div_twoTo, basin]
    push_cast
    field_simp
  have hlow : (m : ℚ) - reach m e = ((basin m e).low * d : Nat) / (4 * twoTo e.toNat * d) := by
    have h₁ : (0 : ℚ) < twoTo e.toNat := by exact_mod_cast twoTo_pos _
    have h₃ : (0 : ℚ) < d := by exact_mod_cast hd
    have h52 : (m = twoTo 52 ∧ minExponent < e) = (m = 2 ^ 52 ∧ minExponent < e) := rfl
    simp only [basin, reach, h52]
    split_ifs
    · push_cast [Nat.cast_sub (show 1 ≤ 4 * m by omega)]
      field_simp
    · push_cast [Nat.cast_sub (show 2 ≤ 4 * m by omega)]
      field_simp
      ring
  have hhigh : (m : ℚ) + 1 / 2 = ((basin m e).high * d : Nat) / (4 * twoTo e.toNat * d) := by
    have h₁ : (0 : ℚ) < twoTo e.toNat := by exact_mod_cast twoTo_pos _
    have h₃ : (0 : ℚ) < d := by exact_mod_cast hd
    rw [basin]
    push_cast
    field_simp
    ring
  rw [Rounds, hvalue, hlow, hhigh, div_le_div_iff_of_pos_right hunit,
    div_le_div_iff_of_pos_right hunit, div_lt_div_iff_of_pos_right hunit,
    div_lt_div_iff_of_pos_right hunit, Nat.cast_le, Nat.cast_le, Nat.cast_lt, Nat.cast_lt,
    Basin.holds]
  rcases Nat.mod_two_eq_zero_or_one m with h | h
  · have hclosed : (basin m e).closed = true := by simp [basin, h]
    simp [hclosed, h]
  · have hopen : (basin m e).closed = false := by simp [basin, h]
    simp only [hopen, Bool.false_eq_true, if_false, Bool.and_eq_true, decide_eq_true_eq]
    constructor
    · rintro ⟨h₁, h₂⟩
      exact ⟨h₁.le, h₂.le, fun _ => ⟨h₁, h₂⟩⟩
    · rintro ⟨-, -, hstrict⟩
      exact hstrict h

/-- What rounds to a value is nearest to its significand, in units of the last place. -/
theorem Rounds.nearest {x : ℚ} {m : Nat} {e : Int} (h : Rounds x m e) : Nearest (x / 2 ^ e) m := by
  obtain ⟨hlow, hhigh, hodd⟩ := h
  have hreach := reach_le m e
  refine ⟨abs_le.mpr ⟨by linarith, by linarith⟩, fun htie => ?_⟩
  by_contra hne
  obtain ⟨hlow', hhigh'⟩ := hodd (by omega)
  have : |x / 2 ^ e - m| < 1 / 2 := abs_lt.mpr ⟨by linarith, by linarith⟩
  exact absurd htie this.ne

/-- **Rounding back.** A quotient that rounds to a value of the format is made that value. -/
theorem ofRatio_of_rounds {negative : Bool} {m n d : Nat} {e : Int}
    (hformat : (finite negative m e).InFormat) (hn : 0 < n) (hd : 0 < d)
    (hrounds : Rounds (n / d) m e) : ofRatio negative n d = .finite negative m e := by
  obtain ⟨hm, hmin, hmax, hfull⟩ := hformat
  have hnearest := hrounds.nearest
  obtain ⟨hlow, hhigh, -⟩ := hrounds
  have hlog : ∀ k : Nat, e + k ≤ Int.log 2 ((n : ℚ) / d) ↔ (2 : ℚ) ^ k ≤ n / d / 2 ^ e := by
    intro k
    rw [← Int.zpow_le_iff_le_log one_lt_two (by positivity), Nat.cast_ofNat,
      zpow_add₀ two_ne_zero, zpow_natCast, mul_comm]
    exact (le_div_iff₀ (by positivity)).symm
  rw [ofRatio, if_neg hn.ne', binaryLog_eq hn hd]
  dsimp only
  by_cases hplace : (2 : ℚ) ^ 52 ≤ n / d / 2 ^ e ∨ e = minExponent
  · -- the last place of the quotient is that of the value
    have hexponent : max (Int.log 2 ((n : ℚ) / d) - 52) minExponent = e := by
      have hbelow : ¬ (2 : ℚ) ^ 53 ≤ n / d / 2 ^ e := by
        have : (m : ℚ) + 1 ≤ 2 ^ 53 := by exact_mod_cast hm
        linarith
      have h₅₃ := mt (hlog 53).mp hbelow
      rcases hplace with hplace | rfl
      · have h₅₂ := (hlog 52).mpr hplace
        omega
      · omega
    have hdigits : roundScaled n d e = m := (nearest_roundScaled n hd e).unique hnearest
    rw [hexponent, hdigits, if_neg (show m ≠ twoTo 53 from hm.ne)]
    dsimp only
    rw [if_neg (Int.not_lt.mpr hmax)]
  · -- the quotient lies below the power of two that the value is: its last place is half as
    -- large, and it is rounded up to the power
    simp only [not_or, not_le] at hplace
    obtain ⟨hbelow, hne⟩ := hplace
    have hpower : m = 2 ^ 52 := by
      have hfull : 2 ^ 52 ≤ m := hfull.resolve_right hne
      have : (m : ℚ) < 2 ^ 52 + 1 := by linarith [reach_le m e]
      have : m < 2 ^ 52 + 1 := by exact_mod_cast this
      omega
    rw [hpower, reach, if_pos ⟨rfl, by omega⟩] at hlow
    push_cast at hlow
    have hexponent : max (Int.log 2 ((n : ℚ) / d) - 52) minExponent = e - 1 := by
      have h₅₂ := mt (hlog 52).mp hbelow.not_ge
      have h₅₁ := (hlog 51).mpr (by linarith)
      omega
    have hdigits : roundScaled n d (e - 1) = twoTo 53 := by
      have hdouble : (n : ℚ) / d / 2 ^ (e - 1) = 2 * (n / d / 2 ^ e) := by
        rw [zpow_sub_one₀ two_ne_zero]
        field_simp
      refine (nearest_roundScaled n hd (e - 1)).unique ⟨abs_le.mpr ?_, fun _ => rfl⟩
      rw [hdouble, twoTo_eq]
      exact ⟨by linarith, by linarith⟩
    rw [hexponent, hdigits, if_pos rfl, hpower]
    dsimp only
    rw [Int.sub_add_cancel, if_neg (Int.not_lt.mpr hmax)]
    rfl

/-! ## Decimals -/

theorem tenTo_eq (k : Nat) : (tenTo k : ℚ) = 10 ^ k := by
  simp [tenTo]

theorem tenTo_pos (k : Nat) : 0 < tenTo k := Nat.pow_pos (by decide)

theorem tenTo_div_tenTo (e : Int) : (tenTo e.toNat : ℚ) / tenTo (-e).toNat = 10 ^ e := by
  rw [tenTo_eq, tenTo_eq]
  rcases Int.le_total 0 e with h | h
  · obtain ⟨k, rfl⟩ := Int.eq_ofNat_of_zero_le h
    simp
  · obtain ⟨k, hk⟩ := Int.eq_ofNat_of_zero_le (Int.neg_nonneg_of_nonpos h)
    obtain rfl : e = -k := by omega
    simp

theorem decimalLength_le_iff {n k : Nat} (hk : 0 < k) : decimalLength n ≤ k ↔ n < 10 ^ k :=
  Nat.length_toDigits_le_iff (by decide) hk

theorem decimalLength_pos (n : Nat) : 0 < decimalLength n := Nat.length_toDigits_pos

/-- A positive number starts in the place that its length says. -/
theorem le_of_decimalLength {n : Nat} (hn : 0 < n) : 10 ^ (decimalLength n - 1) ≤ n := by
  by_contra h
  rcases Nat.eq_zero_or_pos (decimalLength n - 1) with hzero | hpos
  · rw [hzero] at h
    omega
  · have := (decimalLength_le_iff hpos).mpr (Nat.not_le.mp h)
    have := decimalLength_pos n
    omega

theorem lt_of_decimalLength (n : Nat) : n < 10 ^ decimalLength n :=
  (decimalLength_le_iff (decimalLength_pos n)).mp le_rfl

theorem zpow_neg_le_half {a b : Nat} (h : 2 ^ (a + 1) ≤ 10 ^ b) :
    (10 : ℚ) ^ (-(b : Int)) ≤ 1 / 2 * 2 ^ (-(a : Int)) := by
  have h' : (2 : ℚ) * 2 ^ a ≤ 10 ^ b := by exact_mod_cast (Nat.pow_succ' ▸ h)
  rw [zpow_neg, zpow_neg, zpow_natCast, zpow_natCast, one_div, ← mul_inv]
  exact inv_anti₀ (by positivity) h'

/-- What rounds to a positive value of the format is neither too small nor too large for it. -/
theorem Rounds.bounds {negative : Bool} {x : ℚ} {m : Nat} {e : Int}
    (hformat : (finite negative m e).InFormat) (hm : 0 < m) (h : Rounds x m e) :
    (10 : ℚ) ^ (-330 : Int) ≤ x ∧ x < 10 ^ (309 : Int) := by
  obtain ⟨hlt, hmin, hmax, -⟩ := hformat
  obtain ⟨hlow, hhigh, -⟩ := h
  have hpow : (0 : ℚ) < 2 ^ e := by positivity
  have hone : (1 : ℚ) ≤ m := by exact_mod_cast hm
  have hm' : (m : ℚ) + 1 ≤ 2 ^ 53 := by exact_mod_cast hlt
  rw [le_div_iff₀ hpow] at hlow
  rw [div_le_iff₀ hpow] at hhigh
  constructor
  · calc (10 : ℚ) ^ (-330 : Int) ≤ 1 / 2 * 2 ^ (-1074 : Int) :=
          zpow_neg_le_half (a := 1074) (b := 330) (by decide +kernel)
      _ ≤ 1 / 2 * 2 ^ e := by
        gcongr
        · norm_num
        · exact hmin
      _ ≤ (m - Binary64.reach m e) * 2 ^ e := by
        gcongr
        linarith [reach_le m e]
      _ ≤ x := hlow
  · have hnat : 2 ^ 53 * 2 ^ 971 < 10 ^ 309 := by decide +kernel
    calc x ≤ (m + 1 / 2) * 2 ^ e := hhigh
      _ ≤ 2 ^ 53 * 2 ^ (971 : Int) := by
        gcongr
        · linarith
        · norm_num
        · exact hmax
      _ < 10 ^ (309 : Int) := by exact_mod_cast hnat

/-- **Reading back.** A decimal that rounds to a value of the format is read as that value. -/
theorem ofDecimal_of_rounds {negative : Bool} {m n : Nat} {e k : Int}
    (hformat : (finite negative m e).InFormat) (hm : 0 < m)
    (h : Rounds (n * (10 : ℚ) ^ k) m e) : ofDecimal negative n k = .finite negative m e := by
  obtain ⟨hsmall, hlarge⟩ := h.bounds hformat hm
  have hn : 0 < n := by
    rcases Nat.eq_zero_or_pos n with rfl | hn
    · have : (0 : ℚ) < 10 ^ (-330 : Int) := by positivity
      rw [Nat.cast_zero, zero_mul] at hsmall
      linarith
    · exact hn
  have hten : (1 : ℚ) < 10 := by norm_num
  have hupper : ¬ 310 < (decimalLength n : Int) + k := by
    intro hreach
    have hpower : (10 : ℚ) ^ (309 : Int) ≤ n * 10 ^ k := by
      calc (10 : ℚ) ^ (309 : Int) ≤ 10 ^ (((decimalLength n - 1 : Nat) : Int) + k) := by
            apply zpow_le_zpow_right₀ hten.le
            have := decimalLength_pos n
            omega
        _ = 10 ^ (decimalLength n - 1) * 10 ^ k := by
            rw [zpow_add₀ (by norm_num), zpow_natCast]
        _ ≤ n * 10 ^ k := by
            gcongr
            exact_mod_cast le_of_decimalLength hn
    linarith
  have hlower : ¬ (decimalLength n : Int) + k < -330 := by
    intro hreach
    have hpower : n * (10 : ℚ) ^ k < 10 ^ (-330 : Int) := by
      calc n * (10 : ℚ) ^ k < 10 ^ decimalLength n * 10 ^ k := by
            gcongr
            exact_mod_cast lt_of_decimalLength n
        _ = 10 ^ ((decimalLength n : Int) + k) := by
            rw [zpow_add₀ (by norm_num), zpow_natCast]
        _ ≤ 10 ^ (-330 : Int) := zpow_le_zpow_right₀ hten.le hreach.le
    linarith
  rw [ofDecimal, if_neg hn.ne', if_neg hupper, if_neg hlower]
  have hvalue := tenTo_div_tenTo k
  split_ifs with hk
  · refine ofRatio_of_rounds hformat (Nat.mul_pos hn (tenTo_pos _)) Nat.one_pos ?_
    rw [show (-k).toNat = 0 by omega, show tenTo 0 = 1 from rfl] at hvalue
    rw [← hvalue, Nat.cast_one, div_one] at h
    rwa [Nat.cast_one, div_one, Nat.cast_mul]
  · refine ofRatio_of_rounds hformat hn (tenTo_pos _) ?_
    rw [show k.toNat = 0 by omega, show tenTo 0 = 1 from rfl] at hvalue
    rwa [← hvalue, Nat.cast_one, mul_one_div] at h

end Binary64

end Docwright
