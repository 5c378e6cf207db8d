import Docwright.Number.Basic
import Docwright.Number.Reading
import Docwright.Proofs.Rounding
import Docwright.Proofs.Text

/-!
# Values of numbers

The exact value of a number, which may be infinite and which the non-number does not have
(`Number.value?`). The comparisons of numbers are those of their values, and they fail where there
is none (`atMost_iff`, `atLeast_iff`). So "not at most" is not "above"
(`atMost_eq_false_iff`).

The non-number is read from its word, with a sign or none and blanks around it, and from nothing
else (`binary?_eq_nan_iff`).
-/

namespace Docwright

/-! ## Values -/

namespace Binary64

/-- The exact value of a finite number. -/
def finiteValue (negative : Bool) (m : Nat) (e : Int) : ℚ :=
  if negative then -((m : ℚ) * 2 ^ e) else (m : ℚ) * 2 ^ e

/-- The exact value. The infinities are the ends of the line, and the non-number has no value. -/
def value? : Binary64 → Option (WithBot (WithTop ℚ))
  | .nan => none
  | .infinite negative => some (if negative then ⊥ else ⊤)
  | .finite negative m e => some (finiteValue negative m e : WithTop ℚ)

theorem ratio_eq (negative : Bool) (m : Nat) (e : Int) :
    ((ratio negative m e).1 : ℚ) / (ratio negative m e).2 = finiteValue negative m e := by
  have hpower : ((m * twoTo e.toNat : Nat) : ℚ) / twoTo (-e).toNat = m * 2 ^ e := by
    rw [Nat.cast_mul, mul_div_assoc, twoTo_div_twoTo]
  rw [ratio, finiteValue, ← hpower]
  cases negative
  · simp
  · simp [neg_div]

theorem ratio_pos (negative : Bool) (m : Nat) (e : Int) :
    (0 : ℚ) < (ratio negative m e).2 := by
  exact_mod_cast twoTo_pos _

/-- At most `k` are the values that are. -/
theorem atMost_iff {x : Binary64} {k : Int} :
    x.atMost k = true ↔ ∃ v, x.value? = some v ∧ v ≤ ((k : ℚ) : WithTop ℚ) := by
  cases x with
  | nan => simp [atMost, value?]
  | infinite negative => cases negative <;> simp [atMost, value?]
  | finite negative m e =>
    have hcast : (ratio negative m e).1 ≤ k * (ratio negative m e).2 ↔
        ((ratio negative m e).1 : ℚ) ≤ k * (ratio negative m e).2 := by
      exact_mod_cast Iff.rfl
    simp only [atMost, value?, decide_eq_true_eq, Option.some.injEq, exists_eq_left',
      WithBot.coe_le_coe, WithTop.coe_le_coe, ← ratio_eq]
    rw [hcast, div_le_iff₀ (ratio_pos negative m e)]

/-- At least `k` are the values that are. -/
theorem atLeast_iff {x : Binary64} {k : Int} :
    x.atLeast k = true ↔ ∃ v, x.value? = some v ∧ ((k : ℚ) : WithTop ℚ) ≤ v := by
  cases x with
  | nan => simp [atLeast, value?]
  | infinite negative => cases negative <;> simp [atLeast, value?]
  | finite negative m e =>
    have hcast : k * (ratio negative m e).2 ≤ (ratio negative m e).1 ↔
        (k * (ratio negative m e).2 : ℚ) ≤ (ratio negative m e).1 := by
      exact_mod_cast Iff.rfl
    simp only [atLeast, value?, decide_eq_true_eq, Option.some.injEq, exists_eq_left',
      WithBot.coe_le_coe, WithTop.coe_le_coe, ← ratio_eq]
    rw [hcast, le_div_iff₀ (ratio_pos negative m e)]

theorem value?_eq_none_iff {x : Binary64} : x.value? = none ↔ x = .nan := by
  cases x <;> simp [value?]

/-- A decimal is a number. -/
theorem ofDecimal_ne_nan (negative : Bool) (n : Nat) (e : Int) : ofDecimal negative n e ≠ .nan := by
  have hratio : ∀ n d, ofRatio negative n d ≠ .nan := by
    intro n d
    unfold ofRatio zero
    dsimp only
    split_ifs <;> simp
  unfold ofDecimal zero
  dsimp only
  split_ifs
  · simp
  · simp
  · simp
  · exact hratio _ _
  · exact hratio _ _

end Binary64

namespace Number

/-- The exact value of a number that has one. -/
def value? : Number → Option (WithBot (WithTop ℚ))
  | .whole n => some ((n : ℚ) : WithTop ℚ)
  | .binary x => x.value?

theorem atMost_iff {x : Number} {k : Int} :
    x.atMost k = true ↔ ∃ v, x.value? = some v ∧ v ≤ ((k : ℚ) : WithTop ℚ) := by
  cases x with
  | whole n => simp [atMost, value?]
  | binary x => exact Binary64.atMost_iff

theorem atLeast_iff {x : Number} {k : Int} :
    x.atLeast k = true ↔ ∃ v, x.value? = some v ∧ ((k : ℚ) : WithTop ℚ) ≤ v := by
  cases x with
  | whole n => simp [atLeast, value?]
  | binary x => exact Binary64.atLeast_iff

theorem value?_eq_none_iff {x : Number} : x.value? = none ↔ x = .binary .nan := by
  cases x with
  | whole n => simp [value?]
  | binary x => simp [value?, Binary64.value?_eq_none_iff]

/-- The number has a value above `k`. -/
def Above (x : Number) (k : Int) : Prop :=
  ∃ v, x.value? = some v ∧ ((k : ℚ) : WithTop ℚ) < v

/-- The number has a value from `low` to `high`. -/
def Within (x : Number) (low high : Int) : Prop :=
  ∃ v, x.value? = some v ∧ ((low : ℚ) : WithTop ℚ) ≤ v ∧ v ≤ ((high : ℚ) : WithTop ℚ)

/-- Not at most `k` are the numbers above it, and the non-number. -/
theorem atMost_eq_false_iff {x : Number} {k : Int} :
    x.atMost k = false ↔ x = .binary .nan ∨ x.Above k := by
  rw [← Bool.not_eq_true, atMost_iff, ← value?_eq_none_iff, Above]
  cases x.value? with
  | none => simp
  | some v => simp

theorem within_iff {x : Number} {low high : Int} :
    x.Within low high ↔ x.atLeast low = true ∧ x.atMost high = true := by
  rw [atLeast_iff, atMost_iff, Within]
  cases x.value? with
  | none => simp
  | some v => simp

/-! ## Spellings of the non-number -/

/-- A blank that may stand around a number: all of them but the four ASCII separators. -/
def isMargin (c : Char) : Bool :=
  Text.isBlank c && !(0x1c ≤ c.toNat && c.toNat ≤ 0x1f)

/-- The text spells the non-number: blanks, a sign or none, its word in any case, and blanks. -/
def SpellsNan (s : List Char) : Prop :=
  ∃ front sign word back, s = front ++ (sign ++ word ++ back) ∧
    (∀ c ∈ front, isMargin c = true) ∧ (∀ c ∈ back, isMargin c = true) ∧
    sign ∈ [[], ['+'], ['-']] ∧ word.map Char.toLower = "nan".toList

theorem digitValue?_lt {c : Char} {v : Nat} (h : Text.digitValue? c = some v) : v < 10 := by
  obtain ⟨first, hfirst, rfl⟩ := Option.map_eq_some_iff.mp h
  have hrange := List.find?_some hfirst
  simp only [Bool.and_eq_true, decide_eq_true_eq] at hrange
  omega

/-- **The ASCII form of a character**: itself, a space, a digit or a question mark. -/
theorem plainChar_cases (c : Char) :
    (c.toNat < 0x7f ∧ plainChar c = c) ∨
      (0x7f ≤ c.toNat ∧
        ((Text.isBlank c = true ∧ plainChar c = ' ') ∨
          (Text.isBlank c = false ∧
            ((∃ v < 10, plainChar c = Char.ofNat (0x30 + v)) ∨ plainChar c = '?')))) := by
  unfold plainChar
  split_ifs with hsmall hblank
  · exact .inl ⟨hsmall, rfl⟩
  · exact .inr ⟨Nat.le_of_not_lt hsmall, .inl ⟨hblank, rfl⟩⟩
  · refine .inr ⟨Nat.le_of_not_lt hsmall, .inr ⟨eq_false_of_ne_true hblank, ?_⟩⟩
    split
    next v hv => exact .inl ⟨v, digitValue?_lt hv, rfl⟩
    next => exact .inr rfl

theorem isAsciiBlank_plainChar (c : Char) : Text.isAsciiBlank (plainChar c) = isMargin c := by
  have hascii : ∀ n < 0x7f, Text.isAsciiBlank (Char.ofNat n) = isMargin (Char.ofNat n) := by
    decide +kernel
  have hdigits : ∀ v < 10, Text.isAsciiBlank (Char.ofNat (0x30 + v)) = false := by decide
  rcases plainChar_cases c with ⟨hsmall, hc⟩ | ⟨hlarge, ⟨hblank, hc⟩ | ⟨hblank, ⟨v, hv, hc⟩ | hc⟩⟩
  · rw [hc]
    exact Text.of_toNat_lt (P := fun c => Text.isAsciiBlank c = isMargin c) hascii hsmall
  · have houtside : ¬ c.toNat ≤ 0x1f := by omega
    rw [hc, isMargin, hblank, decide_eq_false houtside, Bool.and_false]
    decide
  · rw [hc, hdigits v hv, isMargin, hblank, Bool.false_and]
  · rw [hc, isMargin, hblank, Bool.false_and]
    decide

/-- The letters and signs of the non-number. -/
def nanChars : List Char :=
  ['+', '-', 'n', 'N', 'a', 'A']

/-- The letters of the non-number stand for themselves only. -/
theorem eq_of_plainChar_mem {c : Char} (h : plainChar c ∈ nanChars) : plainChar c = c := by
  have hdigits : ∀ v < 10, Char.ofNat (0x30 + v) ∉ nanChars := by decide
  rcases plainChar_cases c with ⟨-, hc⟩ | ⟨-, ⟨-, hc⟩ | ⟨-, ⟨v, hv, hc⟩ | hc⟩⟩
  · exact hc
  · exact absurd (hc ▸ h) (by decide)
  · exact absurd (hc ▸ h) (hdigits v hv)
  · exact absurd (hc ▸ h) (by decide)

/-- A letter or sign of the non-number is in ASCII, no blank and no digit. -/
theorem of_mem_nanChars {c : Char} (h : c ∈ nanChars) :
    plainChar c = c ∧ Text.isAsciiBlank c = false ∧ c.isDigit = false := by
  simp only [nanChars, List.mem_cons, List.not_mem_nil, or_false] at h
  rcases h with rfl | rfl | rfl | rfl | rfl | rfl <;> decide

/-- A character is the lower or the upper case of its lower case. -/
theorem eq_or_eq_toUpper {c d : Char} (h : c.toLower = d) : c = d ∨ c = d.toUpper := by
  rw [← h]
  by_cases hupper : c.val ≥ 'A'.val ∧ c.val ≤ 'Z'.val
  · have hascii : ∀ n < 0x80, Char.ofNat n = (Char.ofNat n).toLower ∨
        Char.ofNat n = (Char.ofNat n).toLower.toUpper := by
      decide +kernel
    have hsmall : c.toNat < 0x80 := lt_of_le_of_lt (UInt32.le_iff_toNat_le.mp hupper.2) (by decide)
    exact Text.of_toNat_lt (P := fun c => c = c.toLower ∨ c = c.toLower.toUpper) hascii hsmall
  · left
    rw [Char.toLower, dif_neg hupper]

/-- The word of the non-number has its letters in either case. -/
theorem word_cases {word : List Char} (h : word.map Char.toLower = "nan".toList) :
    ∃ x y z, word = [x, y, z] ∧ (x = 'n' ∨ x = 'N') ∧ (y = 'a' ∨ y = 'A') ∧
      (z = 'n' ∨ z = 'N') := by
  obtain ⟨x, rest, rfl, hx, hrest⟩ := List.map_eq_cons_iff.mp h
  obtain ⟨y, rest, rfl, hy, hrest⟩ := List.map_eq_cons_iff.mp hrest
  obtain ⟨z, rest, rfl, hz, hrest⟩ := List.map_eq_cons_iff.mp hrest
  rw [List.map_eq_nil_iff.mp hrest]
  exact ⟨x, y, z, rfl, eq_or_eq_toUpper hx, eq_or_eq_toUpper hy, eq_or_eq_toUpper hz⟩

theorem mem_nanChars {sign word : List Char} (hsign : sign ∈ [[], ['+'], ['-']])
    (hword : word.map Char.toLower = "nan".toList) : ∀ c ∈ sign ++ word, c ∈ nanChars := by
  obtain ⟨x, y, z, rfl, hx, hy, hz⟩ := word_cases hword
  have hletters : ∀ c ∈ [x, y, z], c ∈ nanChars := by
    simp only [List.forall_mem_cons, nanChars]
    rcases hx with rfl | rfl <;> rcases hy with rfl | rfl <;> rcases hz with rfl | rfl <;> simp
  simp only [List.mem_cons, List.not_mem_nil, or_false] at hsign
  rintro c hc
  rcases List.mem_append.mp hc with hc | hc
  · rcases hsign with rfl | rfl | rfl <;> simp_all [nanChars]
  · exact hletters c hc

/-- The text in ASCII between its blanks. -/
theorem exists_plainText_append (s : List Char) :
    ∃ front back, (∀ c ∈ front, Text.isAsciiBlank c = true) ∧
      (∀ c ∈ back, Text.isAsciiBlank c = true) ∧
      s.map plainChar = front ++ (plainText s ++ back) :=
  ⟨(s.map plainChar).takeWhile Text.isAsciiBlank,
    ((s.map plainChar).dropWhile Text.isAsciiBlank).rtakeWhile Text.isAsciiBlank,
    fun _ hc => List.mem_takeWhile_imp hc, fun _ hc => List.mem_rtakeWhile_imp hc,
    by rw [plainText, ← List.rdropWhile, List.rdropWhile_append_rtakeWhile,
      List.takeWhile_append_dropWhile]⟩

/-- A text that starts and ends with no blank is what is left between its blanks. -/
theorem plainText_of_map {s front text back : List Char}
    (hs : s.map plainChar = front ++ (text ++ back))
    (hfront : ∀ c ∈ front, Text.isAsciiBlank c = true)
    (hback : ∀ c ∈ back, Text.isAsciiBlank c = true) (hne : text ≠ [])
    (htext : ∀ c ∈ text, Text.isAsciiBlank c = false) : plainText s = text := by
  have hstart : ∀ c, (text ++ back).head? = some c → Text.isAsciiBlank c = false := by
    intro c hc
    rw [List.head?_append_of_ne_nil _ hne] at hc
    exact htext c (List.mem_of_head? hc)
  have hend : ∀ c, text.reverse.head? = some c → Text.isAsciiBlank c = false :=
    fun c hc => htext c (List.mem_reverse.mp (List.mem_of_head? hc))
  rw [plainText, hs, Text.dropWhile_append_of_stop hfront hstart, List.reverse_append,
    Text.dropWhile_append_of_stop (fun c hc => hback c (List.mem_reverse.mp hc)) hend,
    List.reverse_reverse]

/-- **What stands between the margins** is left in ASCII as it is, if it holds nothing but letters
and signs of the non-number. -/
theorem plainText_eq_iff {s text : List Char} (hne : text ≠ []) (hmem : ∀ c ∈ text, c ∈ nanChars) :
    plainText s = text ↔ ∃ front back, s = front ++ (text ++ back) ∧
      (∀ c ∈ front, isMargin c = true) ∧ ∀ c ∈ back, isMargin c = true := by
  have hmargin : ∀ part : List Char, (∀ c ∈ part.map plainChar, Text.isAsciiBlank c = true) ↔
      ∀ c ∈ part, isMargin c = true := by
    intro part
    simp only [List.forall_mem_map, isAsciiBlank_plainChar]
  constructor
  · intro h
    obtain ⟨front', back', hfront, hback, hmap⟩ := exists_plainText_append s
    obtain ⟨front, rest, rfl, rfl, hrest⟩ := List.map_eq_append_iff.mp hmap
    obtain ⟨middle, back, rfl, hmiddle, rfl⟩ := List.map_eq_append_iff.mp hrest
    rw [h] at hmiddle
    have hsame : ∀ c ∈ middle, plainChar c = c := by
      intro c hc
      refine eq_of_plainChar_mem (hmem _ ?_)
      rw [← hmiddle]
      exact List.mem_map_of_mem hc
    rw [List.map_congr_left hsame, List.map_id'] at hmiddle
    exact ⟨front, back, by rw [hmiddle], (hmargin front).mp hfront, (hmargin back).mp hback⟩
  · rintro ⟨front, back, rfl, hfront, hback⟩
    have hmap : (front ++ (text ++ back)).map plainChar =
        front.map plainChar ++ (text ++ back.map plainChar) := by
      rw [List.map_append, List.map_append,
        List.map_congr_left fun c hc => (of_mem_nanChars (hmem c hc)).1, List.map_id']
    exact plainText_of_map hmap ((hmargin front).mpr hfront) ((hmargin back).mpr hback) hne
      fun c hc => (of_mem_nanChars (hmem c hc)).2.1

/-- Without digits there are no underscores to be dropped. -/
theorem eq_of_dropUnderscores? {before : Char} {s t : List Char}
    (h : dropUnderscores? before s = some t) (hbefore : before.isDigit = false)
    (ht : ∀ c ∈ t, c.isDigit = false) : s = t := by
  induction s generalizing before t with
  | nil =>
    rw [dropUnderscores?] at h
    split_ifs at h
    exact Option.some.inj h
  | cons c s ih =>
    have hc : c ≠ '_' := by
      rintro rfl
      simp [dropUnderscores?, hbefore] at h
    rw [dropUnderscores?, if_neg hc] at h
    split_ifs at h
    obtain ⟨rest, hrest, rfl⟩ := Option.map_eq_some_iff.mp h
    obtain ⟨hc, hrest'⟩ := List.forall_mem_cons.mp ht
    rw [ih hrest hc hrest']

theorem exists_sign (s : List Char) :
    ∃ sign ∈ [[], ['+'], ['-']], s = sign ++ (splitSign s).2 := by
  unfold splitSign
  split
  · exact ⟨['-'], by simp, rfl⟩
  · exact ⟨['+'], by simp, rfl⟩
  · exact ⟨[], by simp, rfl⟩

/-- **The non-number is read** where it is spelt. -/
theorem binary?_eq_nan_iff {s : List Char} : binary? s = some .nan ↔ SpellsNan s := by
  constructor
  · intro h
    unfold binary? at h
    split at h
    · cases h
    next text htext =>
      obtain ⟨sign, hsign, hsplit⟩ := exists_sign text
      dsimp only at h
      split_ifs at h with hinfinite hnan
      · cases h
      · -- letters and signs only, so the text was taken as it is, character by character
        have hmem : ∀ c ∈ text, c ∈ nanChars := by
          rw [hsplit]
          exact mem_nanChars hsign hnan
        have hplain : plainText s = text := eq_of_dropUnderscores? htext (by decide) fun c hc =>
          (of_mem_nanChars (hmem c hc)).2.2
        have hne : text ≠ [] := by
          rintro rfl
          exact absurd hnan (by decide)
        obtain ⟨front, back, hs, hfront, hback⟩ := (plainText_eq_iff hne hmem).mp hplain
        exact ⟨front, sign, (splitSign text).2, back, by rw [← hsplit, hs], hfront, hback, hsign,
          hnan⟩
      · obtain ⟨⟨n, e⟩, -, hvalue⟩ := Option.map_eq_some_iff.mp h
        exact absurd hvalue (Binary64.ofDecimal_ne_nan _ n e)
  · rintro ⟨front, sign, word, back, rfl, hfront, hback, hsign, hword⟩
    have hmem := mem_nanChars hsign hword
    obtain ⟨x, y, z, rfl, hx, hy, hz⟩ := word_cases hword
    have hplain : plainText (front ++ (sign ++ [x, y, z] ++ back)) = sign ++ [x, y, z] :=
      (plainText_eq_iff (by simp) hmem).mpr ⟨front, back, rfl, hfront, hback⟩
    rw [binary?, hplain]
    fin_cases hsign <;> rcases hx with rfl | rfl <;> rcases hy with rfl | rfl <;>
      rcases hz with rfl | rfl <;> rfl

theorem not_allBlank_of_spellsNan {s : List Char} (h : SpellsNan s) : Text.allBlank s = false := by
  obtain ⟨front, sign, word, back, rfl, -, -, -, hword⟩ := h
  obtain ⟨x, y, z, rfl, hx, -, -⟩ := word_cases hword
  have hblank : Text.isBlank x = false := by rcases hx with rfl | rfl <;> decide
  simp [Text.allBlank, hblank]

end Number

end Docwright
