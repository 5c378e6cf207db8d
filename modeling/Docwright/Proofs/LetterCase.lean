import Docwright.Proofs.Text
import Docwright.Text.LetterCase

/-!
# Upper case

A text in upper case stays as it is when it is put in upper case once more, if the result is ASCII
(`upper_upper_of_ascii`); for a comparison with words in ASCII this is enough. The characters that
turn into ASCII are few (`turnsAscii`). None of them is left in upper case
(`turnsAscii_of_mem_upperChar`), and any other character that ends in ASCII was there from the start
(`upperChar_eq_self`).
-/

namespace Docwright

namespace Text

/-- The code points beyond ASCII whose upper case is ASCII. -/
def asciiSources : List Nat :=
  [0xdf, 0x131, 0x17f, 0xfb00, 0xfb01, 0xfb02, 0xfb03, 0xfb04, 0xfb05, 0xfb06]

/-- Does upper case turn the code point into something else that is ASCII? -/
def turnsAscii (n : Nat) : Bool :=
  (0x61 ≤ n && n ≤ 0x7a) || asciiSources.contains n

theorem turnsAscii_ofNat {n : Nat} (h : turnsAscii n = false) :
    turnsAscii (Char.ofNat n).toNat = false := by
  rw [Char.toNat_ofNat]
  split_ifs
  · exact h
  · decide

/-- **The upper case of a character**: by the rule of ASCII, by the list, by a row, or none. -/
theorem upperChar_cases (c : Char) :
    (c.toNat < 0x80 ∧ upperChar c = [c.toUpper]) ∨
      (0x80 ≤ c.toNat ∧
        ((∃ image, (c.toNat, image) ∈ upperListed ∧ upperChar c = image.map Char.ofNat) ∨
          (∃ row ∈ upperRows, row.first ≤ c.toNat ∧ c.toNat ≤ row.last ∧
            upperChar c = [Char.ofNat (c.toNat + row.shift).toNat]) ∨
          (upperListed.lookup c.toNat = none ∧ upperRows.find? (·.covers c.toNat) = none ∧
            upperChar c = [c]))) := by
  unfold upperChar
  split_ifs with hsmall
  · exact .inl ⟨hsmall, rfl⟩
  · refine .inr ⟨Nat.le_of_not_lt hsmall, ?_⟩
    unfold mapCase
    split
    next image hfound =>
      obtain ⟨before, behind, hsplit, -⟩ := List.lookup_eq_some_iff.mp hfound
      exact .inl ⟨image, by rw [hsplit]; simp, rfl⟩
    next hnone =>
      split
      next row hfound =>
        have hcovers := List.find?_some hfound
        simp only [CaseRow.covers, Bool.and_eq_true, decide_eq_true_eq] at hcovers
        exact .inr (.inl ⟨row, List.mem_of_find?_eq_some hfound, hcovers.1.1, hcovers.1.2, rfl⟩)
      next hnowhere => exact .inr (.inr ⟨hnone, hnowhere, rfl⟩)

theorem turnsAscii_eq_false_iff {n : Nat} :
    turnsAscii n = false ↔ (n < 0x61 ∨ 0x7a < n) ∧ n ∉ asciiSources := by
  simp only [turnsAscii, Bool.or_eq_false_iff, Bool.and_eq_false_iff, decide_eq_false_iff_not,
    Nat.not_le, List.contains_eq_mem]

/-- Nothing in upper case turns into ASCII any more. -/
theorem turnsAscii_of_mem_upperChar {c d : Char} (h : d ∈ upperChar c) :
    turnsAscii d.toNat = false := by
  have hascii : ∀ n < 0x80, turnsAscii (Char.ofNat n).toUpper.toNat = false := by decide +kernel
  have hlisted : ∀ entry ∈ upperListed, ∀ n ∈ entry.2, turnsAscii n = false := by decide +kernel
  have hrows : ∀ row ∈ upperRows,
      ((row.last : Int) + row.shift < 0x61 ∨ 0x7a < (row.first : Int) + row.shift) ∧
        ∀ n ∈ asciiSources,
          (row.last : Int) + row.shift < n ∨ n < (row.first : Int) + row.shift := by
    decide +kernel
  have hsources : ∀ n ∈ asciiSources,
      upperListed.lookup n ≠ none ∨ upperRows.find? (·.covers n) ≠ none := by
    decide +kernel
  have hpos : ∀ n ∈ asciiSources, 0 < n := by decide
  rcases upperChar_cases c with ⟨hsmall, hc⟩ | ⟨hlarge, ⟨image, himage, hc⟩ |
    ⟨row, hrow, hfirst, hlast, hc⟩ | ⟨hnone, hnowhere, hc⟩⟩
  · rw [hc, List.mem_singleton] at h
    rw [h]
    exact of_toNat_lt (P := fun c => turnsAscii c.toUpper.toNat = false) hascii hsmall
  · rw [hc] at h
    obtain ⟨n, hn, rfl⟩ := List.mem_map.mp h
    exact turnsAscii_ofNat (hlisted _ himage n hn)
  · rw [hc, List.mem_singleton] at h
    obtain ⟨hletters, hothers⟩ := hrows row hrow
    rw [h]
    refine turnsAscii_ofNat (turnsAscii_eq_false_iff.mpr ⟨by omega, fun hin => ?_⟩)
    have hrange := hothers _ hin
    have hnonzero := hpos _ hin
    omega
  · rw [hc, List.mem_singleton] at h
    rw [h]
    refine turnsAscii_eq_false_iff.mpr ⟨by omega, fun hin => ?_⟩
    rcases hsources _ hin with hlookup | hfind
    · exact hlookup hnone
    · exact hfind hnowhere

/-- A character whose upper case is ASCII is in upper case already, if it does not turn into
ASCII. -/
theorem upperChar_eq_self {d : Char} (h : turnsAscii d.toNat = false)
    (hupper : ∀ e ∈ upperChar d, e.toNat < 0x80) : upperChar d = [d] := by
  have hascii : ∀ n < 0x80, turnsAscii (Char.ofNat n).toNat = false →
      (Char.ofNat n).toUpper = Char.ofNat n := by
    decide +kernel
  have hlisted : ∀ entry ∈ upperListed,
      turnsAscii entry.1 = true ∨ ∃ n ∈ entry.2, 0x80 ≤ (Char.ofNat n).toNat := by
    decide +kernel
  -- a row starts in ASCII, is a single code point that turns into ASCII, or ends beyond it
  have hrows : ∀ row ∈ upperRows,
      row.last < 0x80 ∨ (row.first = row.last ∧ turnsAscii row.first = true) ∨
        (0x80 ≤ (row.first : Int) + row.shift ∧
          (row.last + row.shift < 0xd800 ∨
            0xdfff < row.first + row.shift ∧ row.last + row.shift < 0x110000)) := by
    decide +kernel
  rcases upperChar_cases d with ⟨hsmall, hd⟩ | ⟨hlarge, ⟨image, himage, hd⟩ |
    ⟨row, hrow, hfirst, hlast, hd⟩ | ⟨-, -, hd⟩⟩
  · have hsame : d.toUpper = d :=
      of_toNat_lt (P := fun d => turnsAscii d.toNat = false → d.toUpper = d) hascii hsmall h
    rw [hd, hsame]
  · rw [hd] at hupper
    rcases hlisted _ himage with hturns | ⟨n, hn, hn'⟩
    · rw [h] at hturns
      cases hturns
    · exact absurd (hupper _ (List.mem_map_of_mem hn)) (by omega)
  · rw [hd] at hupper
    have himage := hupper _ (List.mem_singleton.mpr rfl)
    rcases hrows row hrow with hbelow | ⟨hone, hturns⟩ | ⟨hbeyond, hvalid⟩
    · omega
    · have hsame : row.first = d.toNat := by omega
      rw [hsame, h] at hturns
      cases hturns
    · have hchar : (d.toNat + row.shift).toNat.isValidChar := by
        simp only [Nat.isValidChar]
        omega
      rw [Char.toNat_ofNat, if_pos hchar] at himage
      omega
  · exact hd

/-- **Upper case is settled** where it is ASCII. -/
theorem upper_upper_of_ascii {s : List Char} (h : ∀ c ∈ upper (upper s), c.toNat < 0x80) :
    upper (upper s) = upper s := by
  have hself : ∀ d ∈ upper s, upperChar d = [d] := by
    intro d hd
    obtain ⟨c, -, hc⟩ := List.mem_flatMap.mp hd
    exact upperChar_eq_self (turnsAscii_of_mem_upperChar hc)
      fun e he => h e (List.mem_flatMap.mpr ⟨d, hd, he⟩)
  calc upper (upper s) = (upper s).flatMap fun d => [d] := List.flatMap_congr hself
    _ = upper s := List.flatMap_singleton' _

end Text

end Docwright
