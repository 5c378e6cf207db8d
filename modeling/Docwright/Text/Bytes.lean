import Docwright.Text.Utf8

/-!
# Bytes in texts

A text can hold any bytes: those that spell a character are that character, and a byte that is no
part of one is put in as a surrogate of its own, its *carrier*. This is how the names of files are
shown, which are bytes and need not be UTF-8.

* `LooseText.bytes_ofBytes` — every row of bytes is found back from its text, so two names that are
  shown alike are the same.

JSON texts need another reading of bytes, in which three bytes can spell a surrogate, too.
-/

namespace Docwright

/-! ## From bytes -/

namespace Text.Utf8

/-- The number that the bytes of one character spell, a few bits each. -/
def numberOf : List UInt8 → Nat
  | [a] => a.toNat
  | [a, b] => a.toNat % 0x20 * 0x40 + b.toNat % 0x40
  | [a, b, c] => (a.toNat % 0x10 * 0x40 + b.toNat % 0x40) * 0x40 + c.toNat % 0x40
  | [a, b, c, d] =>
    ((a.toNat % 0x08 * 0x40 + b.toNat % 0x40) * 0x40 + c.toNat % 0x40) * 0x40 + d.toNat % 0x40
  | _ => 0

/-- The character of exactly these bytes. -/
def charOf? (bytes : List UInt8) : Option Char :=
  let c := Char.ofNat (numberOf bytes)
  if String.utf8EncodeChar c = bytes then some c else none

/-- The character that some bytes start with. -/
def firstChar? (bytes : List UInt8) : Option Char :=
  [1, 2, 3, 4].findSome? fun n => charOf? (bytes.take n)

end Text.Utf8

/-- What a byte is put in as where it is no part of a character. -/
def Glyph.carrier (b : UInt8) : Glyph :=
  .lone ⟨0x400 + b.toNat, by have := b.toNat_lt; omega⟩

namespace LooseText

/-- The text of bytes behind the first ones, `taken` of which belong to a character that was
read. -/
def ofBytesFrom : (taken : Nat) → List UInt8 → LooseText
  | _, [] => []
  | taken + 1, _ :: rest => ofBytesFrom taken rest
  | 0, b :: rest =>
    match Text.Utf8.firstChar? (b :: rest) with
    | some c => .char c :: ofBytesFrom (c.utf8Size - 1) rest
    | none => .carrier b :: ofBytesFrom 0 rest

/-- The text that holds some bytes. -/
def ofBytes (bytes : List UInt8) : LooseText :=
  ofBytesFrom 0 bytes

end LooseText

/-! ## To bytes -/

/-- Does the glyph hold bytes? Of the surrogates only the carriers of bytes beyond ASCII do. -/
def Glyph.hasBytes : Glyph → Bool
  | char _ => true
  | lone offset => 0x480 ≤ offset.val && offset.val < 0x500

/-- The bytes that a glyph holds. -/
def Glyph.bytes : Glyph → List UInt8
  | char c => String.utf8EncodeChar c
  | lone offset => [UInt8.ofNat offset]

/-- The bytes that a text holds. -/
def LooseText.bytes (s : LooseText) : List UInt8 :=
  s.flatMap Glyph.bytes

/-- The first glyphs of a text that hold no bytes. -/
def Text.Utf8.byteless? (s : LooseText) : Option EncodeError :=
  unencodableFrom? Glyph.hasBytes 0 s

/-! ## There and back -/

/-- The character that some bytes start with has its own bytes there. -/
theorem Text.Utf8.firstChar?_eq_some {bytes : List UInt8} {c : Char}
    (h : firstChar? bytes = some c) : ∃ rest, bytes = String.utf8EncodeChar c ++ rest := by
  obtain ⟨n, -, hn⟩ := List.exists_of_findSome?_eq_some h
  unfold charOf? at hn
  dsimp only at hn
  split at hn
  next hbytes =>
    obtain rfl := Option.some.inj hn
    exact ⟨bytes.drop n, by rw [hbytes, List.take_append_drop]⟩
  next => cases hn

theorem Glyph.bytes_carrier (b : UInt8) : (carrier b).bytes = [b] := by
  rw [carrier, bytes, List.cons.injEq]
  refine ⟨UInt8.toNat_inj.mp ?_, rfl⟩
  have := b.toNat_lt
  simp only [UInt8.toNat_ofNat']
  omega

/-- From any place on, the bytes are found back but for those that were read before. -/
theorem LooseText.bytes_ofBytesFrom (taken : Nat) (bytes : List UInt8) :
    (ofBytesFrom taken bytes).bytes = bytes.drop taken := by
  fun_induction ofBytesFrom taken bytes with
  | case1 taken => exact List.drop_nil.symm
  | case2 b rest taken ih => exact ih
  | case3 b rest c hc ih =>
    -- the bytes of the character are the first ones, and the reading goes on behind them
    obtain ⟨more, hmore⟩ := Text.Utf8.firstChar?_eq_some hc
    have hlength : (String.utf8EncodeChar c).length = (c.utf8Size - 1) + 1 := by
      rw [String.length_utf8EncodeChar]
      have := c.utf8Size_pos
      omega
    have hrest : rest.drop (c.utf8Size - 1) = more := by
      have hdrop := congrArg (List.drop (String.utf8EncodeChar c).length) hmore
      rw [List.drop_left] at hdrop
      rw [hlength] at hdrop
      exact hdrop
    rw [bytes, List.flatMap_cons]
    rw [bytes] at ih
    rw [ih, hrest, List.drop_zero, hmore]
    rfl
  | case4 b rest hnone ih =>
    rw [bytes, List.flatMap_cons, Glyph.bytes_carrier]
    rw [bytes] at ih
    rw [ih]
    rfl

/-- **Bytes are found back** from the text that holds them. -/
@[simp]
theorem LooseText.bytes_ofBytes (bytes : List UInt8) : (ofBytes bytes).bytes = bytes :=
  bytes_ofBytesFrom 0 bytes

/-! ## Surrogates in bytes -/

/-- A text with each three carriers that spell a surrogate made that surrogate, if no other
carrier is left. -/
def LooseText.joinCarriers? : LooseText → Option LooseText
  | [] => some []
  | .char c :: rest => (joinCarriers? rest).map (.char c :: ·)
  | .lone a :: .lone b :: .lone c :: rest =>
    -- a lead byte, a tail byte that no character has behind it, and a tail byte
    if a.val = 0x4ed ∧ 0x4a0 ≤ b.val ∧ b.val < 0x4c0 ∧ 0x480 ≤ c.val ∧ c.val < 0x4c0 then
      (joinCarriers? rest).map
        (.ofCode (0xd800 + (b.val - 0x4a0) * 0x40 + (c.val - 0x480)) :: ·)
    else none
  | _ => none

/-- The text of bytes in UTF-8, in which surrogates are written like characters. -/
def Text.Utf8.decodeLoose? (bytes : List UInt8) : Option LooseText :=
  (LooseText.ofBytes bytes).joinCarriers?

end Docwright
