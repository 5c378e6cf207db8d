import Mathlib
import Docwright.Json.Printer
import Docwright.Json.Reader

/-!
# Strings in texts

A string is read back from between its quotes. The reader takes a string as pieces, glyphs and
spelled surrogates, and joins two surrogates that make a pair; so a string comes back exactly when
no two surrogates stand side by side in it that would make a pair.

* `IsSettled` — there are no such two surrogates: the text is **settled**. A whole text is.
* `readPieces_escapeGlyph` — the reader takes the escape of one glyph as the piece of that glyph.
  There are ways of escaping for quotes and controls, for plain characters, for code units and for
  pairs.
* `readPieces_quote` — so by induction it takes all of a settled text as its pieces.
-/

namespace Docwright

namespace Text

/-! ## Surrogates -/

theorem toNat_lt (c : Char) : c.toNat < 0x110000 := by
  have h := c.valid
  simp only [UInt32.isValidChar, Nat.isValidChar] at h
  change c.val.toNat < _
  omega

/-- A unit that opens a pair closes none. -/
theorem isHighSurrogate_of_low {n : Nat} (h : isLowSurrogate n = true) :
    isHighSurrogate n = false := by
  simp only [isLowSurrogate, isHighSurrogate, Bool.and_eq_true, Bool.and_eq_false_iff,
    decide_eq_true_eq, decide_eq_false_iff_not] at h ⊢
  omega

/-- The two units of a character beyond the first plane make it up again. -/
theorem ofPair_parts {c : Char} (h : 0x10000 ≤ c.toNat) :
    ofPair (0xd800 + (c.toNat - 0x10000) / 0x400) (0xdc00 + (c.toNat - 0x10000) % 0x400) = c := by
  have hsum : 0x10000 + (0xd800 + (c.toNat - 0x10000) / 0x400 - 0xd800) * 0x400 +
      (0xdc00 + (c.toNat - 0x10000) % 0x400 - 0xdc00) = c.toNat := by omega
  rw [ofPair, hsum, Char.ofNat_toNat]

theorem hexValue?_hexDigit : ∀ n < 16, hexValue? (hexDigit n) = some n := by decide

/-- Would the two glyphs make a pair? -/
def makePair (g h : Glyph) : Bool :=
  g.isLone && h.isLone && isHighSurrogate g.code && isLowSurrogate h.code

/-- No two neighbours would make a pair. -/
def IsSettled (s : LooseText) : Prop :=
  s.IsChain fun g h => makePair g h = false

instance (s : LooseText) : Decidable (IsSettled s) :=
  inferInstanceAs (Decidable (s.IsChain _))

/-- A text without unpaired surrogates is settled. -/
theorem isSettled_of_forall {s : LooseText} (h : ∀ g ∈ s, g.isLone = false) : IsSettled s := by
  induction s with
  | nil => exact List.isChain_nil
  | cons g s ih =>
    refine List.isChain_cons.mpr ⟨fun next _ => ?_, ih fun d hd => h d (List.mem_cons_of_mem g hd)⟩
    simp [makePair, h g (List.mem_cons_self ..)]

end Text

theorem LooseText.isLone_of_mem_ofString {s : String} {g : Glyph} (h : g ∈ ofString s) :
    g.isLone = false := by
  obtain ⟨c, -, rfl⟩ := List.mem_map.mp h
  rfl

/-- **A whole text is settled.** -/
theorem Text.isSettled_ofString (s : String) : IsSettled (LooseText.ofString s) :=
  isSettled_of_forall fun _ => LooseText.isLone_of_mem_ofString

namespace Json

/-! ## Pieces -/

theorem digit?_hexDigit (k : Nat) :
    digit? (Glyph.char (Text.hexDigit (k % 16))) = some (k % 16) :=
  Text.hexValue?_hexDigit _ (Nat.mod_lt _ (by decide))

/-- The four digits of a code unit are read as the unit. -/
theorem unit?_hexDigits {n : Nat} (h : n < 0x10000) :
    ∃ a b c d, Text.hexDigits 4 n = [a, b, c, d] ∧
      unit? (.char a) (.char b) (.char c) (.char d) = some n := by
  refine ⟨_, _, _, _, rfl, ?_⟩
  simp only [unit?, digit?_hexDigit, Option.pure_def, Option.bind_eq_bind, Option.bind_some,
    Option.some.injEq]
  omega

/-- The piece that a glyph is written as. -/
def Piece.ofGlyph : Glyph → Piece
  | .char c => .glyph (.char c)
  | .lone offset => .surrogate (Glyph.lone offset).code

theorem Piece.toGlyph_ofGlyph (g : Glyph) : (Piece.ofGlyph g).toGlyph = g := by
  cases g with
  | char c => rfl
  | lone offset => exact Glyph.ofCode_code _

theorem Piece.ofUnit_code (g : Glyph) : Piece.ofUnit g.code = .ofGlyph g := by
  rw [Piece.ofUnit, Glyph.ofCode_code]
  cases g with
  | char c => rfl
  | lone offset => rfl

/-! ## Reading one glyph -/

/-- A piece in front of what is read behind it. -/
theorem match_cons_eq_map (piece : Piece) (part : Part (List Piece)) :
    (match part with
      | .ok (pieces, rest) => .ok (Piece.cons piece pieces, rest)
      | .error stop => .error stop : Part (List Piece)) =
      part.map fun p => (Piece.cons piece p.1, p.2) := by
  rcases part with stop | ⟨pieces, rest⟩
  · rfl
  · rfl

/-- Four glyphs behind the mark of a unit are read as one, unless the text ends with them. -/
theorem readPieces_unit (whole : LooseText) (a b c d next : Glyph) (t : LooseText) :
    readPieces whole (.char '\\' :: .char 'u' :: a :: b :: c :: d :: next :: t) =
      match unit? a b c d with
      | none => .error (.malformed .badUnit (.char 'u' :: a :: b :: c :: d :: next :: t))
      | some n =>
        match readPieces whole (next :: t) with
        | .ok (pieces, rest) => .ok (Piece.cons (.ofUnit n) pieces, rest)
        | .error stop => .error stop :=
  rfl

/-- The escape of a code unit is read as the unit. -/
theorem readPieces_unitEscape (whole : LooseText) {n : Nat} (h : n < 0x10000) {t : LooseText}
    (ht : t ≠ []) :
    readPieces whole (.ofChars (unitEscape n) ++ t) =
      (readPieces whole t).map fun p => (Piece.cons (.ofUnit n) p.1, p.2) := by
  obtain ⟨a, b, c, d, hdigits, hunit⟩ := unit?_hexDigits h
  obtain ⟨next, t, rfl⟩ := List.exists_cons_of_ne_nil ht
  rw [unitEscape, hdigits]
  simp only [LooseText.ofChars_cons, LooseText.ofChars_nil, List.cons_append, List.nil_append]
  rw [readPieces_unit, hunit]
  exact match_cons_eq_map (.ofUnit n) (readPieces whole (next :: t))

/-- An escape with a letter is read as its character. -/
theorem readPieces_letter (whole : LooseText) {e c : Char} (h : escape? e = some c)
    (t : LooseText) :
    readPieces whole (.char '\\' :: .char e :: t) =
      (readPieces whole t).map fun p => (Piece.cons (.glyph (.char c)) p.1, p.2) := by
  unfold escape? at h
  split at h
  case h_9 => cases h
  -- the eight letters: each case of the reader is the same step at its own character
  all_goals
    obtain rfl := Option.some.inj h
    exact match_cons_eq_map (.glyph (.char _)) (readPieces whole t)

/-- A character that needs no escape is read as itself. -/
theorem readPieces_plain (whole : LooseText) {c : Char} (hlow : 0x20 ≤ c.toNat) (hquote : c ≠ '"')
    (hslash : c ≠ '\\') (t : LooseText) :
    readPieces whole (.char c :: t) =
      (readPieces whole t).map fun p => (Piece.cons (.glyph (.char c)) p.1, p.2) := by
  have hcontrol : isControl (Glyph.char c) = false := decide_eq_false (Nat.not_lt.mpr hlow)
  rw [readPieces]
  · rw [hcontrol, if_neg Bool.false_ne_true]
    exact match_cons_eq_map (.glyph (.char c)) (readPieces whole t)
  all_goals
    intros
    simp_all

/-- The two surrogates of a pair become one character. -/
theorem Piece.cons_pair {high low : Nat} (hhigh : Text.isHighSurrogate high = true)
    (hlow : Text.isLowSurrogate low = true) (pieces : List Piece) :
    Piece.cons (.ofUnit high) (Piece.cons (.ofUnit low) pieces) =
      .glyph (.char (Text.ofPair high low)) :: pieces := by
  have hunit : ∀ {n}, 0xd800 ≤ n ∧ n < 0xe000 → Piece.ofUnit n = .surrogate n := fun hn => by
    rw [Piece.ofUnit, Glyph.ofCode, dif_pos hn]
    rfl
  have hh : Piece.ofUnit high = .surrogate high := hunit (by
    simp only [Text.isHighSurrogate, Bool.and_eq_true, decide_eq_true_eq] at hhigh
    omega)
  have hl : Piece.ofUnit low = .surrogate low := hunit (by
    simp only [Text.isLowSurrogate, Bool.and_eq_true, decide_eq_true_eq] at hlow
    omega)
  have hnot := Text.isHighSurrogate_of_low hlow
  -- the second surrogate opens no pair of its own
  have hcons : Piece.cons (.surrogate low) pieces = .surrogate low :: pieces := by
    cases pieces with
    | nil => rfl
    | cons piece pieces =>
      cases piece with
      | glyph g => rfl
      | surrogate unit => simp [Piece.cons, hnot]
  rw [hh, hl, hcons]
  simp [Piece.cons, hhigh, hlow]

/-- The escapes of two surrogates that belong together are read as one character. -/
theorem readPieces_units (whole : LooseText) {high low : Nat}
    (hhigh : Text.isHighSurrogate high = true) (hlow : Text.isLowSurrogate low = true)
    {t : LooseText} (ht : t ≠ []) :
    readPieces whole (.ofChars (unitEscape high ++ unitEscape low) ++ t) =
      (readPieces whole t).map fun p =>
        (Piece.cons (.glyph (.char (Text.ofPair high low))) p.1, p.2) := by
  have hbounds : high < 0x10000 ∧ low < 0x10000 := by
    simp only [Text.isHighSurrogate, Text.isLowSurrogate, Bool.and_eq_true,
      decide_eq_true_eq] at hhigh hlow
    omega
  rw [LooseText.ofChars_append, List.append_assoc,
    readPieces_unitEscape whole hbounds.1 (by simp [unitEscape]),
    readPieces_unitEscape whole hbounds.2 ht]
  rcases readPieces whole t with stop | ⟨pieces, rest⟩
  · rfl
  · simp only [Except.map, Piece.cons_pair hhigh hlow]
    rfl

/-- A character beyond the first plane is read from its two escapes. -/
theorem readPieces_pair (whole : LooseText) {c : Char} (h : 0x10000 ≤ c.toNat) {t : LooseText}
    (ht : t ≠ []) :
    readPieces whole (.ofChars (unitEscape (0xd800 + (c.toNat - 0x10000) / 0x400) ++
        unitEscape (0xdc00 + (c.toNat - 0x10000) % 0x400)) ++ t) =
      (readPieces whole t).map fun p => (Piece.cons (.glyph (.char c)) p.1, p.2) := by
  have hcode := Text.toNat_lt c
  have hhigh : Text.isHighSurrogate (0xd800 + (c.toNat - 0x10000) / 0x400) = true := by
    simp only [Text.isHighSurrogate, Bool.and_eq_true, decide_eq_true_eq]
    omega
  have hlow : Text.isLowSurrogate (0xdc00 + (c.toNat - 0x10000) % 0x400) = true := by
    simp only [Text.isLowSurrogate, Bool.and_eq_true, decide_eq_true_eq]
    omega
  rw [readPieces_units whole hhigh hlow ht, Text.ofPair_parts h]

/-- **One glyph** is read back from its escape. -/
theorem readPieces_escapeGlyph (whole : LooseText) (g : Glyph) {t : LooseText} (ht : t ≠ []) :
    readPieces whole (.ofChars (escapeGlyph g) ++ t) =
      (readPieces whole t).map fun p => (Piece.cons (.ofGlyph g) p.1, p.2) := by
  cases g with
  | lone offset =>
    have hbound : (Glyph.lone offset).code < 0x10000 := by
      have := offset.isLt
      simp only [Glyph.code]
      omega
    rw [escapeGlyph, readPieces_unitEscape whole hbound ht, Piece.ofUnit_code]
  | char c =>
    have letter : ∀ {e : Char}, escape? e = some c →
        readPieces whole (.ofChars ['\\', e] ++ t) =
          (readPieces whole t).map fun p => (Piece.cons (.ofGlyph (.char c)) p.1, p.2) :=
      fun he => readPieces_letter whole he t
    rw [escapeGlyph, escapeChar]
    split_ifs with hquote hslash hnewline hreturn htab hfeed hback hplain hfirst
    · exact letter (by rw [hquote]; rfl)
    · exact letter (by rw [hslash]; rfl)
    · exact letter (by rw [hnewline]; rfl)
    · exact letter (by rw [hreturn]; rfl)
    · exact letter (by rw [htab]; rfl)
    · exact letter (by rw [hfeed]; rfl)
    · exact letter (by rw [hback]; rfl)
    · exact readPieces_plain whole hplain.1 hquote hslash t
    · rw [readPieces_unitEscape whole hfirst ht]
      simp only [← Piece.ofUnit_code, Glyph.code]
    · exact readPieces_pair whole (Nat.not_lt.mp hfirst) ht

/-! ## Reading a string -/

/-- In a settled text no piece is joined to the next. -/
theorem Piece.cons_ofGlyph {g : Glyph} {s : LooseText} (hs : Text.IsSettled (g :: s)) :
    Piece.cons (.ofGlyph g) (s.map .ofGlyph) = .ofGlyph g :: s.map .ofGlyph := by
  cases s with
  | nil => cases g <;> rfl
  | cons next s =>
    have hpair : Text.makePair g next = false := (List.isChain_cons_cons.mp hs).1
    cases g with
    | char c => rfl
    | lone high =>
      cases next with
      | char c => rfl
      | lone low =>
        have hunits : (Text.isHighSurrogate (Glyph.lone high).code &&
            Text.isLowSurrogate (Glyph.lone low).code) = false := hpair
        simp [Piece.ofGlyph, Piece.cons, hunits]

/-- **A settled string** is read back from between its quotes. -/
theorem readPieces_quote (whole : LooseText) {s : LooseText} (hs : Text.IsSettled s)
    (rest : LooseText) :
    readPieces whole (.ofChars (s.flatMap escapeGlyph) ++ .char '"' :: rest) =
      .ok (s.map Piece.ofGlyph, rest) := by
  induction s with
  | nil => rfl
  | cons g s ih =>
    rw [List.flatMap_cons, LooseText.ofChars_append, List.append_assoc,
      readPieces_escapeGlyph whole g (by simp), ih hs.tail]
    simp only [Except.map, Piece.cons_ofGlyph hs, List.map_cons]

theorem ofPieces_map_ofGlyph (s : LooseText) : ofPieces (s.map Piece.ofGlyph) = s := by
  rw [ofPieces, List.map_map]
  exact List.map_id'' Piece.toGlyph_ofGlyph s

end Json

end Docwright
