/-!
# Glyphs

Where text is written in units of sixteen bits, a character beyond the first plane is a pair of
units, its two surrogates. One of them alone is no character, but an escape in a JSON text can spell
it, and a byte of a file name that is no UTF-8 is taken for one. A *glyph* is a character or a
surrogate without its partner, and a *loose text* is a row of glyphs. It is *whole* if all of them
are characters, and then it is a string.

* `Glyph.code`, `Glyph.ofCode` — every number of a glyph is the number of one glyph.
* `LooseText.front`, `LooseText.behind` — the characters that a loose text starts with, and the
  rest of it. What reads characters only is carried over to loose texts by these two.
-/

namespace Docwright

/-! ## Surrogates -/

namespace Text

/-- Is the unit the first one of a pair? -/
def isHighSurrogate (n : Nat) : Bool :=
  0xd800 ≤ n && n < 0xdc00

/-- Is the unit the second one of a pair? -/
def isLowSurrogate (n : Nat) : Bool :=
  0xdc00 ≤ n && n < 0xe000

/-- The character of a pair. -/
def ofPair (high low : Nat) : Char :=
  Char.ofNat (0x10000 + (high - 0xd800) * 0x400 + (low - 0xdc00))

end Text

/-! ## Glyphs -/

/-- A character, or a surrogate without its partner. -/
inductive Glyph where
  /-- a character -/
  | char (c : Char)
  /-- the surrogate that comes so far behind the first of them -/
  | lone (offset : Fin 0x800)
  deriving DecidableEq, Repr, Inhabited

namespace Glyph

instance : Coe Char Glyph := ⟨char⟩

/-- The number of a glyph. -/
def code : Glyph → Nat
  | char c => c.toNat
  | lone offset => 0xd800 + offset

/-- The glyph with a number. -/
def ofCode (n : Nat) : Glyph :=
  if h : 0xd800 ≤ n ∧ n < 0xe000 then lone ⟨n - 0xd800, by omega⟩ else char (Char.ofNat n)

/-- The character, if the glyph is one. -/
def char? : Glyph → Option Char
  | char c => some c
  | lone _ => none

/-- Is the glyph a surrogate without its partner? -/
def isLone : Glyph → Bool
  | char _ => false
  | lone _ => true

/-- Is the glyph a character of a class? -/
def isIn (p : Char → Bool) : Glyph → Bool
  | char c => p c
  | lone _ => false

/-- **A glyph is found back** from its number. -/
theorem ofCode_code (g : Glyph) : ofCode g.code = g := by
  cases g with
  | char c =>
    have hvalid : ¬ (0xd800 ≤ c.toNat ∧ c.toNat < 0xe000) := by
      rcases c.valid with h | h
      · exact fun hcode => absurd hcode.1 (Nat.not_le.mpr h)
      · exact fun hcode => absurd hcode.2 (Nat.not_lt.mpr h.1)
    rw [code, ofCode, dif_neg hvalid, Char.ofNat_toNat]
  | lone offset =>
    have hcode : 0xd800 ≤ (lone offset).code ∧ (lone offset).code < 0xe000 := by
      simp only [code]
      omega
    rw [ofCode, dif_pos hcode]
    simp [code]

end Glyph

/-! ## Loose texts -/

/-- A text in which surrogates may have lost their partners. -/
abbrev LooseText := List Glyph

namespace LooseText

/-- The text of some characters. -/
def ofChars (s : List Char) : LooseText :=
  s.map .char

/-- A string is a loose text. -/
def ofString (s : String) : LooseText :=
  ofChars s.toList

instance : Coe String LooseText := ⟨ofString⟩

/-- The string that a loose text is, if it is whole. -/
def whole? (s : LooseText) : Option String :=
  (s.mapM Glyph.char?).map String.ofList

/-- The characters that a text starts with. -/
def front : LooseText → List Char
  | .char c :: s => c :: front s
  | _ => []

/-- What follows the characters that a text starts with. -/
def behind : LooseText → LooseText
  | .char _ :: s => behind s
  | s => s

/-! ## Small facts -/

@[simp]
theorem ofChars_nil : ofChars [] = [] := rfl

@[simp]
theorem ofChars_cons (c : Char) (s : List Char) : ofChars (c :: s) = .char c :: ofChars s := rfl

@[simp]
theorem ofChars_append (s t : List Char) : ofChars (s ++ t) = ofChars s ++ ofChars t :=
  List.map_append

@[simp]
theorem length_ofChars (s : List Char) : (ofChars s).length = s.length :=
  List.length_map _

theorem ofChars_injective : Function.Injective ofChars := fun _ _ h =>
  (List.map_inj_right fun _ _ hchar => Glyph.char.inj hchar).mp h

/-- Strings are told apart as loose texts. -/
theorem ofString_injective : Function.Injective ofString := fun _ _ h =>
  String.toList_inj.mp (ofChars_injective h)

@[simp]
theorem ofString_inj {s t : String} : ofString s = ofString t ↔ s = t :=
  ⟨fun h => ofString_injective h, fun h => h ▸ rfl⟩

/-- The characters of a string are its glyphs. -/
theorem char_mem_ofString_iff {c : Char} {s : String} : .char c ∈ ofString s ↔ c ∈ s.toList := by
  simp [ofString, ofChars]

@[simp]
theorem ofString_append (s t : String) : ofString (s ++ t) = ofString s ++ ofString t := by
  rw [ofString, String.toList_append, ofChars_append]
  rfl

@[simp]
theorem front_nil : front [] = [] := rfl

@[simp]
theorem front_char (c : Char) (s : LooseText) : front (.char c :: s) = c :: front s := rfl

@[simp]
theorem behind_char (c : Char) (s : LooseText) : behind (.char c :: s) = behind s := rfl

/-- **A text is its front and what is behind.** -/
theorem ofChars_front_append_behind (s : LooseText) : ofChars s.front ++ s.behind = s := by
  fun_induction front s with
  | case1 c s ih => simp [ih]
  | case2 s h =>
    rw [ofChars_nil, List.nil_append, behind]
    exact h

/-- Characters in front of a text belong to its front. -/
theorem front_append (cs : List Char) (s : LooseText) :
    front (ofChars cs ++ s) = cs ++ s.front := by
  induction cs with
  | nil => rfl
  | cons c cs ih => simp [ih]

/-- Characters in front of a text change nothing behind its front. -/
theorem behind_append (cs : List Char) (s : LooseText) :
    behind (ofChars cs ++ s) = s.behind := by
  induction cs with
  | nil => rfl
  | cons c cs ih => simp [ih]

theorem mapM_char? (cs : List Char) : (ofChars cs).mapM Glyph.char? = some cs := by
  induction cs with
  | nil => rfl
  | cons c cs ih => simp [ih, Glyph.char?]

/-- **Whole texts** are strings. -/
theorem whole?_eq_some_iff {s : LooseText} {t : String} : s.whole? = some t ↔ s = ofString t := by
  constructor
  · intro h
    obtain ⟨cs, hcs, rfl⟩ := Option.map_eq_some_iff.mp h
    rw [ofString, String.toList_ofList]
    clear h
    induction s generalizing cs with
    | nil =>
      obtain rfl : cs = [] := by simpa using hcs.symm
      rfl
    | cons g s ih =>
      cases g with
      | lone offset => simp [Glyph.char?] at hcs
      | char c =>
        simp only [List.mapM_cons, Glyph.char?, Option.pure_def, Option.bind_eq_bind,
          Option.bind_some, Option.bind_eq_some_iff, Option.some.injEq] at hcs
        obtain ⟨rest, hrest, rfl⟩ := hcs
        rw [ih rest hrest, ofChars_cons]
  · rintro rfl
    rw [whole?, ofString, mapM_char?, Option.map_some, String.ofList_toList]

@[simp]
theorem whole?_ofString (s : String) : (ofString s).whole? = some s :=
  whole?_eq_some_iff.mpr rfl

end LooseText

end Docwright
