import Mathlib
import Docwright.Proofs.JsonText

/-!
# The characters of JSON texts

A JSON text is made of the printed characters of ASCII, and of newlines where it has an indent. So
it is ASCII whatever the value, and without an indent it stands on one line.
-/

namespace Docwright

namespace Json

/-! ## Printed characters -/

/-- Does the character lie in the printed part of ASCII? -/
def isPrinted (c : Char) : Bool :=
  0x20 ≤ c.toNat && c.toNat < 0x7f

theorem isPrinted_of_isDigit {c : Char} (h : c.isDigit = true) : isPrinted c = true := by
  have hcode : 48 ≤ c.toNat ∧ c.toNat ≤ 57 := by
    simpa [Char.isDigit, UInt32.le_iff_toNat_le] using h
  simp only [isPrinted, Bool.and_eq_true, decide_eq_true_eq]
  omega

/-- Hexadecimal digits are printed characters, however many are asked for. -/
theorem isPrinted_of_mem_hexDigits {width n : Nat} {c : Char} (h : c ∈ Text.hexDigits width n) :
    isPrinted c = true := by
  have hdigit : ∀ k < 16, isPrinted (Text.hexDigit k) = true := by decide
  induction width generalizing n with
  | zero => cases h
  | succ width ih =>
    rcases List.mem_append.mp h with h | h
    · exact ih h
    · rw [List.mem_singleton.mp h]
      exact hdigit _ (Nat.mod_lt _ (by decide))

theorem isPrinted_of_mem_unitEscape {n : Nat} {c : Char} (h : c ∈ unitEscape n) :
    isPrinted c = true := by
  rcases List.mem_cons.mp h with rfl | h
  · rfl
  · rcases List.mem_cons.mp h with rfl | h
    · rfl
    · exact isPrinted_of_mem_hexDigits h

/-- A character inside a string is written with printed ones: itself where it is one, else an escape
of one or two code units. -/
theorem isPrinted_of_mem_escapeChar {c d : Char} (h : d ∈ escapeChar c) : isPrinted d = true := by
  unfold escapeChar at h
  split_ifs at h with _ _ _ _ _ _ _ hplain
  iterate 7
    · simp only [List.mem_cons, List.not_mem_nil, or_false] at h
      rcases h with rfl | rfl <;> rfl
  · rw [List.mem_singleton.mp h]
    simpa [isPrinted] using hplain
  · exact isPrinted_of_mem_unitEscape h
  · rcases List.mem_append.mp h with h | h
    · exact isPrinted_of_mem_unitEscape h
    · exact isPrinted_of_mem_unitEscape h

theorem isPrinted_of_mem_escapeGlyph {g : Glyph} {d : Char} (h : d ∈ escapeGlyph g) :
    isPrinted d = true := by
  cases g with
  | char c => exact isPrinted_of_mem_escapeChar h
  | lone offset => exact isPrinted_of_mem_unitEscape h

/-- A string is written with printed characters, whatever its text holds. -/
theorem isPrinted_of_mem_quote {s : LooseText} {c : Char} (h : c ∈ quote s) :
    isPrinted c = true := by
  rcases List.mem_append.mp h with h | h
  · rcases List.mem_cons.mp h with rfl | h
    · rfl
    · obtain ⟨g, -, hg⟩ := List.mem_flatMap.mp h
      exact isPrinted_of_mem_escapeGlyph hg
  · rw [List.mem_singleton.mp h]
    rfl

/-- A sign in front changes nothing. -/
theorem isPrinted_of_mem_signed {negative : Bool} {s : List Char}
    (hs : ∀ c ∈ s, isPrinted c = true) : ∀ c ∈ signed negative s, isPrinted c = true := by
  cases negative with
  | true => exact List.forall_mem_cons.mpr ⟨rfl, hs⟩
  | false => exact hs

theorem IsWhole.isPrinted {digits : List Char} (h : IsWhole digits) :
    ∀ c ∈ digits, isPrinted c = true := by
  rcases h with rfl | ⟨_, _, rfl, -, hdigits⟩
  · simp [Json.isPrinted]
  · exact fun c hc => isPrinted_of_isDigit (hdigits c hc)

/-- An exponent is a sign and digits. -/
theorem isPrinted_of_mem_exponentText (x : Int) :
    ∀ c ∈ Binary64.exponentText x, isPrinted c = true := by
  have hdigits : ∀ c ∈ Nat.toDigits 10 x.natAbs, isPrinted c = true := fun c hc =>
    isPrinted_of_isDigit (Nat.isDigit_of_mem_toDigits (by decide) (by decide) hc)
  unfold Binary64.exponentText
  refine List.forall_mem_cons.mpr ⟨?_, ?_⟩
  · split_ifs <;> rfl
  · split_ifs
    · exact List.forall_mem_cons.mpr ⟨rfl, hdigits⟩
    · exact hdigits

/-- The three ways to spell a number that is not whole use digits, a point and an exponent. -/
theorem Spells.isPrinted {s : List Char} {n : Nat} {k : Int} (h : Spells s n k) :
    ∀ c ∈ s, isPrinted c = true := by
  cases h with
  | point hwhole hne hdigits =>
    refine List.forall_mem_append.mpr ⟨hwhole.isPrinted, List.forall_mem_cons.mpr ⟨rfl, ?_⟩⟩
    exact fun c hc => isPrinted_of_isDigit (hdigits c hc)
  | exponent hwhole =>
    exact List.forall_mem_append.mpr
      ⟨hwhole.isPrinted, List.forall_mem_cons.mpr ⟨rfl, isPrinted_of_mem_exponentText k⟩⟩
  | pointExponent hwhole hne hdigits x =>
    refine List.forall_mem_append.mpr ⟨hwhole.isPrinted, List.forall_mem_cons.mpr ⟨rfl, ?_⟩⟩
    exact List.forall_mem_append.mpr ⟨fun c hc => isPrinted_of_isDigit (hdigits c hc),
      List.forall_mem_cons.mpr ⟨rfl, isPrinted_of_mem_exponentText x⟩⟩

/-- The text of a number is printed, the names of the numbers that are not finite among them. -/
theorem isPrinted_of_mem_numberText {n : Number} (h : Writable n) :
    ∀ c ∈ numberText n, isPrinted c = true := by
  cases n with
  | whole n =>
    rw [numberText, toList_toString_int]
    exact isPrinted_of_mem_signed (isWhole_toDigits n.natAbs).isPrinted
  | binary x =>
    cases x with
    | nan => simp [numberText, isPrinted]
    | infinite negative => cases negative <;> simp [numberText, isPrinted]
    | finite negative m e =>
      obtain ⟨s, k, j, htext, hspells, -⟩ := exists_spells_text h
      rw [numberText, htext]
      · exact isPrinted_of_mem_signed hspells.isPrinted
      · simp
      · simp

/-! ## Documents -/

/-- The characters of a text with an indent: printed ones, and newlines where there is an indent. -/
def InText (indent : Option Nat) (c : Char) : Prop :=
  isPrinted c = true ∨ c = '\n' ∧ indent.isSome = true

/-- A gap is nothing, or a new line and blanks. -/
theorem inText_of_mem_gap {indent : Option Nat} {depth : Nat} :
    ∀ c ∈ gap indent depth, InText indent c := by
  intro c hc
  cases indent with
  | none => cases hc
  | some width =>
    rcases List.mem_cons.mp hc with rfl | hc
    · exact .inr ⟨rfl, rfl⟩
    · rw [List.eq_of_mem_replicate hc]
      exact .inl rfl

theorem inText_of_mem_separator {indent : Option Nat} {depth : Nat} :
    ∀ c ∈ separator indent depth, InText indent c := by
  cases indent with
  | none => simp [separator, InText, isPrinted]
  | some width => exact List.forall_mem_cons.mpr ⟨.inl rfl, inText_of_mem_gap⟩

/-- The characters of items are those of the separators and of each item. -/
theorem inText_of_mem_renderItems {indent : Option Nat} {depth : Nat} {items : List Json}
    (h : ∀ v ∈ items, ∀ c ∈ renderAt indent depth v, InText indent c) :
    ∀ c ∈ renderItems indent depth items, InText indent c := by
  induction items with
  | nil => exact fun c hc => by cases hc
  | cons item items ih =>
    obtain ⟨hitem, hitems⟩ := List.forall_mem_cons.mp h
    simp only [renderItems_cons, List.forall_mem_append]
    exact ⟨⟨inText_of_mem_separator, hitem⟩, ih hitems⟩

/-- The characters of fields are those of the separators, of each name and of each value. -/
theorem inText_of_mem_renderFields {indent : Option Nat} {depth : Nat}
    {fields : List (LooseText × Json)}
    (h : ∀ field ∈ fields, ∀ c ∈ renderAt indent depth field.2, InText indent c) :
    ∀ c ∈ renderFields indent depth fields, InText indent c := by
  induction fields with
  | nil => exact fun c hc => by cases hc
  | cons field fields ih =>
    obtain ⟨name, value⟩ := field
    obtain ⟨hvalue, hfields⟩ := List.forall_mem_cons.mp h
    have hname : ∀ c ∈ quote name, InText indent c := fun c hc =>
      .inl (isPrinted_of_mem_quote hc)
    have hcolon : ∀ c ∈ [':', ' '], InText indent c := by simp [InText, isPrinted]
    simp only [renderFields_cons, List.forall_mem_append]
    exact ⟨⟨⟨⟨inText_of_mem_separator, hname⟩, hcolon⟩, hvalue⟩, ih hfields⟩

/-- **The characters of a value** are printed ones, and newlines where there is an indent. -/
theorem WellFormed.inText {p : LooseText → Prop} {room : Nat} {v : Json} (h : WellFormed p room v)
    (indent : Option Nat) (depth : Nat) : ∀ c ∈ renderAt indent depth v, InText indent c := by
  induction h generalizing depth with
  | null => simp [renderAt, InText, isPrinted]
  | bool b => cases b <;> simp [renderAt, InText, isPrinted]
  | num h => exact fun c hc => .inl (isPrinted_of_mem_numberText h c hc)
  | str h => exact fun c hc => .inl (isPrinted_of_mem_quote hc)
  | @arr room items _ ih =>
    have hbracket : ∀ c ∈ [']'], InText indent c := by simp [InText, isPrinted]
    cases items with
    | nil => exact List.forall_mem_cons.mpr ⟨.inl rfl, hbracket⟩
    | cons item items =>
      obtain ⟨hitem, hitems⟩ := List.forall_mem_cons.mp ih
      have hrest := inText_of_mem_renderItems fun v hv => hitems v hv (depth + 1)
      have hopen : ∀ c ∈ '[' :: gap indent (depth + 1), InText indent c :=
        List.forall_mem_cons.mpr ⟨.inl rfl, inText_of_mem_gap⟩
      simp only [renderAt_arr, List.forall_mem_append]
      exact ⟨⟨⟨⟨hopen, hitem (depth + 1)⟩, hrest⟩, inText_of_mem_gap⟩, hbracket⟩
  | @obj room fields _ _ _ ih =>
    have hbrace : ∀ c ∈ ['}'], InText indent c := by simp [InText, isPrinted]
    cases fields with
    | nil => exact List.forall_mem_cons.mpr ⟨.inl rfl, hbrace⟩
    | cons field fields =>
      obtain ⟨name, value⟩ := field
      obtain ⟨hvalue, hfields⟩ := List.forall_mem_cons.mp ih
      have hrest := inText_of_mem_renderFields fun field hfield => hfields field hfield (depth + 1)
      have hname : ∀ c ∈ quote name, InText indent c := fun c hc =>
        .inl (isPrinted_of_mem_quote hc)
      have hcolon : ∀ c ∈ [':', ' '], InText indent c := by simp [InText, isPrinted]
      have hopen : ∀ c ∈ '{' :: gap indent (depth + 1), InText indent c :=
        List.forall_mem_cons.mpr ⟨.inl rfl, inText_of_mem_gap⟩
      simp only [renderAt_obj, List.forall_mem_append]
      exact ⟨⟨⟨⟨⟨⟨hopen, hname⟩, hcolon⟩, hvalue (depth + 1)⟩, hrest⟩, inText_of_mem_gap⟩, hbrace⟩

end Json

end Docwright
