import Mathlib
import Docwright.Json.Printer
import Docwright.Json.Reader
import Docwright.Proofs.Shortest
import Docwright.Proofs.Search

/-!
# Numbers in texts

A number is read back from its text, whatever the text goes on with that cannot go on a number.

Reading takes a text apart into whole digits, a fraction and an exponent; each of the three has a
lemma for the text it takes off and one for the text it leaves alone. Whatever the place of its
point, the layout of digits is read as one decimal (`exists_spells_layout`), and the shortest digits
of a value are a decimal that rounds to it. All of this is about the characters at the front of a
text; the rest of the text stays what it is (`readNumber_of_numeral?`).
-/

namespace Docwright

namespace Json

/-! ## The parts of a number -/

/-- What may follow a number: the text ends there, or with a character that no number holds. -/
def EndsNumber (rest : List Char) : Prop :=
  ∀ c, rest.head? = some c → c.isDigit = false ∧ c ≠ '.' ∧ c ≠ 'e' ∧ c ≠ 'E'

/-- The digits in front of a point: a zero, or digits that start with another one. -/
def IsWhole (digits : List Char) : Prop :=
  digits = ['0'] ∨ Binary64.Leading digits

/-- The digits in front are split off whole. -/
theorem splitWhole?_append {digits rest : List Char} (h : IsWhole digits)
    (hrest : ∀ c, rest.head? = some c → c.isDigit = false) :
    splitWhole? (digits ++ rest) = some (digits, rest) := by
  rcases h with rfl | ⟨c, tail, rfl, hc, hdigits⟩
  · rfl
  · have htail : ∀ d ∈ tail, d.isDigit = true := fun d hd => hdigits d (List.mem_cons_of_mem _ hd)
    rw [List.cons_append, splitWhole?]
    · rw [if_pos (hdigits c (List.mem_cons_self ..)), Text.takeWhile_append_of_stop htail hrest,
        Text.dropWhile_append_of_stop htail hrest]
    · exact hc

/-- So are the digits behind a point. -/
theorem splitFraction_append {digits rest : List Char} (hne : digits ≠ [])
    (hdigits : ∀ c ∈ digits, c.isDigit = true)
    (hrest : ∀ c, rest.head? = some c → c.isDigit = false) :
    splitFraction ('.' :: (digits ++ rest)) = (some digits, rest) := by
  have hsome : digits.isEmpty = false := by simpa using hne
  simp only [splitFraction, Text.takeWhile_append_of_stop hdigits hrest,
    Text.dropWhile_append_of_stop hdigits hrest, hsome, if_neg Bool.false_ne_true]

theorem splitFraction_of_ne {rest : List Char} (h : rest.head? ≠ some '.') :
    splitFraction rest = (none, rest) := by
  unfold splitFraction
  split
  · exact absurd rfl h
  · rfl

/-- Where a number ends there is no exponent. -/
theorem splitExponent_of_ends {rest : List Char} (h : EndsNumber rest) :
    splitExponent rest = (none, rest) := by
  cases rest with
  | nil => rfl
  | cons c rest =>
    obtain ⟨-, -, hlower, hupper⟩ := h c rfl
    simp [splitExponent, hlower, hupper]

/-- An exponent is read back from its text. -/
theorem splitExponent_append (x : Int) {rest : List Char}
    (hrest : ∀ c, rest.head? = some c → c.isDigit = false) :
    splitExponent ('e' :: (Binary64.exponentText x ++ rest)) = (some x, rest) := by
  -- the digits behind the sign, filled up to two
  obtain ⟨digits, htext, hdigits, hne, hvalue⟩ : ∃ digits : List Char,
      Binary64.exponentText x = (if x < 0 then '-' else '+') :: digits ∧
        (∀ c ∈ digits, c.isDigit = true) ∧ digits ≠ [] ∧
        Number.digitsValue digits = x.natAbs := by
    have hall : ∀ c ∈ Nat.toDigits 10 x.natAbs, c.isDigit = true := fun c hc =>
      Nat.isDigit_of_mem_toDigits (by decide) (by decide) hc
    refine ⟨_, rfl, ?_⟩
    split_ifs
    · refine ⟨List.forall_mem_cons.mpr ⟨rfl, hall⟩, List.cons_ne_nil _ _, ?_⟩
      exact (Number.digitsValue_zeros_append _ 1).trans (Number.digitsValue_toDigits _)
    · exact ⟨hall, Nat.toDigits_ne_nil, Number.digitsValue_toDigits _⟩
  have hempty : digits.isEmpty = false := by simpa using hne
  rw [htext]
  by_cases hx : x < 0
  · simp only [hx, if_true, splitExponent, List.cons_append, Number.splitSign,
      Text.takeWhile_append_of_stop hdigits hrest, Text.dropWhile_append_of_stop hdigits hrest,
      hempty, hvalue]
    simp [abs_of_neg hx]
  · simp only [hx, if_false, splitExponent, List.cons_append, Number.splitSign,
      Text.takeWhile_append_of_stop hdigits hrest, Text.dropWhile_append_of_stop hdigits hrest,
      hempty, hvalue]
    simp
    omega

theorem IsWhole.exists_cons {digits : List Char} (h : IsWhole digits) :
    ∃ c tail, digits = c :: tail ∧ c.isDigit = true := by
  rcases h with rfl | ⟨c, tail, rfl, -, hdigits⟩
  · exact ⟨'0', [], rfl, rfl⟩
  · exact ⟨c, tail, rfl, hdigits c (List.mem_cons_self ..)⟩

/-! ## Numbers with their sign -/

/-- A text with a minus in front where it is negative. -/
def signed (negative : Bool) (s : List Char) : List Char :=
  if negative then '-' :: s else s

theorem signed_append (negative : Bool) (s t : List Char) :
    signed negative s ++ t = signed negative (s ++ t) := by
  cases negative <;> rfl

/-- A whole number has neither a fraction nor an exponent. -/
theorem numeral?_whole (negative : Bool) {whole rest : List Char} (hwhole : IsWhole whole)
    (hrest : EndsNumber rest) (hlength : whole.length ≤ maxDigits) :
    numeral? (signed negative (whole ++ rest)) =
      some (.value (.whole (if negative then -(Number.digitsValue whole : Int)
        else Number.digitsValue whole)), rest) := by
  have hsplit := splitWhole?_append hwhole fun c hc => (hrest c hc).1
  have hfraction := splitFraction_of_ne fun h => (hrest '.' h).2.1 rfl
  have hexponent := splitExponent_of_ends hrest
  obtain ⟨c, digits, rfl, hc⟩ := hwhole.exists_cons
  cases negative with
  | true =>
    simp only [signed, if_true, numeral?, hsplit, hfraction, hexponent,
      if_neg (Nat.not_lt.mpr hlength)]
  | false =>
    rw [signed, if_neg Bool.false_ne_true, numeral?]
    · simp only [hsplit, hfraction, hexponent, if_neg (Nat.not_lt.mpr hlength),
        if_neg Bool.false_ne_true]
    · rintro tail htail
      rw [(List.cons.inj htail).1] at hc
      cases hc

/-- Any other number is a decimal. -/
theorem numeral?_decimal (negative : Bool) {whole tail middle rest : List Char}
    (hwhole : IsWhole whole) (htail : ∀ c, tail.head? = some c → c.isDigit = false)
    {fraction : Option (List Char)} {exponent : Option Int}
    (hfraction : splitFraction tail = (fraction, middle))
    (hexponent : splitExponent middle = (exponent, rest))
    (hpart : fraction.isSome ∨ exponent.isSome) :
    numeral? (signed negative (whole ++ tail)) =
      some (.value (.binary (.ofDecimal negative (Number.digitsValue (whole ++ fraction.getD []))
        (exponent.getD 0 - (fraction.getD []).length))), rest) := by
  have hsplit := splitWhole?_append hwhole htail
  obtain ⟨c, digits, rfl, hc⟩ := hwhole.exists_cons
  cases negative with
  | true =>
    simp only [signed, if_true, numeral?, hsplit, hfraction, hexponent]
    split
    · simp at hpart
    · rfl
  | false =>
    rw [signed, if_neg Bool.false_ne_true, numeral?]
    · simp only [hsplit, hfraction, hexponent]
      split
      · simp at hpart
      · rfl
    · rintro rest hrest
      rw [(List.cons.inj hrest).1] at hc
      cases hc

/-! ## Decimals -/

/-- The decimal texts: `s` spells `n * 10 ^ k`. -/
inductive Spells : (s : List Char) → (n : Nat) → (k : Int) → Prop
  /-- digits on either side of a point -/
  | point {whole fraction : List Char} (hwhole : IsWhole whole) (hne : fraction ≠ [])
      (hdigits : ∀ c ∈ fraction, c.isDigit = true) :
      Spells (whole ++ '.' :: fraction) (Number.digitsValue (whole ++ fraction))
        (-(fraction.length : Int))
  /-- digits and an exponent -/
  | exponent {whole : List Char} (hwhole : IsWhole whole) (x : Int) :
      Spells (whole ++ 'e' :: Binary64.exponentText x) (Number.digitsValue whole) x
  /-- digits on either side of a point and an exponent -/
  | pointExponent {whole fraction : List Char} (hwhole : IsWhole whole) (hne : fraction ≠ [])
      (hdigits : ∀ c ∈ fraction, c.isDigit = true) (x : Int) :
      Spells (whole ++ '.' :: (fraction ++ 'e' :: Binary64.exponentText x))
        (Number.digitsValue (whole ++ fraction)) (x - fraction.length)

/-- A decimal text is read as what it spells. -/
theorem Spells.numeral? {s rest : List Char} {n : Nat} {k : Int} (h : Spells s n k)
    (negative : Bool) (hrest : EndsNumber rest) :
    numeral? (signed negative (s ++ rest)) =
      some (.value (.binary (.ofDecimal negative n k)), rest) := by
  have hstop : ∀ c, rest.head? = some c → c.isDigit = false := fun c hc => (hrest c hc).1
  cases h with
  | point hwhole hne hdigits =>
    rw [List.append_assoc, List.cons_append, numeral?_decimal negative hwhole (by simp)
      (splitFraction_append hne hdigits hstop) (splitExponent_of_ends hrest) (.inl rfl)]
    simp
  | exponent hwhole =>
    rw [List.append_assoc, List.cons_append, numeral?_decimal negative hwhole (by simp)
      (splitFraction_of_ne (by simp)) (splitExponent_append k hstop) (.inr rfl)]
    simp
  | pointExponent hwhole hne hdigits x =>
    rw [List.append_assoc, List.cons_append, List.append_assoc, List.cons_append,
      numeral?_decimal negative hwhole (by simp) (splitFraction_append hne hdigits (by simp))
      (splitExponent_append x hstop) (.inl rfl)]
    simp

/-- **Digits and their point** spell one decimal, wherever the point was put. -/
theorem exists_spells_layout {digits : List Char} (h : Binary64.Leading digits) (point : Int) :
    ∃ n k, Spells (Binary64.layout digits point) n k ∧
      n * (10 : ℚ) ^ k = Number.digitsValue digits * 10 ^ (point - digits.length) := by
  obtain ⟨c, tail, rfl, hc, hall⟩ := h
  have hzeros : ∀ k, ∀ d ∈ List.replicate k '0', d.isDigit = true := fun k d hd => by
    rw [List.eq_of_mem_replicate hd]
    rfl
  unfold Binary64.layout
  dsimp only
  split_ifs with hplain hsmall hlarge hempty
  · -- a zero in front of the point, the digits behind it
    have hfraction : ∀ d ∈ List.replicate (-point).toNat '0' ++ c :: tail, d.isDigit = true :=
      fun d hd => (List.mem_append.mp hd).elim (hzeros _ d) (hall d)
    have hspells := Spells.point (.inl rfl) (by simp) hfraction
    refine ⟨_, _, hspells, ?_⟩
    rw [← List.append_assoc, ← List.replicate_one, ← List.replicate_add,
      Number.digitsValue_zeros_append, List.length_append, List.length_replicate]
    congr 2
    push_cast
    omega
  · -- all digits in front of the point, filled up with zeros
    have hwhole : IsWhole (c :: tail ++ List.replicate (point.toNat - (c :: tail).length) '0') :=
      .inr ⟨c, _, rfl, hc, fun d hd => (List.mem_append.mp hd).elim (hall d) (hzeros _ d)⟩
    have hone : List.replicate 1 '0' ≠ [] := by simp
    have hspells := Spells.point hwhole hone (hzeros 1)
    refine ⟨_, _, hspells, ?_⟩
    rw [List.append_assoc, ← List.replicate_add, Number.digitsValue_append_zeros,
      List.length_replicate]
    push_cast
    rw [mul_comm ((10 : ℚ) ^ _), mul_assoc, ← zpow_natCast, ← zpow_add₀ (by norm_num)]
    congr 2
    omega
  · -- the point among the digits
    have hpos : point.toNat ≠ 0 := by omega
    have hwhole : IsWhole ((c :: tail).take point.toNat) := by
      obtain ⟨k, hk⟩ := Nat.exists_eq_succ_of_ne_zero hpos
      refine .inr ⟨c, tail.take k, by rw [hk]; rfl, hc, fun d hd => hall d ?_⟩
      exact List.mem_of_mem_take (i := k + 1) hd
    have hne : (c :: tail).drop point.toNat ≠ [] := by
      rw [ne_eq, List.drop_eq_nil_iff]
      omega
    have hspells := Spells.point hwhole hne fun d hd => hall d (List.mem_of_mem_drop hd)
    refine ⟨_, _, hspells, ?_⟩
    rw [List.take_append_drop, List.length_drop]
    congr 2
    omega
  · -- one digit and an exponent
    have hone : tail = [] := by simpa using hempty
    subst hone
    refine ⟨_, _, .exponent (.inr ⟨c, [], rfl, hc, hall⟩) (point - 1), ?_⟩
    simp
  · -- one digit, the others behind the point, and an exponent
    have hne : tail ≠ [] := by simpa using hempty
    have hwhole : IsWhole [c] := .inr ⟨c, [], rfl, hc, by simpa using hall c⟩
    have hspells := Spells.pointExponent hwhole hne
      (fun d hd => hall d (List.mem_cons_of_mem c hd)) (point - 1)
    refine ⟨_, _, by simpa using hspells, ?_⟩
    rw [List.length_cons]
    congr 2
    push_cast
    ring

/-! ## Numbers as values -/

/-- What the characters at the front of a text stand for is what the text starts with. -/
theorem readNumber_of_numeral? {cs : List Char} {rest : LooseText} {n : Number}
    (h : numeral? (cs ++ rest.front) = some (.value n, rest.front)) :
    readNumber (.ofChars cs ++ rest) = .ok (n, rest) := by
  rw [readNumber, LooseText.front_append, h]
  dsimp only
  rw [LooseText.behind_append, LooseText.ofChars_front_append_behind]

/-- A number is none of the words: these have no digit, and a number has one among its first two
characters. -/
theorem readWord?_signed (negative : Bool) {c : Char} (hc : c.isDigit = true) (s : List Char)
    (rest : LooseText) : readWord? (.ofChars (signed negative (c :: s)) ++ rest) = none := by
  have hwords : ∀ entry ∈ wordValues, 2 ≤ entry.1.toList.length ∧
      ∀ d ∈ entry.1.toList, d.isDigit = false := by simp [wordValues]
  refine List.findSome?_eq_none_iff.mpr fun entry hentry => ?_
  obtain ⟨hlength, hletters⟩ := hwords entry hentry
  refine Option.map_eq_none_iff.mpr (Text.after?_eq_none_iff.mpr fun hprefix => ?_)
  have htake := List.prefix_iff_eq_take.mp hprefix
  have hmem : .char c ∈ (LooseText.ofChars (signed negative (c :: s)) ++ rest).take 2 := by
    cases negative with
    | true => exact List.mem_cons_of_mem (Glyph.char '-') (List.mem_cons_self ..)
    | false => exact List.mem_cons_self ..
  have hword : Glyph.char c ∈ LooseText.ofString entry.1 := by
    rw [htake]
    refine (List.take_prefix_take_left ?_).subset hmem
    rwa [LooseText.ofString, LooseText.length_ofChars]
  obtain ⟨d, hd, hdc⟩ := List.mem_map.mp hword
  obtain rfl := Glyph.char.inj hdc
  rw [hletters d hd] at hc
  cases hc

/-- A sign or a digit starts a number. -/
theorem readValue_number {room fuel : Nat} {negative : Bool} {c : Char} {s : List Char}
    {rest : LooseText} {n : Number} (hc : c.isDigit = true)
    (hread : readNumber (.ofChars (signed negative (c :: s)) ++ rest) = .ok (n, rest)) :
    readValue room (fuel + 1) (.ofChars (signed negative (c :: s)) ++ rest) =
      .ok (.num n, rest) := by
  have hword := readWord?_signed negative hc s rest
  cases negative with
  | true =>
    rw [signed, if_pos rfl] at hread hword ⊢
    rw [LooseText.ofChars_cons, List.cons_append] at hread hword ⊢
    rw [readValue]
    · rw [hword]
      dsimp only
      rw [hread]
    all_goals simp
  | false =>
    rw [signed, if_neg Bool.false_ne_true] at hread hword ⊢
    rw [LooseText.ofChars_cons, List.cons_append] at hread hword ⊢
    rw [readValue]
    · rw [hword]
      dsimp only
      rw [hread]
    all_goals
      rintro t ht
      rw [Glyph.char.inj (List.cons.inj ht).1] at hc
      cases hc

theorem toList_toString_int (n : Int) :
    (toString n).toList = signed (decide (n < 0)) (Nat.toDigits 10 n.natAbs) := by
  cases n with
  | ofNat n => 
    rw [show toString (Int.ofNat n) = toString n from rfl, Nat.toString_eq_ofList_toDigits]
    simp [signed]
  | negSucc n =>
    rw [show toString (Int.negSucc n) = "-" ++ toString (n + 1) from rfl]
    simp [signed]

/-- The numbers that a text can hold: whole numbers without too many digits, and the values of the
binary format. -/
def Writable : Number → Prop
  | .whole n => Binary64.decimalLength n.natAbs ≤ maxDigits
  | .binary x => x.InFormat

theorem isWhole_toDigits (n : Nat) : IsWhole (Nat.toDigits 10 n) := by
  rcases Nat.eq_zero_or_pos n with rfl | hn
  · exact .inl rfl
  · obtain ⟨c, tail, hdigits⟩ := List.exists_cons_of_ne_nil (Nat.toDigits_ne_nil (n := n) (b := 10))
    refine .inr ⟨c, tail, hdigits, fun hc => Binary64.head?_toDigits_ne_zero hn ?_, fun d hd => ?_⟩
    · rw [hdigits, hc, List.head?_cons]
    · rw [← hdigits] at hd
      exact Nat.isDigit_of_mem_toDigits (by decide) (by decide) hd

theorem Spells.exists_cons {s : List Char} {n : Nat} {k : Int} (h : Spells s n k) :
    ∃ c tail, s = c :: tail ∧ c.isDigit = true := by
  have hcons : ∀ {whole : List Char}, IsWhole whole → ∀ t, ∃ c tail,
      whole ++ t = c :: tail ∧ c.isDigit = true := by
    intro whole hwhole t
    obtain ⟨c, tail, rfl, hc⟩ := hwhole.exists_cons
    exact ⟨c, tail ++ t, rfl, hc⟩
  cases h with
  | point hwhole _ _ => exact hcons hwhole _
  | exponent hwhole => exact hcons hwhole _
  | pointExponent hwhole _ _ => exact hcons hwhole _

/-- The text of a value of the format spells a decimal that is read as the value. -/
theorem exists_spells_text {negative : Bool} {m : Nat} {e : Int}
    (h : (Binary64.finite negative m e).InFormat) :
    ∃ s n k, (Binary64.finite negative m e).text.toList = signed negative s ∧ Spells s n k ∧
      Binary64.ofDecimal negative n k = .finite negative m e := by
  rw [Binary64.text, String.toList_ofList]
  rcases Nat.eq_zero_or_pos m with rfl | hm
  · have hzero : e = Binary64.minExponent := h.2.2.2.resolve_left (by decide)
    rw [hzero]
    have hspells := Spells.point (.inl rfl) (List.cons_ne_nil '0' []) (by simp)
    exact ⟨_, _, _, rfl, hspells, rfl⟩
  · obtain ⟨hleading, hrounds⟩ := Binary64.shortest_spec (e := e) hm h.1
    obtain ⟨n, k, hspells, hvalue⟩ := exists_spells_layout hleading (Binary64.shortest m e).2
    rw [← hvalue] at hrounds
    refine ⟨_, n, k, ?_, hspells, Binary64.ofDecimal_of_rounds h hm hrounds⟩
    rw [if_neg hm.ne']
    rfl

/-- **A number is read back** from its text. -/
theorem readValue_numberText {n : Number} (h : Writable n) {rest : LooseText}
    (hrest : EndsNumber rest.front) (room fuel : Nat) :
    readValue room (fuel + 1) (.ofChars (numberText n) ++ rest) = .ok (.num n, rest) := by
  cases n with
  | whole n =>
    rw [numberText, toList_toString_int]
    have hwhole := isWhole_toDigits n.natAbs
    have hread := numeral?_whole (decide (n < 0)) hwhole hrest h
    obtain ⟨c, tail, hdigits, hc⟩ := hwhole.exists_cons
    have hvalue : (if decide (n < 0) = true then -(n.natAbs : Int) else n.natAbs) = n := by
      split_ifs with hn
      · rw [decide_eq_true_eq] at hn
        omega
      · rw [decide_eq_true_eq] at hn
        omega
    rw [Number.digitsValue_toDigits, hvalue, ← signed_append] at hread
    rw [hdigits] at hread ⊢
    exact readValue_number hc (readNumber_of_numeral? hread)
  | binary x =>
    cases x with
    | nan => rfl
    | infinite negative =>
      cases negative with
      | true => rfl
      | false => rfl
    | finite negative m e =>
      obtain ⟨s, k, j, htext, hspells, hvalue⟩ := exists_spells_text h
      have hread := hspells.numeral? negative hrest
      obtain ⟨c, tail, rfl, hc⟩ := hspells.exists_cons
      rw [hvalue, ← signed_append] at hread
      rw [numberText, htext]
      · exact readValue_number hc (readNumber_of_numeral? hread)
      · simp
      · simp

end Json

end Docwright
