import Docwright.Proofs.Text
import Docwright.Source.Body

/-!
# Where a body ends

The reader of a body looks ahead in two ways: for the rest of a triple quote, and for the first
character of the next line. This module says how far either look matters.

* `splitBody_snd` — **where it stops**: at the end of the text, or at a newline with something in
  column zero behind it.
* `splitBody_of_isPrefix` — **cutting off**: a part of a body, read on its own, is all body. What is
  cut off must not start with a quote, so that no triple quote is cut in two.
* `splitBody_append_of_whole` — **going on**: a text that is all body is still read to its end when
  a line end follows, and the reader goes on in the mode it has reached there.

The look for a triple quote is for the quote of the mode, so the last two need the modes to be
`Proper`: their quotes are quotes. Every step keeps them so.
-/

namespace Docwright

namespace Source

/-! ## Proper modes -/

/-- The quote of a literal is a quote. -/
def Mode.Proper : Mode → Prop
  | .code | .comment => True
  | .short quote | .escaped quote | .opening quote _ | .long quote | .closing quote _ =>
    isQuote quote = true

theorem Mode.proper_code : Mode.Proper .code := trivial

/-- Reading a character keeps the mode proper. -/
theorem Mode.Proper.step {mode : Mode} (h : mode.Proper) (c : Char) (rest : List Char) :
    (mode.step c rest).Proper := by
  cases mode with
  | code =>
    simp only [Mode.step]
    split_ifs with hsign hquote htwo
    · trivial
    · exact hquote
    · exact hquote
    · trivial
  | comment =>
    simp only [Mode.step]
    split_ifs <;> trivial
  | short quote =>
    simp only [Mode.step]
    split_ifs
    · exact h
    · trivial
    · exact h
  | escaped quote => exact h
  | opening quote left =>
    simp only [Mode.step]
    split_ifs <;> exact h
  | long quote =>
    simp only [Mode.step]
    split_ifs <;> exact h
  | closing quote left =>
    simp only [Mode.step]
    split_ifs
    · trivial
    · exact h

/-! ## What the reader sees ahead -/

/-- The two quotes of a triple are not found across the start of a text without a quote there. -/
theorem twoMore_append {quote : Char} {s t : List Char} (hquote : isQuote quote = true)
    (ht : t.head?.any isQuote = false) : twoMore quote (s ++ t) = twoMore quote s := by
  have hne : ∀ c t', t = c :: t' → (c == quote) = false := by
    rintro c t' rfl
    rw [beq_eq_false_iff_ne]
    rintro rfl
    rw [List.head?_cons, Option.any_some, hquote] at ht
    cases ht
  match s with
  | [] =>
    match t with
    | [] => rfl
    | [_] => rfl
    | c :: d :: t' => simp [twoMore, hne c (d :: t') rfl]
  | [a] =>
    match t with
    | [] => rfl
    | c :: t' => simp [twoMore, hne c t' rfl]
  | _ :: _ :: _ => rfl

/-- The mode behind a character does not hang on what follows a text, unless that starts with a
quote. -/
theorem Mode.Proper.step_append {mode : Mode} (h : mode.Proper) {c : Char} {s t : List Char}
    (ht : t.head?.any isQuote = false) : mode.step c (s ++ t) = mode.step c s := by
  cases mode with
  | code =>
    simp only [Mode.step]
    by_cases hquote : isQuote c = true
    · rw [twoMore_append hquote ht]
    · simp only [hquote]
      rfl
  | long quote =>
    simp only [Mode.step]
    rw [twoMore_append h ht]
  | comment | short quote | escaped quote | opening quote left | closing quote left => rfl

/-- A boundary of a text stays one when the text goes on. -/
theorem isBoundary_append_of {mode : Mode} {c : Char} {s t : List Char}
    (h : isBoundary mode c s = true) : isBoundary mode c (s ++ t) = true := by
  cases s with
  | nil => simp [isBoundary, inColumnZero] at h
  | cons d s => exact h

/-- A text that does not start in column zero adds no boundary in front of it. -/
theorem isBoundary_append {mode : Mode} {c : Char} {s t : List Char}
    (ht : inColumnZero t = false) : isBoundary mode c (s ++ t) = isBoundary mode c s := by
  cases s with
  | nil =>
    rw [List.nil_append, isBoundary, isBoundary, ht]
    rfl
  | cons d s => rfl

/-! ## Equations of the reader -/

theorem splitBody_of_boundary {mode : Mode} {c : Char} {s : List Char}
    (h : isBoundary mode c s = true) : splitBody mode (c :: s) = ([], c :: s) := by
  rw [splitBody, if_pos h]

theorem splitBody_of_not_boundary {mode : Mode} {c : Char} {s : List Char}
    (h : isBoundary mode c s = false) :
    splitBody mode (c :: s) =
      (c :: (splitBody (mode.step c s) s).1, (splitBody (mode.step c s) s).2) := by
  rw [splitBody, h, if_neg Bool.false_ne_true]

/-! ## Where the reader stops -/

/-- **The end of a body** is the end of the text, or a newline with something in column zero
behind it. -/
theorem splitBody_snd (mode : Mode) (s : List Char) :
    (splitBody mode s).2 = [] ∨
      ∃ c rest, (splitBody mode s).2 = '\n' :: c :: rest ∧ Text.isAsciiBlank c = false := by
  induction s generalizing mode with
  | nil => exact .inl rfl
  | cons c s ih =>
    rcases hb : isBoundary mode c s
    · rw [splitBody_of_not_boundary hb]
      exact ih _
    · rw [splitBody_of_boundary hb]
      simp only [isBoundary, Bool.and_eq_true, beq_iff_eq] at hb
      obtain ⟨⟨rfl, -⟩, hzero⟩ := hb
      cases s with
      | nil => cases hzero
      | cons d s => exact .inr ⟨d, s, rfl, by simpa [inColumnZero] using hzero⟩

/-! ## Cutting off -/

/-- **Cutting off.** A part of a body is all body when it is read on its own. -/
theorem splitBody_of_isPrefix {mode : Mode} (hmode : mode.Proper) {s t : List Char}
    (ht : t.head?.any isQuote = false) (h : s <+: (splitBody mode (s ++ t)).1) :
    splitBody mode s = (s, []) := by
  induction s generalizing mode with
  | nil => rfl
  | cons c s ih =>
    rw [List.cons_append] at h
    have hwhole : isBoundary mode c (s ++ t) = false := by
      by_contra hb
      rw [splitBody_of_boundary (eq_true_of_ne_false hb)] at h
      simp at h
    -- a boundary of the part would be one of the whole, which reads on here
    have hpart : isBoundary mode c s = false := by
      by_contra hb
      rw [isBoundary_append_of (eq_true_of_ne_false hb)] at hwhole
      cases hwhole
    rw [splitBody_of_not_boundary hwhole, hmode.step_append ht, List.cons_prefix_cons] at h
    rw [splitBody_of_not_boundary hpart, ih (hmode.step c s) h.2]

/-- A blank is no quote. -/
theorem isQuote_eq_false_of_isBlank {c : Char} (h : Text.isBlank c = true) : isQuote c = false := by
  have hcode := Text.toNat_of_isBlank h
  rw [isQuote, Bool.or_eq_false_iff, beq_eq_false_iff_ne, beq_eq_false_iff_ne]
  constructor
  · rintro rfl
    exact absurd hcode (by decide)
  · rintro rfl
    exact absurd hcode (by decide)

/-- A body without the blanks behind it is all body. -/
theorem splitBody_trimEnd {mode : Mode} (hmode : mode.Proper) (s : List Char) :
    splitBody mode (Text.trimEnd (splitBody mode s).1) =
      (Text.trimEnd (splitBody mode s).1, []) := by
  obtain ⟨blanks, hblanks, hbody⟩ := Text.exists_trimEnd_append (splitBody mode s).1
  have hs : Text.trimEnd (splitBody mode s).1 ++ (blanks ++ (splitBody mode s).2) = s := by
    rw [← List.append_assoc, hbody, splitBody_append]
  -- what is cut off starts with a blank, or with the newline that ends the body
  have hquote : (blanks ++ (splitBody mode s).2).head?.any isQuote = false := by
    cases blanks with
    | cons c blanks => exact isQuote_eq_false_of_isBlank (hblanks c (List.mem_cons_self ..))
    | nil =>
      rcases splitBody_snd mode s with h | ⟨c, rest, h, -⟩
      · rw [h]
        rfl
      · rw [h]
        rfl
  refine splitBody_of_isPrefix hmode hquote ?_
  rw [hs]
  exact ⟨blanks, hbody⟩

/-! ## Going on -/

/-- The mode behind a text that nothing follows. -/
def Mode.after (mode : Mode) : List Char → Mode
  | [] => mode
  | c :: s => (mode.step c s).after s

/-- **Going on.** Behind a text that is all body the reader goes on in the mode reached there, if
what follows starts neither with a quote nor in column zero. -/
theorem splitBody_append_of_whole {mode : Mode} (hmode : mode.Proper) {s t : List Char}
    (hquote : t.head?.any isQuote = false) (hzero : inColumnZero t = false)
    (h : splitBody mode s = (s, [])) :
    splitBody mode (s ++ t) =
      (s ++ (splitBody (mode.after s) t).1, (splitBody (mode.after s) t).2) := by
  induction s generalizing mode with
  | nil => rfl
  | cons c s ih =>
    have hb : isBoundary mode c s = false := by
      by_contra hb
      rw [splitBody_of_boundary (eq_true_of_ne_false hb)] at h
      simp at h
    rw [splitBody_of_not_boundary hb] at h
    obtain ⟨hbody, hrest⟩ := Prod.mk.inj h
    have hstep : splitBody (mode.step c s) s = (s, []) :=
      Prod.ext (List.cons.inj hbody).2 hrest
    rw [List.cons_append, splitBody_of_not_boundary (by rw [isBoundary_append hzero, hb]),
      hmode.step_append hquote, ih (hmode.step c s) hstep]
    rfl

end Source

end Docwright
