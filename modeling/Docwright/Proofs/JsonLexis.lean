import Mathlib
import Docwright.Json.Reader
import Docwright.Proofs.Search

/-!
# What stands where in a JSON text

A backtick is found in a JSON text only inside a string, and a newline only outside. That much of
the lexical rules is `Lexed`: a text is a row of glyphs other than the backtick and of literals
without a newline. Every reader moves along such a row (`lexed_of_readPieces`,
`lexed_of_readNumber`, `movesAlong`), so a text that is read is one (`lexed_of_read`).
-/

namespace Docwright

namespace Json

open LooseText

/-- Between `s` and the text `rest` that it ends with stand literals without a newline and, outside
of them, no backticks. -/
inductive Lexed : (s rest : LooseText) → Prop
  /-- nothing stands between -/
  | refl (s : LooseText) : Lexed s s
  /-- a glyph outside of literals -/
  | plain {g : Glyph} {s rest : LooseText} (hg : g ≠ .char '`') (h : Lexed s rest) :
      Lexed (g :: s) rest
  /-- a literal -/
  | literal {inner s rest : LooseText} (hinner : Glyph.char '\n' ∉ inner) (h : Lexed s rest) :
      Lexed (.char '"' :: (inner ++ .char '"' :: s)) rest

theorem Lexed.trans {s t rest : LooseText} (h : Lexed s t) (h' : Lexed t rest) : Lexed s rest := by
  induction h with
  | refl => exact h'
  | plain hg _ ih => exact .plain hg (ih h')
  | literal hinner _ ih => exact .literal hinner (ih h')

/-- What follows a row does not matter to it. -/
theorem Lexed.append {s rest : LooseText} (h : Lexed s rest) (t : LooseText) :
    Lexed (s ++ t) (rest ++ t) := by
  induction h with
  | refl s => exact .refl (s ++ t)
  | plain hg _ ih => exact .plain hg ih
  | literal hinner _ ih => simpa using Lexed.literal hinner ih

/-- What was gone through does not start with a backtick. -/
theorem Lexed.head?_ne {s : LooseText} (h : Lexed s []) : s.head? ≠ some (.char '`') := by
  cases h with
  | refl => simp
  | plain hg => simpa using hg
  | literal => simp

/-- What starts with a newline starts behind a text without one. -/
theorem isInfix_of_append {inner w t : LooseText} (hinner : Glyph.char '\n' ∉ inner)
    (h : .char '\n' :: w <:+: inner ++ t) : .char '\n' :: w <:+: t := by
  induction inner with
  | nil => exact h
  | cons g inner ih =>
    obtain ⟨hg, hinner⟩ := not_or.mp (mt List.mem_cons.mpr hinner)
    rcases List.infix_cons_iff.mp h with hhead | hin
    · exact absurd (List.cons_prefix_cons.mp hhead).1 hg
    · exact ih hinner hin

/-- **A newline is outside of literals**, so no backtick follows it. -/
theorem Lexed.not_isInfix {s : LooseText} (h : Lexed s []) :
    ¬ [Glyph.char '\n', Glyph.char '`'] <:+: s := by
  generalize hend : ([] : LooseText) = rest at h
  induction h with
  | refl =>
    subst hend
    simp
  | @plain g s rest hg hs ih =>
    subst hend
    intro hin
    rcases List.infix_cons_iff.mp hin with hhead | hin
    · obtain ⟨-, t, rfl⟩ := List.cons_prefix_cons.mp hhead
      exact hs.head?_ne rfl
    · exact ih rfl hin
  | @literal inner s rest hinner hs ih =>
    intro hin
    have hliteral : Glyph.char '\n' ∉ Glyph.char '"' :: (inner ++ [.char '"']) := by
      simpa using hinner
    exact ih hend (isInfix_of_append hliteral (by simpa using hin))

/-- Outside strings everything but a backtick is passed. -/
theorem lexed_append_of_forall {u : LooseText} (h : ∀ g ∈ u, g ≠ .char '`') (s : LooseText) :
    Lexed (u ++ s) s := by
  induction u with
  | nil => exact .refl s
  | cons g u ih =>
    exact .plain (h g (List.mem_cons_self ..)) (ih fun d hd => h d (List.mem_cons_of_mem g hd))

/-- A run of glyphs of a class without the backtick. -/
theorem lexed_dropWhile {p : Glyph → Bool} (hp : p (.char '`') = false) (s : LooseText) :
    Lexed s (s.dropWhile p) := by
  have h := @lexed_append_of_forall (s.takeWhile p) ?_ (s.dropWhile p)
  · rwa [List.takeWhile_append_dropWhile] at h
  · rintro g hg rfl
    rw [List.mem_takeWhile_imp hg] at hp
    cases hp

theorem lexed_skipGap (s : LooseText) : Lexed s (skipGap s) :=
  lexed_dropWhile (by decide) s

/-- A run of digits among characters. -/
theorem lexed_digits (s : List Char) :
    Lexed (ofChars s) (ofChars (s.dropWhile Char.isDigit)) := by
  have h := @lexed_append_of_forall (ofChars (s.takeWhile Char.isDigit)) ?_
    (ofChars (s.dropWhile Char.isDigit))
  · rwa [← ofChars_append, List.takeWhile_append_dropWhile] at h
  · intro g hg
    obtain ⟨c, hc, rfl⟩ := List.mem_map.mp hg
    rintro hbacktick
    have hdigit := List.mem_takeWhile_imp hc
    rw [Glyph.char.inj hbacktick] at hdigit
    cases hdigit

/-! ## Strings, words and numbers -/

/-- A hexadecimal digit is no newline. -/
theorem ne_newline_of_digit? {g : Glyph} {n : Nat} (h : digit? g = some n) :
    g ≠ .char '\n' := by
  rintro rfl
  simp [digit?, Glyph.char?, Text.hexValue?] at h

/-- The escapes of one letter. -/
theorem ne_newline_of_escape? {e : Glyph} {c : Char} (h : e.char?.bind escape? = some c) :
    e ≠ .char '\n' := by
  rintro rfl
  cases h

/-- The digits of a code unit. -/
theorem newline_not_mem_of_unit? {a b c d : Glyph} {n : Nat} (h : unit? a b c d = some n) :
    Glyph.char '\n' ∉ [a, b, c, d] := by
  simp only [unit?, Option.bind_eq_bind, Option.bind_eq_some_iff] at h
  obtain ⟨_, ha, _, hb, _, hc, _, hd, -⟩ := h
  simp [(ne_newline_of_digit? ha).symm, (ne_newline_of_digit? hb).symm,
    (ne_newline_of_digit? hc).symm, (ne_newline_of_digit? hd).symm]

/-- **A string** ends with its closing quote, and there is no newline in it. -/
theorem exists_inner_of_readPieces {whole s rest : LooseText} {pieces : List Piece}
    (h : readPieces whole s = .ok (pieces, rest)) :
    ∃ inner, Glyph.char '\n' ∉ inner ∧ s = inner ++ .char '"' :: rest := by
  fun_induction readPieces whole s generalizing pieces rest with
  | case2 t =>
    obtain ⟨-, rfl⟩ := Prod.mk.inj (Except.ok.inj h)
    exact ⟨[], List.not_mem_nil, rfl⟩
  | case5 a b c d next t n hunit found t' hfound ih =>
    obtain ⟨-, rfl⟩ := Prod.mk.inj (Except.ok.inj h)
    obtain ⟨inner, hinner, hsplit⟩ := ih hfound
    have hdigits := newline_not_mem_of_unit? hunit
    refine ⟨.char '\\' :: .char 'u' :: ([a, b, c, d] ++ inner), ?_, by simp [hsplit]⟩
    simpa [not_or, and_assoc, hinner] using hdigits
  | case9 e t _ _ c hescape found t' hfound ih =>
    obtain ⟨-, rfl⟩ := Prod.mk.inj (Except.ok.inj h)
    obtain ⟨inner, hinner, hsplit⟩ := ih hfound
    refine ⟨.char '\\' :: e :: inner, ?_, by simp [hsplit]⟩
    simp [hinner, (ne_newline_of_escape? hescape).symm]
  | case12 g t _ _ _ _ _ hlow found t' hfound ih =>
    obtain ⟨-, rfl⟩ := Prod.mk.inj (Except.ok.inj h)
    obtain ⟨inner, hinner, hsplit⟩ := ih hfound
    have hg : Glyph.char '\n' ≠ g := by
      rintro rfl
      exact hlow (by decide)
    exact ⟨g :: inner, by simp [hinner, hg], by simp [hsplit]⟩
  | case1 | case3 | case4 | case6 | case7 | case8 | case10 | case11 | case13 => cases h

/-- **A string** is gone through as a whole. -/
theorem lexed_of_readPieces {whole s rest : LooseText} {pieces : List Piece}
    (h : readPieces whole s = .ok (pieces, rest)) : Lexed (.char '"' :: s) rest := by
  obtain ⟨inner, hinner, rfl⟩ := exists_inner_of_readPieces h
  exact .literal hinner (.refl rest)

/-- A word is passed. -/
theorem lexed_of_readWord? {s rest : LooseText} {v : Json} (h : readWord? s = some (v, rest)) :
    Lexed s rest := by
  have hwords : ∀ entry ∈ wordValues, ∀ g ∈ ofString entry.1, g ≠ Glyph.char '`' := by
    simp [wordValues, ofString]
  obtain ⟨entry, hentry, hfound⟩ := List.exists_of_findSome?_eq_some h
  obtain ⟨t, ht, hvalue⟩ := Option.map_eq_some_iff.mp hfound
  obtain ⟨-, rfl⟩ := Prod.mk.inj hvalue
  rw [Text.after?_eq_some_iff.mp ht]
  exact lexed_append_of_forall (hwords entry hentry) t

theorem lexed_of_splitWhole? {s whole rest : List Char} (h : splitWhole? s = some (whole, rest)) :
    Lexed (ofChars s) (ofChars rest) := by
  unfold splitWhole? at h
  split at h
  · obtain ⟨-, rfl⟩ := Prod.mk.inj (Option.some.inj h)
    exact .plain (by decide) (.refl _)
  · next c t _ =>
    split_ifs at h with hdigit
    obtain ⟨-, rfl⟩ := Prod.mk.inj (Option.some.inj h)
    refine .plain ?_ (lexed_digits t)
    intro hbacktick
    rw [Glyph.char.inj hbacktick] at hdigit
    cases hdigit
  · cases h

theorem lexed_splitFraction (s : List Char) : Lexed (ofChars s) (ofChars (splitFraction s).2) := by
  unfold splitFraction
  split
  · next t =>
    dsimp only
    split_ifs
    · exact .refl _
    · exact .plain (by decide) (lexed_digits t)
  · exact .refl _

theorem lexed_splitSign (s : List Char) :
    Lexed (ofChars s) (ofChars (Number.splitSign s).2) := by
  unfold Number.splitSign
  split
  · exact .plain (by decide) (.refl _)
  · exact .plain (by decide) (.refl _)
  · exact .refl _

theorem lexed_splitExponent (s : List Char) : Lexed (ofChars s) (ofChars (splitExponent s).2) := by
  unfold splitExponent
  split
  · exact .refl _
  · next mark t =>
    by_cases hmark : (mark = 'e' || mark = 'E') = true
    · have hne : Glyph.char mark ≠ .char '`' := by
        intro hbacktick
        rw [Glyph.char.inj hbacktick] at hmark
        simp at hmark
      rw [if_pos hmark]
      dsimp only
      split
      · exact .refl _
      · exact .plain hne ((lexed_splitSign t).trans (lexed_digits _))
    · rw [if_neg hmark]
      exact .refl _

/-- **The characters of a number** are digits, signs, a point and an exponent mark. -/
theorem lexed_of_numeral? {s rest : List Char} {n : Numeral} (h : numeral? s = some (n, rest)) :
    Lexed (ofChars s) (ofChars rest) := by
  unfold numeral? at h
  dsimp only at h
  split at h
  · cases h
  · next whole t hwhole =>
    have hbody : Lexed (ofChars s) (ofChars t) := by
      split at hwhole
      · exact .plain (by decide) (lexed_of_splitWhole? hwhole)
      · exact lexed_of_splitWhole? hwhole
    have hrest : rest = (splitExponent (splitFraction t).2).2 := by
      split at h
      · by_cases hdigits : maxDigits < whole.length
        · rw [if_pos hdigits] at h
          exact (Prod.mk.inj (Option.some.inj h)).2.symm
        · rw [if_neg hdigits] at h
          exact (Prod.mk.inj (Option.some.inj h)).2.symm
      · exact (Prod.mk.inj (Option.some.inj h)).2.symm
    rw [hrest]
    exact hbody.trans ((lexed_splitFraction t).trans (lexed_splitExponent _))

/-- A number is passed. -/
theorem lexed_of_readNumber {s rest : LooseText} {n : Number} (h : readNumber s = .ok (n, rest)) :
    Lexed s rest := by
  unfold readNumber at h
  split at h
  · cases h
  · cases h
  · next n t hnumeral =>
    obtain ⟨-, rfl⟩ := Prod.mk.inj (Except.ok.inj h)
    have hfront := (lexed_of_numeral? hnumeral).append s.behind
    rwa [ofChars_front_append_behind] at hfront

/-! ## Values -/

/-- The readers move along a row with this fuel. -/
structure MovesAlong (fuel : Nat) : Prop where
  /-- the reader of values -/
  value : ∀ {room : Nat} {s rest : LooseText} {v : Json},
    readValue room fuel s = .ok (v, rest) → Lexed s rest
  /-- the reader of items -/
  items : ∀ {room : Nat} {s rest : LooseText} {items : List Json},
    readItems room fuel s = .ok (items, rest) → Lexed s rest
  /-- the reader of fields -/
  fields : ∀ {room : Nat} {s rest : LooseText} {fields : List (LooseText × Json)},
    readFields room fuel s = .ok (fields, rest) → Lexed s rest

/-- Behind blanks stands a glyph outside of literals. -/
theorem lexed_of_skipGap {g : Glyph} (hg : g ≠ .char '`') {s rest : LooseText}
    (h : skipGap s = g :: rest) : Lexed s rest := by
  have hgap := lexed_skipGap s
  rw [h] at hgap
  exact hgap.trans (.plain hg (.refl rest))

theorem MovesAlong.readValue {fuel : Nat} (h : MovesAlong fuel) {room : Nat} {s rest : LooseText}
    {v : Json} (hread : readValue room (fuel + 1) s = .ok (v, rest)) : Lexed s rest := by
  rw [Json.readValue.eq_def] at hread
  dsimp only at hread
  split at hread
  · -- a string
    split at hread
    · next hpieces =>
      obtain ⟨-, rfl⟩ := Prod.mk.inj (Except.ok.inj hread)
      exact lexed_of_readPieces hpieces
    · cases hread
  · -- an object
    next t =>
    split_ifs at hread
    refine .plain (by decide) ?_
    split at hread
    · next hclose =>
      obtain ⟨-, rfl⟩ := Prod.mk.inj (Except.ok.inj hread)
      exact lexed_of_skipGap (by decide) hclose
    · split at hread
      · next hfields =>
        obtain ⟨-, rfl⟩ := Prod.mk.inj (Except.ok.inj hread)
        exact (lexed_skipGap t).trans (h.fields hfields)
      · cases hread
  · -- an array
    next t =>
    split_ifs at hread
    refine .plain (by decide) ?_
    split at hread
    · next hclose =>
      obtain ⟨-, rfl⟩ := Prod.mk.inj (Except.ok.inj hread)
      exact lexed_of_skipGap (by decide) hclose
    · split at hread
      · next hitems =>
        obtain ⟨-, rfl⟩ := Prod.mk.inj (Except.ok.inj hread)
        exact (lexed_skipGap t).trans (h.items hitems)
      · cases hread
  · -- a word or a number
    split at hread
    · next hword =>
      obtain rfl := Except.ok.inj hread
      exact lexed_of_readWord? hword
    · split at hread
      · next hnumber =>
        obtain ⟨-, rfl⟩ := Prod.mk.inj (Except.ok.inj hread)
        exact lexed_of_readNumber hnumber
      · cases hread

theorem MovesAlong.readItems {fuel : Nat} (h : MovesAlong fuel) {room : Nat} {s rest : LooseText}
    {items : List Json} (hread : readItems room (fuel + 1) s = .ok (items, rest)) :
    Lexed s rest := by
  rw [Json.readItems.eq_def] at hread
  dsimp only at hread
  split at hread
  · cases hread
  · next item t hitem =>
    refine (h.value hitem).trans ?_
    split at hread
    · next hclose =>
      obtain ⟨-, rfl⟩ := Prod.mk.inj (Except.ok.inj hread)
      exact lexed_of_skipGap (by decide) hclose
    · next t' hcomma =>
      split at hread
      · next hitems =>
        obtain ⟨-, rfl⟩ := Prod.mk.inj (Except.ok.inj hread)
        exact (lexed_of_skipGap (by decide) hcomma).trans
          ((lexed_skipGap t').trans (h.items hitems))
      · cases hread
    · cases hread

theorem MovesAlong.readFields {fuel : Nat} (h : MovesAlong fuel) {room : Nat} {s rest : LooseText}
    {fields : List (LooseText × Json)} (hread : readFields room (fuel + 1) s = .ok (fields, rest)) :
    Lexed s rest := by
  rw [Json.readFields.eq_def] at hread
  dsimp only at hread
  split at hread
  · split at hread
    · cases hread
    · next hname =>
      refine (lexed_of_readPieces hname).trans ?_
      split at hread
      · next t hcolon =>
        refine (lexed_of_skipGap (by decide) hcolon).trans ((lexed_skipGap t).trans ?_)
        split at hread
        · cases hread
        · next hvalue =>
          refine (h.value hvalue).trans ?_
          split at hread
          · next hclose =>
            obtain ⟨-, rfl⟩ := Prod.mk.inj (Except.ok.inj hread)
            exact lexed_of_skipGap (by decide) hclose
          · next t' hcomma =>
            split at hread
            · next hfields =>
              obtain ⟨-, rfl⟩ := Prod.mk.inj (Except.ok.inj hread)
              exact (lexed_of_skipGap (by decide) hcomma).trans
                ((lexed_skipGap t').trans (h.fields hfields))
            · cases hread
          · cases hread
      · cases hread
  · cases hread

/-- **The reader moves along** the text, however much fuel it has. -/
theorem movesAlong (fuel : Nat) : MovesAlong fuel := by
  induction fuel with
  | zero => constructor <;> intros <;> contradiction
  | succ fuel ih => exact ⟨ih.readValue, ih.readItems, ih.readFields⟩

/-- **A text that is read** has its backticks inside of literals and its newlines outside. -/
theorem lexed_of_read {s : LooseText} {v : Json} (h : read s = .ok v) : Lexed s [] := by
  unfold read readDocument at h
  split at h
  · cases h
  · split at h
    · cases h
    · next v t hvalue =>
      split at h
      · next hend =>
        have hgap := lexed_skipGap t
        rw [hend] at hgap
        exact (lexed_skipGap s).trans (((movesAlong _).value hvalue).trans hgap)
      · cases h

end Json

end Docwright
