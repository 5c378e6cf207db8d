import Mathlib
import Docwright.Text.Alphanumeric
import Docwright.Text.Search

/-!
# Trimming, cutting and joining

What the reading of texts needs to know about its tools: which part of a text `trimEnd` takes
away, what a cut at a character leaves on either side, and that blanks at the end of a text are out
of reach of a needle without blanks. At the end: which characters stand in a text that is joined
from parts.
-/

namespace Docwright.Text

/-! ## Classes of characters -/

/-- What holds of all code points below a bound holds of a character below it. -/
theorem of_toNat_lt {bound : Nat} {P : Char → Prop} (h : ∀ n < bound, P (Char.ofNat n)) {c : Char}
    (hc : c.toNat < bound) : P c := by
  have hchar := h c.toNat hc
  rwa [Char.ofNat_toNat] at hchar

/-- An ASCII blank is a blank. -/
theorem isBlank_of_isAsciiBlank {c : Char} (h : isAsciiBlank c = true) : isBlank c = true := by
  simp [isBlank, h]

/-- The start of an identifier may also continue one. -/
theorem isIdentChar_of_isIdentStart {c : Char} (h : isIdentStart c = true) :
    isIdentChar c = true := by
  unfold isIdentStart at h
  unfold isIdentChar Char.isAlphanum
  rcases Bool.or_eq_true_iff.mp h with h | h
  · simp [h]
  · simp [h]

/-- Blanks lie outside the printed part of ASCII. -/
theorem toNat_of_isBlank {c : Char} (h : isBlank c = true) : c.toNat ≤ 32 ∨ 0x85 ≤ c.toNat := by
  simp only [isBlank, isAsciiBlank, Bool.or_eq_true, Bool.and_eq_true, beq_iff_eq,
    decide_eq_true_eq] at h
  by_cases hc : c = ' ' ∨ c = '\t' ∨ c = '\n' ∨ c = '\r' ∨ c = '\x0c' ∨ c = '\x0b'
  · left
    rcases hc with rfl | rfl | rfl | rfl | rfl | rfl <;> decide
  · simp only [not_or] at hc
    simp only [hc, false_or] at h
    omega

/-- Identifiers are spelt in the printed part of ASCII. -/
theorem toNat_of_isIdentChar {c : Char} (h : isIdentChar c = true) :
    48 ≤ c.toNat ∧ c.toNat ≤ 122 := by
  have hcode : (65 ≤ c.toNat ∧ c.toNat ≤ 90 ∨ 97 ≤ c.toNat ∧ c.toNat ≤ 122) ∨
      48 ≤ c.toNat ∧ c.toNat ≤ 57 ∨ c = '_' := by
    simpa [isIdentChar, Char.isAlphanum, Char.isAlpha, Char.isUpper, Char.isLower, Char.isDigit,
      UInt32.le_iff_toNat_le, or_assoc] using h
  rcases hcode with h | h | rfl
  · omega
  · omega
  · decide

/-- An identifier holds no blanks. -/
theorem isBlank_eq_false_of_isIdentChar {c : Char} (h : isIdentChar c = true) :
    isBlank c = false := by
  by_contra hblank
  have hcode := toNat_of_isIdentChar h
  have hout := toNat_of_isBlank (eq_true_of_ne_false hblank)
  omega

/-! ## Runs of characters -/

/-- A run ends where the next character is of another class. -/
theorem takeWhile_append_of_stop {α : Type} {p : α → Bool} {s t : List α} (hs : ∀ c ∈ s, p c = true)
    (ht : ∀ c, t.head? = some c → p c = false) : (s ++ t).takeWhile p = s := by
  rw [List.takeWhile_append_of_pos hs]
  cases t with
  | nil => simp
  | cons c t => simp [ht c rfl]

/-- What follows a run stays when the run is dropped. -/
theorem dropWhile_append_of_stop {α : Type} {p : α → Bool} {s t : List α} (hs : ∀ c ∈ s, p c = true)
    (ht : ∀ c, t.head? = some c → p c = false) : (s ++ t).dropWhile p = t := by
  rw [List.dropWhile_append_of_pos hs]
  cases t with
  | nil => rfl
  | cons c t => simp [ht c rfl]

/-! ## Trimming -/

/-- What `trimEnd` takes away is a run of blanks. -/
theorem exists_trimEnd_append (s : List Char) :
    ∃ blanks, (∀ c ∈ blanks, isBlank c = true) ∧ trimEnd s ++ blanks = s :=
  ⟨s.rtakeWhile isBlank, fun _ hc => List.mem_rtakeWhile_imp hc,
    List.rdropWhile_append_rtakeWhile⟩

/-- A text of blanks has nothing left. -/
theorem trimEnd_eq_nil_iff {s : List Char} : trimEnd s = [] ↔ ∀ c ∈ s, isBlank c = true :=
  List.rdropWhile_eq_nil_iff

/-- A text that ends with no blank keeps its end. -/
theorem trimEnd_concat {s : List Char} {c : Char} (h : isBlank c = false) :
    trimEnd (s ++ [c]) = s ++ [c] :=
  List.rdropWhile_concat_neg isBlank s c (by simp [h])

theorem trimEnd_trimEnd (s : List Char) : trimEnd (trimEnd s) = trimEnd s :=
  List.rdropWhile_idempotent isBlank s

/-- Blanks at the end do not matter to `trimEnd`. -/
theorem trimEnd_append_of_blank {s t : List Char} (h : ∀ c ∈ t, isBlank c = true) :
    trimEnd (s ++ t) = trimEnd s := by
  unfold trimEnd
  rw [List.reverse_append, List.dropWhile_append_of_pos]
  intro c hc
  exact h c (List.mem_reverse.mp hc)

/-- Only the end of a text is trimmed when something of it is left. -/
theorem trimEnd_append_of_ne_nil {s t : List Char} (h : trimEnd t ≠ []) :
    trimEnd (s ++ t) = s ++ trimEnd t := by
  have hne : (t.reverse.dropWhile isBlank).isEmpty = false := by
    rw [List.isEmpty_eq_false_iff]
    intro hnil
    exact h (by rw [trimEnd, hnil, List.reverse_nil])
  unfold trimEnd
  rw [List.reverse_append, List.dropWhile_append, hne, if_neg Bool.false_ne_true,
    List.reverse_append, List.reverse_reverse]

/-- Behind a trimmed text only the rest is trimmed. -/
theorem trimEnd_append_of_trimmed {s t : List Char} (h : trimEnd s = s) :
    trimEnd (s ++ t) = s ++ trimEnd t := by
  by_cases ht : trimEnd t = []
  · rw [trimEnd_append_of_blank (trimEnd_eq_nil_iff.mp ht), h, ht, List.append_nil]
  · exact trimEnd_append_of_ne_nil ht

/-- Blanks at the end stay behind what `trimStart` leaves, unless it leaves nothing. -/
theorem trimStart_append_of_blank {s t : List Char} (h : ∀ c ∈ t, isBlank c = true) :
    trimStart (s ++ t) = trimStart s ++ t ∨ trimStart s = [] ∧ trimStart (s ++ t) = [] := by
  unfold trimStart
  rw [List.dropWhile_append]
  by_cases hs : (s.dropWhile isBlank).isEmpty
  · right
    rw [if_pos hs]
    exact ⟨List.isEmpty_iff.mp hs, List.dropWhile_eq_nil_iff.mpr h⟩
  · left
    rw [if_neg hs]

/-- Nothing is left of a text exactly when all of it is blank. -/
theorem trim_eq_nil_iff {s : List Char} : trim s = [] ↔ allBlank s = true := by
  rw [trim, trimEnd_eq_nil_iff, allBlank, List.all_eq_true]
  constructor
  · intro h c hc
    rw [← List.takeWhile_append_dropWhile (p := isBlank) (l := s)] at hc
    rcases List.mem_append.mp hc with hc | hc
    · exact List.mem_takeWhile_imp hc
    · exact h c hc
  · intro h c hc
    exact h c ((List.dropWhile_sublist isBlank).mem hc)

/-- A text is what is trimmed of it between two runs of blanks. -/
theorem exists_trim_append (s : List Char) :
    ∃ front back, (∀ c ∈ front, isBlank c = true) ∧ (∀ c ∈ back, isBlank c = true) ∧
      front ++ (trim s ++ back) = s := by
  obtain ⟨back, hback, hs⟩ := exists_trimEnd_append (trimStart s)
  refine ⟨s.takeWhile isBlank, back, fun c hc => List.mem_takeWhile_imp hc, hback, ?_⟩
  rw [trim, hs]
  exact List.takeWhile_append_dropWhile

/-- Blanks in front of a text are trimmed. -/
theorem trim_blank_append {blanks : List Char} (h : ∀ c ∈ blanks, isBlank c = true)
    (s : List Char) : trim (blanks ++ s) = trim s := by
  rw [trim, trimStart, List.dropWhile_append_of_pos h]
  rfl

/-- Blanks behind a text are trimmed. -/
theorem trim_append_blank {blanks : List Char} (h : ∀ c ∈ blanks, isBlank c = true)
    (s : List Char) : trim (s ++ blanks) = trim s := by
  rcases trimStart_append_of_blank (s := s) h with hstart | ⟨hs, hstart⟩
  · rw [trim, hstart, trimEnd_append_of_blank h, trim]
  · rw [trim, hstart, trim, hs]

/-- A trimmed text starts with no blank. -/
theorem trimStart_trim (s : List Char) : trimStart (trim s) = trim s := by
  obtain ⟨back, hback, hs⟩ := exists_trimEnd_append (trimStart s)
  rw [trim]
  rcases htrim : trimEnd (trimStart s) with _ | ⟨c, rest⟩
  · rfl
  · refine trimStart_cons_of_not ?_
    have hhead := List.head?_dropWhile_not isBlank s
    rw [show s.dropWhile isBlank = trimStart s from rfl, ← hs, htrim] at hhead
    simpa using hhead

/-- Trimming twice is trimming once. -/
theorem trim_trim (s : List Char) : trim (trim s) = trim s := by
  rw [trim, trimStart_trim, trim, trimEnd_trimEnd]

/-- A mark that is no blank is not among blanks. -/
theorem not_mem_of_blank {blanks : List Char} (h : ∀ c ∈ blanks, isBlank c = true) {mark : Char}
    (hmark : isBlank mark = false) : mark ∉ blanks := by
  intro hmem
  rw [h mark hmem] at hmark
  cases hmark

theorem trim_subset (s : List Char) : trim s ⊆ s := by
  intro c hc
  have hstart : c ∈ trimStart s := by
    have := List.mem_reverse.mp hc
    exact List.mem_reverse.mp ((List.dropWhile_suffix _).subset this)
  exact (List.dropWhile_suffix _).subset hstart

/-- Only blanks are trimmed. -/
theorem mem_trim {s : List Char} {c : Char} (hc : c ∈ s) (hblank : isBlank c = false) :
    c ∈ trim s := by
  obtain ⟨front, back, hfront, hback, hs⟩ := exists_trim_append s
  rw [← hs] at hc
  rcases List.mem_append.mp hc with hc | hc
  · exact absurd hc (not_mem_of_blank hfront hblank)
  · exact (List.mem_append.mp hc).resolve_right (not_mem_of_blank hback hblank)

/-! ## Cutting -/

section

variable {α : Type} [DecidableEq α]

/-- A cut that finds its mark: the mark does not occur before it. -/
theorem splitFirst_eq_some_iff {mark : α} {s before behind : List α} :
    splitFirst mark s = (before, some behind) ↔
      s = before ++ mark :: behind ∧ mark ∉ before := by
  induction s generalizing before with
  | nil => simp [splitFirst]
  | cons c s ih =>
    rw [splitFirst]
    by_cases hc : c = mark
    · -- the mark comes first, so nothing can stand before it
      rw [if_pos hc, hc]
      cases before with
      | nil => simp
      | cons b before =>
        constructor
        · intro h
          cases h
        · rintro ⟨heq, hmem⟩
          exact absurd (List.mem_cons.mpr (.inl (List.cons.inj heq).1)) hmem
    · rw [if_neg hc]
      cases before with
      | nil => simp [hc]
      | cons b before =>
        have hrest := @ih before
        rw [Prod.ext_iff] at hrest
        simp only [Prod.mk.injEq, List.cons.injEq, List.cons_append, List.mem_cons, not_or,
          and_assoc, hrest]
        constructor
        · rintro ⟨rfl, rfl, hmem⟩
          exact ⟨rfl, rfl, Ne.symm hc, hmem⟩
        · rintro ⟨rfl, rfl, -, hmem⟩
          exact ⟨rfl, rfl, hmem⟩

/-- A cut that does not find its mark. -/
theorem splitFirst_snd_eq_none_iff {mark : α} {s : List α} :
    (splitFirst mark s).2 = none ↔ mark ∉ s := by
  induction s with
  | nil => simp [splitFirst]
  | cons c s ih =>
    rw [splitFirst]
    by_cases hc : c = mark
    · simp [hc]
    · simp [hc, ih, Ne.symm hc]

/-- **A cut at a mark**: the mark is missing and all comes before it, or the text is cut at the
first one. -/
theorem splitFirst_cases (mark : α) (s : List α) :
    (mark ∉ s ∧ splitFirst mark s = (s, none)) ∨
      ∃ before behind, s = before ++ mark :: behind ∧ mark ∉ before ∧
        splitFirst mark s = (before, some behind) := by
  induction s with
  | nil => exact .inl ⟨List.not_mem_nil, rfl⟩
  | cons c s ih =>
    rw [splitFirst]
    by_cases hc : c = mark
    · right
      rw [if_pos hc, hc]
      exact ⟨[], s, rfl, List.not_mem_nil, rfl⟩
    · have hne : mark ≠ c := Ne.symm hc
      rw [if_neg hc]
      rcases ih with ⟨hmem, hs⟩ | ⟨before, behind, rfl, hmem, hs⟩
      · left
        rw [hs]
        exact ⟨by simp [hne, hmem], rfl⟩
      · right
        rw [hs]
        exact ⟨c :: before, behind, rfl, by simp [hne, hmem], rfl⟩

theorem splitFirst_of_not_mem {mark : α} {s : List α} (h : mark ∉ s) :
    splitFirst mark s = (s, none) := by
  rcases splitFirst_cases mark s with ⟨-, hs⟩ | ⟨before, behind, rfl, -⟩
  · exact hs
  · exact absurd (by simp) h

theorem splitFirst_append_cons {mark : α} {before : List α} (h : mark ∉ before)
    (behind : List α) : splitFirst mark (before ++ mark :: behind) = (before, some behind) :=
  splitFirst_eq_some_iff.mpr ⟨rfl, h⟩

omit [DecidableEq α] in
/-- The last of the marks in a text. -/
theorem exists_last_mark {mark : α} {s : List α} (h : mark ∈ s) :
    ∃ before behind, s = before ++ mark :: behind ∧ mark ∉ behind := by
  obtain ⟨behind, before, hs, hmem⟩ := List.eq_append_cons_of_mem (List.mem_reverse.mpr h)
  refine ⟨before.reverse, behind.reverse, ?_, by simpa using hmem⟩
  rw [← List.reverse_reverse s, hs]
  simp

theorem splitLast?_eq_none {mark : α} {s : List α} (h : mark ∉ s) :
    splitLast? mark s = none := by
  induction s with
  | nil => rfl
  | cons c s ih =>
    obtain ⟨hc, hs⟩ := not_or.mp (mt List.mem_cons.mpr h)
    rw [splitLast?, ih hs]
    exact if_neg (Ne.symm hc)

/-- A cut at the last mark: the mark does not occur behind it. -/
theorem splitLast?_append {mark : α} {t : List α} (ht : mark ∉ t) (s : List α) :
    splitLast? mark (s ++ mark :: t) = some (s, t) := by
  induction s with
  | nil => rw [List.nil_append, splitLast?, splitLast?_eq_none ht]; exact if_pos rfl
  | cons c s ih => rw [List.cons_append, splitLast?, ih]

/-- A part of a text that is cut at every mark holds none. -/
theorem not_mem_of_mem_splitOn {mark : α} {s part : List α} (h : part ∈ s.splitOn mark) :
    mark ∉ part := by
  induction s generalizing part with
  | nil =>
    obtain rfl : part = [] := by simpa using h
    simp
  | cons c s ih =>
    rw [List.splitOn_cons_eq_if_modifyHead] at h
    split_ifs at h with hc
    · rcases List.mem_cons.mp h with rfl | h
      · simp
      · exact ih h
    · cases hs : s.splitOn mark with
      | nil => exact absurd hs (List.splitOn_ne_nil mark s)
      | cons first rest =>
        rw [hs] at ih h
        rcases List.mem_cons.mp h with rfl | h
        · have hfirst := ih (List.mem_cons_self)
          simp only [List.mem_cons, not_or]
          exact ⟨fun e => hc (beq_iff_eq.mpr e.symm), hfirst⟩
        · exact ih (List.mem_cons_of_mem _ h)

/-- A head does not reach into a text that starts with a character the head does not hold. -/
theorem after?_append {head s t : List α} (h : ∀ c, t.head? = some c → c ∉ head) :
    after? head (s ++ t) = (after? head s).map (· ++ t) := by
  induction head generalizing s with
  | nil => simp [after?]
  | cons a head ih =>
    cases s with
    | nil =>
      cases t with
      | nil => rfl
      | cons b t =>
        have hne : a ≠ b := by
          rintro rfl
          exact h a rfl (List.mem_cons_self ..)
        simp [after?, hne]
    | cons c s =>
      have := @ih s fun x hx hmem => h x hx (List.mem_cons_of_mem _ hmem)
      by_cases hac : a = c
      · simp [after?, hac, this]
      · simp [after?, hac]

end

/-- A head without blanks does not reach into blanks at the end. -/
theorem after?_append_of_blank {head s t : List Char} (hhead : ∀ c ∈ head, isBlank c = false)
    (ht : ∀ c ∈ t, isBlank c = true) : after? head (s ++ t) = (after? head s).map (· ++ t) := by
  refine after?_append fun c hc hmem => ?_
  have hblank := hhead c hmem
  rw [ht c (List.mem_of_head? hc)] at hblank
  cases hblank

/-- A needle without blanks is not found among blanks. -/
theorem cut?_eq_none_of_blank {needle t : List Char} (hne : needle ≠ [])
    (hneedle : ∀ c ∈ needle, isBlank c = false) (ht : ∀ c ∈ t, isBlank c = true) :
    cut? needle t = none := by
  induction t with
  | nil => simp [cut?, hne]
  | cons b t ih =>
    have hafter : after? needle (b :: t) = none := by
      have := @after?_append_of_blank needle [] (b :: t) hneedle ht
      rw [List.nil_append] at this
      rw [this]
      cases needle with
      | nil => exact absurd rfl hne
      | cons a needle => rfl
    have := ih fun c hc => ht c (List.mem_cons_of_mem _ hc)
    simp [cut?, hafter, this]

/-- Blanks at the end of a text stay behind what a needle without blanks cuts off. -/
theorem cut?_append_of_blank {needle s t : List Char} (hne : needle ≠ [])
    (hneedle : ∀ c ∈ needle, isBlank c = false) (ht : ∀ c ∈ t, isBlank c = true) :
    cut? needle (s ++ t) = (cut? needle s).map fun found => (found.1, found.2 ++ t) := by
  induction s with
  | nil =>
    rw [List.nil_append, cut?_eq_none_of_blank hne hneedle ht]
    simp [cut?, hne]
  | cons c s ih =>
    have hafter := @after?_append_of_blank needle (c :: s) t hneedle ht
    rw [List.cons_append] at hafter ⊢
    rw [cut?, cut?, hafter]
    rcases after? needle (c :: s) with _ | rest
    · simp [ih, Function.comp_def]
    · simp

/-! ## Joined texts -/

theorem mem_join {α : Type} {sep : List α} {parts : List (List α)} {c : α}
    (h : c ∈ join sep parts) :
    c ∈ sep ∨ ∃ part ∈ parts, c ∈ part := by
  induction parts with
  | nil => cases h
  | cons part parts ih =>
    cases parts with
    | nil => exact .inr ⟨part, by simp, by simpa [join, List.intercalate] using h⟩
    | cons next parts =>
      have hsplit : c ∈ part ++ (sep ++ join sep (next :: parts)) := by
        simpa [join, List.intercalate] using h
      rcases List.mem_append.mp hsplit with hpart | hrest
      · exact .inr ⟨part, by simp, hpart⟩
      · rcases List.mem_append.mp hrest with hsep | hrest
        · exact .inl hsep
        · rcases ih hrest with hsep | ⟨other, hother, hc⟩
          · exact .inl hsep
          · exact .inr ⟨other, List.mem_cons_of_mem _ hother, hc⟩

/-- A part of a joined text. -/
theorem subset_join {α : Type} {sep part : List α} {parts : List (List α)} (h : part ∈ parts) :
    part ⊆ join sep parts := by
  induction parts with
  | nil => cases h
  | cons first parts ih =>
    cases parts with
    | nil =>
      obtain rfl := List.mem_singleton.mp h
      simp [join, List.intercalate]
    | cons next parts =>
      have hsplit : join sep (first :: next :: parts) =
          first ++ (sep ++ join sep (next :: parts)) := by
        simp [join, List.intercalate]
      rw [hsplit]
      rcases List.mem_cons.mp h with rfl | h
      · exact List.subset_append_left _ _
      · exact fun c hc => List.mem_append_right _ (List.mem_append_right _ (ih h hc))

/-- A part of a text that is cut at every mark holds nothing else. -/
theorem subset_of_mem_splitOn {α : Type} [DecidableEq α] {mark : α} {s part : List α}
    (h : part ∈ s.splitOn mark) : part ⊆ s := by
  have hsub := @subset_join α [mark] part _ h
  rwa [join, List.intercalate_splitOn] at hsub

/-- Texts joined with a comma and a space are cut apart again at the commas, with the spaces left
in front. -/
theorem join_comma (first : List Char) (rest : List (List Char)) :
    join [',', ' '] (first :: rest) = [','].intercalate (first :: rest.map (' ' :: ·)) := by
  induction rest generalizing first with
  | nil => simp [join, List.intercalate]
  | cons next rest ih =>
    have hsplit : join [',', ' '] (first :: next :: rest) =
        first ++ ',' :: ' ' :: join [',', ' '] (next :: rest) := by
      simp [join, List.intercalate]
    rw [hsplit, ih]
    cases rest <;> simp [List.intercalate]

end Docwright.Text
