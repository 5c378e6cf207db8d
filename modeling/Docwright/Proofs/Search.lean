import Docwright.Proofs.Text

/-!
# Finding and squeezing

A cut finds its needle exactly where the text has it (`cut?_eq_none_iff`), and it finds the first
one (`cut?_append_of_first`, `first_of_cut?`). A text that is squeezed to one line is its words with
spaces between them (`squeeze_eq_join_words`).
-/

namespace Docwright.Text

section

variable {α : Type} [DecidableEq α]

theorem after?_eq_none_iff {head s : List α} : after? head s = none ↔ ¬ head <+: s := by
  rw [Option.eq_none_iff_forall_ne_some]
  constructor
  · rintro h ⟨rest, hrest⟩
    exact h rest (after?_eq_some_iff.mpr hrest.symm)
  · intro h rest hrest
    exact h ⟨rest, (after?_eq_some_iff.mp hrest).symm⟩

/-- **A cut that fails**: the needle is not in the text. -/
theorem cut?_eq_none_iff {needle s : List α} : cut? needle s = none ↔ ¬ needle <:+: s := by
  fun_induction cut? needle s with
  | case1 h => simp_all
  | case2 h => simp_all
  | case3 c s rest h =>
    have hhead : needle <+: c :: s := ⟨rest, (after?_eq_some_iff.mp h).symm⟩
    simp [hhead.isInfix]
  | case4 c s h ih =>
    rw [Option.map_eq_none_iff, ih, List.infix_cons_iff, not_or]
    exact (and_iff_right (after?_eq_none_iff.mp h)).symm

theorem occurs_iff {needle s : List α} : occurs needle s = true ↔ needle <:+: s := by
  rw [occurs, Option.isSome_iff_ne_none, ne_eq, cut?_eq_none_iff, not_not]

/-- **A cut at the first needle.** The needle does not start before the place of the cut. -/
theorem cut?_append_of_first {needle before after : List α}
    (h : ∀ u v, before = u ++ v → v ≠ [] → ¬ needle <+: v ++ (needle ++ after)) :
    cut? needle (before ++ (needle ++ after)) = some (before, after) := by
  induction before with
  | nil =>
    have hafter : after? needle (needle ++ after) = some after := after?_eq_some_iff.mpr rfl
    cases htext : needle ++ after with
    | nil =>
      obtain ⟨rfl, rfl⟩ := List.append_eq_nil_iff.mp htext
      rfl
    | cons c s =>
      rw [htext] at hafter
      rw [List.nil_append, cut?, hafter]
  | cons c before ih =>
    have hhere : after? needle (c :: (before ++ (needle ++ after))) = none :=
      after?_eq_none_iff.mpr (h [] (c :: before) rfl (List.cons_ne_nil c before))
    have hrest := ih fun u v huv hv => h (c :: u) v (by rw [huv, List.cons_append]) hv
    rw [List.cons_append, cut?, hhere, hrest]
    rfl

/-- What a cut finds is the first needle. -/
theorem first_of_cut? {needle s before after : List α}
    (h : cut? needle s = some (before, after)) :
    ∀ u v, before = u ++ v → v ≠ [] → ¬ needle <+: v ++ (needle ++ after) := by
  have hs := append_of_cut? h
  induction s generalizing before with
  | nil =>
    intro u v huv hv
    rw [huv] at hs
    simp_all
  | cons c s ih =>
    rw [cut?] at h
    rcases hafter : after? needle (c :: s) with _ | rest
    · rw [hafter] at h
      obtain ⟨⟨before, after⟩, hrest, heq⟩ := Option.map_eq_some_iff.mp h
      obtain ⟨rfl, rfl⟩ := Prod.mk.inj heq
      intro u v huv hv
      cases u with
      | nil =>
        obtain rfl : c :: before = v := huv
        rw [← List.append_assoc, hs]
        exact after?_eq_none_iff.mp hafter
      | cons d u => exact ih hrest (append_of_cut? hrest) u v (List.cons.inj huv).2 hv
    · rw [hafter] at h
      obtain ⟨rfl, rfl⟩ := Prod.mk.inj (Option.some.inj h)
      intro u v huv hv
      exact absurd (List.append_eq_nil_iff.mp huv.symm).2 hv

/-- The first needle stays the first whatever follows it. -/
theorem cut?_append_of_cut? {needle s before after : List α}
    (h : cut? needle s = some (before, after)) (after' : List α) :
    cut? needle (before ++ (needle ++ after')) = some (before, after') := by
  refine cut?_append_of_first fun u v huv hv hhead => first_of_cut? h u v huv hv ?_
  rw [← List.append_assoc] at hhead ⊢
  refine (List.prefix_of_prefix_length_le hhead (List.prefix_append ..) ?_).trans
    (List.prefix_append ..)
  simp

/-- A head is found in a text alone, if the next text starts with a character the head does not
hold. -/
theorem isPrefix_append_iff {head s t : List α} (h : ∀ c, t.head? = some c → c ∉ head) :
    head <+: s ++ t ↔ head <+: s := by
  rw [← not_iff_not, ← after?_eq_none_iff, ← after?_eq_none_iff, after?_append h,
    Option.map_eq_none_iff]

/-- The first mark stands in one place. -/
theorem append_cons_inj {mark : α} {s t u v : List α} (hs : mark ∉ s) (ht : mark ∉ t)
    (h : s ++ mark :: u = t ++ mark :: v) : s = t ∧ u = v := by
  have hleft : splitFirst mark (s ++ mark :: u) = (s, some u) :=
    splitFirst_eq_some_iff.mpr ⟨rfl, hs⟩
  have hright : splitFirst mark (s ++ mark :: u) = (t, some v) :=
    splitFirst_eq_some_iff.mpr ⟨h, ht⟩
  obtain ⟨hst, huv⟩ := Prod.mk.inj (hleft.symm.trans hright)
  exact ⟨hst, Option.some.inj huv⟩

end

/-! ## Runs that end in a text -/

/-- A run goes no further than the next character of another class. -/
theorem takeWhile_append_isPrefix {α : Type} {p : α → Bool} {t : List α}
    (ht : ∀ c, t.head? = some c → p c = false) (s : List α) : (s ++ t).takeWhile p <+: s := by
  induction s with
  | nil =>
    cases t with
    | nil => exact List.prefix_rfl
    | cons c t => simp [ht c rfl]
  | cons c s ih =>
    rw [List.cons_append, List.takeWhile_cons]
    split
    · exact List.cons_prefix_cons.mpr ⟨rfl, ih⟩
    · exact List.nil_prefix

theorem takeWhile_append_cons_of_not {α : Type} {p : α → Bool} {mark : α} (hmark : p mark = false)
    (s t : List α) : (s ++ mark :: t).takeWhile p = s.takeWhile p := by
  rw [List.takeWhile_append]
  split
  · next hlength =>
    rw [List.takeWhile_cons_of_neg (by simp [hmark]), List.append_nil]
    exact (List.IsPrefix.eq_of_length (List.takeWhile_prefix p) hlength).symm
  · rfl

theorem dropWhile_append_cons_of_not {α : Type} {p : α → Bool} {mark : α} (hmark : p mark = false)
    (s t : List α) : (s ++ mark :: t).dropWhile p = s.dropWhile p ++ mark :: t := by
  rw [List.dropWhile_append]
  split
  · next hempty =>
    rw [List.isEmpty_iff.mp hempty, List.dropWhile_cons_of_neg (by simp [hmark]), List.nil_append]
  · rfl

theorem allBlank_eq_false_iff {s : List Char} : allBlank s = false ↔ trimStart s ≠ [] := by
  rw [allBlank, List.all_eq_false, trimStart, ne_eq, List.dropWhile_eq_nil_iff]
  simp

/-- The blanks in front of a text that is not blank end in it. -/
theorem trimStart_append {s : List Char} (h : allBlank s = false) (t : List Char) :
    trimStart (s ++ t) = trimStart s ++ t := by
  rw [trimStart, List.dropWhile_append, if_neg]
  · rfl
  · rw [List.isEmpty_iff]
    exact allBlank_eq_false_iff.mp h

/-! ## Words -/

/-- The words of a text, cut at blanks. -/
def words (s : List Char) : List (List Char) :=
  (s.splitOnP isBlank).filter (!·.isEmpty)

theorem words_of_forall {w : List Char} (hne : w ≠ []) (hw : ∀ c ∈ w, isBlank c = false) :
    words w = [w] := by
  simp [words, List.splitOnP_eq_singleton hw, hne]

/-- A blank ends a word. -/
theorem words_append_cons {w : List Char} (hne : w ≠ []) (hw : ∀ c ∈ w, isBlank c = false)
    {b : Char} (hb : isBlank b = true) (s : List Char) : words (w ++ b :: s) = w :: words s := by
  simp [words, List.splitOnP_append_cons_of_forall_mem hw b hb, hne]

theorem words_cons_of_blank {b : Char} (hb : isBlank b = true) (s : List Char) :
    words (b :: s) = words s := by
  rw [words, List.splitOnP_cons_eq_if_modifyHead, if_pos hb]
  rfl

/-- Blanks in front make no word. -/
theorem words_append_of_blank {s : List Char} (h : ∀ c ∈ s, isBlank c = true) (t : List Char) :
    words (s ++ t) = words t := by
  induction s with
  | nil => rfl
  | cons c s ih =>
    rw [List.cons_append, words_cons_of_blank (h c (List.mem_cons_self ..)),
      ih fun d hd => h d (List.mem_cons_of_mem c hd)]

theorem trimEnd_of_forall {w : List Char} (hw : ∀ c ∈ w, isBlank c = false) : trimEnd w = w := by
  rcases List.eq_nil_or_concat w with rfl | ⟨s, c, rfl⟩
  · rfl
  · rw [List.concat_eq_append]
    exact trimEnd_concat (hw c (by simp))

/-- **A squeezed text** is its words with spaces between them. The second part is about the text
behind the start `w` of a word, where a run of blanks still has to be written. -/
theorem trimEnd_squeezeFrom (s : List Char) :
    trimEnd (squeezeFrom true s) = join [' '] (words s) ∧
      ∀ w : List Char, w ≠ [] → (∀ c ∈ w, isBlank c = false) →
        trimEnd (w ++ squeezeFrom false s) = join [' '] (words (w ++ s)) := by
  induction s with
  | nil =>
    refine ⟨rfl, fun w hne hw => ?_⟩
    rw [squeezeFrom, List.append_nil, words_of_forall hne hw, trimEnd_of_forall hw]
    simp [join]
  | cons c s ih =>
    by_cases hc : isBlank c = true
    · refine ⟨?_, fun w hne hw => ?_⟩
      · rw [squeezeFrom, if_pos hc, if_pos rfl, ih.1, words_cons_of_blank hc]
      · rw [squeezeFrom, if_pos hc, if_neg Bool.false_ne_true, words_append_cons hne hw hc]
        rcases hwords : words s with _ | ⟨first, rest⟩
        · -- nothing but blanks follows
          have hblank : ∀ d ∈ ' ' :: squeezeFrom true s, isBlank d = true := by
            rw [hwords] at ih
            rw [List.forall_mem_cons]
            exact ⟨by decide, trimEnd_eq_nil_iff.mp ih.1⟩
          rw [trimEnd_append_of_blank hblank, trimEnd_of_forall hw]
          simp [join]
        · have hfirst : first ≠ [] := by
            have hmem : first ∈ words s := by rw [hwords]; exact List.mem_cons_self ..
            simpa using (List.mem_filter.mp hmem).2
          have hjoin : trimEnd (squeezeFrom true s) ≠ [] := by
            rw [ih.1, hwords]
            intro hnil
            have hsub := @subset_join _ [' '] first (first :: rest) (List.mem_cons_self ..)
            rw [hnil, List.subset_nil] at hsub
            exact hfirst hsub
          have hsplit : w ++ ' ' :: squeezeFrom true s = (w ++ [' ']) ++ squeezeFrom true s := by
            simp
          rw [hsplit, trimEnd_append_of_ne_nil hjoin, ih.1, hwords]
          simp [join, List.intercalate]
    · have hc' : isBlank c = false := eq_false_of_ne_true hc
      refine ⟨?_, fun w hne hw => ?_⟩
      · rw [squeezeFrom, if_neg hc]
        exact ih.2 [c] (by simp) (by simpa using hc')
      · have hlonger : ∀ d ∈ w ++ [c], isBlank d = false := by
          intro d hd
          rcases List.mem_append.mp hd with hd | hd
          · exact hw d hd
          · rw [List.mem_singleton.mp hd, hc']
        rw [squeezeFrom, if_neg hc]
        simpa using ih.2 (w ++ [c]) (by simp) hlonger

/-- A squeezed text starts with no blank if the first run counts as written. -/
theorem trimStart_squeezeFrom (s : List Char) :
    trimStart (squeezeFrom true s) = squeezeFrom true s := by
  induction s with
  | nil => rfl
  | cons c s ih =>
    by_cases hc : isBlank c = true
    · rw [squeezeFrom, if_pos hc, if_pos rfl, ih]
    · rw [squeezeFrom, if_neg hc, trimStart_cons_of_not (eq_false_of_ne_true hc)]

theorem squeeze_eq_join_words (s : List Char) : squeeze s = join [' '] (words s) := by
  rw [← (trimEnd_squeezeFrom s).1, squeeze, trim]
  cases s with
  | nil => rfl
  | cons c s =>
    by_cases hc : isBlank c = true
    · rw [squeezeFrom, squeezeFrom, if_pos hc, if_neg Bool.false_ne_true, if_pos hc, if_pos rfl]
      rw [trimStart_cons_of_blank (by decide), trimStart_squeezeFrom]
    · rw [squeezeFrom, squeezeFrom, if_neg hc, if_neg hc,
        trimStart_cons_of_not (eq_false_of_ne_true hc)]

end Docwright.Text
