import Docwright.Documentation.Steps
import Docwright.Proofs.DocstringPlace
import Docwright.Proofs.Text

/-!
# Where the lines of a body start

The steps are read off the lines behind the first line of a source. They start at the first line
that is not blank (`bodyLines_of_code`), unless a long literal opens there; then they start behind
the line that closes it (`bodyLines_of_literal`). A delimiter is found on a line like in a text
(`triple_isInfix_append_iff`), so a text without its quote is passed over
(`linesBehind_lines_append`).
-/

namespace Docwright

/-! ## Lines put together -/

namespace Text

theorem exists_lines_concat (s : List Char) : ∃ front last, lines s = front ++ [last] := by
  rcases List.eq_nil_or_concat (lines s) with h | ⟨front, last, h⟩
  · exact absurd h (List.splitOn_ne_nil _ _)
  · exact ⟨front, last, by rw [h, List.concat_eq_append]⟩

theorem exists_lines_cons (s : List Char) : ∃ first rest, lines s = first :: rest :=
  List.exists_cons_of_ne_nil (List.splitOn_ne_nil _ _)

theorem lines_cons (c : Char) (s : List Char) :
    lines (c :: s) = if c == '\n' then [] :: lines s else (lines s).modifyHead (c :: ·) :=
  List.splitOn_cons_eq_if_modifyHead c s

/-- **Lines of two texts**: the last line of the first goes on with the first line of the second. -/
theorem lines_append {s t : List Char} {front rest : List (List Char)} {last first : List Char}
    (hs : lines s = front ++ [last]) (ht : lines t = first :: rest) :
    lines (s ++ t) = front ++ (last ++ first) :: rest := by
  induction s generalizing front last with
  | nil =>
    obtain ⟨rfl, hlast⟩ := List.append_inj' (show [] ++ [[]] = front ++ [last] from hs) rfl
    rw [← List.singleton_inj.mp hlast]
    exact ht
  | cons c s ih =>
    obtain ⟨front', last', hs'⟩ := exists_lines_concat s
    rw [lines_cons, hs'] at hs
    rw [List.cons_append, lines_cons, ih hs']
    by_cases hc : (c == '\n') = true
    · rw [if_pos hc] at hs ⊢
      obtain ⟨rfl, hlast⟩ := List.append_inj' (show ([] :: front') ++ [last'] = front ++ [last]
        from hs) rfl
      rw [List.singleton_inj.mp hlast]
      rfl
    · rw [if_neg hc] at hs ⊢
      cases front' with
      | nil =>
        obtain ⟨rfl, hlast⟩ := List.append_inj' (show [] ++ [c :: last'] = front ++ [last]
          from hs) rfl
        rw [← List.singleton_inj.mp hlast]
        rfl
      | cons line front' =>
        obtain ⟨rfl, hlast⟩ := List.append_inj' (show ((c :: line) :: front') ++ [last'] =
          front ++ [last] from hs) rfl
        rw [List.singleton_inj.mp hlast]
        rfl

/-- A line of several is the last one, or the last one comes behind it. -/
theorem line_cases {front rest front' : List (List Char)} {line last : List Char}
    (h : front ++ line :: rest = front' ++ [last]) :
    (rest = [] ∧ front = front' ∧ line = last) ∨
      ∃ rest', rest = rest' ++ [last] ∧ front' = front ++ line :: rest' := by
  rcases List.eq_nil_or_concat rest with rfl | ⟨rest', last', rfl⟩
  · obtain ⟨hfront, hlast⟩ := List.append_inj' h rfl
    exact .inl ⟨rfl, hfront, List.singleton_inj.mp hlast⟩
  · rw [List.concat_eq_append, ← List.cons_append, ← List.append_assoc] at h
    obtain ⟨hfront, hlast⟩ := List.append_inj' h rfl
    exact .inr ⟨rest', by rw [List.concat_eq_append, hlast], hfront.symm⟩

theorem lines_of_not_mem {s : List Char} (h : '\n' ∉ s) : lines s = [s] :=
  List.splitOn_eq_singleton h

theorem lines_append_newline {s : List Char} (h : '\n' ∉ s) (t : List Char) :
    lines (s ++ '\n' :: t) = s :: lines t :=
  List.splitOn_append_cons_self_of_not_mem h t

end Text

namespace Steps

open Source

/-! ## Delimiters -/

theorem mem_triple {quote c : Char} (h : c ∈ triple quote) : c = quote := by
  simpa [triple] using h

/-- A delimiter is not found across two texts, unless its quote is on both sides. -/
theorem triple_isInfix_append_iff {quote : Char} {s t : List Char}
    (h : s.getLast? ≠ some quote ∨ t.head? ≠ some quote) :
    triple quote <:+: s ++ t ↔ triple quote <:+: s ∨ triple quote <:+: t := by
  rw [List.infix_append_iff_ne_nil]
  constructor
  · rintro (hs | ht | ⟨u, v, hu, hv, huv, ⟨s', rfl⟩, ⟨t', rfl⟩⟩)
    · exact .inl hs
    · exact .inr ht
    · exfalso
      have hquote : ∀ c ∈ u ++ v, c = quote := fun c hc => mem_triple (huv ▸ hc)
      obtain ⟨c, v, rfl⟩ := List.exists_cons_of_ne_nil hv
      rcases List.eq_nil_or_concat u with rfl | ⟨u, d, rfl⟩
      · exact hu rfl
      · rcases h with h | h
        · refine h ?_
          rw [List.concat_eq_append, ← List.append_assoc, List.getLast?_concat,
            hquote d (by simp)]
        · refine h ?_
          rw [hquote c (by simp)]
          rfl
  · rintro (hs | ht)
    · exact .inl hs
    · exact .inr (.inl ht)

theorem not_triple_isInfix {quote : Char} {s : List Char} (h : quote ∉ s) :
    ¬ triple quote <:+: s :=
  fun hin => h (hin.subset (List.mem_cons_self ..))

/-- Lines without the delimiter are passed over. -/
theorem linesBehind_append_of_not {delimiter : List Char} {front : List (List Char)}
    (h : ∀ line ∈ front, ¬ delimiter <:+: line) (rest : List (List Char)) :
    linesBehind delimiter (front ++ rest) = linesBehind delimiter rest := by
  induction front with
  | nil => rfl
  | cons line front ih =>
    have hline : Text.occurs delimiter line ≠ true :=
      fun hocc => h line (List.mem_cons_self ..) (Text.occurs_iff.mp hocc)
    rw [List.cons_append, linesBehind, if_neg hline,
      ih fun other hother => h other (List.mem_cons_of_mem line hother)]

/-- Behind lines with the delimiter all that follows is read. -/
theorem exists_linesBehind_append {delimiter : List Char} {front : List (List Char)}
    (h : ∃ line ∈ front, delimiter <:+: line) :
    ∃ shown, ∀ rest, linesBehind delimiter (front ++ rest) = shown ++ rest := by
  induction front with
  | nil => simp at h
  | cons line front ih =>
    by_cases hline : delimiter <:+: line
    · refine ⟨front, fun rest => ?_⟩
      rw [List.cons_append, linesBehind, if_pos (Text.occurs_iff.mpr hline)]
    · have hlater : ∃ other ∈ front, delimiter <:+: other := by
        obtain ⟨other, hother, hin⟩ := h
        rcases List.mem_cons.mp hother with rfl | hother
        · exact absurd hin hline
        · exact ⟨other, hother, hin⟩
      obtain ⟨shown, hshown⟩ := ih hlater
      refine ⟨shown, fun rest => ?_⟩
      rw [List.cons_append, linesBehind, if_neg (mt Text.occurs_iff.mp hline), hshown]

/-- What a line starts with does not matter, if the delimiter is not in it. -/
theorem linesBehind_cons_append {quote : Char} {s t : List Char} (hs : ¬ triple quote <:+: s)
    (h : s.getLast? ≠ some quote ∨ t.head? ≠ some quote) (rest : List (List Char)) :
    linesBehind (triple quote) ((s ++ t) :: rest) = linesBehind (triple quote) (t :: rest) := by
  have hiff : Text.occurs (triple quote) (s ++ t) = Text.occurs (triple quote) t := by
    rw [Bool.eq_iff_iff, Text.occurs_iff, Text.occurs_iff, triple_isInfix_append_iff h]
    exact or_iff_right hs
  rw [linesBehind, linesBehind, hiff]

/-- **A text without the quote** is passed over. -/
theorem linesBehind_lines_append {quote : Char} {s : List Char} (h : quote ∉ s) (t : List Char) :
    linesBehind (triple quote) (Text.lines (s ++ t)) =
      linesBehind (triple quote) (Text.lines t) := by
  obtain ⟨front, last, hs⟩ := Text.exists_lines_concat s
  obtain ⟨first, rest, ht⟩ := Text.exists_lines_cons t
  have hpart : ∀ line ∈ front ++ [last], quote ∉ line := by
    intro line hline hmem
    rw [← hs] at hline
    exact h (Text.subset_of_mem_splitOn hline hmem)
  have hlast := hpart last (by simp)
  rw [Text.lines_append hs ht, ht, linesBehind_append_of_not fun line hline =>
      not_triple_isInfix (hpart line (List.mem_append_left _ hline)),
    linesBehind_cons_append (not_triple_isInfix hlast)
      (.inl fun hlast' => hlast (List.mem_of_getLast? hlast'))]

/-! ## Where the lines start -/

theorem isTriple_triple {quote : Char} (h : isQuote quote = true) :
    isTriple (triple quote) = true := by
  simp only [isQuote, Bool.or_eq_true, beq_iff_eq] at h
  rcases h with rfl | rfl <;> rfl

theorem exists_of_isTriple {s : List Char} (h : isTriple s = true) :
    ∃ quote, isQuote quote = true ∧ s = triple quote := by
  simp only [isTriple, Bool.or_eq_true, decide_eq_true_eq] at h
  rcases h with rfl | rfl
  · exact ⟨'"', rfl, rfl⟩
  · exact ⟨'\'', rfl, rfl⟩

theorem dropWhile_allBlank {blanks rest : List (List Char)} {line : List Char}
    (hblanks : ∀ l ∈ blanks, Text.allBlank l = true) (hline : Text.allBlank line = false) :
    (blanks ++ line :: rest).dropWhile Text.allBlank = line :: rest := by
  rw [List.dropWhile_append_of_pos hblanks, List.dropWhile_cons_of_neg (by simp [hline])]

/-- **A literal opens the lines**: they start behind the line that closes it. -/
theorem bodyLines_of_literal {source line inner : List Char} {blanks rest : List (List Char)}
    {quote : Char} (h : (Text.lines source).drop 1 = blanks ++ line :: rest)
    (hblanks : ∀ l ∈ blanks, Text.allBlank l = true) (hquote : isQuote quote = true)
    (hline : Text.trimStart line = triple quote ++ inner) :
    bodyLines source = linesBehind (triple quote) (inner :: rest) := by
  have hnot := isBlank_eq_false_of_isQuote hquote
  have hblank : Text.allBlank line = false := by
    rw [Text.allBlank_eq_false_iff, hline]
    exact List.cons_ne_nil _ _
  have htrimmed : Text.trimEnd (triple quote) = triple quote :=
    Text.trimEnd_of_forall fun c hc => by rw [mem_triple hc, hnot]
  have htrim : Text.trim line = triple quote ++ Text.trimEnd inner := by
    rw [Text.trim, hline, Text.trimEnd_append_of_trimmed htrimmed]
  have hinner : Text.occurs (triple quote) (Text.trimEnd inner) =
      Text.occurs (triple quote) inner := by
    obtain ⟨trail, htrail, hwhole⟩ := Text.exists_trimEnd_append inner
    have hmem : quote ∉ trail := by
      intro hmem
      rw [htrail quote hmem] at hnot
      cases hnot
    rw [Bool.eq_iff_iff, Text.occurs_iff, Text.occurs_iff]
    conv_rhs => rw [← hwhole]
    rw [triple_isInfix_append_iff (.inr fun hhead => hmem (List.mem_of_mem_head? hhead))]
    exact (or_iff_left (not_triple_isInfix hmem)).symm
  unfold bodyLines
  rw [h, dropWhile_allBlank hblanks hblank]
  dsimp only
  rw [htrim, linesBehind, ← hinner]
  exact if_pos (isTriple_triple hquote)

/-- **Code opens the lines**: they start at once. -/
theorem bodyLines_of_code {source line : List Char} {blanks rest : List (List Char)}
    (h : (Text.lines source).drop 1 = blanks ++ line :: rest)
    (hblanks : ∀ l ∈ blanks, Text.allBlank l = true) (hline : Text.allBlank line = false)
    (hcode : ∀ quote, isQuote quote = true → ¬ triple quote <+: Text.trimStart line) :
    bodyLines source = line :: rest := by
  have hnot : ¬ isTriple ((Text.trim line).take 3) = true := by
    intro htriple
    obtain ⟨quote, hquote, htake⟩ := exists_of_isTriple htriple
    refine hcode quote hquote ?_
    rw [← htake]
    exact (List.take_prefix _ _).trans (List.rdropWhile_prefix _ _)
  unfold bodyLines
  rw [h, dropWhile_allBlank hblanks hline]
  exact if_neg hnot

/-- The first line that is not blank. -/
theorem exists_notBlank {lines : List (List Char)}
    (h : ∃ line ∈ lines, Text.allBlank line = false) :
    ∃ blanks line rest, lines = blanks ++ line :: rest ∧
      (∀ l ∈ blanks, Text.allBlank l = true) ∧ Text.allBlank line = false := by
  obtain ⟨line, hfind⟩ := Option.isSome_iff_exists.mp
    (List.find?_isSome.mpr (by simpa using h) : (lines.find? (!Text.allBlank ·)).isSome)
  obtain ⟨hline, blanks, rest, hlines, hblanks⟩ := List.find?_eq_some_iff_append.mp hfind
  exact ⟨blanks, line, rest, hlines, by simpa using hblanks, by simpa using hline⟩

/-- **Lines that are settled**: all that follows them is read, if they are not all blank and a
literal that opens them is closed among them. -/
theorem exists_bodyLines_append {lines : List (List Char)}
    (hblank : ∃ line ∈ lines, Text.allBlank line = false)
    (hclosed : ∀ blanks line rest quote inner, lines = blanks ++ line :: rest →
      (∀ l ∈ blanks, Text.allBlank l = true) → isQuote quote = true →
        Text.trimStart line = triple quote ++ inner → ∃ l ∈ inner :: rest, triple quote <:+: l) :
    ∃ shown, ∀ {source rest}, (Text.lines source).drop 1 = lines ++ rest →
      bodyLines source = shown ++ rest := by
  obtain ⟨blanks, line, lines, rfl, hblanks, hline⟩ := exists_notBlank hblank
  by_cases hcode : ∀ quote, isQuote quote = true → ¬ triple quote <+: Text.trimStart line
  · refine ⟨line :: lines, fun {source rest} hdrop => ?_⟩
    rw [List.append_assoc, List.cons_append] at hdrop
    exact bodyLines_of_code hdrop hblanks hline hcode
  · push Not at hcode
    obtain ⟨quote, hquote, inner, hinner⟩ := hcode
    obtain ⟨shown, hshown⟩ := exists_linesBehind_append
      (hclosed blanks line lines quote inner rfl hblanks hquote hinner.symm)
    refine ⟨shown, fun {source rest} hdrop => ?_⟩
    rw [List.append_assoc, List.cons_append] at hdrop
    rw [bodyLines_of_literal hdrop hblanks hquote hinner.symm, ← List.cons_append, hshown]

end Steps

end Docwright
