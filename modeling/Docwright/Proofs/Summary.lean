import Docwright.Docstring.Summary
import Docwright.Proofs.BodyLines

/-!
# The first paragraph

A summary is read off line by line, from the first line that is not blank (`summaryLines_eq`). What
stands behind a blank line is never looked at (`summary_append`).

The lines it is made of are trimmed, not blank and no headings. Joined with spaces they are a text
of the same kind, since no heading has a space in it. Such a text is its own summary, and no other
text is (`summary_eq_self_iff`), so a summary of a summary says nothing new.
-/

namespace Docwright

/-! ## Trimmed texts -/

namespace Text

/-- What is left of a trimmed text starts with no blank. -/
theorem isBlank_eq_false_of_trim {s t : List Char} {c : Char} (h : trim s = c :: t) :
    isBlank c = false := by
  by_contra hblank
  have hstart := trimStart_trim s
  rw [h, trimStart_cons_of_blank (eq_true_of_ne_false hblank)] at hstart
  have hlength := (List.dropWhile_suffix (p := isBlank) (l := t)).length_le
  rw [← trimStart, hstart, List.length_cons] at hlength
  omega

theorem trimStart_of_trim {s : List Char} (h : trim s = s) : trimStart s = s := by
  rw [← h]
  exact trimStart_trim s

theorem trimEnd_of_trim {s : List Char} (h : trim s = s) : trimEnd s = s := by
  rw [← h, trim, trimEnd_trimEnd]

/-- Two trimmed texts are trimmed together, whatever stands between them. -/
theorem trim_append_of_trim {s t : List Char} (hs : trim s = s) (hne : s ≠ []) (ht : trim t = t)
    (hne' : t ≠ []) (gap : List Char) : trim (s ++ (gap ++ t)) = s ++ (gap ++ t) := by
  have hstart : trimStart (s ++ (gap ++ t)) = s ++ (gap ++ t) := by
    have hblank : allBlank s = false := by
      rw [← Bool.not_eq_true, ← trim_eq_nil_iff, hs]
      exact hne
    rw [trimStart_append hblank, trimStart_of_trim hs]
  have hend : trimEnd t = t := trimEnd_of_trim ht
  rw [trim, hstart, ← List.append_assoc, trimEnd_append_of_ne_nil (by rwa [hend]), hend]

/-- The trimmed lines of a text that goes on with blanks: the new ones are empty. -/
theorem exists_map_trim_lines_append {blanks : List Char} (h : ∀ c ∈ blanks, isBlank c = true)
    (s : List Char) :
    ∃ empty, (∀ line ∈ empty, line = []) ∧
      (lines (s ++ blanks)).map trim = (lines s).map trim ++ empty := by
  obtain ⟨front, last, hs⟩ := exists_lines_concat s
  obtain ⟨first, rest, hblanks⟩ := exists_lines_cons blanks
  have hline : ∀ line ∈ first :: rest, ∀ c ∈ line, isBlank c = true := by
    intro line hmem c hc
    rw [← hblanks] at hmem
    exact h c (subset_of_mem_splitOn hmem hc)
  refine ⟨rest.map trim, fun line hmem => ?_, ?_⟩
  · obtain ⟨line, hrest, rfl⟩ := List.mem_map.mp hmem
    exact trim_eq_nil_iff.mpr (List.all_eq_true.mpr (hline line (List.mem_cons_of_mem first hrest)))
  · rw [lines_append hs hblanks, hs, List.map_append, List.map_cons,
      trim_append_blank (hline first (List.mem_cons_self ..))]
    simp

end Text

namespace Docstring

/-! ## Reading the lines -/

/-- The lines that a text starts with, trimmed, up to a blank one or a heading. -/
def paragraph (s : List Char) : List (List Char) :=
  ((Text.lines s).map Text.trim).takeWhile fun line => !line.isEmpty && !isHeading line

/-- Blanks at the end of a text do not make its first paragraph longer. -/
theorem paragraph_append_of_blank {blanks : List Char} (h : ∀ c ∈ blanks, Text.isBlank c = true)
    (s : List Char) : paragraph (s ++ blanks) = paragraph s := by
  obtain ⟨empty, hempty, hlines⟩ := Text.exists_map_trim_lines_append h s
  rw [paragraph, hlines, paragraph]
  cases empty with
  | nil => rw [List.append_nil]
  | cons line empty =>
    rw [hempty line (List.mem_cons_self ..)]
    exact Text.takeWhile_append_cons_of_not rfl _ _

/-- A blank line ends the first paragraph. -/
theorem paragraph_append_blankLine (s t : List Char) :
    paragraph (s ++ '\n' :: '\n' :: t) = paragraph s := by
  have hlines : Text.lines (s ++ '\n' :: '\n' :: t) = Text.lines s ++ [] :: Text.lines t := by
    rw [Text.lines, List.splitOn_append_cons_self]
    exact congrArg _ (Text.lines_cons '\n' t)
  rw [paragraph, hlines, List.map_append, List.map_cons]
  exact Text.takeWhile_append_cons_of_not rfl _ _

/-- **A summary** is the paragraph that starts at the first character that is no blank. -/
theorem summaryLines_eq (d : List Char) : summaryLines d = paragraph (Text.trimStart d) := by
  obtain ⟨blanks, hblanks, hd⟩ := Text.exists_trimEnd_append (Text.trimStart d)
  rw [← hd, paragraph_append_of_blank hblanks, ← Text.trim, summaryLines, paragraph]
  cases htrim : Text.trim d with
  | nil => rfl
  | cons c s =>
    -- the first line holds the first character, so there are no blank lines to be dropped
    have hc : Text.isBlank c = false := Text.isBlank_eq_false_of_trim htrim
    have hnewline : (c == '\n') = false := by
      rw [beq_eq_false_iff_ne]
      rintro rfl
      exact absurd hc (by decide)
    obtain ⟨first, rest, hlines⟩ := Text.exists_lines_cons s
    have hfirst : Text.trim (c :: first) ≠ [] := by
      rw [ne_eq, Text.trim_eq_nil_iff, Text.allBlank, List.all_cons, hc]
      exact Bool.false_ne_true
    rw [Text.lines_cons, hnewline, if_neg Bool.false_ne_true, hlines, List.modifyHead_cons,
      List.map_cons, List.dropWhile_cons_of_neg (by simpa using hfirst)]

theorem summary_append {d : List Char} (h : Text.allBlank d = false) (t : List Char) :
    summary (d ++ '\n' :: '\n' :: t) = summary d := by
  rw [summary, summaryLines_eq, Text.trimStart_append h, paragraph_append_blankLine,
    ← summaryLines_eq, summary]

/-! ## What a summary looks like -/

/-- A text on one line, trimmed, that does not start with a heading. -/
structure IsSummary (s : List Char) : Prop where
  /-- it is on one line -/
  oneLine : '\n' ∉ s
  /-- it has no blanks at its ends -/
  trimmed : Text.trim s = s
  /-- it does not start with a heading -/
  noHeading : ∀ name ∈ summaryHeadings, ¬ name.toList ++ [':'] <+: s

theorem isHeading_eq_false_iff {line : List Char} :
    isHeading line = false ↔ ∀ name ∈ summaryHeadings, ¬ name.toList ++ [':'] <+: line := by
  simp [isHeading]

/-- The lines of a summary look like summaries. -/
theorem isSummary_of_mem {d line : List Char} (h : line ∈ summaryLines d) :
    line ≠ [] ∧ IsSummary line := by
  rw [summaryLines_eq, paragraph] at h
  have hgoes := List.mem_takeWhile_imp h
  obtain ⟨hne, hheading⟩ := Bool.and_eq_true_iff.mp hgoes
  obtain ⟨line, hline, rfl⟩ := List.mem_map.mp ((List.takeWhile_sublist _).mem h)
  refine ⟨by simpa using hne, ?_, Text.trim_trim line, ?_⟩
  · exact fun hmem => Text.not_mem_of_mem_splitOn hline (Text.trim_subset line hmem)
  · exact isHeading_eq_false_iff.mp (by simpa using hheading)

/-- Joined lines start with the first line, and a space comes behind it. -/
theorem exists_join_cons (first : List Char) (rest : List (List Char)) :
    ∃ behind, Text.join [' '] (first :: rest) = first ++ behind ∧
      ∀ c, behind.head? = some c → c = ' ' := by
  cases rest with
  | nil => exact ⟨[], by simp [Text.join], by simp⟩
  | cons next rest =>
    refine ⟨' ' :: Text.join [' '] (next :: rest), ?_, by simp⟩
    rw [Text.join, List.intercalate_cons_cons, List.append_assoc]
    rfl

theorem trim_join {lines : List (List Char)}
    (h : ∀ line ∈ lines, line ≠ [] ∧ Text.trim line = line) :
    Text.trim (Text.join [' '] lines) = Text.join [' '] lines := by
  induction lines with
  | nil => rfl
  | cons first rest ih =>
    obtain ⟨hne, htrim⟩ := h first (List.mem_cons_self ..)
    cases rest with
    | nil => simpa [Text.join] using htrim
    | cons next rest =>
      have hrest := ih fun line hline => h line (List.mem_cons_of_mem first hline)
      have hne' : Text.join [' '] (next :: rest) ≠ [] := by
        obtain ⟨behind, hjoin, -⟩ := exists_join_cons next rest
        rw [hjoin]
        exact List.append_ne_nil_of_left_ne_nil (h next (by simp)).1 behind
      rw [Text.join, List.intercalate_cons_cons, List.append_assoc]
      exact Text.trim_append_of_trim htrim hne hrest hne' [' ']

/-- No heading has a space in it. -/
theorem space_not_mem_heading : ∀ name ∈ summaryHeadings, ' ' ∉ name.toList ++ [':'] := by
  decide

theorem isSummary_join {lines : List (List Char)}
    (h : ∀ line ∈ lines, line ≠ [] ∧ IsSummary line) : IsSummary (Text.join [' '] lines) where
  oneLine := by
    intro hmem
    rcases Text.mem_join hmem with hmem | ⟨line, hline, hmem⟩
    · exact absurd hmem (by decide)
    · exact (h line hline).2.oneLine hmem
  trimmed := trim_join fun line hline => ⟨(h line hline).1, (h line hline).2.trimmed⟩
  noHeading := by
    intro name hname hhead
    cases lines with
    | nil => simp [Text.join] at hhead
    | cons first rest =>
      -- a heading would end in the first line, in front of the space
      obtain ⟨behind, hjoin, hspace⟩ := exists_join_cons first rest
      have hstop : ∀ c, behind.head? = some c → c ∉ name.toList ++ [':'] := by
        intro c hc
        rw [hspace c hc]
        exact space_not_mem_heading name hname
      rw [hjoin, Text.isPrefix_append_iff hstop] at hhead
      exact (h first (List.mem_cons_self ..)).2.noHeading name hname hhead

theorem isSummary_summary (d : List Char) : IsSummary (summary d) :=
  isSummary_join fun _ hline => isSummary_of_mem hline

/-- **A text is its own summary** exactly if it looks like one. -/
theorem summary_eq_self_iff {s : List Char} : summary s = s ↔ IsSummary s := by
  constructor
  · intro h
    rw [← h]
    exact isSummary_summary s
  · intro h
    rw [summary, summaryLines_eq, Text.trimStart_of_trim h.trimmed, paragraph,
      Text.lines_of_not_mem h.oneLine, List.map_singleton, h.trimmed]
    cases s with
    | nil => rfl
    | cons c s =>
      rw [List.takeWhile_cons_of_pos (by simp [isHeading_eq_false_iff.mpr h.noHeading])]
      simp [Text.join]

/-- **The summary is the first paragraph.** Nothing behind a blank line changes it, it is one
trimmed line that starts with no heading, and it is its own summary, which is true of no text that
looks otherwise. -/
theorem summary_firstParagraph (d : List Char) :
    (Text.allBlank d = false → ∀ t, summary (d ++ '\n' :: '\n' :: t) = summary d) ∧
      '\n' ∉ summary d ∧ Text.trim (summary d) = summary d ∧
      (∀ name ∈ summaryHeadings, ¬ name.toList ++ [':'] <+: summary d) ∧
      summary (summary d) = summary d ∧ (summary d = d ↔ IsSummary d) := by
  have hlook := isSummary_summary d
  exact ⟨fun h t => summary_append h t, hlook.oneLine, hlook.trimmed, hlook.noHeading,
    summary_eq_self_iff.mpr hlook, summary_eq_self_iff⟩

/-- A summary on two lines, with a section behind it that no blank line sets apart. -/
def twoLines : List Char :=
  "\n  Reads\u00a0\n\ta file.\nReturns:\n  x\n ".toList

theorem summary_firstParagraph_twoLines :
    Text.allBlank twoLines = false ∧
      summary (twoLines ++ '\n' :: '\n' :: "Closes it.".toList) = "Reads a file.".toList := by
  have hnotBlank : Text.allBlank twoLines = false := by decide
  refine ⟨hnotBlank, ((summary_firstParagraph _).1 hnotBlank _).trans ?_⟩
  decide

end Docstring

end Docwright
