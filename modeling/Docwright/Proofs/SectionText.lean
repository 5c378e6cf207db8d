import Docwright.Proofs.SectionBounds
import Docwright.Proofs.Summary

/-!
# The text of a section

A parameter section is handed on as it is written. Of a returns section its lines are handed on
without the indentation that they share and without the blanks at the ends.

Taking indentation away keeps every line in its place (`lines_dedent`), and a line that is not blank
stays so (`allBlank_unindented`). Trimming leaves blank lines only where they stood between others
(`exists_lines_append_of_blank`). So the text has no blank line, because the section has none, and
its lines are parts of lines of the section (`exists_lines_of_infix`).
-/

namespace Docwright

/-! ## Lines of a part of a text -/

namespace Text

/-- A text is blank if its lines are. -/
theorem allBlank_iff_lines {s : List Char} :
    allBlank s = true ↔ ∀ line ∈ lines s, allBlank line = true := by
  simp only [allBlank, List.all_eq_true]
  constructor
  · exact fun h line hline c hc => h c (subset_of_mem_splitOn hline hc)
  · intro h c hc
    have hjoin : join ['\n'] (lines s) = s := List.intercalate_splitOn '\n'
    rw [← hjoin] at hc
    rcases mem_join hc with hc | ⟨line, hline, hc⟩
    · rw [List.mem_singleton.mp hc]
      decide
    · exact h line hline c hc

/-- **The lines of a part** of a text are parts of lines of the text, in their order. -/
theorem exists_lines_of_infix {part s : List Char} (h : part <:+: s) :
    ∃ kept, kept <:+: lines s ∧ List.Forall₂ (· <:+: ·) (lines part) kept := by
  obtain ⟨front, back, rfl⟩ := h
  obtain ⟨before, start, hfront⟩ := exists_lines_concat front
  obtain ⟨own, last, hpart⟩ := exists_lines_concat part
  obtain ⟨finish, behind, hback⟩ := exists_lines_cons back
  have hrest := lines_append hpart hback
  have hlast : last <:+: last ++ finish := (List.prefix_append last finish).isInfix
  rw [hpart, List.append_assoc]
  cases own with
  | nil =>
    refine ⟨[start ++ (last ++ finish)], ⟨before, behind, ?_⟩, .cons ?_ .nil⟩
    · rw [lines_append hfront hrest]
      simp
    · exact hlast.trans (List.suffix_append start _).isInfix
  | cons first own =>
    refine ⟨(start ++ first) :: (own ++ [last ++ finish]), ⟨before, behind, ?_⟩, .cons ?_ ?_⟩
    · rw [lines_append hfront hrest]
      simp
    · exact (List.suffix_append start first).isInfix
    · exact List.rel_append (List.forall₂_same.mpr fun _ _ => List.infix_rfl) (.cons hlast .nil)

end Text

namespace Docstring

/-- The first line of a trimmed text is not blank. -/
theorem allBlank_first_of_trim {s first : List Char} {rest : List (List Char)}
    (hs : Text.trim s = s) (hne : s ≠ []) (hlines : Text.lines s = first :: rest) :
    Text.allBlank first = false := by
  by_contra hblank
  have hall : ∀ c ∈ first, Text.isBlank c = true :=
    List.all_eq_true.mp (eq_true_of_ne_false hblank)
  have htext := eq_append_onLines hlines
  obtain ⟨c, t, rfl⟩ := List.exists_cons_of_ne_nil hne
  have hc : Text.isBlank c = false := Text.isBlank_eq_false_of_trim hs
  cases first with
  | cons d first =>
    rw [(List.cons.inj htext).1, hall d (List.mem_cons_self ..)] at hc
    cases hc
  | nil =>
    cases rest with
    | nil => cases htext
    | cons next rest =>
      rw [List.nil_append, onLines_cons] at htext
      rw [(List.cons.inj htext).1] at hc
      exact absurd hc (by decide)

/-- The last line of a trimmed text is not blank. -/
theorem allBlank_last_of_trim {s last : List Char} {front : List (List Char)}
    (hs : Text.trim s = s) (hne : s ≠ []) (hlines : Text.lines s = front ++ [last]) :
    Text.allBlank last = false := by
  cases front with
  | nil => exact allBlank_first_of_trim hs hne hlines
  | cons first front =>
    by_contra hblank
    have htail : ∀ c ∈ '\n' :: last, Text.isBlank c = true :=
      List.forall_mem_cons.mpr
        ⟨by decide, List.all_eq_true.mp (eq_true_of_ne_false hblank)⟩
    have htext : s = (first ++ onLines front) ++ '\n' :: last := by
      rw [List.cons_append] at hlines
      rw [eq_append_onLines hlines, onLines_append, onLines_cons, onLines_nil]
      simp
    have hend := Text.trimEnd_of_trim hs
    rw [htext, Text.trimEnd_append_of_blank htail] at hend
    -- trimming made the text longer
    obtain ⟨blanks, -, hblanks⟩ := Text.exists_trimEnd_append (first ++ onLines front)
    have hlength := congrArg List.length hblanks
    rw [hend] at hlength
    simp only [List.length_append, List.length_cons] at hlength
    omega

/-- **Blank lines of a trimmed text** stood between other lines before. -/
theorem exists_lines_append_of_blank {s line : List Char} (hne : Text.trim s ≠ [])
    (hline : line ∈ Text.lines (Text.trim s)) (hblank : Text.allBlank line = true) :
    ∃ first before behind, behind ≠ [] ∧ Text.lines s = first :: before ++ line :: behind := by
  obtain ⟨before, behind, hlines⟩ := List.append_of_mem hline
  cases before with
  | nil =>
    have hfirst := allBlank_first_of_trim (Text.trim_trim s) hne hlines
    rw [hblank] at hfirst
    cases hfirst
  | cons first before =>
    cases behind with
    | nil =>
      have hlast := allBlank_last_of_trim (Text.trim_trim s) hne hlines
      rw [hblank] at hlast
      cases hlast
    | cons next behind =>
      obtain ⟨front, back, -, -, hs⟩ := Text.exists_trim_append s
      have hsplit : s = (front ++ (first ++ onLines before)) ++
          '\n' :: (line ++ '\n' :: (next ++ onLines behind ++ back)) := by
        rw [List.cons_append] at hlines
        rw [← hs, eq_append_onLines hlines, onLines_append, onLines_cons, onLines_cons]
        simp
      obtain ⟨start, more, hstart⟩ := Text.exists_lines_cons (front ++ (first ++ onLines before))
      refine ⟨start, more, Text.lines (next ++ onLines behind ++ back),
        List.splitOn_ne_nil _ _, ?_⟩
      rw [hsplit, Text.lines, List.splitOn_append_cons_self, ← Text.lines, ← Text.lines, hstart,
        Text.lines_append_newline (Text.not_mem_of_mem_splitOn hline)]

/-! ## Indentation -/

/-- A line without its share of the indentation. -/
def unindented (width : Nat) (line : List Char) : List Char :=
  if line.all isIndent then [] else line.drop width

theorem unindented_isSuffix (width : Nat) (line : List Char) : unindented width line <:+ line := by
  unfold unindented
  split_ifs
  · exact List.nil_suffix
  · exact List.drop_suffix width line

/-- **Indentation is taken away** line by line. -/
theorem lines_dedent (s : List Char) :
    Text.lines (dedent s) =
      (Text.lines s).map (unindented (margin (Text.lines s)).length) := by
  refine List.splitOn_intercalate '\n' (fun line hline => ?_) ?_
  · obtain ⟨whole, hwhole, rfl⟩ := List.mem_map.mp hline
    exact fun hmem => Text.not_mem_of_mem_splitOn hwhole ((unindented_isSuffix _ whole).subset hmem)
  · rw [ne_eq, List.map_eq_nil_iff]
    exact List.splitOn_ne_nil _ _

theorem commonHead_isPrefix (s t : List Char) : commonHead s t <+: s ∧ commonHead s t <+: t := by
  fun_induction commonHead s t with
  | case1 a s t ih => simpa only [List.prefix_cons_inj] using ih
  | case2 => exact ⟨List.nil_prefix, List.nil_prefix⟩
  | case3 => exact ⟨List.nil_prefix, List.nil_prefix⟩

theorem foldl_commonHead_isPrefix (first : List Char) (rest : List (List Char)) :
    ∀ s ∈ first :: rest, rest.foldl commonHead first <+: s := by
  induction rest generalizing first with
  | nil =>
    intro s hs
    rw [List.mem_singleton.mp hs]
    exact List.prefix_rfl
  | cons next rest ih =>
    obtain ⟨hfirst, hnext⟩ := commonHead_isPrefix first next
    have hboth := ih (commonHead first next) _ (List.mem_cons_self ..)
    intro s hs
    rcases List.mem_cons.mp hs with rfl | hs
    · exact hboth.trans hfirst
    rcases List.mem_cons.mp hs with rfl | hs
    · exact hboth.trans hnext
    · exact ih (commonHead first next) s (List.mem_cons_of_mem _ hs)

/-- The margin is indentation of every line that holds something. -/
theorem margin_isPrefix {lines : List (List Char)} {line : List Char} (hline : line ∈ lines)
    (hsome : line.all isIndent = false) : margin lines <+: line.takeWhile isIndent := by
  have hmem : line.takeWhile isIndent ∈
      (lines.filter fun line => !line.all isIndent).map (·.takeWhile isIndent) :=
    List.mem_map_of_mem (List.mem_filter.mpr ⟨hline, by rw [hsome]; rfl⟩)
  unfold margin
  split
  next hnone =>
    rw [hnone] at hmem
    cases hmem
  next first rest hall =>
    rw [hall] at hmem
    exact foldl_commonHead_isPrefix first rest _ hmem

theorem isBlank_of_isIndent {c : Char} (h : isIndent c = true) : Text.isBlank c = true := by
  rcases Bool.or_eq_true_iff.mp h with h | h
  · rw [beq_iff_eq.mp h]
    decide
  · rw [beq_iff_eq.mp h]
    decide

/-- **A line that is not blank** stays so when the margin is taken away. -/
theorem allBlank_unindented {lines : List (List Char)} {line : List Char} (hline : line ∈ lines) :
    Text.allBlank (unindented (margin lines).length line) = Text.allBlank line := by
  by_cases hindent : line.all isIndent = true
  · have hblank : Text.allBlank line = true :=
      List.all_eq_true.mpr fun c hc => isBlank_of_isIndent (List.all_eq_true.mp hindent c hc)
    rw [unindented, if_pos hindent, hblank]
    rfl
  · have hmargin := margin_isPrefix hline (eq_false_of_ne_true hindent)
    have hblank : (margin lines).all Text.isBlank = true := by
      refine List.all_eq_true.mpr fun c hc => isBlank_of_isIndent ?_
      exact List.mem_takeWhile_imp (hmargin.subset hc)
    have hsplit : margin lines ++ line.drop (margin lines).length = line :=
      List.prefix_iff_eq_append.mp (hmargin.trans (List.takeWhile_prefix isIndent))
    rw [unindented, if_neg hindent, ← congrArg Text.allBlank hsplit, Text.allBlank, Text.allBlank,
      List.all_append, hblank, Bool.true_and]

theorem allBlank_dedent (s : List Char) :
    Text.allBlank (dedent s) = true ↔ Text.allBlank s = true := by
  rw [Text.allBlank_iff_lines, Text.allBlank_iff_lines, lines_dedent, List.forall_mem_map]
  refine forall₂_congr fun line hline => ?_
  rw [allBlank_unindented hline]

/-! ## Sections -/

/-- The headings of a returns section. -/
def returnsHeadings : List String := ["returns"]

theorem returnsSection?_eq_some_iff {d text : List Char} :
    returnsSection? d = some text ↔
      ∃ body, IsSection returnsHeadings returnsSiblings d body ∧ Text.trim (dedent body) = text ∧
        text ≠ [] := by
  have hsection : ∀ body, sectionFrom? returnsHeadings returnsSiblings none d = some body ↔
      IsSection returnsHeadings returnsSiblings d body :=
    fun body => sectionFrom?_eq_some_iff_isSection (by decide) (by decide)
  simp only [← hsection]
  unfold returnsSection?
  rw [← returnsHeadings]
  rcases sectionFrom? returnsHeadings returnsSiblings none d with _ | body
  · simp
  · simp only [Option.some.injEq, List.isEmpty_iff, exists_eq_left']
    split_ifs with hempty
    · simp [hempty]
    · rw [Option.some.injEq]
      exact ⟨fun h => ⟨h, h ▸ hempty⟩, fun h => h.1⟩

/-- The text of a section within its bounds has no blank line. -/
theorem Bounds.allBlank_line {siblings : List String} {body : List Char} {later : List (List Char)}
    (h : Bounds siblings (Text.lines body).tail later) (hne : Text.trim (dedent body) ≠ [])
    {line : List Char} (hline : line ∈ Text.lines (Text.trim (dedent body))) :
    Text.allBlank line = false := by
  by_contra hblank
  have hblank : Text.allBlank line = true := eq_true_of_ne_false hblank
  -- a blank line of the text was one of the section, with another line behind it
  obtain ⟨first, before, behind, hbehind, hlines⟩ := exists_lines_append_of_blank hne hline hblank
  rw [lines_dedent] at hlines
  obtain ⟨front, back, hbody, hfront, hback⟩ := List.map_eq_append_iff.mp hlines
  obtain ⟨whole, back, rfl, rfl, rfl⟩ := List.map_eq_cons_iff.mp hback
  obtain ⟨start, front, rfl, -, -⟩ := List.map_eq_cons_iff.mp hfront
  rw [allBlank_unindented (by rw [hbody]; simp)] at hblank
  have hlast := h.blankLast front whole back (by rw [hbody]; rfl) hblank
  exact hbehind (by rw [hlast.1]; rfl)

/-- The lines of the text are parts of lines of the section. -/
theorem exists_lines_of_dedent (body : List Char) :
    ∃ kept, kept <:+: Text.lines body ∧
      List.Forall₂ (· <:+: ·) (Text.lines (Text.trim (dedent body))) kept := by
  have hpart : Text.trim (dedent body) <:+: dedent body := by
    obtain ⟨front, back, -, -, htext⟩ := Text.exists_trim_append (dedent body)
    exact ⟨front, back, by rw [List.append_assoc, htext]⟩
  obtain ⟨kept, hkept, hparts⟩ := Text.exists_lines_of_infix hpart
  rw [lines_dedent] at hkept
  obtain ⟨whole, hwhole, rfl⟩ := List.infix_map_iff.mp hkept
  refine ⟨whole, hwhole, (List.forall₂_map_right_iff.mp hparts).imp fun part line h => ?_⟩
  exact h.trans (unindented_isSuffix _ line).isInfix

/-- **Sections keep within their bounds.** A docstring has a parameter section exactly where the
first heading and the bounds put it. The text of its returns section is trimmed, has no blank line
and is made of parts of the lines that its own first heading and bounds enclose; there is none
exactly if nothing but blanks is enclosed. -/
theorem sections_within_bounds (d : List Char) :
    (∀ body, argsSection? d = some body ↔ IsSection argsHeadings argsSiblings d body) ∧
      (∀ text, returnsSection? d = some text →
        text ≠ [] ∧ Text.trim text = text ∧ (∀ line ∈ Text.lines text, Text.allBlank line = false) ∧
          ∃ body, IsSection returnsHeadings returnsSiblings d body ∧
            ∃ kept, kept <:+: Text.lines body ∧ List.Forall₂ (· <:+: ·) (Text.lines text) kept) ∧
      (returnsSection? d = none ↔
        ∀ body, IsSection returnsHeadings returnsSiblings d body → Text.allBlank body = true) := by
  refine ⟨fun body => sectionFrom?_eq_some_iff_isSection (by decide) (by decide), ?_, ?_⟩
  · intro text htext
    obtain ⟨body, hbody, rfl, hne⟩ := returnsSection?_eq_some_iff.mp htext
    obtain ⟨-, -, later, -, -, hbounds⟩ := id hbody
    exact ⟨hne, Text.trim_trim _, fun line hline => hbounds.allBlank_line hne hline, body, hbody,
      exists_lines_of_dedent body⟩
  · simp only [Option.eq_none_iff_forall_ne_some, ne_eq, returnsSection?_eq_some_iff]
    constructor
    · intro h body hbody
      by_contra hblank
      refine h _ ⟨body, hbody, rfl, ?_⟩
      rwa [Text.trim_eq_nil_iff, allBlank_dedent]
    · rintro h text ⟨body, hbody, rfl, hne⟩
      refine hne ?_
      rw [Text.trim_eq_nil_iff, allBlank_dedent]
      exact h body hbody

/-- A docstring with two sections, the second of which is indented and ends at a sibling. -/
def mapDocstring : List Char :=
  "Map.\n\n  Args:\n    x: first\n \n  RETURNſ:\n    Mapping of\n      x\n  raises: KeyError".toList

theorem sections_within_bounds_map :
    IsSection argsHeadings argsSiblings mapDocstring "\n    x: first".toList ∧
      returnsSection? mapDocstring = some "Mapping of\n  x".toList ∧
      ∃ body, IsSection returnsHeadings returnsSiblings mapDocstring body ∧
        ∃ kept, kept <:+: Text.lines body ∧
          List.Forall₂ (· <:+: ·) ["Mapping of".toList, "  x".toList] kept := by
  have hargs : argsSection? mapDocstring = some "\n    x: first".toList := by decide +kernel
  have hreturns : returnsSection? mapDocstring = some "Mapping of\n  x".toList := by
    decide +kernel
  obtain ⟨hsection, htext, -⟩ := sections_within_bounds mapDocstring
  exact ⟨(hsection _).mp hargs, hreturns, (htext _ hreturns).2.2.2⟩

end Docstring

end Docwright
