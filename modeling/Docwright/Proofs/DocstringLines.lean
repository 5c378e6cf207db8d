import Docwright.Proofs.BodyLines

/-!
# Docstrings and steps

The steps of a routine are read off the lines behind its first line, and a docstring is passed over
only if it opens these lines. The docstring of a definition, on the other hand, is what follows the
whole header. The two agree when the header is one line and the docstring starts on a later one; a
header of several lines, or a docstring on the first line, shows the docstring to the steps.

* `HidesDocstring` — **the exact condition**, on the lines between the first one and the docstring;
* `exists_bodyLines_of_hides` — where it holds, the lines that are read are the same for every
  content;
* `exists_bodyLines_of_not_hides` — where it fails, the lines of the content are among them.

The main result is `stepsIgnoreDocstring_iff`.
-/

namespace Docwright

namespace Steps

open Source

/-! ## Where a docstring is hidden -/

/-- The quote that is not this one. -/
def otherQuote (quote : Char) : Char :=
  if quote = '"' then '\'' else '"'

theorem isQuote_otherQuote (quote : Char) : isQuote (otherQuote quote) = true := by
  unfold otherQuote
  split <;> rfl

theorem otherQuote_ne (quote : Char) : otherQuote quote ≠ quote := by
  unfold otherQuote
  split
  · next h => rw [h]; decide
  · next h => exact Ne.symm h

theorem eq_otherQuote {quote quote' : Char} (hquote : isQuote quote = true)
    (h : isQuote quote' = true) (hne : quote' ≠ quote) : quote' = otherQuote quote := by
  simp only [isQuote, Bool.or_eq_true, beq_iff_eq] at hquote h
  rcases hquote with rfl | rfl <;> rcases h with rfl | rfl <;> simp_all [otherQuote]

/-- A docstring with these quotes is hidden from the steps by the lines between the first line of
its definition and the literal; the last of them is the start of the line where it opens. -/
inductive HidesDocstring (quote : Char) : (lines : List (List Char)) → Prop
  /-- it starts on a later line and only blank lines come before: it is passed over -/
  | blank {lines : List (List Char)} (hne : lines ≠ [])
      (hblank : ∀ line ∈ lines, Text.allBlank line = true) : HidesDocstring quote lines
  /-- a literal with the other quotes opens the lines and is still open: it is taken for the
  docstring, and all is passed over that comes before its end -/
  | literal {blanks rest : List (List Char)} {line inner : List Char}
      (hblanks : ∀ l ∈ blanks, Text.allBlank l = true)
      (hline : Text.trimStart line = triple (otherQuote quote) ++ inner)
      (hopen : ∀ l ∈ inner :: rest, ¬ triple (otherQuote quote) <:+: l) :
      HidesDocstring quote (blanks ++ line :: rest)

/-- The lines behind the first one, where a text goes on in the last of them. -/
theorem drop_lines_append {s t line first : List Char} {front rest : List (List Char)}
    {last : List Char} (hs : Text.lines s = line :: (front ++ [last]))
    (ht : Text.lines t = first :: rest) :
    (Text.lines (s ++ t)).drop 1 = front ++ (last ++ first) :: rest := by
  rw [@Text.lines_append s t (line :: front) rest last first hs ht]
  rfl

variable (p : DocstringPlace)

theorem newline_not_mem_triple : '\n' ∉ triple p.quote := by
  intro hmem
  have hquote := p.quote_isQuote
  rw [← mem_triple hmem] at hquote
  cases hquote

/-- The first line of a text behind a delimiter goes on with it. -/
theorem lines_triple_append {s first : List Char} {rest : List (List Char)}
    (hs : Text.lines s = first :: rest) :
    Text.lines (triple p.quote ++ s) = (triple p.quote ++ first) :: rest :=
  @Text.lines_append _ s [] rest _ first (Text.lines_of_not_mem (newline_not_mem_triple p)) hs

/-- Behind a closed literal the lines of the rest are left. -/
theorem linesBehind_literal {content : List Char} (h : PlainContent content) (t : List Char) :
    linesBehind (triple p.quote) (Text.lines (content ++ (triple p.quote ++ t))) =
      (Text.lines t).drop 1 := by
  obtain ⟨first, rest, ht⟩ := Text.exists_lines_cons t
  rw [linesBehind_lines_append (h.not_mem p.quote_isQuote), lines_triple_append p ht, ht,
    linesBehind, if_pos (Text.occurs_iff.mpr List.infix_append_left)]
  rfl

/-- A literal with the other quotes passes over all of the docstring. -/
theorem linesBehind_otherQuote {content : List Char} (h : PlainContent content)
    (t : List Char) :
    linesBehind (triple (otherQuote p.quote)) (Text.lines (p.literal content t)) =
      linesBehind (triple (otherQuote p.quote)) (Text.lines t) := by
  have hparts : p.literal content t = (triple p.quote ++ (content ++ triple p.quote)) ++ t := by
    simp [DocstringPlace.literal]
  have hmem : otherQuote p.quote ∉ triple p.quote ++ (content ++ triple p.quote) := by
    have htriple : otherQuote p.quote ∉ triple p.quote :=
      fun hmem => otherQuote_ne p.quote (mem_triple hmem)
    simp [htriple, h.not_mem (isQuote_otherQuote p.quote)]
  rw [hparts, linesBehind_lines_append hmem]

/-- A docstring behind blank lines is passed over. -/
theorem bodyLines_of_blankLines {head first last content : List Char} {front : List (List Char)}
    (hhead : Text.lines head = first :: (front ++ [last]))
    (hblank : ∀ line ∈ front ++ [last], Text.allBlank line = true) (h : PlainContent content)
    (t : List Char) : bodyLines (head ++ p.literal content t) = (Text.lines t).drop 1 := by
  obtain ⟨start, rest, hrest⟩ := Text.exists_lines_cons (content ++ (triple p.quote ++ t))
  have hdrop := drop_lines_append hhead (lines_triple_append p hrest)
  have hlast : ∀ c ∈ last, Text.isBlank c = true := by
    simpa [Text.allBlank] using hblank last (by simp)
  have hstart : Text.trimStart (last ++ (triple p.quote ++ start)) = triple p.quote ++ start := by
    refine Text.dropWhile_append_of_stop hlast fun c hc => ?_
    rw [← Option.some.inj hc]
    exact isBlank_eq_false_of_isQuote p.quote_isQuote
  rw [DocstringPlace.literal, bodyLines_of_literal hdrop
    (fun l hl => hblank l (List.mem_append_left _ hl)) p.quote_isQuote hstart, ← hrest,
    linesBehind_literal p h]

/-- A docstring behind a literal with the other quotes that is still open is passed over. -/
theorem bodyLines_of_openLiteral {head first line inner content : List Char}
    {blanks rest : List (List Char)}
    (hhead : Text.lines head = first :: (blanks ++ line :: rest))
    (hblanks : ∀ l ∈ blanks, Text.allBlank l = true)
    (hline : Text.trimStart line = triple (otherQuote p.quote) ++ inner)
    (hopen : ∀ l ∈ inner :: rest, ¬ triple (otherQuote p.quote) <:+: l)
    (h : PlainContent content) (t : List Char) :
    bodyLines (head ++ p.literal content t) =
      linesBehind (triple (otherQuote p.quote)) (Text.lines t) := by
  obtain ⟨start, behind, hbehind⟩ := Text.exists_lines_cons (content ++ (triple p.quote ++ t))
  have hliteral := lines_triple_append p hbehind
  have hother : (triple p.quote ++ start).head? ≠ some (otherQuote p.quote) :=
    fun hstart => otherQuote_ne p.quote (Option.some.inj hstart).symm
  rw [← linesBehind_otherQuote p h, DocstringPlace.literal, hliteral]
  rcases List.eq_nil_or_concat rest with rfl | ⟨rest, last, rfl⟩
  · -- the literal opens on the line of the docstring
    have hdrop := drop_lines_append hhead hliteral
    have hstart : Text.trimStart (line ++ (triple p.quote ++ start)) =
        triple (otherQuote p.quote) ++ (inner ++ (triple p.quote ++ start)) := by
      rw [Text.trimStart_append, hline, List.append_assoc]
      rw [Text.allBlank_eq_false_iff, hline]
      exact List.cons_ne_nil _ _
    rw [bodyLines_of_literal hdrop hblanks (isQuote_otherQuote _) hstart,
      linesBehind_cons_append (hopen inner (List.mem_cons_self ..)) (.inr hother)]
  · -- it opens on a line before
    rw [List.concat_eq_append] at hhead hopen
    have hparts : Text.lines head = first :: ((blanks ++ line :: rest) ++ [last]) := by
      rw [hhead, List.append_assoc, List.cons_append]
    have hdrop := drop_lines_append hparts hliteral
    rw [List.append_assoc, List.cons_append] at hdrop
    rw [bodyLines_of_literal hdrop hblanks (isQuote_otherQuote _) hline, ← List.cons_append,
      linesBehind_append_of_not fun l hl => hopen l (List.mem_append_left [last] hl),
      linesBehind_cons_append (hopen last (by simp)) (.inr hother)]

/-- **A hidden docstring** leaves the same lines for every content. -/
theorem exists_bodyLines_of_hides {head : List Char} (t : List Char)
    (h : HidesDocstring p.quote ((Text.lines head).drop 1)) :
    ∃ shown, ∀ content, PlainContent content →
      bodyLines (head ++ p.literal content t) = shown := by
  obtain ⟨first, lines, hhead⟩ := Text.exists_lines_cons head
  rw [hhead, List.drop_succ_cons, List.drop_zero] at h
  cases h with
  | blank hne hblank =>
    obtain ⟨front, last, rfl⟩ : ∃ front last, lines = front ++ [last] :=
      ⟨_, _, (List.dropLast_concat_getLast hne).symm⟩
    exact ⟨_, fun content hcontent => bodyLines_of_blankLines p hhead hblank hcontent t⟩
  | literal hblanks hline hopen =>
    exact ⟨_, fun content hcontent =>
      bodyLines_of_openLiteral p hhead hblanks hline hopen hcontent t⟩

/-! ## Where a docstring shows -/

/-- The header ends on the line where the docstring opens, or nothing but blanks is on that line. -/
def EndsHeader (head : List Char) : Prop :=
  ∀ front last, Text.lines head = front ++ [last] → Text.allBlank last = true ∨ ':' ∈ last

/-- A text that ends with a colon and blanks ends a header. -/
theorem endsHeader_append {s blanks : List Char} (h : ∀ c ∈ blanks, Text.isBlank c = true) :
    EndsHeader (s ++ ':' :: blanks) := by
  intro front last hlines
  obtain ⟨front', last', hs⟩ := Text.exists_lines_concat s
  have hcolon : Text.lines (s ++ [':']) = front' ++ [last' ++ [':']] :=
    Text.lines_append hs (Text.lines_of_not_mem (by simp))
  obtain ⟨first, rest, hblanks⟩ := Text.exists_lines_cons blanks
  rw [List.append_cons, Text.lines_append hcolon hblanks] at hlines
  rcases Text.line_cases hlines with ⟨-, -, rfl⟩ | ⟨rest, rfl, -⟩
  · right
    simp
  · left
    rw [Text.allBlank, List.all_eq_true]
    intro c hc
    have hmem : last ∈ Text.lines blanks := by rw [hblanks]; simp
    exact h c (Text.subset_of_mem_splitOn hmem hc)

/-- A line that opens no literal. -/
def IsCode (line : List Char) : Prop :=
  Text.allBlank line = false ∧
    ∀ quote, isQuote quote = true → ¬ triple quote <+: Text.trimStart line

/-- **A literal that is still open** in front of a docstring has the other quotes and hides it. -/
theorem hidesDocstring_of_open {head last line inner : List Char} {first : List Char}
    {front blanks rest : List (List Char)} {quote : Char} (hends : EndsHeader head)
    (hhead : Text.lines head = first :: (front ++ [last]))
    (hlines : front ++ [last ++ triple p.quote] = blanks ++ line :: rest)
    (hblanks : ∀ l ∈ blanks, Text.allBlank l = true) (hquote : isQuote quote = true)
    (hline : Text.trimStart line = triple quote ++ inner)
    (hopen : ∀ l ∈ inner :: rest, ¬ triple quote <:+: l) :
    HidesDocstring p.quote (front ++ [last]) := by
  rcases Text.line_cases hlines.symm with ⟨rfl, rfl, rfl⟩ | ⟨rest, rfl, rfl⟩
  · -- the docstring is on the line that opens the literal
    rcases hends (first :: blanks) last hhead with hblank | hcolon
    · refine .blank (by simp) fun l hl => ?_
      rcases List.mem_append.mp hl with hl | hl
      · exact hblanks l hl
      · rwa [List.mem_singleton.mp hl]
    · -- the header ends in front of the docstring, so the delimiter is in front of its colon
      have hmem : ':' ∈ Text.trimStart last := by
        rw [← List.takeWhile_append_dropWhile (p := Text.isBlank) (l := last)] at hcolon
        refine (List.mem_append.mp hcolon).resolve_left fun hblank => ?_
        exact absurd (List.mem_takeWhile_imp hblank) (by decide)
      have hstart : Text.trimStart last ++ triple p.quote = triple quote ++ inner := by
        have hlast := Text.allBlank_eq_false_iff.mpr (List.ne_nil_of_mem hmem)
        rw [← hline, Text.trimStart_append hlast]
      rcases List.append_eq_append_iff.mp hstart with ⟨z, hz, -⟩ | ⟨z, hz, hinner⟩
      · have hcolon' : ':' ∈ triple quote := by rw [hz]; exact List.mem_append_left z hmem
        rw [← mem_triple hcolon'] at hquote
        cases hquote
      · have hne : quote ≠ p.quote := by
          rintro rfl
          exact hopen inner (List.mem_cons_self ..) (by rw [hinner]; exact List.infix_append_right)
        obtain rfl := eq_otherQuote p.quote_isQuote hquote hne
        refine .literal hblanks hz fun l hl hin => ?_
        rw [List.mem_singleton.mp hl] at hin
        exact hopen inner (List.mem_cons_self ..)
          (by rw [hinner]; exact List.infix_append_of_infix_left hin)
  · -- it is on a later line
    rw [← List.cons_append] at hopen
    have hne : quote ≠ p.quote := by
      rintro rfl
      exact hopen (last ++ triple p.quote) (by simp) List.infix_append_right
    obtain rfl := eq_otherQuote p.quote_isQuote hquote hne
    rw [List.append_assoc, List.cons_append]
    refine .literal hblanks hline fun l hl => ?_
    rw [← List.cons_append] at hl
    rcases List.mem_append.mp hl with hl | hl
    · exact hopen l (List.mem_append_left _ hl)
    · rw [List.mem_singleton.mp hl]
      intro hin
      exact hopen (last ++ triple p.quote) (by simp) (List.infix_append_of_infix_left hin)

/-- **A docstring that shows**: what comes behind its first line is read, whatever it is. -/
theorem exists_bodyLines_of_not_hides {head : List Char} (hends : EndsHeader head)
    (h : ¬ HidesDocstring p.quote ((Text.lines head).drop 1)) :
    ∃ shown, ∀ note rest, '\n' ∉ note → IsCode note →
      bodyLines (head ++ (triple p.quote ++ '\n' :: (note ++ '\n' :: rest))) =
        shown ++ note :: Text.lines rest := by
  have hlines : ∀ note rest, '\n' ∉ note →
      Text.lines (triple p.quote ++ '\n' :: (note ++ '\n' :: rest)) =
        triple p.quote :: note :: Text.lines rest := by
    intro note rest hnote
    rw [Text.lines_append_newline (newline_not_mem_triple p), Text.lines_append_newline hnote]
  obtain ⟨first, behind, hhead⟩ := Text.exists_lines_cons head
  rw [hhead, List.drop_succ_cons, List.drop_zero] at h
  rcases List.eq_nil_or_concat behind with rfl | ⟨front, last, rfl⟩
  · -- the docstring opens on the first line, so the note is the first line that is read
    refine ⟨[], fun note rest hnote hcode => ?_⟩
    have hdrop : (Text.lines (head ++ (triple p.quote ++ '\n' :: (note ++ '\n' :: rest)))).drop 1 =
        [] ++ note :: Text.lines rest := by
      rw [@Text.lines_append head _ [] _ first _ hhead (hlines note rest hnote)]
      rfl
    exact bodyLines_of_code hdrop (by simp) hcode.1 hcode.2
  · rw [List.concat_eq_append] at h hhead
    have hnotBlank : Text.allBlank (last ++ triple p.quote) = false := by
      rw [Text.allBlank, List.all_eq_false]
      exact ⟨p.quote, by simp [triple], by simp [isBlank_eq_false_of_isQuote p.quote_isQuote]⟩
    -- a literal that opens the lines is closed again, as otherwise it would hide the docstring
    obtain ⟨shown, hshown⟩ := exists_bodyLines_append ⟨_, List.mem_append_right front
      (List.mem_singleton_self _), hnotBlank⟩ fun blanks line rest quote inner hfront hblanks hquote
        hline => by
      by_contra hopen
      push Not at hopen
      exact h (hidesDocstring_of_open p hends hhead hfront hblanks hquote hline hopen)
    refine ⟨shown, fun note rest hnote _ => hshown ?_⟩
    rw [drop_lines_append hhead (hlines note rest hnote)]
    simp

/-! ## Steps -/

/-- The steps are read off the lines; the name and the parameters stand in for missing ones. -/
theorem steps_congr {r r' : Routine}
    (hlines : bodyLines r.source.toList = bodyLines r'.source.toList) (hname : r.name = r'.name)
    (hparameters : r.parameters = r'.parameters) : r.steps = r'.steps := by
  have hgeneral : general r = general r' := by
    rw [general, general, Routine.parameterNames, Routine.parameterNames, hname, hparameters]
  rw [Routine.steps, Routine.steps, hlines, hgeneral]

/-- A line that is a note and comes twice makes the steps notes. -/
theorem steps_of_notes {r : Routine} {shown rest : List (List Char)} {line : List Char}
    {note : String} (hlines : bodyLines r.source.toList = shown ++ line :: line :: rest)
    (hnote : note? line = some note) :
    r.steps = shown.filterMap note? ++ note :: note :: rest.filterMap note? := by
  have hnotes : (bodyLines r.source.toList).filterMap note? =
      shown.filterMap note? ++ note :: note :: rest.filterMap note? := by
    rw [hlines, List.filterMap_append, List.filterMap_cons_some hnote,
      List.filterMap_cons_some hnote]
  unfold Routine.steps
  dsimp only
  rw [hnotes, if_pos]
  simp only [List.length_append, List.length_cons]
  omega

/-- A comment opens no literal. -/
theorem isCode_comment (s : List Char) : IsCode ('#' :: s) := by
  have hstart : Text.trimStart ('#' :: s) = '#' :: s := Text.trimStart_cons_of_not (by decide)
  refine ⟨by rw [Text.allBlank_eq_false_iff, hstart]; exact List.cons_ne_nil _ _, ?_⟩
  intro quote hquote hhead
  rw [hstart] at hhead
  rw [(List.cons_prefix_cons.mp hhead).1] at hquote
  cases hquote

/-- A content with a line that comes twice. -/
def twice (line : List Char) : List Char :=
  '\n' :: (line ++ '\n' :: (line ++ ['\n']))

theorem plainContent_twice {line : List Char} (h : PlainContent line) :
    PlainContent (twice line) := by
  intro c hc
  simp only [twice, List.mem_cons, List.mem_append, List.not_mem_nil, or_false] at hc
  rcases hc with rfl | hc | rfl | hc | rfl
  · decide
  · exact h c hc
  · decide
  · exact h c hc
  · decide

/-- A note in a docstring that shows is a step. -/
theorem exists_steps_of_not_hides {head : List Char} (hends : EndsHeader head)
    (h : ¬ HidesDocstring p.quote ((Text.lines head).drop 1)) (t : List Char) :
    ∃ before behind, ∀ (r : Routine) (line : List Char) (note : String), '\n' ∉ line →
      IsCode line → note? line = some note →
        r.source.toList = head ++ p.literal (twice line) t →
          r.steps = before ++ note :: note :: behind := by
  obtain ⟨shown, hshown⟩ := exists_bodyLines_of_not_hides p hends h
  refine ⟨shown.filterMap note?, (Text.lines (triple p.quote ++ t)).filterMap note?,
    fun r line note hline hcode hnote hsource => steps_of_notes ?_ hnote⟩
  have hparts : p.literal (twice line) t =
      triple p.quote ++ '\n' :: (line ++ '\n' :: (line ++ '\n' :: (triple p.quote ++ t))) := by
    simp [DocstringPlace.literal, twice]
  rw [hsource, hparts, hshown line _ hline hcode, Text.lines_append_newline hline]

end Steps

namespace Source

open Steps

/-- **Docstrings are no steps**: whatever the content of the docstring at a place, the definition
that starts at a position has the same steps. -/
def StepsIgnoreDocstring (p : DocstringPlace) (start : Nat) : Prop :=
  ∀ content content', PlainContent content → PlainContent content' →
    ∀ d ∈ scan (p.text content), ∀ d' ∈ scan (p.text content'),
      d.start = start → d'.start = start →
        ∀ label, (d.toRoutine label).steps = (d'.toRoutine label).steps

/-- The text in front of a docstring ends a header. -/
theorem DocstringPlace.Front.endsHeader {p : DocstringPlace} (f : p.Front) :
    EndsHeader (p.before.drop f.lead.length) := by
  obtain ⟨inner, hinner⟩ := f.isHeader.exists_inner
  have hblank : ∀ c ∈ f.gap ++ f.blanks, Text.isBlank c = true := by
    intro c hc
    rcases List.mem_append.mp hc with hc | hc
    · exact Text.isBlank_of_isAsciiBlank (f.gap_blank c hc)
    · exact f.blanks_blank c hc
  have hends := endsHeader_append (s := 'd' :: inner) hblank
  rw [f.drop_before, hinner]
  simpa using hends

/-- **Docstrings and steps.** A definition whose docstring gets another content is still found, with
that docstring. Its steps are the same for every content if and only if the lines between its first
line and the docstring hide the docstring. -/
theorem stepsIgnoreDocstring_iff {p : DocstringPlace} {content : List Char} {d : Definition}
    (hd : d ∈ scan (p.text content)) (hplace : d.docstringStart = p.before.length) :
    (∀ content', PlainContent content' → ∃ d' ∈ scan (p.text content'),
      d'.start = d.start ∧ docstring? d'.body = some (Text.trim content')) ∧
    (StepsIgnoreDocstring p d.start ↔
      HidesDocstring p.quote ((Text.lines (p.before.drop d.start)).drop 1)) := by
  have hrun : ∀ s, Calls s 0 (scan s) := fun s => calls_iff_eq_scan.mpr rfl
  obtain ⟨f, -, -, hstart⟩ := DocstringPlace.exists_front ((hrun _).le_start d hd).2 hplace
  have hfound : ∀ content', PlainContent content' →
      f.definition content' ∈ scan (p.text content') :=
    fun content' h => f.mem_scan_text ⟨d, hd, hstart.symm⟩ h
  rw [← hstart]
  refine ⟨fun content' h => ⟨_, hfound content' h, rfl, f.docstring?_body h⟩, ?_, ?_⟩
  · intro hignore
    by_contra hshows
    obtain ⟨before, behind, hsteps⟩ := exists_steps_of_not_hides p f.endsHeader hshows
      (Text.trimEnd p.tail)
    have hnote := hsteps ((f.definition (twice "# a note".toList)).toRoutine "")
      "# a note".toList "a note" (by simp) (isCode_comment _) (by decide) (f.source_toRoutine "" _)
    have hother := hsteps ((f.definition (twice "# another".toList)).toRoutine "")
      "# another".toList "another" (by simp) (isCode_comment _) (by decide)
      (f.source_toRoutine "" _)
    have hplain : PlainContent (twice "# a note".toList) :=
      plainContent_twice (by simp [PlainContent, isQuote])
    have hplain' : PlainContent (twice "# another".toList) :=
      plainContent_twice (by simp [PlainContent, isQuote])
    have hsame := hignore _ _ hplain hplain' _ (hfound _ hplain) _ (hfound _ hplain') rfl rfl ""
    rw [hnote, hother] at hsame
    simp at hsame
  · intro hhides content₁ content₂ h₁ h₂ d₁ hd₁ d₂ hd₂ hstart₁ hstart₂ label
    obtain ⟨shown, hshown⟩ := exists_bodyLines_of_hides p (Text.trimEnd p.tail) hhides
    have hunique : ∀ content', PlainContent content' → ∀ e ∈ scan (p.text content'),
        e.start = f.lead.length → e = f.definition content' := by
      intro content' h e he hestart
      have hin := ((hrun _).le_start e he).2
      rw [hestart, f.definitionIn?_text h] at hin
      exact (Option.some.inj hin).symm
    rw [hunique content₁ h₁ d₁ hd₁ hstart₁, hunique content₂ h₂ d₂ hd₂ hstart₂]
    refine steps_congr ?_ rfl rfl
    rw [f.source_toRoutine, f.source_toRoutine, hshown content₁ h₁, hshown content₂ h₂]

/-- A header on one line, with the docstring on the next. -/
def onOneLine : DocstringPlace where
  before := "def run():\n    ".toList
  quote := '"'
  behind := "\n    return 1\n".toList
  quote_isQuote := rfl

theorem stepsIgnoreDocstring_onOneLine :
    (∃ d ∈ scan (onOneLine.text "Run it.".toList),
      d.start = 0 ∧ d.docstringStart = onOneLine.before.length) ∧
    StepsIgnoreDocstring onOneLine 0 := by
  have hfound : ∃ d ∈ scan (onOneLine.text "Run it.".toList),
      d.start = 0 ∧ d.docstringStart = onOneLine.before.length := by
    decide +kernel
  obtain ⟨d, hd, hstart, hplace⟩ := hfound
  refine ⟨⟨d, hd, hstart, hplace⟩, ?_⟩
  rw [← hstart]
  refine (stepsIgnoreDocstring_iff hd hplace).2.mpr (.blank ?_ ?_)
  · rw [hstart]
    decide +kernel
  · rw [hstart]
    decide +kernel

/-- A header on several lines. -/
def onSeveralLines : DocstringPlace where
  before := "def f(\n    a,\n):\n    ".toList
  quote := '"'
  behind := "\n    pass\n".toList
  quote_isQuote := rfl

/-- The notes in its docstring are its steps. -/
theorem not_stepsIgnoreDocstring_onSeveralLines :
    (∃ d ∈ scan (onSeveralLines.text "Doc.".toList),
      d.start = 0 ∧ d.docstringStart = onSeveralLines.before.length ∧
        (d.toRoutine "<input>").steps =
          ["Initialize processing for f.", "Process input parameters: a.",
            "Perform core functionality and return results."]) ∧
    (∃ d ∈ scan (onSeveralLines.text "Doc.\n    # note one\n    # note two\n    ".toList),
      d.start = 0 ∧ (d.toRoutine "<input>").steps = ["note one", "note two"]) ∧
    ¬ StepsIgnoreDocstring onSeveralLines 0 := by
  have hplain : ∃ d ∈ scan (onSeveralLines.text "Doc.".toList),
      d.start = 0 ∧ d.docstringStart = onSeveralLines.before.length ∧
        (d.toRoutine "<input>").steps =
          ["Initialize processing for f.", "Process input parameters: a.",
            "Perform core functionality and return results."] := by
    decide +kernel
  have hnotes : ∃ d ∈ scan (onSeveralLines.text
      "Doc.\n    # note one\n    # note two\n    ".toList),
      d.start = 0 ∧ (d.toRoutine "<input>").steps = ["note one", "note two"] := by
    decide +kernel
  refine ⟨hplain, hnotes, fun hignore => ?_⟩
  obtain ⟨d, hd, hstart, -, hsteps⟩ := hplain
  obtain ⟨d', hd', hstart', hsteps'⟩ := hnotes
  have hsame := hignore _ _ (by simp [PlainContent, isQuote]) (by simp [PlainContent, isQuote])
    d hd d' hd' hstart hstart' "<input>"
  rw [hsteps, hsteps'] at hsame
  exact absurd hsame (by decide)

end Source

end Docwright
