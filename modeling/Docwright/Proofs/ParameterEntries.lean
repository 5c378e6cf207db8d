import Docwright.Proofs.JsonText
import Docwright.Proofs.ParameterSection

/-!
# Parameter entries as they are written

A docstring with a parameter section in the usual layout (`Written`) is read back entry by entry.
The blanks in a pattern run across lines and a description stops at whatever looks like the next
entry, so the point is what each line looks like:

* `WrittenEntry.entryHead?_headLine` — the first line of an entry opens it, whatever follows;
* `entryHead?_of_plain` — a line of a description opens none, whatever line comes next;
* `WrittenEntry.continues_headLine`, `Plain.continues` — neither line ends the section.

The run over the lines of all entries is `entriesFrom_entriesText`, and the main result
`entries_of_written`.
-/

namespace Docwright

namespace Docstring

/-- A line of a description: not blank, and without the colon and the parenthesis of an entry. -/
structure Plain (line : List Char) : Prop where
  /-- it is one line -/
  newline : '\n' ∉ line
  /-- no colon is on it -/
  colon : ':' ∉ line
  /-- no parenthesis opens on it -/
  paren : '(' ∉ line
  /-- it is not blank -/
  notBlank : Text.allBlank line = false

/-- An entry as its author writes it. -/
structure WrittenEntry where
  /-- the spaces in front of the name -/
  indent : Nat
  /-- the stars of the name -/
  stars : Nat
  /-- the name behind its stars -/
  word : List Char
  /-- the type, if one is given -/
  type : Option (List Char)
  /-- what follows the colon on the first line -/
  first : List Char
  /-- the other lines of the description -/
  more : List (List Char)
  /-- there are two stars at most -/
  stars_le : stars ≤ 2
  /-- the name is not empty -/
  word_ne : word ≠ []
  /-- the name is a word of ASCII -/
  word_ident : ∀ c ∈ word, Text.isIdentChar c = true
  /-- the type is trimmed, and one line that the next parenthesis closes -/
  type_trim : ∀ t ∈ type, t ≠ [] ∧ Text.trim t = t ∧ ')' ∉ t ∧ '\n' ∉ t
  /-- without a type the name is not the heading of another section -/
  untyped : type = none →
    ∀ name ∈ argsSiblings, (List.replicate stars '*' ++ word).map Char.toLower ≠ name.toList
  /-- the first line is one line -/
  first_line : '\n' ∉ first
  /-- the others are lines of a description -/
  more_plain : ∀ line ∈ more, Plain line

namespace WrittenEntry

/-- The name with its stars. -/
def name (e : WrittenEntry) : List Char :=
  List.replicate e.stars '*' ++ e.word

/-- The type in its parentheses. -/
def typeText (e : WrittenEntry) : List Char :=
  match e.type with
  | none => []
  | some t => ' ' :: '(' :: (t ++ [')'])

/-- The line that opens the entry. -/
def headLine (e : WrittenEntry) : List Char :=
  List.replicate e.indent ' ' ++ (e.name ++ (e.typeText ++ ':' :: e.first))

/-- All lines of the entry. -/
def lines (e : WrittenEntry) : List (List Char) :=
  e.headLine :: e.more

/-- What is read of the entry: the description is its words with single spaces between them. -/
def entry (e : WrittenEntry) : Entry where
  name := String.ofList e.name
  type := e.type.map String.ofList
  description := String.ofList (Text.join [' '] (Text.words (e.first ++ onLines e.more)))

variable (e : WrittenEntry)

/-! ## The name -/

theorem exists_word : ∃ c s, e.word = c :: s ∧ Text.isIdentChar c = true := by
  obtain ⟨c, s, hword⟩ := List.exists_cons_of_ne_nil e.word_ne
  exact ⟨c, s, hword, e.word_ident c (by rw [hword]; exact List.mem_cons_self ..)⟩

/-- The name is made of stars and word characters. -/
theorem mem_name {c : Char} (h : c ∈ e.name) : c = '*' ∨ Text.isIdentChar c = true := by
  rcases List.mem_append.mp h with h | h
  · exact .inl (List.eq_of_mem_replicate h)
  · exact .inr (e.word_ident c h)

theorem name_ne_nil : e.name ≠ [] := by
  simp [name, e.word_ne]

theorem not_mem_name {c : Char} (hc : c ≠ '*') (hident : Text.isIdentChar c = false) :
    c ∉ e.name := by
  intro hmem
  rcases e.mem_name hmem with h | h
  · exact hc h
  · rw [hident] at h
    cases h

theorem isBlank_of_mem_name {c : Char} (h : c ∈ e.name) : Text.isBlank c = false := by
  rcases e.mem_name h with rfl | h
  · decide
  · exact Text.isBlank_eq_false_of_isIdentChar h

theorem bareName_name : bareName (String.ofList e.name) = e.word := by
  obtain ⟨c, s, hword, hc⟩ := e.exists_word
  rw [bareName, String.toList_ofList, name]
  refine Text.dropWhile_append_of_stop (by simp) fun d hd => ?_
  rw [hword] at hd
  obtain rfl := Option.some.inj hd
  rw [beq_eq_false_iff_ne]
  rintro rfl
  cases hc

/-! ## The first line -/

theorem newline_not_mem_headLine : '\n' ∉ e.headLine := by
  have hname : '\n' ∉ e.name := e.not_mem_name (by decide) (by decide)
  have htype : '\n' ∉ e.typeText := by
    unfold typeText
    rcases htype : e.type with _ | t
    · exact List.not_mem_nil
    · have := (e.type_trim t htype).2.2.2
      simp [this]
  simp [headLine, hname, htype, e.first_line, List.mem_replicate]

/-- The blanks in front of the name are its indentation. -/
theorem dropWhile_headLine (rest : List Char) :
    (e.headLine ++ rest).dropWhile Text.isBlank =
      e.name ++ (e.typeText ++ ':' :: (e.first ++ rest)) := by
  rw [headLine, List.append_assoc]
  simp only [List.append_assoc, List.cons_append]
  refine Text.dropWhile_append_of_stop ?_ fun c hc => ?_
  · intro c hc
    rw [List.eq_of_mem_replicate hc]
    decide
  · rw [List.head?_append_of_ne_nil _ e.name_ne_nil] at hc
    exact e.isBlank_of_mem_name (List.mem_of_mem_head? hc)

theorem allBlank_headLine : Text.allBlank e.headLine = false := by
  rw [Text.allBlank, List.all_eq_false]
  obtain ⟨c, hc⟩ := List.exists_mem_of_ne_nil e.name e.name_ne_nil
  exact ⟨c, by simp [headLine, hc], by simp [e.isBlank_of_mem_name hc]⟩

/-- The type is read up to its parenthesis. -/
theorem typedColon?_typeText {t : List Char} (ht : e.type = some t) (rest : List Char) :
    typedColon? (e.typeText ++ ':' :: rest) = some (t, rest) := by
  obtain ⟨hne, -, hclose, -⟩ := e.type_trim t ht
  obtain ⟨c, u, rfl⟩ := List.exists_cons_of_ne_nil hne
  have hinner : ∀ d ∈ c :: u, (d != ')') = true := by
    intro d hd
    rw [bne_iff_ne]
    rintro rfl
    exact hclose hd
  have hstop : ∀ d, (')' :: ':' :: rest).head? = some d → (d != ')') = false := by
    intro d hd
    rw [← Option.some.inj hd]
    rfl
  have htext : e.typeText ++ ':' :: rest = ' ' :: '(' :: ((c :: u) ++ ')' :: ':' :: rest) := by
    simp [typeText, ht]
  rw [htext, typedColon?, List.dropWhile_cons_of_pos (by decide),
    List.dropWhile_cons_of_neg (by decide)]
  simp only [Text.takeWhile_append_of_stop hinner hstop, Text.dropWhile_append_of_stop hinner hstop]

/-- **The first line of an entry** opens it, whatever follows. -/
theorem entryHead?_headLine (rest : List Char) :
    entryHead? (e.headLine ++ rest) =
      some { name := e.name, type := e.type, rest := e.first ++ rest } := by
  obtain ⟨c, s, hword, hc⟩ := e.exists_word
  have hstar : ∀ d, (e.word ++ (e.typeText ++ ':' :: (e.first ++ rest))).head? = some d →
      (d == '*') = false := by
    intro d hd
    rw [hword] at hd
    obtain rfl := Option.some.inj hd
    rw [beq_eq_false_iff_ne]
    rintro rfl
    cases hc
  have hstars : ∀ d ∈ List.replicate e.stars '*', (d == '*') = true := by
    intro d hd
    rw [List.eq_of_mem_replicate hd]
    rfl
  have hident : ∀ d, (e.typeText ++ ':' :: (e.first ++ rest)).head? = some d →
      Text.isIdentChar d = false := by
    intro d hd
    unfold typeText at hd
    rcases htype : e.type with _ | t <;> rw [htype] at hd <;> obtain rfl := Option.some.inj hd <;>
      decide
  unfold entryHead?
  rw [dropWhile_headLine, name, List.append_assoc]
  dsimp only
  rw [Text.takeWhile_append_of_stop hstars hstar, Text.dropWhile_append_of_stop hstars hstar,
    Text.takeWhile_append_of_stop e.word_ident hident,
    Text.dropWhile_append_of_stop e.word_ident hident,
    if_neg (by simp [e.word_ne, e.stars_le])]
  rcases htype : e.type with _ | t
  · simp [typeText, htype]
  · have htyped := e.typedColon?_typeText htype (e.first ++ rest)
    simp only [typeText, htype, List.cons_append] at htyped ⊢
    change (typedColon? _).map _ = _
    rw [htyped]
    rfl

/-- The first line opens no other section: its name would be the heading. -/
theorem continues_headLine : Continues argsSiblings e.headLine := by
  refine ⟨e.newline_not_mem_headLine, fun rest _ => ?_⟩
  rw [sectionEnds, blankLineFollows_append e.allBlank_headLine e.newline_not_mem_headLine,
    Bool.false_or, Option.isSome_eq_false_iff, Option.isNone_iff_eq_none, dropWhile_headLine]
  have hcolon : ':' ∉ e.name := e.not_mem_name (by decide) (by decide)
  rcases htype : e.type with _ | t
  · rw [afterAnyHeading?_eq_none_iff]
    intro name hname h after hreads heq
    have hmarks := not_mem_of_reads_heading (List.mem_append_right argsHeadings hname) hreads
    have hsame : e.name = h := by
      simp only [typeText, htype, List.nil_append] at heq
      exact (Text.append_cons_inj hcolon (hmarks ':' (by simp)) heq).1
    refine e.untyped htype name hname ?_
    rw [← map_toLower_of_reads hreads]
    · rw [← hsame, WrittenEntry.name]
    · intro c hc
      rw [← hsame] at hc
      rcases e.mem_name hc with rfl | hc
      · decide
      · have := Text.toNat_of_isIdentChar hc
        omega
  · refine afterAnyHeading?_eq_none_of_blank (List.subset_append_right ..) hcolon fun c hc => ?_
    rw [typeText, htype] at hc
    exact .inr (Option.some.inj hc).symm

end WrittenEntry

/-! ## The other lines -/

/-- A line of a description opens no section: it has no colon. -/
theorem Plain.continues {line : List Char} (h : Plain line) : Continues argsSiblings line := by
  refine ⟨h.newline, fun rest hrest => ?_⟩
  rw [sectionEnds, blankLineFollows_append h.notBlank h.newline, Bool.false_or,
    Option.isSome_eq_false_iff, Option.isNone_iff_eq_none, ← Text.trimStart,
    Text.trimStart_append h.notBlank]
  refine afterAnyHeading?_eq_none_of_blank (List.subset_append_right ..) ?_
    fun c hc => .inl (hrest c hc)
  exact fun hmem => h.colon ((List.dropWhile_sublist _).mem hmem)

/-- The first character that is no blank opens no type. -/
def OpensNoType (s : List Char) : Prop :=
  ∀ c, (s.dropWhile Text.isBlank).head? = some c → c ≠ '('

theorem typedColon?_eq_none {s : List Char} (h : OpensNoType s) : typedColon? s = none := by
  unfold typedColon?
  split
  · next heq => exact absurd rfl (h '(' (by rw [heq]; rfl))
  · rfl

theorem opensNoType_append {line rest : List Char} (hline : '(' ∉ line) (hrest : OpensNoType rest) :
    OpensNoType (line ++ rest) := by
  intro c hc
  rw [List.dropWhile_append] at hc
  split at hc
  · exact hrest c hc
  · next hne =>
    rw [List.head?_append_of_ne_nil _ (by simpa using hne)] at hc
    rintro rfl
    exact hline ((List.dropWhile_sublist _).mem (List.mem_of_mem_head? hc))

theorem opensNoType_onLines {lines : List (List Char)} (h : ∀ line ∈ lines, '(' ∉ line)
    {rest : List Char} (hrest : OpensNoType rest) : OpensNoType (onLines lines ++ rest) := by
  refine opensNoType_append ?_ hrest
  simpa [onLines] using h

/-- **A line of a description** opens no entry, whatever line comes next. -/
theorem entryHead?_of_plain {line rest : List Char} (h : Plain line) (hends : EndsLine rest)
    (hrest : OpensNoType rest) : entryHead? (line ++ rest) = none := by
  have hstay : ∀ p : Char → Bool, p '\n' = false → ∀ s : List Char,
      (s ++ rest).dropWhile p = s.dropWhile p ++ rest :=
    fun p hp s => dropWhile_append_of_endsLine hp hends s
  unfold entryHead?
  rw [← Text.trimStart, Text.trimStart_append h.notBlank]
  dsimp only
  rw [hstay _ (by decide), hstay _ (by decide)]
  have hsub : ((Text.trimStart line).dropWhile (· == '*')).dropWhile Text.isIdentChar ⊆ line :=
    ((List.dropWhile_sublist _).trans
      ((List.dropWhile_sublist _).trans (List.dropWhile_sublist _))).subset
  generalize ((Text.trimStart line).dropWhile (· == '*')).dropWhile Text.isIdentChar = behind
    at hsub
  split
  · rfl
  · split
    · next after heq =>
      -- no colon is on the line, and the next line starts behind a newline
      exfalso
      rcases behind with _ | ⟨c, behind⟩
      · have := hends ':' (by rw [List.nil_append] at heq; rw [heq]; rfl)
        cases this
      · obtain ⟨rfl, -⟩ := List.cons.inj heq
        exact h.colon (hsub (List.mem_cons_self ..))
    · rw [typedColon?_eq_none (opensNoType_append (fun hmem => h.paren (hsub hmem)) hrest)]
      rfl

/-! ## Descriptions -/

theorem takeDescription_append {line : List Char} (hline : '\n' ∉ line) (rest : List Char) :
    takeDescription (line ++ rest) = line ++ takeDescription rest := by
  induction line with
  | nil => rfl
  | cons c line ih =>
    obtain ⟨hc, hline⟩ := not_or.mp (mt List.mem_cons.mpr hline)
    rw [List.cons_append, takeDescription, if_neg (by simp [Ne.symm hc]), ih hline,
      List.cons_append]

/-- The lines that follow a description: it ends in front of them. -/
structure EndsDescription (rest : List Char) : Prop where
  /-- the line ends -/
  line : EndsLine rest
  /-- the next line opens no type for a word in front of it -/
  noType : OpensNoType rest
  /-- no line is left for the description -/
  taken : takeDescription rest = []

/-- **A description** takes its lines. -/
theorem takeDescription_onLines {lines : List (List Char)} {rest : List Char}
    (h : ∀ line ∈ lines, Plain line) (hrest : EndsDescription rest) :
    takeDescription (onLines lines ++ rest) = onLines lines := by
  induction lines with
  | nil => exact hrest.taken
  | cons line lines ih =>
    have hline := h line (List.mem_cons_self ..)
    have hlines := fun other hother => h other (List.mem_cons_of_mem line hother)
    have hhead : entryHead? (line ++ (onLines lines ++ rest)) = none :=
      entryHead?_of_plain hline (endsLine_onLines_append hrest.line lines)
        (opensNoType_onLines (fun other hother => (hlines other hother).paren) hrest.noType)
    have hgoes : descriptionEnds (line ++ (onLines lines ++ rest)) = false := by
      rw [descriptionEnds, hhead, blankLineFollows_append hline.notBlank hline.newline,
        Text.allBlank, List.all_append, ← Text.allBlank, hline.notBlank]
      rfl
    have hsplit : onLines (line :: lines) ++ rest = '\n' :: (line ++ (onLines lines ++ rest)) := by
      simp [onLines]
    rw [hsplit, takeDescription, hgoes, if_neg (by simp), takeDescription_append hline.newline,
      ih hlines]
    rfl

/-! ## All entries -/

/-- The lines of the entries, each behind a newline. -/
def entriesText (es : List WrittenEntry) : List Char :=
  onLines (es.flatMap WrittenEntry.lines)

theorem entriesText_cons (e : WrittenEntry) (es : List WrittenEntry) :
    entriesText (e :: es) = '\n' :: (e.headLine ++ onLines e.more ++ entriesText es) := by
  simp [entriesText, onLines, WrittenEntry.lines]

/-- The next entry ends a description, and so does the end of the section. -/
theorem endsDescription_entriesText (es : List WrittenEntry) :
    EndsDescription (entriesText es) := by
  cases es with
  | nil => exact ⟨endsLine_nil, by rintro c ⟨⟩, rfl⟩
  | cons e es =>
    rw [entriesText_cons, List.append_assoc]
    refine ⟨endsLine_cons _, ?_, ?_⟩
    · intro c hc
      rw [List.dropWhile_cons_of_pos (by decide), e.dropWhile_headLine,
        List.head?_append_of_ne_nil _ e.name_ne_nil] at hc
      rintro rfl
      exact e.not_mem_name (by decide) (by decide) (List.mem_of_mem_head? hc)
    · rw [takeDescription, descriptionEnds, e.entryHead?_headLine]
      rfl

/-- The entry that an author writes is read with all of its lines. -/
theorem entryAt?_headLine (e : WrittenEntry) {rest : List Char} (hrest : EndsDescription rest) :
    entryAt? (e.headLine ++ onLines e.more ++ rest) =
      some (e.entry, (e.headLine ++ onLines e.more).length) := by
  have hends := endsLine_onLines_append hrest.line e.more
  have hbehind : (e.first ++ (onLines e.more ++ rest)).dropWhile isIndent =
      e.first.dropWhile isIndent ++ (onLines e.more ++ rest) :=
    dropWhile_append_of_endsLine (by decide) hends e.first
  have hfirst : '\n' ∉ e.first.dropWhile isIndent :=
    fun hmem => e.first_line ((List.dropWhile_sublist _).mem hmem)
  have hdescription : takeDescription (e.first.dropWhile isIndent ++ (onLines e.more ++ rest)) =
      e.first.dropWhile isIndent ++ onLines e.more := by
    rw [takeDescription_append hfirst, takeDescription_onLines e.more_plain hrest]
  have hwords : Text.words (e.first.dropWhile isIndent ++ onLines e.more) =
      Text.words (e.first ++ onLines e.more) := by
    rw [← Text.words_append_of_blank (s := e.first.takeWhile isIndent) ?_
        (e.first.dropWhile isIndent ++ onLines e.more),
      ← List.append_assoc, List.takeWhile_append_dropWhile]
    intro c hc
    have hindent := List.mem_takeWhile_imp hc
    simp only [isIndent, Bool.or_eq_true, beq_iff_eq] at hindent
    rcases hindent with rfl | rfl <;> decide
  unfold entryAt?
  rw [List.append_assoc, e.entryHead?_headLine, Option.map_some]
  dsimp only
  rw [hbehind, hdescription, Text.squeeze_eq_join_words, hwords]
  refine congrArg some (Prod.ext ?_ ?_)
  · rw [WrittenEntry.entry]
    rcases htype : e.type with _ | t
    · rfl
    · obtain ⟨hne, htrim, -, -⟩ := e.type_trim t htype
      obtain ⟨c, t, rfl⟩ := List.exists_cons_of_ne_nil hne
      rw [Option.map_some, htrim]
      rfl
  · have hshorter := (List.dropWhile_sublist (p := isIndent) (l := e.first)).length_le
    have hhead : e.first.length ≤ e.headLine.length := by
      simp only [WrittenEntry.headLine, List.length_append, List.length_cons]
      omega
    simp only [List.length_append]
    omega

theorem entriesFrom_skip (s t : List Char) : entriesFrom s.length (s ++ t) = entriesFrom 0 t := by
  induction s with
  | nil => rfl
  | cons c s ih => rw [List.length_cons, List.cons_append, entriesFrom, ih]

/-- **The run over the lines** gives the entries one after the other. -/
theorem entriesFrom_entriesText (es : List WrittenEntry) :
    entriesFrom 0 (entriesText es) = es.map WrittenEntry.entry := by
  induction es with
  | nil => rfl
  | cons e es ih =>
    rw [entriesText_cons, entriesFrom, if_pos rfl,
      entryAt?_headLine e (endsDescription_entriesText es)]
    dsimp only
    rw [entriesFrom_skip, ih, List.map_cons]

/-! ## Docstrings -/

/-- A docstring with a parameter section in the usual layout. -/
structure Written where
  /-- what stands before the section -/
  summary : List Char
  /-- the blanks on the line in front of the section -/
  gap : List Char
  /-- the spaces in front of the heading -/
  margin : Nat
  /-- the heading -/
  heading : String
  /-- the entries -/
  entries : List WrittenEntry
  /-- the blanks on the line behind the section, and the text behind it -/
  tail : Option (List Char × List Char)
  /-- no colon comes before the heading -/
  summary_plain : ':' ∉ summary
  /-- the line in front is blank -/
  gap_blank : ∀ c ∈ gap, Text.isBlank c = true
  /-- it is one of the two headings -/
  heading_mem : heading ∈ ["Args", "Parameters"]
  /-- the line behind is blank -/
  tail_blank : ∀ p ∈ tail, ∀ c ∈ p.1, Text.isBlank c = true
  /-- no two names differ only in their stars -/
  words_nodup : (entries.map (·.word)).Nodup

namespace Written

/-- A text behind a blank line. -/
def behindBlankLine (p : List Char × List Char) : List Char :=
  '\n' :: (p.1 ++ '\n' :: p.2)

/-- The docstring. -/
def text (d : Written) : List Char :=
  d.summary ++ '\n' :: d.gap ++ '\n' :: List.replicate d.margin ' ' ++
    d.heading.toList ++ ':' :: entriesText d.entries ++ (d.tail.map behindBlankLine).getD []

variable (d : Written)

/-- The section has the lines of all entries, and nothing else. -/
theorem argsSection?_text : argsSection? d.text = some (entriesText d.entries) := by
  have htail : EndsLine ((d.tail.map behindBlankLine).getD []) ∧
      takeSection argsSiblings ((d.tail.map behindBlankLine).getD []) = [] := by
    rcases htail : d.tail with _ | p
    · exact ⟨endsLine_nil, rfl⟩
    · exact ⟨endsLine_cons _, takeSection_blankLine argsSiblings (d.tail_blank p htail) p.2⟩
  have hlines : ∀ line ∈ d.entries.flatMap WrittenEntry.lines, Continues argsSiblings line := by
    intro line hline
    obtain ⟨e, -, hline⟩ := List.mem_flatMap.mp hline
    rcases List.mem_cons.mp hline with rfl | hmore
    · exact e.continues_headLine
    · exact (e.more_plain line hmore).continues
  have htaken := takeSection_onLines hlines htail.1 htail.2
  obtain ⟨name, hname, hreads⟩ : ∃ name ∈ argsHeadings, Reads name.toList d.heading.toList := by
    rcases List.mem_pair.mp d.heading_mem with hheading | hheading <;> rw [hheading]
    · exact ⟨"args", by simp [argsHeadings], by simp [Reads, readsAs]⟩
    · exact ⟨"parameters", by simp [argsHeadings], by simp [Reads, readsAs]⟩
  -- the heading follows the newline or the last space of its margin
  obtain ⟨lead, b, hlead, hb, hcolon⟩ : ∃ lead b,
      d.summary ++ '\n' :: d.gap ++ '\n' :: List.replicate d.margin ' ' = lead ++ [b] ∧
        (b = '\n' ∨ b = ' ') ∧ ':' ∉ lead := by
    have hgap : ':' ∉ d.gap := fun hmem => absurd (d.gap_blank _ hmem) (by decide)
    have hsummary := d.summary_plain
    rcases hmargin : d.margin with _ | n
    · exact ⟨d.summary ++ '\n' :: d.gap, '\n', by simp, .inl rfl, by simp [hsummary, hgap]⟩
    · refine ⟨d.summary ++ '\n' :: d.gap ++ '\n' :: List.replicate n ' ', ' ', ?_, .inr rfl, ?_⟩
      · simp [List.replicate_succ']
      · simp [hsummary, hgap, List.mem_replicate]
  have htext : d.text = lead ++ b :: (d.heading.toList ++ ':' ::
      (entriesText d.entries ++ (d.tail.map behindBlankLine).getD [])) := by
    rw [text, hlead]
    simp
  rw [htext, argsSection?,
    sectionFrom?_append (List.subset_append_left ..) hcolon hb hreads hname, entriesText, htaken]

/-- **The entries come back** in their order, under their names. -/
theorem entries_text :
    Docstring.entries d.text = d.entries.map fun e => (e.entry.name, e.entry) := by
  have hnames : (d.entries.map fun e => e.entry.name).Nodup := by
    refine List.Nodup.of_map bareName ?_
    have hbare : (bareName ∘ fun e : WrittenEntry => e.entry.name) = (·.word) :=
      funext fun e => e.bareName_name
    rw [List.map_map, hbare]
    exact d.words_nodup
  rw [Docstring.entries, argsSection?_text]
  dsimp only
  rw [entriesFrom_entriesText, List.map_map]
  refine Association.ofPairs_of_nodup ?_
  rw [List.map_map]
  exact hnames

/-- A name finds the entry with its word: exactly, or else by the bare name. -/
theorem findEntry?_text {e : WrittenEntry} (he : e ∈ d.entries) {name : String}
    (hname : bareName name = e.word) : findEntry? d.text name = some e.entry := by
  have hsame : ∀ pair ∈ Docstring.entries d.text, bareName pair.1 = bareName name →
      pair.2 = e.entry := by
    intro pair hpair hbare
    rw [entries_text] at hpair
    obtain ⟨e', he', rfl⟩ := List.mem_map.mp hpair
    have hword : e'.word = e.word := e'.bareName_name.symm.trans (hbare.trans hname)
    rw [List.inj_on_of_nodup_map d.words_nodup he' he hword]
  have hmem : (e.entry.name, e.entry) ∈ Docstring.entries d.text := by
    rw [entries_text]
    exact List.mem_map.mpr ⟨e, he, rfl⟩
  unfold findEntry?
  dsimp only
  split
  · next entry hlookup =>
    obtain ⟨before, behind, hsplit, -⟩ := List.lookup_eq_some_iff.mp hlookup
    rw [← hsame (name, entry) (by rw [hsplit]; simp) rfl]
  · rcases hfind : (Docstring.entries d.text).find? fun pair => bareName pair.1 = bareName name with
      _ | pair
    · have hbare : bareName e.entry.name = bareName name := e.bareName_name.trans hname.symm
      have hnone := List.find?_eq_none.mp hfind (e.entry.name, e.entry) hmem
      exact absurd (decide_eq_true hbare) hnone
    · rw [hfind, Option.map_some, hsame pair (List.mem_of_find?_eq_some hfind)
        (by simpa using List.find?_some hfind)]

end Written

/-- **Parameter entries are read as they are written.** The entries of a docstring in the usual
layout come back in their order, each with its type and with its description on one line, and every
name that differs from an entry's name in its stars at most finds that entry. -/
theorem entries_of_written (d : Written) :
    entries d.text = d.entries.map (fun e => (e.entry.name, e.entry)) ∧
      ∀ e ∈ d.entries, ∀ name, bareName name = e.word → findEntry? d.text name = some e.entry :=
  ⟨d.entries_text, fun _ he _ hname => d.findEntry?_text he hname⟩

/-- An entry with a type and two lines. -/
def countEntry : WrittenEntry where
  indent := 4
  stars := 0
  word := "count".toList
  type := some "int".toList
  first := " How many,".toList
  more := ["        all by default.".toList]
  stars_le := by decide
  word_ne := by simp
  word_ident := by simp [Text.isIdentChar]
  type_trim := by
    rintro t ⟨⟩
    exact ⟨by simp, by decide, by simp, by simp⟩
  untyped := by simp
  first_line := by simp
  more_plain := by
    rw [List.forall_mem_singleton]
    exact ⟨by simp, by simp, by simp, by decide⟩

/-- An entry with stars and without a type. -/
def optionsEntry : WrittenEntry where
  indent := 4
  stars := 2
  word := "options".toList
  type := none
  first := " Passed on: as is.".toList
  more := []
  stars_le := by decide
  word_ne := by simp
  word_ident := by simp [Text.isIdentChar]
  type_trim := by simp
  untyped := by simp [argsSiblings, List.replicate]
  first_line := by simp
  more_plain := by simp

/-- A docstring with two entries and a text behind them. -/
def countDocstring : Written where
  summary := "Count.".toList
  gap := []
  margin := 0
  heading := "Args"
  entries := [countEntry, optionsEntry]
  tail := some ([], "Returns: A (count): of sorts.".toList)
  summary_plain := by simp
  gap_blank := by simp
  heading_mem := by simp
  tail_blank := by simp
  words_nodup := by simp [countEntry, optionsEntry]

theorem entries_of_written_count :
    (String.ofList countDocstring.text =
      "Count.\n\nArgs:\n    count (int): How many,\n        all by default.\n" ++
        "    **options: Passed on: as is.\n\nReturns: A (count): of sorts.") ∧
    (entries countDocstring.text).map (·.2) =
      [{ name := "count", type := some "int", description := "How many, all by default." },
        { name := "**options", type := none, description := "Passed on: as is." }] ∧
    findEntry? countDocstring.text "options" =
      some { name := "**options", type := none, description := "Passed on: as is." } := by
  obtain ⟨hentries, hfind⟩ := entries_of_written countDocstring
  have hoptions := hfind optionsEntry (List.mem_cons_of_mem _ (List.mem_cons_self ..)) "options"
    (by decide)
  refine ⟨by cbv, ?_, ?_⟩
  · rw [hentries]
    decide
  · rw [hoptions]
    decide

end Docstring

end Docwright
