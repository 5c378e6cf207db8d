import Docwright.Proofs.BodyLines
import Docwright.Proofs.ParameterSection

/-!
# The bounds of a section

Where a section of a docstring starts and where it ends, said without the search that finds it:

* it starts behind the **first heading** (`FirstHeading`), which has to start a word
  (`sectionFrom?_eq_some_iff`);
* it ends where its **bounds** say (`Bounds`): it runs over whole lines, none of them blank and none
  of them the heading of a sibling, to the end of the docstring, to a blank line or to a sibling
  (`takeSection_eq_iff`).

The first says which text is looked at and the second is about lines, so the one is shown along the
characters and the other along the lines.
-/

namespace Docwright

namespace Docstring

/-! ## Headings at a place -/

/-- The line opens a section with one of the names: blanks, the name in any case and a colon. -/
def OpensSection (names : List String) (line : List Char) : Prop :=
  ∃ name ∈ names, ∃ heading, Reads name.toList heading ∧
    heading ++ [':'] <+: Text.trimStart line

/-- A heading with one of the names stands behind `front`, at the start of a word; `rest` is what
follows its colon. -/
structure HeadingAt (names : List String) (docstring front rest : List Char) : Prop where
  /-- the heading is read as one of the names -/
  reads : ∃ name ∈ names, ∃ heading, Reads name.toList heading ∧
    docstring = front ++ (heading ++ ':' :: rest)
  /-- no word goes on with it -/
  startsWord : front.getLast?.any Text.isWordChar = false

/-- The first heading of a docstring. -/
structure FirstHeading (names : List String) (docstring front rest : List Char) : Prop
    extends HeadingAt names docstring front rest where
  /-- no heading stands before it -/
  first : ∀ front' rest', HeadingAt names docstring front' rest' → front.length ≤ front'.length

theorem isSome_afterAnyHeading?_iff {names : List String} {s : List Char} :
    (afterAnyHeading? names s).isSome = true ↔
      ∃ name ∈ names, ∃ heading, Reads name.toList heading ∧ heading ++ [':'] <+: s := by
  rw [afterAnyHeading?, List.findSome?_isSome_iff]
  refine exists_congr fun name => and_congr_right fun _ => ?_
  rw [Option.isSome_iff_exists]
  constructor
  · rintro ⟨rest, hrest⟩
    obtain ⟨heading, hreads, rfl⟩ := afterHeading?_eq_some_iff.mp hrest
    exact ⟨heading, hreads, rest, by simp⟩
  · rintro ⟨heading, hreads, rest, rfl⟩
    exact ⟨rest, afterHeading?_eq_some_iff.mpr ⟨heading, hreads, by simp⟩⟩

variable {names siblings : List String}

/-- The text behind a heading does not depend on how the heading is read. -/
theorem afterAnyHeading?_eq_some_iff (hsub : names ⊆ argsHeadings ++ argsSiblings)
    {s rest : List Char} :
    afterAnyHeading? names s = some rest ↔
      ∃ name ∈ names, ∃ heading, Reads name.toList heading ∧ s = heading ++ ':' :: rest := by
  constructor
  · intro h
    obtain ⟨name, hname, hrest⟩ := List.exists_of_findSome?_eq_some h
    exact ⟨name, hname, afterHeading?_eq_some_iff.mp hrest⟩
  · rintro ⟨name, hname, heading, hreads, rfl⟩
    rcases hfound : afterAnyHeading? names (heading ++ ':' :: rest) with _ | other
    · exact absurd rfl (afterAnyHeading?_eq_none_iff.mp hfound name hname heading rest hreads)
    · obtain ⟨name', hname', hother⟩ := List.exists_of_findSome?_eq_some hfound
      obtain ⟨heading', hreads', heq⟩ := afterHeading?_eq_some_iff.mp hother
      -- no heading has a colon of its own, so both end at the same one
      have hcolon := not_mem_of_reads_heading (hsub hname) hreads ':' (by simp)
      have hcolon' := not_mem_of_reads_heading (hsub hname') hreads' ':' (by simp)
      rw [(Text.append_cons_inj hcolon hcolon' heq).2]

/-- The search sees a heading at its place. -/
theorem headingAt_iff (hsub : names ⊆ argsHeadings ++ argsSiblings) {front s rest : List Char} :
    HeadingAt names (front ++ s) front rest ↔
      (if front.getLast?.any Text.isWordChar then none else afterAnyHeading? names s) =
        some rest := by
  have hreads : (∃ name ∈ names, ∃ heading, Reads name.toList heading ∧
      front ++ s = front ++ (heading ++ ':' :: rest)) ↔ afterAnyHeading? names s = some rest := by
    simp only [List.append_cancel_left_eq, afterAnyHeading?_eq_some_iff hsub]
  by_cases hword : front.getLast?.any Text.isWordChar = true
  · rw [if_pos hword]
    constructor
    · intro h
      exact absurd h.startsWord (by rw [hword]; decide)
    · intro h
      cases h
  · rw [if_neg hword, ← hreads]
    exact ⟨fun h => h.reads, fun h => ⟨h, eq_false_of_ne_true hword⟩⟩

/-- At one place there is one heading. -/
theorem HeadingAt.unique (hsub : names ⊆ argsHeadings ++ argsSiblings)
    {d front rest front' rest' : List Char} (h : HeadingAt names d front rest)
    (h' : HeadingAt names d front' rest') (hlength : front.length = front'.length) :
    front = front' ∧ rest = rest' := by
  obtain ⟨-, -, heading, -, hd⟩ := h.reads
  obtain ⟨-, -, heading', -, hd'⟩ := h'.reads
  obtain ⟨rfl, -⟩ := List.append_inj (hd.symm.trans hd') hlength
  refine ⟨rfl, ?_⟩
  subst hd
  exact Option.some.inj (((headingAt_iff hsub).mp h).symm.trans ((headingAt_iff hsub).mp h'))

/-- The search goes on behind what it has passed over, as long as no heading was in it. -/
theorem sectionFrom?_passed (hsub : names ⊆ argsHeadings ++ argsSiblings)
    {done s body : List Char}
    (hnone : ∀ front rest, HeadingAt names (done ++ s) front rest → done.length ≤ front.length) :
    sectionFrom? names siblings done.getLast? s = some body ↔
      ∃ front rest, FirstHeading names (done ++ s) front rest ∧
        takeSection siblings rest = body := by
  induction s generalizing done with
  | nil =>
    refine ⟨fun h => absurd h (by simp [sectionFrom?]), ?_⟩
    rintro ⟨front, rest, hfirst, -⟩
    obtain ⟨-, -, heading, -, hd⟩ := hfirst.reads
    have hshort := hnone front rest hfirst.toHeadingAt
    have hlength := congrArg List.length hd
    simp only [List.length_append, List.length_cons, List.length_nil] at hlength
    omega
  | cons c s ih =>
    rw [sectionFrom?]
    rcases hhere : (if done.getLast?.any Text.isWordChar then none
      else afterAnyHeading? names (c :: s)) with _ | rest
    · have hlater : ∀ front rest, HeadingAt names ((done ++ [c]) ++ s) front rest →
          (done ++ [c]).length ≤ front.length := by
        intro front rest h
        rw [List.append_assoc, List.singleton_append] at h
        rw [List.length_append, List.length_singleton, Nat.succ_le_iff]
        refine (hnone front rest h).lt_of_ne fun hlength => ?_
        obtain ⟨-, -, heading, -, hd⟩ := h.reads
        obtain ⟨rfl, -⟩ := List.append_inj hd hlength
        rw [headingAt_iff hsub, hhere] at h
        cases h
      have hnext := ih hlater
      rw [List.getLast?_concat, List.append_assoc, List.singleton_append] at hnext
      exact hnext
    · have hplace : HeadingAt names (done ++ c :: s) done rest := (headingAt_iff hsub).mpr hhere
      rw [Option.some_inj]
      constructor
      · intro h
        exact ⟨done, rest, ⟨hplace, hnone⟩, h⟩
      · rintro ⟨front, rest', hfirst, h⟩
        have hlength : done.length = front.length :=
          (hnone front rest' hfirst.toHeadingAt).antisymm (hfirst.first done rest hplace)
        rw [(hplace.unique hsub hfirst.toHeadingAt hlength).2]
        exact h

/-- **The search for a section** finds the first heading. -/
theorem sectionFrom?_eq_some_iff (hsub : names ⊆ argsHeadings ++ argsSiblings)
    {d body : List Char} :
    sectionFrom? names siblings none d = some body ↔
      ∃ front rest, FirstHeading names d front rest ∧ takeSection siblings rest = body := by
  have hnone : ∀ front rest, HeadingAt names ([] ++ d) front rest →
      ([] : List Char).length ≤ front.length := fun front _ _ => Nat.zero_le front.length
  exact sectionFrom?_passed hsub hnone

/-! ## The end of a section -/

/-- **The bounds of a section**: the lines `kept` go on with it behind its first line, and the lines
`later` come behind it. -/
structure Bounds (siblings : List String) (kept later : List (List Char)) : Prop where
  /-- a blank line goes on with the section only if it is the very last line -/
  blankLast : ∀ before line behind, kept = before ++ line :: behind → Text.allBlank line = true →
    behind = [] ∧ later = []
  /-- no line that goes on with the section opens a sibling -/
  noSibling : ∀ line ∈ kept, ¬ OpensSection siblings line
  /-- the section is followed by nothing, by a blank line or by a line that opens a sibling -/
  stops : later = [] ∨ ∃ next more, later = next :: more ∧
    (Text.allBlank next = true ∧ more ≠ [] ∨ OpensSection siblings next)

theorem onLines_nil : onLines [] = [] :=
  rfl

theorem onLines_cons (line : List Char) (lines : List (List Char)) :
    onLines (line :: lines) = '\n' :: (line ++ onLines lines) :=
  rfl

theorem onLines_append (front lines : List (List Char)) :
    onLines (front ++ lines) = onLines front ++ onLines lines :=
  List.flatMap_append

/-- A text is its first line and the others behind newlines. -/
theorem eq_append_onLines {s first : List Char} {rest : List (List Char)}
    (h : Text.lines s = first :: rest) : s = first ++ onLines rest := by
  have hjoin : ∀ first : List Char, ['\n'].intercalate (first :: rest) = first ++ onLines rest := by
    clear h
    induction rest with
    | nil => simp [onLines_nil]
    | cons next rest ih =>
      intro first
      rw [List.intercalate_cons_cons, ih next, onLines_cons]
      simp
  rw [← hjoin first, ← h]
  exact (List.intercalate_splitOn '\n').symm

/-- **The end of a section, line by line**: a blank line that another one follows, or a line that
opens a sibling. -/
theorem sectionEnds_iff (hsub : siblings ⊆ argsHeadings ++ argsSiblings) {line : List Char}
    (hline : '\n' ∉ line) (more : List (List Char)) :
    sectionEnds siblings (line ++ onLines more) = true ↔
      Text.allBlank line = true ∧ more ≠ [] ∨ OpensSection siblings line := by
  rw [sectionEnds, Bool.or_eq_true, isSome_afterAnyHeading?_iff]
  by_cases hblank : Text.allBlank line = true
  · have hall : ∀ c ∈ line, Text.isBlank c = true := List.all_eq_true.mp hblank
    cases more with
    | nil =>
      have hstart : line.dropWhile Text.isBlank = [] := List.dropWhile_eq_nil_iff.mpr hall
      have hfollows : blankLineFollows line = false := by
        rw [blankLineFollows, List.contains_eq_mem, decide_eq_false_iff_not]
        exact fun hmem => hline (List.takeWhile_subset _ hmem)
      simp [onLines_nil, OpensSection, Text.trimStart, hfollows, hstart]
    | cons next more =>
      have hfollows : blankLineFollows (line ++ onLines (next :: more)) = true := by
        rw [blankLineFollows, List.takeWhile_append_of_pos hall, onLines_cons,
          List.takeWhile_cons_of_pos (by decide)]
        simp
      simp [hfollows, hblank]
  · rw [blankLineFollows_append (eq_false_of_ne_true hblank) hline, ← Text.trimStart,
      Text.trimStart_append (eq_false_of_ne_true hblank)]
    simp only [Bool.false_eq_true, false_or, hblank, false_and, OpensSection]
    refine exists_congr fun name => and_congr_right fun hname =>
      exists_congr fun heading => and_congr_right fun hreads => ?_
    -- a heading has no newline, so it ends on the line it starts on
    refine Text.isPrefix_append_iff fun c hc hmem => ?_
    rw [endsLine_onLines_append endsLine_nil more c (by rwa [List.append_nil])] at hmem
    rcases List.mem_append.mp hmem with hmem | hmem
    · exact not_mem_of_reads_heading (hsub hname) hreads '\n' (by simp) hmem
    · exact absurd hmem (by decide)

theorem bounds_cons_iff {line : List Char} {kept later : List (List Char)} :
    Bounds siblings (line :: kept) later ↔
      ¬ (Text.allBlank line = true ∧ kept ++ later ≠ [] ∨ OpensSection siblings line) ∧
        Bounds siblings kept later := by
  rw [not_or, not_and, not_not, List.append_eq_nil_iff]
  constructor
  · rintro ⟨hblank, hopens, hstops⟩
    refine ⟨⟨hblank [] line kept rfl, hopens line (List.mem_cons_self ..)⟩, ?_, ?_, hstops⟩
    · intro before other behind hkept
      exact hblank (line :: before) other behind (by rw [hkept, List.cons_append])
    · exact fun other hother => hopens other (List.mem_cons_of_mem line hother)
  · rintro ⟨⟨hline, hopen⟩, hblank, hopens, hstops⟩
    refine ⟨?_, List.forall_mem_cons.mpr ⟨hopen, hopens⟩, hstops⟩
    intro before other behind hkept hother
    cases before with
    | nil =>
      obtain ⟨rfl, rfl⟩ := List.cons.inj hkept
      exact hline hother
    | cons first before => exact hblank before other behind (List.cons.inj hkept).2 hother

/-- A section takes the lines that go on with it, and no other ones. -/
theorem takeSection_onLines_eq_iff (hsub : siblings ⊆ argsHeadings ++ argsSiblings)
    {kept later : List (List Char)} (hlines : ∀ line ∈ kept ++ later, '\n' ∉ line) :
    takeSection siblings (onLines (kept ++ later)) = onLines kept ↔
      Bounds siblings kept later := by
  induction kept with
  | nil =>
    cases later with
    | nil =>
      refine iff_of_true rfl ⟨fun before line behind hkept => ?_, by simp, .inl rfl⟩
      simp at hkept
    | cons next more =>
      have hends := sectionEnds_iff hsub (hlines next (by simp)) more
      rw [List.nil_append, onLines_cons, takeSection, onLines_nil]
      constructor
      · intro h
        refine ⟨fun before line behind hkept => ?_, by simp, .inr ⟨next, more, rfl, hends.mp ?_⟩⟩
        · simp at hkept
        · by_contra hgoes
          simp [hgoes] at h
      · rintro ⟨-, -, hstops⟩
        obtain ⟨next', more', heq, hstop⟩ := hstops.resolve_left (List.cons_ne_nil next more)
        obtain ⟨rfl, rfl⟩ := List.cons.inj heq
        simp [hends.mpr hstop]
  | cons line kept ih =>
    have hline : '\n' ∉ line := hlines line (by simp)
    have hrest := ih fun other hother => hlines other (List.mem_cons_of_mem line hother)
    have hends := sectionEnds_iff hsub hline (kept ++ later)
    rw [bounds_cons_iff, ← hends, ← hrest, List.cons_append, onLines_cons, onLines_cons,
      takeSection, takeSection_append hline]
    by_cases hend : sectionEnds siblings (line ++ onLines (kept ++ later)) = true
    · simp [hend]
    · simp [hend]

/-- What follows a section starts on a line of its own. -/
theorem exists_takeSection_append (siblings : List String) (s : List Char) :
    ∃ behind, EndsLine behind ∧ s = takeSection siblings s ++ behind := by
  induction s with
  | nil => exact ⟨[], endsLine_nil, rfl⟩
  | cons c s ih =>
    rw [takeSection]
    split_ifs with hend
    · obtain ⟨hc, -⟩ := Bool.and_eq_true_iff.mp hend
      rw [decide_eq_true_eq.mp hc]
      exact ⟨'\n' :: s, endsLine_cons s, rfl⟩
    · obtain ⟨behind, hbehind, hs⟩ := ih
      exact ⟨behind, hbehind, by rw [List.cons_append, ← hs]⟩

/-- **A section ends where its bounds say.** -/
theorem takeSection_eq_iff (hsub : siblings ⊆ argsHeadings ++ argsSiblings)
    {rest body : List Char} :
    takeSection siblings rest = body ↔
      ∃ later, Text.lines rest = Text.lines body ++ later ∧
        Bounds siblings (Text.lines body).tail later := by
  obtain ⟨first, kept, hbody⟩ := Text.exists_lines_cons body
  -- with the lines of both texts known, this is the statement about lines
  have hcut : ∀ later, Text.lines rest = Text.lines body ++ later →
      (takeSection siblings rest = body ↔ Bounds siblings kept later) := by
    intro later hlines
    rw [hbody, List.cons_append] at hlines
    have hall : ∀ line ∈ first :: (kept ++ later), '\n' ∉ line := by
      intro line hline
      rw [← hlines] at hline
      exact Text.not_mem_of_mem_splitOn hline
    rw [eq_append_onLines hlines, eq_append_onLines hbody,
      takeSection_append (hall first (List.mem_cons_self ..)), List.append_right_inj]
    exact takeSection_onLines_eq_iff hsub
      fun line hline => hall line (List.mem_cons_of_mem first hline)
  rw [hbody, List.tail_cons, ← hbody]
  constructor
  · intro h
    have hlines : ∃ later, Text.lines rest = Text.lines body ++ later := by
      obtain ⟨behind, hbehind, hrest⟩ := exists_takeSection_append siblings rest
      rw [h] at hrest
      cases behind with
      | nil => exact ⟨[], by rw [hrest, List.append_nil, List.append_nil]⟩
      | cons c behind =>
        rw [hbehind c rfl] at hrest
        exact ⟨Text.lines behind, by rw [hrest]; exact List.splitOn_append_cons_self body behind⟩
    obtain ⟨later, hlater⟩ := hlines
    exact ⟨later, hlater, (hcut later hlater).mp h⟩
  · rintro ⟨later, hlater, hbounds⟩
    exact (hcut later hlater).mpr hbounds

/-- The section under the first heading with one of the names. -/
def IsSection (names siblings : List String) (docstring body : List Char) : Prop :=
  ∃ front rest later, FirstHeading names docstring front rest ∧
    Text.lines rest = Text.lines body ++ later ∧ Bounds siblings (Text.lines body).tail later

/-- **A section** is what is found under the first heading, within its bounds. -/
theorem sectionFrom?_eq_some_iff_isSection (hnames : names ⊆ argsHeadings ++ argsSiblings)
    (hsiblings : siblings ⊆ argsHeadings ++ argsSiblings) {d body : List Char} :
    sectionFrom? names siblings none d = some body ↔ IsSection names siblings d body := by
  rw [sectionFrom?_eq_some_iff hnames]
  refine exists_congr fun front => exists_congr fun rest => ?_
  rw [takeSection_eq_iff hsiblings, exists_and_left]

end Docstring

end Docwright
