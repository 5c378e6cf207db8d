import Mathlib
import Docwright.Docstring.Entry
import Docwright.Proofs.Search

/-!
# Finding the parameter section

A heading is a text that reads as one of the names, with a colon behind it
(`afterHeading?_eq_some_iff`), so it lies between two colons and on one line. Two things follow:

* a search starts the section at the first colon if a heading stands in front of it, alone on its
  line (`sectionFrom?_append`);
* a section takes every line that is not blank and opens no sibling, and ends at a blank line
  (`takeSection_onLines`, `takeSection_blankLine`).
-/

namespace Docwright

namespace Docstring

/-! ## Headings -/

/-- The text `h` reads as a name in small letters when case is ignored. -/
def Reads (name h : List Char) : Prop :=
  List.Forall₂ (fun letter c => readsAs letter c = true) name h

/-- **A heading** is a text that reads as its name, and a colon. -/
theorem afterHeading?_eq_some_iff {name s rest : List Char} :
    afterHeading? name s = some rest ↔ ∃ h, Reads name h ∧ s = h ++ ':' :: rest := by
  fun_induction afterHeading? name s with
  | case1 s =>
    constructor
    · intro h
      exact ⟨[], .nil, by rw [Option.some.inj h]; rfl⟩
    · rintro ⟨h, hreads, hs⟩
      obtain rfl := List.forall₂_nil_left_iff.mp hreads
      rw [(List.cons.inj hs).2]
  | case2 letter name c s hc ih =>
    rw [ih]
    constructor
    · rintro ⟨h, hreads, rfl⟩
      exact ⟨c :: h, .cons hc hreads, rfl⟩
    · rintro ⟨h, hreads, hs⟩
      obtain ⟨d, h, -, htail, rfl⟩ := List.forall₂_cons_left_iff.mp hreads
      exact ⟨h, htail, (List.cons.inj hs).2⟩
  | case3 letter name c s hc =>
    constructor
    · intro h
      cases h
    · rintro ⟨h, hreads, hs⟩
      obtain ⟨d, h, hd, -, rfl⟩ := List.forall₂_cons_left_iff.mp hreads
      obtain ⟨rfl, -⟩ := List.cons.inj hs
      exact absurd hd hc
  | case4 name s hcolon hcons =>
    constructor
    · intro h
      cases h
    · rintro ⟨h, hreads, rfl⟩
      cases hreads with
      | nil => exact absurd rfl (hcolon _ rfl)
      | cons hd hreads => exact absurd rfl (hcons _ _ _ _ rfl)

/-- In ASCII only the two cases of a letter read as it. -/
theorem eq_toLower_of_readsAs {letter c : Char} (hc : c.toNat < 0x80)
    (h : readsAs letter c = true) : letter = c.toLower := by
  have hother : ∀ d : Char, 0x80 ≤ d.toNat → (c == d) = false := by
    intro d hd
    rw [beq_eq_false_iff_ne]
    rintro rfl
    omega
  have hlower : (c.toLower == letter) = true := by
    simpa [readsAs, hother 'ſ' (by decide), hother 'İ' (by decide), hother 'ı' (by decide),
      hother '\u212a' (by decide)] using h
  exact (eq_of_beq hlower).symm

/-- A sign of ASCII that the name does not hold is not in a text that reads as it. -/
theorem not_mem_of_reads {name h : List Char} (hreads : Reads name h) {c : Char}
    (hc : c.toNat < 0x80 ∧ c.toLower = c) (hname : c ∉ name) : c ∉ h := by
  induction hreads with
  | nil => exact List.not_mem_nil
  | @cons letter d name h hd _ ih =>
    rw [List.mem_cons, not_or] at hname ⊢
    refine ⟨?_, ih hname.2⟩
    rintro rfl
    exact hname.1 ((eq_toLower_of_readsAs hc.1 hd).trans hc.2).symm

/-- A text of ASCII that reads as a name is the name in some case. -/
theorem map_toLower_of_reads {name h : List Char} (hreads : Reads name h)
    (hh : ∀ c ∈ h, c.toNat < 0x80) : h.map Char.toLower = name := by
  induction hreads with
  | nil => rfl
  | @cons letter d name h hd _ ih =>
    rw [List.map_cons, ih fun c hc => hh c (List.mem_cons_of_mem d hc),
      eq_toLower_of_readsAs (hh d (List.mem_cons_self ..)) hd]

/-- The names of the headings are words. -/
theorem not_mem_heading :
    ∀ name ∈ argsHeadings ++ argsSiblings, ∀ c ∈ [':', '\n', ' ', '*'], c ∉ name.toList := by
  simp [argsHeadings, argsSiblings]

/-- A text that reads as the name of a heading is a word. -/
theorem not_mem_of_reads_heading {name : String} (hname : name ∈ argsHeadings ++ argsSiblings)
    {h : List Char} (hreads : Reads name.toList h) : ∀ c ∈ [':', '\n', ' ', '*'], c ∉ h := by
  intro c hc
  have hascii : ∀ c ∈ [':', '\n', ' ', '*'], c.toNat < 0x80 ∧ c.toLower = c := by simp
  exact not_mem_of_reads hreads (hascii c hc) (not_mem_heading name hname c hc)

theorem afterAnyHeading?_eq_none_iff {names : List String} {s : List Char} :
    afterAnyHeading? names s = none ↔
      ∀ name ∈ names, ∀ h rest, Reads name.toList h → s ≠ h ++ ':' :: rest := by
  rw [afterAnyHeading?, List.findSome?_eq_none_iff]
  refine forall₂_congr fun name _ => ?_
  simp only [Option.eq_none_iff_forall_ne_some, ne_eq, afterHeading?_eq_some_iff, not_exists,
    not_and]
  exact forall_comm

/-- No heading starts where a blank comes before the first colon. -/
theorem afterAnyHeading?_eq_none_of_blank {names : List String}
    (hsub : names ⊆ argsHeadings ++ argsSiblings) {s rest : List Char} (hs : ':' ∉ s)
    (hrest : ∀ c, rest.head? = some c → c = '\n' ∨ c = ' ') :
    afterAnyHeading? names (s ++ rest) = none := by
  rw [afterAnyHeading?_eq_none_iff]
  intro name hname h after hreads heq
  have hmarks := not_mem_of_reads_heading (hsub hname) hreads
  rcases List.append_eq_append_iff.mp heq with ⟨u, hu, hrest'⟩ | ⟨u, hu, hcolon⟩
  · -- the colon comes behind the blank, which would be in the heading
    cases u with
    | nil => exact absurd (hrest ':' (by rw [hrest']; rfl)) (by decide)
    | cons c u =>
      rcases hrest c (by rw [hrest']; rfl) with rfl | rfl
      · exact hmarks '\n' (by simp) (by simp [hu])
      · exact hmarks ' ' (by simp) (by simp [hu])
  · cases u with
    | nil => exact absurd (hrest ':' (by rw [← List.nil_append rest, ← hcolon]; rfl)) (by decide)
    | cons c u =>
      obtain ⟨rfl, -⟩ := List.cons.inj hcolon
      exact hs (by simp [hu])

/-! ## Lines -/

/-- Lines, each with a newline in front of it. -/
def onLines (lines : List (List Char)) : List Char :=
  lines.flatMap ('\n' :: ·)

/-- A line ends in front of the text: it is at its end, or the next line starts. -/
def EndsLine (rest : List Char) : Prop :=
  ∀ c, rest.head? = some c → c = '\n'

theorem endsLine_nil : EndsLine [] := by
  intro c hc
  cases hc

theorem endsLine_cons (s : List Char) : EndsLine ('\n' :: s) := by
  intro c hc
  exact (Option.some.inj hc).symm

theorem endsLine_onLines_append {tail : List Char} (h : EndsLine tail) (lines : List (List Char)) :
    EndsLine (onLines lines ++ tail) := by
  cases lines with
  | nil => exact h
  | cons line lines => exact endsLine_cons _

/-- A run that takes no newline stays on its line. -/
theorem dropWhile_append_of_endsLine {p : Char → Bool} (hp : p '\n' = false) {rest : List Char}
    (h : EndsLine rest) (line : List Char) :
    (line ++ rest).dropWhile p = line.dropWhile p ++ rest := by
  induction line with
  | nil =>
    cases rest with
    | nil => rfl
    | cons c rest =>
      rw [h c rfl, List.nil_append, List.dropWhile_nil, List.dropWhile_cons_of_neg (by simp [hp])]
      rfl
  | cons c line ih =>
    rw [List.cons_append, List.dropWhile_cons, List.dropWhile_cons, ih]
    split <;> rfl

/-- No blank line follows where a line is not blank. -/
theorem blankLineFollows_append {line : List Char} (hblank : Text.allBlank line = false)
    (hline : '\n' ∉ line) (rest : List Char) : blankLineFollows (line ++ rest) = false := by
  have htake : (line ++ rest).takeWhile Text.isBlank = line.takeWhile Text.isBlank := by
    have hwhole := List.takeWhile_append_dropWhile (p := Text.isBlank) (l := line ++ rest)
    have hpart := List.takeWhile_append_dropWhile (p := Text.isBlank) (l := line)
    rw [← Text.trimStart, Text.trimStart_append hblank, ← List.append_assoc] at hwhole
    exact List.append_cancel_right ((List.append_cancel_right hwhole).trans hpart.symm)
  rw [blankLineFollows, htake, List.contains_eq_mem, decide_eq_false_iff_not]
  exact fun hmem => hline (List.takeWhile_subset _ hmem)

/-! ## Sections -/

theorem takeSection_append {line : List Char} (hline : '\n' ∉ line) (siblings : List String)
    (rest : List Char) :
    takeSection siblings (line ++ rest) = line ++ takeSection siblings rest := by
  induction line with
  | nil => rfl
  | cons c line ih =>
    obtain ⟨hc, hline⟩ := not_or.mp (mt List.mem_cons.mpr hline)
    rw [List.cons_append, takeSection, if_neg (by simp [Ne.symm hc]), ih hline, List.cons_append]

/-- The line goes on with a section, whatever follows it. -/
def Continues (siblings : List String) (line : List Char) : Prop :=
  '\n' ∉ line ∧ ∀ rest, EndsLine rest → sectionEnds siblings (line ++ rest) = false

/-- **A section** takes the lines that go on with it. -/
theorem takeSection_onLines {siblings : List String} {lines : List (List Char)} {tail : List Char}
    (h : ∀ line ∈ lines, Continues siblings line) (htail : EndsLine tail)
    (hend : takeSection siblings tail = []) :
    takeSection siblings (onLines lines ++ tail) = onLines lines := by
  induction lines with
  | nil => exact hend
  | cons line lines ih =>
    obtain ⟨hline, hgoes⟩ := h line (List.mem_cons_self ..)
    have hrest := ih fun other hother => h other (List.mem_cons_of_mem line hother)
    have hnext := hgoes _ (endsLine_onLines_append htail lines)
    simp only [onLines, List.flatMap_cons, List.cons_append, List.append_assoc] at hrest hnext ⊢
    rw [takeSection, hnext, takeSection_append hline, hrest]
    rfl

/-- **The end of a section**: a blank line. -/
theorem takeSection_blankLine (siblings : List String) {gap : List Char}
    (hgap : ∀ c ∈ gap, Text.isBlank c = true) (rest : List Char) :
    takeSection siblings ('\n' :: (gap ++ '\n' :: rest)) = [] := by
  have hfollows : blankLineFollows (gap ++ '\n' :: rest) = true := by
    rw [blankLineFollows, List.takeWhile_append_of_pos hgap,
      List.takeWhile_cons_of_pos (by decide), List.contains_eq_mem, decide_eq_true_iff]
    simp
  rw [takeSection, sectionEnds, hfollows]
  rfl

/-! ## The search for a heading -/

/-- A search passes over a text in which no heading starts. -/
theorem sectionFrom?_append_of_none {names siblings : List String} {lead text : List Char}
    (hnone : ∀ u v, lead = u ++ v → v ≠ [] → afterAnyHeading? names (v ++ text) = none)
    (before : Option Char) :
    sectionFrom? names siblings before (lead ++ text) =
      sectionFrom? names siblings (lead.getLast?.or before) text := by
  induction lead generalizing before with
  | nil => rfl
  | cons c lead ih =>
    have hhere := hnone [] (c :: lead) rfl (List.cons_ne_nil c lead)
    have hrest := ih fun u v huv => hnone (c :: u) v (by rw [huv, List.cons_append])
    rw [List.cons_append] at hhere ⊢
    rw [sectionFrom?, hhere, ite_self, hrest, List.getLast?_cons]
    cases lead.getLast? <;> rfl

/-- **The first heading.** No colon stands before it, and it is alone on its line but for the
spaces of its margin. -/
theorem sectionFrom?_append {names siblings : List String} {lead heading rest : List Char}
    {name : String} (hsub : names ⊆ argsHeadings ++ argsSiblings)
    (hlead : ':' ∉ lead) {b : Char} (hb : b = '\n' ∨ b = ' ')
    (hheading : Reads name.toList heading) (hname : name ∈ names) :
    sectionFrom? names siblings none (lead ++ b :: (heading ++ ':' :: rest)) =
      some (takeSection siblings rest) := by
  have hcolon : ':' ∉ heading := not_mem_of_reads_heading (hsub hname) hheading ':' (by simp)
  have hbword : Text.isWordChar b = false ∧ b ≠ ':' := by
    rcases hb with rfl | rfl <;> decide
  -- the names have no colon, so a text in front of this one is the heading of none of them
  have hfirst : ∀ v h after, ':' ∉ v → (∃ other ∈ names, Reads other.toList h) →
      v ++ (heading ++ ':' :: rest) = h ++ ':' :: after → v ++ heading = h ∧ rest = after := by
    rintro v h after hv ⟨other, hother, hreads⟩ heq
    have hh := not_mem_of_reads_heading (hsub hother) hreads ':' (by simp)
    rw [← List.append_assoc] at heq
    exact Text.append_cons_inj (by simp [hv, hcolon]) hh heq
  have hnone : ∀ u v, lead ++ [b] = u ++ v → v ≠ [] →
      afterAnyHeading? names (v ++ (heading ++ ':' :: rest)) = none := by
    intro u v huv hv
    have hvcolon : ':' ∉ v := by
      intro hmem
      have hmem' : ':' ∈ lead ++ [b] := huv ▸ List.mem_append_right u hmem
      rcases List.mem_append.mp hmem' with hmem' | hmem'
      · exact hlead hmem'
      · exact hbword.2 (List.mem_singleton.mp hmem').symm
    have hbv : b ∈ v := by
      have hlast : v.getLast? = some b := by
        have := congrArg List.getLast? huv
        simpa [List.getLast?_append_of_ne_nil u hv] using this.symm
      exact List.mem_of_getLast? hlast
    rw [afterAnyHeading?_eq_none_iff]
    intro other hother h after hreads heq
    obtain ⟨rfl, -⟩ := hfirst v h after hvcolon ⟨other, hother, hreads⟩ heq
    exact not_mem_of_reads_heading (hsub hother) hreads b (by rcases hb with rfl | rfl <;> simp)
      (List.mem_append_left heading hbv)
  have hhere : afterAnyHeading? names (heading ++ ':' :: rest) = some rest := by
    rcases hfound : afterAnyHeading? names (heading ++ ':' :: rest) with _ | after
    · exact absurd rfl (afterAnyHeading?_eq_none_iff.mp hfound name hname heading rest hheading)
    · obtain ⟨other, hother, hafter⟩ := List.exists_of_findSome?_eq_some hfound
      obtain ⟨h, hreads, heq⟩ := afterHeading?_eq_some_iff.mp hafter
      rw [(hfirst [] h after List.not_mem_nil ⟨other, hother, hreads⟩ heq).2]
  have hsplit : lead ++ b :: (heading ++ ':' :: rest) =
      (lead ++ [b]) ++ (heading ++ ':' :: rest) := by
    simp
  rw [hsplit, sectionFrom?_append_of_none hnone, List.getLast?_concat, Option.some_or]
  obtain ⟨c, s, hcs⟩ : ∃ c s, heading ++ ':' :: rest = c :: s :=
    List.exists_cons_of_ne_nil (by simp)
  rw [hcs] at hhere ⊢
  rw [sectionFrom?, Option.any_some, hbword.1, if_neg Bool.false_ne_true, hhere]

end Docstring

end Docwright
