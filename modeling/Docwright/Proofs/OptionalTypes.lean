import Docwright.Documentation.ParameterNotes
import Docwright.Proofs.Brackets
import Docwright.Proofs.Search

/-!
# Optional types

A type that is declared as `Optional[X]` is shown as `X (Optional)`. The wrapper is looked for by
its first opening and the last closing bracket of the text, and these two need not be a pair. So the
type that is shown says what was declared if the declaration is a wrapper as a whole or holds none
(`marksWholeOnly_iff`); the wrapper of a part is taken for one of the whole.

The first opening in an annotation and the last bracket cut it into three (`FirstOptional`), with
how many brackets are open at either place. With the two brackets taken out the others are still
balanced, unless more of them follow those that the opening belongs to (`balanced_shown_iff`).
-/

namespace Docwright

open Text (Balanced openBehind?)

/-- What an optional type starts with. -/
def optionalHead : List Char :=
  "Optional[".toList

/-- The optional type of `x`. -/
def optionalOf (x : List Char) : List Char :=
  optionalHead ++ x ++ [']']

/-- What is shown behind a type that is optional. -/
def optionalMark : List Char :=
  " (Optional)".toList

theorem optionalHead_eq : optionalHead = "Optional[".toList := rfl

theorem optionalMark_eq : optionalMark = " (Optional)".toList := rfl

/-- Is the annotation one optional type? -/
def IsOptional (t : List Char) : Prop :=
  ∃ x, Balanced x ∧ t = optionalOf x

/-! ## The wrapper that is found -/

theorem markOptional?_cons_of_not {c : Char} {s : List Char} (h : ¬ optionalHead <+: c :: s) :
    markOptional? (c :: s) = (markOptional? s).map (c :: ·) := by
  have hafter := Text.after?_eq_none_iff.mpr h
  rw [optionalHead_eq] at hafter
  rw [markOptional?, hafter]

/-- A wrapper that starts the text reaches to the last bracket of its line. -/
theorem markOptional?_of_head {inner back : List Char} (hline : '\n' ∉ inner ++ ']' :: back)
    (hback : ']' ∉ back) :
    markOptional? (optionalHead ++ (inner ++ ']' :: back)) =
      some (inner ++ (optionalMark ++ back)) := by
  have hrest : ∀ c ∈ inner ++ ']' :: back, (c != '\n') = true := by
    intro c hc
    rw [bne_iff_ne]
    rintro rfl
    exact hline hc
  have hhead : optionalHead ++ (inner ++ ']' :: back) =
      'O' :: ("ptional[".toList ++ (inner ++ ']' :: back)) := rfl
  have hafter := Text.after?_eq_some_iff.mpr hhead.symm
  rw [optionalHead_eq] at hafter
  rw [hhead, markOptional?, hafter]
  dsimp only
  rw [List.takeWhile_eq_self_iff.mpr hrest, List.dropWhile_eq_nil_iff.mpr hrest,
    Text.splitLast?_append hback]
  simp [optionalMark_eq]

theorem markOptional?_eq_none {s : List Char} (h : ¬ optionalHead <:+: s) :
    markOptional? s = none := by
  induction s with
  | nil => rfl
  | cons c s ih =>
    rw [List.infix_cons_iff, not_or] at h
    rw [markOptional?_cons_of_not h.1, ih h.2, Option.map_none]

/-- On one line the wrapper reaches from the first opening to the last bracket. -/
theorem markOptional?_of_cut? {s front inner back : List Char} (hline : '\n' ∉ s)
    (hback : ']' ∉ back)
    (hcut : Text.cut? optionalHead s = some (front, inner ++ ']' :: back)) :
    markOptional? s = some (front ++ (inner ++ (optionalMark ++ back))) := by
  induction s generalizing front with
  | nil => cases hcut
  | cons c s ih =>
    rw [Text.cut?] at hcut
    rcases hafter : Text.after? optionalHead (c :: s) with _ | rest
    · rw [hafter] at hcut
      obtain ⟨⟨front, rest⟩, hrest, heq⟩ := Option.map_eq_some_iff.mp hcut
      obtain ⟨rfl, rfl⟩ := Prod.mk.inj heq
      rw [markOptional?_cons_of_not (Text.after?_eq_none_iff.mp hafter),
        ih (fun hmem => hline (List.mem_cons_of_mem c hmem)) hrest]
      rfl
    · rw [hafter] at hcut
      obtain ⟨rfl, rfl⟩ := Prod.mk.inj (Option.some.inj hcut)
      rw [Text.after?_eq_some_iff] at hafter
      rw [hafter, List.nil_append]
      exact markOptional?_of_head (fun hmem => hline (hafter ▸ List.mem_append_right _ hmem)) hback

/-- The first opening of an optional type in an annotation, and the last bracket. -/
structure FirstOptional (t : List Char) where
  /-- what stands in front of the opening -/
  front : List Char
  /-- what stands between the opening and the last bracket -/
  inner : List Char
  /-- what stands behind the last bracket -/
  back : List Char
  /-- how many brackets are open in front of the opening -/
  depth : Nat
  /-- it is the first opening -/
  cut : Text.cut? optionalHead t = some (front, inner ++ ']' :: back)
  /-- the brackets of the front -/
  front_open : openBehind? 0 front = some depth
  /-- only one bracket is left for the last one to close -/
  inner_open : openBehind? (depth + 1) inner = some 1
  /-- it is the last bracket -/
  back_plain : '[' ∉ back ∧ ']' ∉ back

theorem openBehind?_optionalHead (n : Nat) (s : List Char) :
    openBehind? n (optionalHead ++ s) = openBehind? (n + 1) s := rfl

/-- The brackets of a balanced annotation around the first opening. -/
theorem exists_openBehind?_of_cut? {t front rest : List Char} (hb : Balanced t)
    (hcut : Text.cut? optionalHead t = some (front, rest)) :
    ∃ depth, openBehind? 0 front = some depth ∧ openBehind? (depth + 1) rest = some 0 := by
  rw [Text.balanced_iff, ← Text.append_of_cut? hcut, List.append_assoc,
    Text.openBehind?_append] at hb
  obtain ⟨depth, hfront, hrest⟩ := Option.bind_eq_some_iff.mp hb
  rw [openBehind?_optionalHead] at hrest
  exact ⟨depth, hfront, hrest⟩

theorem exists_cut?_of_isInfix {t : List Char} (h : optionalHead <:+: t) :
    ∃ front rest, Text.cut? optionalHead t = some (front, rest) := by
  rcases hcut : Text.cut? optionalHead t with _ | ⟨front, rest⟩
  · exact absurd h (Text.cut?_eq_none_iff.mp hcut)
  · exact ⟨front, rest, rfl⟩

/-- **The first opening** of a balanced annotation that has one. -/
theorem nonempty_firstOptional {t : List Char} (hb : Balanced t) (h : optionalHead <:+: t) :
    Nonempty (FirstOptional t) := by
  obtain ⟨front, rest, hcut⟩ := exists_cut?_of_isInfix h
  obtain ⟨depth, hfront, hrest⟩ := exists_openBehind?_of_cut? hb hcut
  have hmem : ']' ∈ rest := by
    obtain ⟨x, behind, rfl, -⟩ := Text.exists_close hrest (Nat.zero_le depth)
    simp
  obtain ⟨inner, back, rfl, hback⟩ := Text.exists_last_mark hmem
  rw [Text.openBehind?_append] at hrest
  obtain ⟨n, hinner, hlast⟩ := Option.bind_eq_some_iff.mp hrest
  rw [Text.openBehind?_cons] at hlast
  obtain ⟨m, hclose, hend⟩ := Option.bind_eq_some_iff.mp hlast
  -- nothing is closed behind the last bracket, so nothing is open or opened there
  rw [Text.openBehind?_of_not_close hback, Option.some.injEq, Nat.add_eq_zero_iff,
    List.count_eq_zero] at hend
  obtain ⟨rfl, hopen⟩ := hend
  obtain rfl : 1 = n := Text.bracketStep_close_eq_some_iff.mp hclose
  exact ⟨{ front, inner, back, depth, cut := hcut, front_open := hfront, inner_open := hinner,
           back_plain := ⟨hopen, hback⟩ }⟩

namespace FirstOptional

variable {t : List Char}

/-- The annotation with the opening and the last bracket taken out, and the mark in place of the
bracket. -/
def shown (o : FirstOptional t) : List Char :=
  o.front ++ (o.inner ++ (optionalMark ++ o.back))

theorem eq_append (o : FirstOptional t) :
    t = o.front ++ (optionalHead ++ (o.inner ++ ']' :: o.back)) := by
  rw [← List.append_assoc, Text.append_of_cut? o.cut]

/-- The mark is longer than what it stands for. -/
theorem length_shown (o : FirstOptional t) : o.shown.length = t.length + 1 := by
  have hlength := congrArg List.length o.eq_append
  have hhead : optionalHead.length = 9 := rfl
  have hmark : optionalMark.length = 11 := rfl
  simp only [shown, List.length_append, List.length_cons, hhead, hmark] at hlength ⊢
  omega

/-- What is shown is balanced if the count of the inner part goes through without the opening. -/
theorem balanced_shown_iff_inner (o : FirstOptional t) :
    Balanced o.shown ↔ openBehind? o.depth o.inner = some 0 := by
  have hplain : '[' ∉ optionalMark ++ o.back ∧ ']' ∉ optionalMark ++ o.back := by
    rw [List.mem_append, List.mem_append, not_or, not_or]
    exact ⟨⟨by decide, o.back_plain.1⟩, ⟨by decide, o.back_plain.2⟩⟩
  have hbehind := Text.openBehind?_of_plain hplain.1 hplain.2
  rw [Text.balanced_iff, shown, Text.openBehind?_append_of_some o.front_open,
    Text.openBehind?_append]
  simp [hbehind]

/-- Where the annotation is cut behind an opening and in front of a bracket, the cut is within the
inner part. -/
theorem exists_inner_append (o : FirstOptional t) {head rest : List Char} (ht : t = head ++ rest)
    (hopening : optionalHead <:+: head) (hrest : ']' ∈ rest) :
    ∃ closed before, o.inner = closed ++ before ∧
      Text.cut? optionalHead head = some (o.front, closed) := by
  obtain ⟨front, closed, hcut⟩ := exists_cut?_of_isInfix hopening
  obtain ⟨before, behind, rfl, hbehind⟩ := Text.exists_last_mark hrest
  -- the opening in the head is the first of all
  have hwhole := Text.cut?_append_of_cut? hcut (closed ++ (before ++ ']' :: behind))
  have hsplit : front ++ (optionalHead ++ (closed ++ (before ++ ']' :: behind))) = t := by
    rw [ht, ← Text.append_of_cut? hcut]
    simp
  rw [hsplit, o.cut] at hwhole
  obtain ⟨hfront, hparts⟩ := Prod.mk.inj (Option.some.inj hwhole)
  -- and the last bracket of the rest is the last of all
  rw [← List.append_assoc] at hparts
  have hlast := Text.splitLast?_append o.back_plain.2 o.inner
  rw [hparts, Text.splitLast?_append hbehind] at hlast
  obtain ⟨hinner, -⟩ := Prod.mk.inj (Option.some.inj hlast)
  exact ⟨closed, before, hinner.symm, by rw [hcut, hfront]⟩

end FirstOptional

/-- Behind a balanced head of the annotation that holds an opening there are more brackets. -/
def BracketsFollow (t : List Char) : Prop :=
  ∃ head rest, t = head ++ rest ∧ Balanced head ∧ optionalHead <:+: head ∧ ']' ∈ rest

/-- **Brackets that lose their partner.** What is shown is balanced unless brackets follow those
that belong to the opening. -/
theorem FirstOptional.balanced_shown_iff {t : List Char} (o : FirstOptional t) :
    Balanced o.shown ↔ ¬ BracketsFollow t := by
  rw [o.balanced_shown_iff_inner]
  constructor
  · rintro hcount ⟨head, rest, ht, hhead, hopening, hrest⟩
    obtain ⟨closed, before, hinner, hcut⟩ := o.exists_inner_append ht hopening hrest
    -- the head closes the opening too, so without the opening it closes one bracket too many
    obtain ⟨depth, hdepth, hclosed⟩ := exists_openBehind?_of_cut? hhead hcut
    obtain rfl : o.depth = depth := Option.some.inj (o.front_open.symm.trans hdepth)
    rw [hinner, Text.openBehind?_append] at hcount
    obtain ⟨n, hn, -⟩ := Option.bind_eq_some_iff.mp hcount
    rw [Text.openBehind?_succ hn] at hclosed
    cases hclosed
  · intro hfollow
    rcases Text.openBehind?_pred o.inner_open with hcount | ⟨closed, rest, hinner, hclosed⟩
    · exact hcount
    · refine absurd ⟨o.front ++ (optionalHead ++ (closed ++ [']'])), rest ++ ']' :: o.back, ?_⟩
        hfollow
      refine ⟨?_, ?_, ⟨o.front, closed ++ [']'], by simp⟩, by simp⟩
      · conv_lhs => rw [o.eq_append, hinner]
        simp
      · rw [Text.balanced_iff, Text.openBehind?_append_of_some o.front_open,
          openBehind?_optionalHead, Text.openBehind?_append_of_some hclosed]
        rfl

/-! ## Shown types -/

theorem toList_shownType {t : String} (hne : t ≠ "") :
    (shownType (some t)).toList = (markOptional? t.toList).getD t.toList := by
  have hempty : t.isEmpty = false := by simpa using hne
  simp [shownType, hempty]

theorem shownType_of_not_isInfix {t : String} (hne : t ≠ "") (h : ¬ optionalHead <:+: t.toList) :
    shownType (some t) = t := by
  rw [← String.toList_inj, toList_shownType hne, markOptional?_eq_none h, Option.getD_none]

theorem FirstOptional.toList_shownType_eq {t : String} (o : FirstOptional t.toList) (hne : t ≠ "")
    (hline : '\n' ∉ t.toList) : (shownType (some t)).toList = o.shown := by
  rw [toList_shownType hne, markOptional?_of_cut? hline o.back_plain.2 o.cut]
  rfl

/-- The type of a wrapper is marked. -/
theorem toList_shownType_of_optionalOf {t : String} {x : List Char} (hne : t ≠ "")
    (hline : '\n' ∉ t.toList) (ht : t.toList = optionalOf x) :
    (shownType (some t)).toList = x ++ optionalMark := by
  have hcut : Text.cut? optionalHead t.toList = some ([], x ++ ']' :: []) := by
    have hnone : ∀ u v : List Char, [] = u ++ v → v = [] := fun u v huv =>
      (List.append_eq_nil_iff.mp huv.symm).2
    rw [ht, optionalOf, List.append_assoc]
    exact Text.cut?_append_of_first fun u v huv hv => absurd (hnone u v huv) hv
  rw [toList_shownType hne, markOptional?_of_cut? hline List.not_mem_nil hcut]
  simp

theorem isInfix_optionalOf (front x back : List Char) :
    optionalHead <:+: front ++ optionalOf x ++ back :=
  ⟨front, x ++ [']'] ++ back, by simp [optionalOf]⟩

theorem balanced_append_optionalMark {x : List Char} (h : Balanced x) :
    Balanced (x ++ optionalMark) := by
  rw [Text.balanced_iff, Text.openBehind?_append_of_some (h.openBehind? 0)]
  rfl

/-! ## Notes -/

/-- A note shows the type of the declaration unless an entry describes it with a type of its own. -/
theorem Parameter.type_note {p : Parameter} {entry : Option Docstring.Entry}
    (h : ∀ e ∈ entry, e.description = "" ∨ e.type = none) :
    (p.note entry).type = shownType p.type := by
  cases entry with
  | none => rfl
  | some e =>
    rw [Parameter.note]
    split_ifs with hempty
    · rfl
    · rcases h e rfl with hdescription | htype
      · exact absurd (by rw [hdescription]; rfl) hempty
      · rw [htype, Option.getD_none]

/-- What every note shows for an annotation, unless the docstring describes the parameter with a
type of its own. -/
def EachNoted (t : String) (P : String → Prop) : Prop :=
  ∀ r : Routine, ∀ pair ∈ r.parameters.zip r.parameterNotes, pair.1.type = some t →
    (∀ e ∈ Docstring.findEntry? (r.docstring.getD "").toList pair.1.name,
      e.description = "" ∨ e.type = none) → ∃ shown : String, pair.2.type = shown ∧ P shown

theorem eachNoted_iff {t : String} {P : String → Prop} :
    EachNoted t P ↔ P (shownType (some t)) := by
  constructor
  · intro h
    let p : Parameter := { name := "x", type := some t }
    obtain ⟨shown, hshown, hP⟩ := h { name := "f", parameters := [p] } (p, p.note none)
      (List.mem_singleton.mpr rfl) rfl fun e he => by cases he
    obtain rfl : shownType (some t) = shown := LooseText.ofString_injective hshown
    exact hP
  · intro h r pair hpair htype hentry
    rw [Routine.parameterNotes, ← List.map_prod_left_eq_zip] at hpair
    obtain ⟨p, -, rfl⟩ := List.mem_map.mp hpair
    exact ⟨_, by rw [Parameter.type_note hentry, htype], h⟩

/-- The notes keep the brackets of an annotation balanced. -/
def KeepsBrackets (t : String) : Prop :=
  EachNoted t fun type => Balanced type.toList

/-! ## Wrappers of the whole and of a part -/

/-- Only an annotation that is an optional type as a whole is rewritten. -/
structure MarksWholeOnly (t : String) : Prop where
  /-- an optional type is shown as the type it is made of, with a mark -/
  whole : ∀ x, Balanced x → t.toList = optionalOf x →
    (shownType (some t)).toList = x ++ optionalMark
  /-- any other type is shown as it is -/
  other : ¬ IsOptional t.toList → shownType (some t) = t
  /-- the notes mark no type as optional that was not declared so -/
  declared : EachNoted t fun type =>
    ∀ x, type.toList = x ++ optionalMark → IsOptional t.toList ∨ t.toList = x ++ optionalMark
  /-- the notes keep the brackets -/
  brackets : KeepsBrackets t

/-- An optional type is a part of the annotation and not the whole of it. -/
structure PartlyOptional (t : List Char) : Prop where
  /-- there is an optional type in the annotation -/
  part : ∃ front x back, Balanced x ∧ t = front ++ optionalOf x ++ back
  /-- the annotation is none itself -/
  notWhole : ¬ IsOptional t

/-- Where an optional type is opened there is one. -/
theorem exists_optionalOf_of_isInfix {t : List Char} (hb : Balanced t) (h : optionalHead <:+: t) :
    ∃ front x back, Balanced x ∧ t = front ++ optionalOf x ++ back := by
  obtain ⟨front, rest, hcut⟩ := exists_cut?_of_isInfix h
  obtain ⟨depth, -, hrest⟩ := exists_openBehind?_of_cut? hb hcut
  obtain ⟨x, back, rfl, hx, -⟩ := Text.exists_close hrest (Nat.zero_le depth)
  refine ⟨front, x, back, hx, ?_⟩
  rw [← Text.append_of_cut? hcut]
  simp [optionalOf]

/-- What is shown of a part differs from the annotation. -/
theorem MarksWholeOnly.not_partlyOptional {t : String} (h : MarksWholeOnly t) (hne : t ≠ "")
    (hline : '\n' ∉ t.toList) (hb : Balanced t.toList) : ¬ PartlyOptional t.toList := by
  rintro ⟨⟨front, x, back, -, ht⟩, hwhole⟩
  obtain ⟨o⟩ := nonempty_firstOptional hb (ht ▸ isInfix_optionalOf front x back)
  have hlength := o.length_shown
  rw [← o.toList_shownType_eq hne hline, h.other hwhole] at hlength
  omega

theorem marksWholeOnly_of_not_isInfix {t : String} (hne : t ≠ "") (hb : Balanced t.toList)
    (h : ¬ optionalHead <:+: t.toList) : MarksWholeOnly t where
  whole x _ ht := absurd (by simpa [ht] using isInfix_optionalOf [] x []) h
  other _ := shownType_of_not_isInfix hne h
  declared := by
    rw [eachNoted_iff, shownType_of_not_isInfix hne h]
    exact fun x hx => .inr hx
  brackets := by
    rw [KeepsBrackets, eachNoted_iff, shownType_of_not_isInfix hne h]
    exact hb

theorem marksWholeOnly_of_isOptional {t : String} (hne : t ≠ "") (hline : '\n' ∉ t.toList)
    (h : IsOptional t.toList) : MarksWholeOnly t where
  whole _ _ ht := toList_shownType_of_optionalOf hne hline ht
  other hother := absurd h hother
  declared := eachNoted_iff.mpr fun _ _ => .inl h
  brackets := by
    obtain ⟨x, hx, ht⟩ := h
    rw [KeepsBrackets, eachNoted_iff, toList_shownType_of_optionalOf hne hline ht]
    exact balanced_append_optionalMark hx

/-- The brackets that are shown. -/
theorem balanced_shownType_iff {t : String} (hne : t ≠ "") (hline : '\n' ∉ t.toList)
    (hb : Balanced t.toList) :
    Balanced (shownType (some t)).toList ↔ ¬ BracketsFollow t.toList := by
  by_cases h : optionalHead <:+: t.toList
  · obtain ⟨o⟩ := nonempty_firstOptional hb h
    rw [o.toList_shownType_eq hne hline, o.balanced_shown_iff]
  · rw [shownType_of_not_isInfix hne h]
    refine iff_of_true hb ?_
    rintro ⟨head, rest, ht, -, hopening, -⟩
    exact h (ht ▸ hopening.trans (List.prefix_append head rest).isInfix)

/-- **Only a wrapper of the whole is rewritten**, for an annotation on one line with balanced
brackets, exactly if no optional type is a mere part of it. The notes keep the brackets balanced
exactly if no others follow those that the first wrapper belongs to. -/
theorem marksWholeOnly_iff {t : String} (hne : t ≠ "") (hline : '\n' ∉ t.toList)
    (hb : Balanced t.toList) :
    (MarksWholeOnly t ↔ ¬ PartlyOptional t.toList) ∧
      (KeepsBrackets t ↔ ¬ BracketsFollow t.toList) := by
  refine ⟨⟨fun h => h.not_partlyOptional hne hline hb, fun hpart => ?_⟩, ?_⟩
  · by_cases h : optionalHead <:+: t.toList
    · refine marksWholeOnly_of_isOptional hne hline (not_not.mp fun hwhole => hpart ⟨?_, hwhole⟩)
      exact exists_optionalOf_of_isInfix hb h
    · exact marksWholeOnly_of_not_isInfix hne hb h
  · rw [KeepsBrackets, eachNoted_iff, balanced_shownType_iff hne hline hb]

/-- An optional type inside an optional type is left alone. Beside another type the brackets are
torn apart. -/
theorem marksWholeOnly_iff_nested :
    Balanced "Optional[List[Optional[int]]]".toList ∧
      MarksWholeOnly "Optional[List[Optional[int]]]" ∧
      Balanced "Optional[int] | List[str]".toList ∧
      ¬ KeepsBrackets "Optional[int] | List[str]" := by
  have hnested : Balanced "Optional[List[Optional[int]]]".toList := by decide +kernel
  have hbeside : Balanced "Optional[int] | List[str]".toList := by decide +kernel
  refine ⟨hnested, ?_, hbeside, ?_⟩
  · refine (marksWholeOnly_iff (by decide) (by decide +kernel) hnested).1.mpr fun hpart => ?_
    exact hpart.notWhole ⟨"List[Optional[int]]".toList, by decide +kernel, by decide +kernel⟩
  · refine fun hkeeps => (marksWholeOnly_iff (by decide) (by decide +kernel) hbeside).2.mp hkeeps ?_
    exact ⟨"Optional[int]".toList, " | List[str]".toList, by decide +kernel, by decide +kernel,
      ⟨[], "int]".toList, by decide +kernel⟩, by decide +kernel⟩

/-- The optional items of a list are shown as an optional list. -/
theorem not_marksWholeOnly_items :
    Balanced "List[Optional[int]]".toList ∧
      shownType (some "List[Optional[int]]") = "List[int] (Optional)" ∧
      ¬ MarksWholeOnly "List[Optional[int]]" := by
  have hshown : shownType (some "List[Optional[int]]") = "List[int] (Optional)" := by
    decide +kernel
  refine ⟨by decide +kernel, hshown, fun h => ?_⟩
  have hother : ¬ IsOptional "List[Optional[int]]".toList := by
    rintro ⟨x, -, hx⟩
    have hfirst : some 'L' = some 'O' := congrArg List.head? hx
    exact absurd hfirst (by decide)
  rw [h.other hother] at hshown
  exact absurd hshown (by decide)

end Docwright
