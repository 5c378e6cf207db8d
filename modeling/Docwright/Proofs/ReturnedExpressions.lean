import Docwright.Documentation.Returns
import Docwright.Proofs.BodyLines

/-!
# Returned expressions and comments

What a routine returns is said of the last expression behind the word `return`. The search for
these expressions stops an expression at a number sign and goes on behind it, so it reads the lines
of a text one by one, and on a line the code in front of a number sign and the text behind it, each
by itself (`expressions_append_mark`, `expressions_join`). It does not know what a comment is: a
comment that says `return` gives an expression like any line.

The main result is `commentsIgnored_iff`. It says of a routine whether the comments of its source
could be removed one by one without a change to what it returns: exactly when none of them
interferes (`SourceComment.Interferes`).
-/

namespace Docwright

/-! ## The search, one expression at a time -/

namespace Returns

/-- May a character stand in an expression? -/
def inExpression (c : Char) : Bool :=
  c != '\n' && c != '#'

/-- The expression behind the `return` that a text starts with, and what follows it. -/
def expressionAt? (before : Option Char) (s : List Char) : Option (List Char × List Char) :=
  match if before.any Text.isWordChar then none else Text.after? "return".toList s with
  | some (gap :: rest) =>
    if Docstring.isIndent gap then
      let line := rest.dropWhile Docstring.isIndent
      let expression := line.takeWhile inExpression
      some (expression, line.drop expression.length)
    else none
  | _ => none

/-- How much of a text belongs to the expression in front of its end `behind`. A number sign there
is taken along. -/
def taken (s behind : List Char) : Nat :=
  s.length - behind.length + if behind.head? = some '#' then 1 else 0

theorem expressionsFrom_cons (before : Option Char) (c : Char) (s : List Char) :
    expressionsFrom before 0 (c :: s) =
      match expressionAt? before (c :: s) with
      | some (expression, behind) =>
        expression :: expressionsFrom (some c) (taken s behind) s
      | none => expressionsFrom (some c) 0 s := by
  rw [expressionsFrom, expressionAt?]
  rcases (if before.any Text.isWordChar then none else Text.after? "return".toList (c :: s)) with
    _ | _ | ⟨gap, rest⟩
  · rfl
  · rfl
  · by_cases hgap : Docstring.isIndent gap = true
    · simp only [hgap, if_true]
      rfl
    · simp only [hgap]
      rfl

/-- A text that is read already holds no more expressions. -/
theorem expressionsFrom_of_length_le {before : Option Char} {skip : Nat} {s : List Char}
    (h : s.length ≤ skip) : expressionsFrom before skip s = [] := by
  induction s generalizing before skip with
  | nil => rfl
  | cons c s ih =>
    obtain ⟨skip, rfl⟩ : ∃ n, skip = n + 1 := ⟨skip - 1, by simp at h; omega⟩
    exact ih (Nat.le_of_succ_le_succ h)

/-- The two characters that end an expression. -/
theorem inExpression_eq_false_iff {c : Char} : inExpression c = false ↔ c = '\n' ∨ c = '#' := by
  simp [inExpression, imp_iff_not_or]

/-- An expression ends at a mark that may not stand in one. -/
theorem expressionAt?_append_mark {mark : Char} (hmark : inExpression mark = false)
    (before : Option Char) (s t : List Char) :
    expressionAt? before (s ++ mark :: t) =
      (expressionAt? before s).map fun found => (found.1, found.2 ++ mark :: t) := by
  have hword : mark ∉ "return".toList := by
    rcases inExpression_eq_false_iff.mp hmark with rfl | rfl <;> decide
  have hindent : Docstring.isIndent mark = false := by
    rcases inExpression_eq_false_iff.mp hmark with rfl | rfl <;> rfl
  have hafter : Text.after? "return".toList (s ++ mark :: t) =
      (Text.after? "return".toList s).map (· ++ mark :: t) :=
    Text.after?_append fun c hc => Option.some.inj hc ▸ hword
  by_cases hbefore : before.any Text.isWordChar = true
  · simp [expressionAt?, hbefore]
  · rw [expressionAt?, expressionAt?, if_neg hbefore, if_neg hbefore, hafter]
    rcases Text.after? "return".toList s with _ | _ | ⟨gap, rest⟩
    · rfl
    · simp [hindent]
    · rw [Option.map_some, List.cons_append]
      dsimp only
      by_cases hgap : Docstring.isIndent gap = true
      · rw [if_pos hgap, if_pos hgap, Text.dropWhile_append_cons_of_not hindent,
          Text.takeWhile_append_cons_of_not hmark, Option.map_some,
          List.drop_append_of_le_length (List.takeWhile_prefix _).length_le]
      · rw [if_neg hgap, if_neg hgap, Option.map_none]

/-- The character in front of a text only matters if it is one of a word. -/
theorem expressionsFrom_some_of_not {c : Char} (h : Text.isWordChar c = false) (s : List Char) :
    expressionsFrom (some c) 0 s = expressions s := by
  cases s with
  | nil => rfl
  | cons d s =>
    have hat : expressionAt? (some c) (d :: s) = expressionAt? none (d :: s) := by
      simp [expressionAt?, h]
    rw [expressions, expressionsFrom_cons, expressionsFrom_cons, hat]

/-- Where a mark follows the text, an expression takes the same of it, or all of it. -/
theorem taken_append_mark (mark : Char) (s behind t : List Char) :
    taken (s ++ mark :: t) (behind ++ mark :: t) = taken s behind ∨
      behind = [] ∧ s.length ≤ taken (s ++ mark :: t) (behind ++ mark :: t) ∧
        taken (s ++ mark :: t) (behind ++ mark :: t) ≤ s.length + 1 := by
  cases behind with
  | nil =>
    refine .inr ⟨rfl, ?_⟩
    simp only [taken, List.length_append, List.nil_append]
    split <;> omega
  | cons d behind =>
    left
    rw [taken, taken, List.length_append, List.length_append, Nat.add_sub_add_right]
    rfl

theorem expressionsFrom_append_mark {mark : Char} (hmark : inExpression mark = false)
    {before : Option Char} {skip : Nat} {s : List Char} (t : List Char) (h : skip ≤ s.length + 1) :
    expressionsFrom before skip (s ++ mark :: t) =
      expressionsFrom before skip s ++ expressions t := by
  have hword : Text.isWordChar mark = false := by
    rcases inExpression_eq_false_iff.mp hmark with rfl | rfl <;> decide +kernel
  induction s generalizing before skip with
  | nil =>
    have hnone : expressionAt? before (mark :: t) = none := by
      have hempty : expressionAt? before [] = none := by
        rw [expressionAt?]
        cases before.any Text.isWordChar <;> rfl
      rw [← List.nil_append (mark :: t), expressionAt?_append_mark hmark, hempty, Option.map_none]
    have hbehind : expressionsFrom (some mark) 0 t = expressions t :=
      expressionsFrom_some_of_not hword t
    match skip, h with
    | 0, _ => rw [List.nil_append, expressionsFrom_cons, hnone, hbehind]; rfl
    | 1, _ => exact hbehind
  | cons c s ih =>
    cases skip with
    | succ skip => exact ih (Nat.le_of_succ_le_succ h)
    | zero =>
      have hat := expressionAt?_append_mark hmark before (c :: s) t
      rw [List.cons_append] at hat ⊢
      rw [expressionsFrom_cons, expressionsFrom_cons, hat]
      rcases expressionAt? before (c :: s) with _ | ⟨expression, behind⟩
      · exact ih (Nat.zero_le _)
      · rw [Option.map_some]
        refine congrArg (expression :: ·) ?_
        rcases taken_append_mark mark s behind t with htaken | ⟨rfl, hle, hle'⟩
        · rw [htaken]
          exact ih (by unfold taken; split <;> omega)
        · rw [ih hle', expressionsFrom_of_length_le hle,
            expressionsFrom_of_length_le (by simp [taken])]
          rfl

/-- **Marks cut the search.** In front of a mark that may not stand in an expression and behind it
the expressions are those of two texts. -/
theorem expressions_append_mark {mark : Char} (hmark : inExpression mark = false)
    (s t : List Char) : expressions (s ++ mark :: t) = expressions s ++ expressions t :=
  expressionsFrom_append_mark hmark t (Nat.zero_le _)

/-- The expressions of a text are those of its lines. -/
theorem expressions_join (lines : List (List Char)) :
    expressions (Text.join ['\n'] lines) = lines.flatMap expressions := by
  induction lines with
  | nil => rfl
  | cons line rest ih =>
    cases rest with
    | nil => simp [Text.join]
    | cons next rest =>
      have hjoin : Text.join ['\n'] (line :: next :: rest) =
          line ++ '\n' :: Text.join ['\n'] (next :: rest) := by
        simp [Text.join, List.intercalate_cons_cons]
      rw [hjoin, expressions_append_mark rfl, ih]
      rfl

/-- What is said of the last expression, if there is one. -/
def described (declared : Option String) : Option (List Char) → String
  | none => absentSentence
  | some expression =>
    match (ofExpression? (Text.trim expression)).or (ofAnnotated? declared) with
    | some shape => shape.sentence
    | none => unknownSentence

end Returns

theorem Routine.returns_eq_described {r : Routine}
    (h : Docstring.returnsSection? (r.docstring.getD "").toList = none) :
    r.returns =
      Returns.described r.returnType (Returns.expressions r.source.toList).getLast? := by
  rw [Routine.returns, h]
  rcases (Returns.expressions r.source.toList).getLast? with _ | expression <;> rfl

/-! ## The number sign that opens a comment -/

namespace Steps

/-- A delimiter does not reach over a number sign. -/
theorem isPrefixOf_number_sign {delimiter : List Char} (h : '#' ∉ delimiter) (s t : List Char) :
    delimiter.isPrefixOf (s ++ '#' :: t) = delimiter.isPrefixOf s := by
  rw [Bool.eq_iff_iff, List.isPrefixOf_iff_prefix, List.isPrefixOf_iff_prefix]
  exact Text.isPrefix_append_iff fun c hc => Option.some.inj hc ▸ h

/-- A comment that is found has its number sign, and from there on it does not matter what the
comment is. -/
theorem exists_of_commentFrom {opened : Option (List Char)} {skip : Nat} {s text : List Char}
    (h : commentFrom opened skip s = some text)
    (hopened : ∀ delimiter, opened = some delimiter → '#' ∉ delimiter) :
    ∃ code note, s = code ++ '#' :: note ∧
      ∀ t, commentFrom opened skip (code ++ '#' :: t) = some (Text.trim t) := by
  fun_induction commentFrom opened skip s with
  | case1 => cases h
  | case2 opened c s skip ih =>
    obtain ⟨code, note, rfl, hcode⟩ := ih h hopened
    exact ⟨c :: code, note, rfl, hcode⟩
  | case3 s delimiter ih =>
    obtain ⟨code, note, rfl, hcode⟩ := ih h hopened
    exact ⟨'\\' :: code, note, rfl, hcode⟩
  | case4 c s delimiter hc hcloses ih =>
    obtain ⟨code, note, rfl, hcode⟩ := ih h fun _ hnone => nomatch hnone
    refine ⟨c :: code, note, rfl, fun t => ?_⟩
    have hahead := isPrefixOf_number_sign (hopened delimiter rfl) (c :: code)
    rw [List.cons_append, commentFrom, if_neg hc, if_pos, hcode t]
    rw [← List.cons_append, hahead t, ← hahead note]
    exact hcloses
  | case5 c s delimiter hc hcloses ih =>
    obtain ⟨code, note, rfl, hcode⟩ := ih h hopened
    refine ⟨c :: code, note, rfl, fun t => ?_⟩
    have hahead := isPrefixOf_number_sign (hopened delimiter rfl) (c :: code)
    rw [List.cons_append, commentFrom, if_neg hc, if_neg, hcode t]
    rw [← List.cons_append, hahead t, ← hahead note]
    exact hcloses
  | case6 s => exact ⟨[], s, rfl, fun _ => rfl⟩
  | case7 c s hc hquote delimiter ih =>
    have hplain : ∀ d, some delimiter = some d → '#' ∉ d := by
      intro d hd
      rw [← Option.some.inj hd]
      simp only [delimiter]
      split <;> simp [Ne.symm hc]
    obtain ⟨code, note, rfl, hcode⟩ := ih h hplain
    refine ⟨c :: code, note, rfl, fun t => ?_⟩
    have hahead : ∀ t, Source.twoMore c (code ++ '#' :: t) = Source.twoMore c code :=
      fun t => Source.twoMore_append hquote rfl
    rw [List.cons_append, commentFrom, if_neg hc, if_pos hquote, hahead t, ← hahead note]
    exact hcode t
  | case8 c s hc hquote ih =>
    obtain ⟨code, note, rfl, hcode⟩ := ih h hopened
    refine ⟨c :: code, note, rfl, fun t => ?_⟩
    rw [List.cons_append, commentFrom, if_neg hc, if_neg hquote, hcode t]

/-- A number sign opens a comment of the line, whatever stands behind it. -/
def Opens (code : List Char) : Prop :=
  ∀ t, comment? (code ++ '#' :: t) = some (Text.trim t)

/-- The number signs in a comment open no other one. -/
theorem Opens.not_opens_append {code : List Char} (h : Opens code) (s : List Char) :
    ¬ Opens (code ++ '#' :: s) := by
  intro hother
  have hcomment := h (s ++ ['#'])
  rw [← List.cons_append, ← List.append_assoc, hother []] at hcomment
  have hmem : '#' ∈ Text.trim (s ++ ['#']) := Text.mem_trim (by simp) rfl
  rw [← Option.some.inj hcomment] at hmem
  cases hmem

/-- **One number sign** of a line opens its comment. -/
theorem Opens.unique {code code' note note' : List Char} (h : Opens code) (h' : Opens code')
    (heq : code ++ '#' :: note = code' ++ '#' :: note') : code = code' ∧ note = note' := by
  rcases List.append_eq_append_iff.mp heq with
    ⟨_ | ⟨d, s⟩, hcode, hnote⟩ | ⟨_ | ⟨d, s⟩, hcode, hnote⟩
  · exact ⟨by simpa using hcode.symm, by simpa using hnote⟩
  · obtain ⟨rfl, -⟩ := List.cons.inj hnote
    exact absurd (hcode ▸ h') (h.not_opens_append s)
  · exact ⟨by simpa using hcode, by simpa using hnote.symm⟩
  · obtain ⟨rfl, -⟩ := List.cons.inj hnote
    exact absurd (hcode ▸ h) (h'.not_opens_append s)

end Steps

/-! ## Comments of a source -/

/-- A comment of a routine's source, with what stands around it. -/
@[ext]
structure SourceComment (r : Routine) where
  /-- the lines in front -/
  front : List (List Char)
  /-- the line of the comment, up to the number sign -/
  code : List Char
  /-- the comment -/
  note : List Char
  /-- the lines behind -/
  back : List (List Char)
  /-- the lines of the source are these -/
  lines_eq : Text.lines r.source.toList = front ++ (code ++ '#' :: note) :: back
  /-- the number sign opens the comment -/
  opens : Steps.Opens code

namespace SourceComment

variable {r : Routine}

/-- The routine with the comment removed from its source. -/
def removed (c : SourceComment r) : Routine :=
  { r with source := String.ofList (Text.join ['\n'] (c.front ++ c.code :: c.back)) }

/-- The expressions in front of a comment. -/
def expressionsInFront (c : SourceComment r) : List (List Char) :=
  (c.front ++ [c.code]).flatMap Returns.expressions

/-- A comment holds the last expression of the source, and what is said of it is not what is said
of the code in front. -/
def Interferes (c : SourceComment r) : Prop :=
  (∀ line ∈ c.back, Returns.expressions line = []) ∧
    ∃ expression, (Returns.expressions c.note).getLast? = some expression ∧
      Returns.described r.returnType (some expression) ≠
        Returns.described r.returnType c.expressionsInFront.getLast?

/-- Every line on which a comment is found has one. -/
theorem exists_of_comment? {front back : List (List Char)} {line : List Char}
    (hlines : Text.lines r.source.toList = front ++ line :: back)
    (hcomment : (Steps.comment? line).isSome) :
    ∃ c : SourceComment r, c.front = front ∧ c.back = back := by
  obtain ⟨text, htext⟩ := Option.isSome_iff_exists.mp hcomment
  obtain ⟨code, note, rfl, hopens⟩ :=
    Steps.exists_of_commentFrom htext fun _ hnone => nomatch hnone
  exact ⟨⟨front, code, note, back, hlines, hopens⟩, rfl, rfl⟩

/-- A line has one comment. -/
theorem eq_of_front_eq {c c' : SourceComment r} (hfront : c.front = c'.front)
    (hback : c.back = c'.back) : c = c' := by
  have hlines := c.lines_eq.symm.trans c'.lines_eq
  rw [hfront, hback] at hlines
  obtain ⟨hcode, hnote⟩ := c.opens.unique c'.opens
    (List.cons.inj (List.append_cancel_left hlines)).1
  exact SourceComment.ext hfront hcode hnote hback

theorem expressions_removed (c : SourceComment r) :
    Returns.expressions c.removed.source.toList =
      c.expressionsInFront ++ c.back.flatMap Returns.expressions := by
  rw [removed, String.toList_ofList, Returns.expressions_join, expressionsInFront]
  simp

theorem expressions_source (c : SourceComment r) :
    Returns.expressions r.source.toList =
      c.expressionsInFront ++
        (Returns.expressions c.note ++ c.back.flatMap Returns.expressions) := by
  have hsource : r.source.toList = Text.join ['\n'] (Text.lines r.source.toList) :=
    (List.intercalate_splitOn '\n').symm
  rw [hsource, c.lines_eq, Returns.expressions_join, expressionsInFront, List.flatMap_append,
    List.flatMap_cons, Returns.expressions_append_mark rfl]
  simp

/-- **One comment.** It can be removed without a change unless it interferes. -/
theorem returns_removed_iff (c : SourceComment r)
    (h : Docstring.returnsSection? (r.docstring.getD "").toList = none) :
    c.removed.returns = r.returns ↔ ¬ c.Interferes := by
  have hreturns := Routine.returns_eq_described h
  have hremoved : c.removed.returns = Returns.described r.returnType
      (Returns.expressions c.removed.source.toList).getLast? := Routine.returns_eq_described h
  have hback : c.back.flatMap Returns.expressions = [] ↔
      ∀ line ∈ c.back, Returns.expressions line = [] := List.flatMap_eq_nil_iff
  rw [hremoved, hreturns, c.expressions_removed, c.expressions_source, Interferes, ← hback]
  simp only [List.getLast?_append]
  rcases hlast : (c.back.flatMap Returns.expressions).getLast? with _ | last
  · rw [List.getLast?_eq_none_iff] at hlast
    rcases (Returns.expressions c.note).getLast? with _ | expression
    · simp
    · simp [hlast, eq_comm]
  · have hne : c.back.flatMap Returns.expressions ≠ [] := by
      intro hnil
      rw [hnil] at hlast
      cases hlast
    simp [hne]

end SourceComment

/-- No comment of a routine's source takes part in what the routine returns: without a returns
section, each comment that is found on a line can be removed without a change. -/
def CommentsIgnored (r : Routine) : Prop :=
  Docstring.returnsSection? (r.docstring.getD "").toList = none →
    ∀ front line back, Text.lines r.source.toList = front ++ line :: back →
      (Steps.comment? line).isSome →
        ∃ c : SourceComment r, c.front = front ∧ c.back = back ∧ c.removed.returns = r.returns

theorem CommentsIgnored.not_interferes {r : Routine} (h : CommentsIgnored r)
    (hsection : Docstring.returnsSection? (r.docstring.getD "").toList = none)
    (c : SourceComment r) : ¬ c.Interferes := by
  have hfound : (Steps.comment? (c.code ++ '#' :: c.note)).isSome := by
    rw [c.opens c.note, Option.isSome_some]
  obtain ⟨c', hfront, hback, hreturns⟩ := h hsection c.front _ c.back c.lines_eq hfound
  obtain rfl := SourceComment.eq_of_front_eq hfront hback
  exact (c'.returns_removed_iff hsection).mp hreturns

/-- **Comments and what a routine returns.** A routine without a returns section ignores its
comments exactly when none of them interferes: none that holds the last expression of the source
is described in other words than the code in front of it. -/
theorem commentsIgnored_iff (r : Routine) :
    CommentsIgnored r ↔
      (Docstring.returnsSection? (r.docstring.getD "").toList = none →
        ∀ c : SourceComment r, ¬ c.Interferes) := by
  constructor
  · intro h hsection c
    exact h.not_interferes hsection c
  · intro h hsection front line back hlines hfound
    obtain ⟨c, hfront, hback⟩ := SourceComment.exists_of_comment? hlines hfound
    exact ⟨c, hfront, hback, (c.returns_removed_iff hsection).mpr (h hsection c)⟩

/-- A comment that says what is returned. -/
def commentedReturn : Routine where
  name := "f"
  source := "def f():\n    return 1  # we return a dict"

/-- The number is described as the dictionary of the comment. -/
theorem not_commentsIgnored_commentedReturn :
    commentedReturn.returns = "Returns a dictionary containing the processed data." ∧
      ¬ CommentsIgnored commentedReturn := by
  refine ⟨by decide +kernel, fun h => ?_⟩
  let c : SourceComment commentedReturn :=
    { front := ["def f():".toList]
      code := "    return 1  ".toList
      note := " we return a dict".toList
      back := []
      lines_eq := by decide +kernel
      opens := fun _ => rfl }
  refine h.not_interferes (by decide +kernel) c ⟨by simp [c], "a dict".toList, ?_, ?_⟩
  · decide +kernel
  · decide +kernel

end Docwright
