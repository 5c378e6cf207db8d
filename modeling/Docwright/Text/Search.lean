import Docwright.Text.Blank

/-!
# Searching and cutting texts

Plain operations on texts: the first occurrence of a needle, a cut at the first occurrence of a
mark, and runs of blanks made single spaces. The searches compare only, so they are made for texts
of any kind of letters.
-/

namespace Docwright.Text

variable {α : Type} [DecidableEq α]

/-- What follows `head` in a text that starts with it. -/
def after? : (head text : List α) → Option (List α)
  | [], s => some s
  | _ :: _, [] => none
  | h :: hs, c :: s => if h = c then after? hs s else none

/-- **The rest behind a head.** A text has a rest behind `head` exactly when it is the two
joined. -/
theorem after?_eq_some_iff {head s rest : List α} :
    after? head s = some rest ↔ s = head ++ rest := by
  fun_induction after? head s with
  | case1 s => simp [eq_comm]
  | case2 => simp
  | case3 hs c s ih => simp [ih]
  | case4 h hs c s hne => simp [Ne.symm hne]

/-- The text before and behind the first occurrence of `needle`. -/
def cut? (needle : List α) : List α → Option (List α × List α)
  | [] => if needle.isEmpty then some ([], []) else none
  | c :: s =>
    match after? needle (c :: s) with
    | some rest => some ([], rest)
    | none => (cut? needle s).map fun found => (c :: found.1, found.2)

/-- Does `needle` occur in the text? -/
def occurs (needle text : List α) : Bool :=
  (cut? needle text).isSome

/-- Does `needle` occur in the string? -/
def mentions (text needle : String) : Bool :=
  occurs needle.toList text.toList

/-- The text before the first `mark`, and the text behind it if there is a `mark`. -/
def splitFirst (mark : α) : List α → List α × Option (List α)
  | [] => ([], none)
  | c :: s =>
    if c = mark then ([], some s)
    else
      let parts := splitFirst mark s
      (c :: parts.1, parts.2)

/-- The text before and behind the last `mark`. -/
def splitLast? (mark : α) : List α → Option (List α × List α)
  | [] => none
  | c :: s =>
    match splitLast? mark s with
    | some (before, behind) => some (c :: before, behind)
    | none => if c = mark then some ([], s) else none

/-- Every run of blanks made one space; `inRun` says that the run was already written. -/
def squeezeFrom (inRun : Bool) : List Char → List Char
  | [] => []
  | c :: s =>
    if isBlank c then
      if inRun then squeezeFrom true s else ' ' :: squeezeFrom true s
    else c :: squeezeFrom false s

/-- A text on one line: every run of blanks made one space, none at the ends. -/
def squeeze (s : List Char) : List Char :=
  trim (squeezeFrom false s)

/-- The lines of a text, cut at newlines. -/
def lines (s : List Char) : List (List Char) :=
  s.splitOn '\n'

/-- Texts joined with a separator between neighbours. -/
def join {α : Type} (sep : List α) (parts : List (List α)) : List α :=
  sep.intercalate parts

/-- Nothing is lost by a cut. -/
theorem append_of_cut? {needle s : List α} :
    ∀ {before after : List α}, cut? needle s = some (before, after) →
      before ++ needle ++ after = s := by
  fun_induction cut? needle s with
  | case1 h => simp_all
  | case2 => simp
  | case3 c s rest h =>
    intro before after hcut
    obtain ⟨rfl, rfl⟩ := by simpa using hcut
    exact (after?_eq_some_iff.1 h).symm
  | case4 c s h ih =>
    intro before after hcut
    obtain ⟨⟨b, a⟩, hba, heq⟩ := Option.map_eq_some_iff.1 hcut
    obtain ⟨rfl, rfl⟩ := by simpa using heq
    simpa using ih hba

end Docwright.Text
