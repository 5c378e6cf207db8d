import Mathlib
import Docwright.Documentation.Steps

/-!
# The order of the steps

The steps of a routine come from one pass over its lines, which remembers the kinds of control words
that it has met. Here they are said without the pass. A `Mark` is a step with the number of its
line; the comments give one mark for each line that has a long enough comment (`commentMarks`), the
control words one for each kind, at the first line that starts with it (`wordMarks`).

* `map_text_marksFrom` — the pass with line numbers gives the same texts;
* `pairwise_marksFrom` — its marks are in order, no two at one place;
* `marksFrom_perm` — they are the marks of the words and of the comments.

So they are these marks sorted (`marksFrom_eq_mergeSort`), and the steps are their texts
(`steps_eq_sorted`).
-/

namespace Docwright

namespace Steps

/-! ## Marks -/

/-- A step with the line that it comes from. -/
structure Mark where
  /-- the number of the line -/
  line : Nat
  /-- does it come from the comment of the line, and not from its control word? -/
  isComment : Bool
  /-- the step -/
  text : String
  deriving DecidableEq, Repr

/-- Where a mark stands: marks are ordered by their lines, and on one line the control word comes
before the comment. -/
def Mark.place (m : Mark) : Nat ×ₗ Bool :=
  toLex (m.line, m.isComment)

/-- The marks of the comments of some lines, numbered from `n` on. -/
def commentMarks (n : Nat) (lines : List (List Char)) : List Mark :=
  (lines.zipIdx n).filterMap fun p => (note? p.1).map fun text => ⟨p.2, true, text⟩

/-- The kinds of steps that control words make. -/
def kinds : List String :=
  signals.map (·.2)

/-- The mark of a kind at the first line that starts with its control word, lines being numbered
from `n` on. -/
def wordMark? (n : Nat) (lines : List (List Char)) (kind : String) : Option Mark :=
  (lines.findIdx? fun line => signal? (Text.trim line) = some kind).map fun i =>
    ⟨n + i, false, kind⟩

/-- The marks of some kinds, each once. -/
def wordMarks (n : Nat) (lines : List (List Char)) (kinds : List String) : List Mark :=
  kinds.filterMap (wordMark? n lines)

theorem wordMark?_cons (n : Nat) (line : List Char) (rest : List (List Char)) (kind : String) :
    wordMark? n (line :: rest) kind =
      if signal? (Text.trim line) = some kind then some ⟨n, false, kind⟩
      else wordMark? (n + 1) rest kind := by
  unfold wordMark?
  rw [List.findIdx?_cons]
  by_cases h : signal? (Text.trim line) = some kind
  · simp [h]
  · simp [h, Function.comp_def, Nat.add_assoc, Nat.add_comm 1]

theorem commentMarks_cons (n : Nat) (line : List Char) (rest : List (List Char)) :
    commentMarks n (line :: rest) =
      ((note? line).map fun text => ⟨n, true, text⟩).toList ++ commentMarks (n + 1) rest := by
  unfold commentMarks
  rw [List.zipIdx_cons, List.filterMap_cons]
  dsimp only
  cases note? line <;> rfl

theorem map_text_commentMarks (n : Nat) (lines : List (List Char)) :
    (commentMarks n lines).map (·.text) = lines.filterMap note? := by
  induction lines generalizing n with
  | nil => rfl
  | cons line rest ih =>
    rw [commentMarks_cons, List.map_append, ih, List.filterMap_cons]
    cases note? line <;> rfl

/-! ## The kinds that are left -/

/-- The kinds that are not in `seen`. -/
def unseen (seen : List String) : List String :=
  kinds.filter fun kind => !seen.contains kind

theorem mem_kinds_of_signal? {line : List Char} {kind : String} (h : signal? line = some kind) :
    kind ∈ kinds := by
  obtain ⟨row, hrow, rfl⟩ := Option.map_eq_some_iff.mp h
  exact List.mem_map_of_mem (List.mem_of_find?_eq_some hrow)

theorem nodup_unseen (seen : List String) : (unseen seen).Nodup :=
  List.Nodup.filter _ (by decide)

/-- A kind that is met is no longer left. -/
theorem unseen_perm {seen : List String} {kind : String} (hkind : kind ∈ kinds)
    (hseen : kind ∉ seen) : (unseen seen).Perm (kind :: unseen (kind :: seen)) := by
  have hmem : kind ∈ unseen seen := by simp [unseen, hkind, hseen]
  have herase : (unseen seen).erase kind = unseen (kind :: seen) := by
    rw [(nodup_unseen seen).erase_eq_filter, unseen, unseen, List.filter_filter]
    refine List.filter_congr fun other _ => ?_
    rw [List.contains_cons, Bool.not_or, bne]
  rw [← herase]
  exact List.perm_cons_erase hmem

/-- A line without a control word of these kinds adds no mark of them. -/
theorem wordMarks_cons_of_forall {n : Nat} {line : List Char} {rest : List (List Char)}
    {kinds : List String} (h : ∀ kind ∈ kinds, signal? (Text.trim line) ≠ some kind) :
    wordMarks n (line :: rest) kinds = wordMarks (n + 1) rest kinds := by
  refine List.filterMap_congr fun kind hkind => ?_
  rw [wordMark?_cons, if_neg (h kind hkind)]

/-! ## The pass with line numbers -/

/-- The kind of a line's control word, unless it is in `seen`. -/
def fresh? (seen : List String) (line : List Char) : Option String :=
  (signal? (Text.trim line)).filter fun kind => !seen.contains kind

/-- The marks of some lines, numbered from `n` on: of each line its control word, unless that kind
is in `seen`, and then its comment. -/
def marksFrom (seen : List String) (n : Nat) : List (List Char) → List Mark
  | [] => []
  | line :: rest =>
    ((fresh? seen line).map fun kind => ⟨n, false, kind⟩).toList ++
      ((note? line).map fun text => ⟨n, true, text⟩).toList ++
      marksFrom ((fresh? seen line).toList ++ seen) (n + 1) rest

/-- The numbers do not change the texts. -/
theorem map_text_marksFrom (seen : List String) (n : Nat) (lines : List (List Char)) :
    (marksFrom seen n lines).map (·.text) = mixed seen lines := by
  induction lines generalizing seen n with
  | nil => rfl
  | cons line rest ih =>
    rw [marksFrom, mixed, List.map_append, List.map_append, ih]
    unfold fresh?
    cases (signal? (Text.trim line)).filter fun kind => !seen.contains kind <;>
      cases note? line <;> rfl

/-- No mark comes from a line in front. -/
theorem le_line_of_mem_marksFrom {seen : List String} {n : Nat} {lines : List (List Char)}
    {m : Mark} (h : m ∈ marksFrom seen n lines) : n ≤ m.line := by
  induction lines generalizing seen n with
  | nil => cases h
  | cons line rest ih =>
    rw [marksFrom, List.append_assoc] at h
    rcases List.mem_append.mp h with h | h
    · obtain ⟨kind, -, rfl⟩ := Option.map_eq_some_iff.mp (Option.mem_toList.mp h)
      exact Nat.le_refl n
    · rcases List.mem_append.mp h with h | h
      · obtain ⟨text, -, rfl⟩ := Option.map_eq_some_iff.mp (Option.mem_toList.mp h)
        exact Nat.le_refl n
      · exact Nat.le_of_succ_le (ih h)

/-- **The marks are in order**, no two of them at one place. -/
theorem pairwise_marksFrom (seen : List String) (n : Nat) (lines : List (List Char)) :
    (marksFrom seen n lines).Pairwise fun a b => a.place < b.place := by
  induction lines generalizing seen n with
  | nil => exact .nil
  | cons line rest ih =>
    -- the marks of the first line stand before those of the lines behind it
    have hbehind : ∀ (isComment : Bool) (text : String),
        ∀ m ∈ marksFrom ((fresh? seen line).toList ++ seen) (n + 1) rest,
          (Mark.mk n isComment text).place < m.place := by
      intro isComment text m hm
      have hline := le_line_of_mem_marksFrom hm
      exact Prod.Lex.lt_iff.mpr (.inl (Nat.lt_of_succ_le hline))
    have hword : ∀ kind text, (Mark.mk n false kind).place < (Mark.mk n true text).place := by
      intro kind text
      exact Prod.Lex.lt_iff.mpr (.inr ⟨rfl, Bool.false_lt_true⟩)
    have hrest := ih ((fresh? seen line).toList ++ seen) (n + 1)
    rw [marksFrom]
    rcases hfresh : fresh? seen line with _ | kind <;> rcases note? line with _ | text <;>
      rw [hfresh] at hbehind hrest
    · exact hrest
    · exact .cons (hbehind true text) hrest
    · exact .cons (hbehind false kind) hrest
    · refine .cons (fun m hm => ?_) (.cons (hbehind true text) hrest)
      rcases List.mem_cons.mp hm with rfl | hm
      · exact hword kind text
      · exact hbehind false kind m hm

/-- **The marks are those of the words and of the comments.** By induction on the lines: a kind that
the first line brings in is one that the lines behind it no longer give. -/
theorem marksFrom_perm (seen : List String) (n : Nat) (lines : List (List Char)) :
    (marksFrom seen n lines).Perm (wordMarks n lines (unseen seen) ++ commentMarks n lines) := by
  induction lines generalizing seen n with
  | nil => simp [marksFrom, wordMarks, wordMark?, commentMarks]
  | cons line rest ih =>
    have hwords : (wordMarks n (line :: rest) (unseen seen)).Perm
        (((fresh? seen line).map fun kind => ⟨n, false, kind⟩).toList ++
          wordMarks (n + 1) rest (unseen ((fresh? seen line).toList ++ seen))) := by
      rcases hfresh : fresh? seen line with _ | kind
      · rw [wordMarks_cons_of_forall]
        · exact .refl _
        · intro kind hkind hsignal
          have hunseen : (!seen.contains kind) = true := (List.mem_filter.mp hkind).2
          rw [fresh?, hsignal, Option.filter_some, if_pos hunseen] at hfresh
          cases hfresh
      · obtain ⟨hsignal, hunseen⟩ := Option.filter_eq_some_iff.mp hfresh
        have hperm : (unseen seen).Perm (kind :: unseen (kind :: seen)) :=
          unseen_perm (mem_kinds_of_signal? hsignal) (by simpa using hunseen)
        refine (hperm.filterMap (wordMark? n (line :: rest))).trans ?_
        have hother : ∀ other ∈ unseen (kind :: seen), signal? (Text.trim line) ≠ some other := by
          intro other hother heq
          obtain rfl := Option.some.inj (hsignal.symm.trans heq)
          simp [unseen] at hother
        have hrest := @wordMarks_cons_of_forall n line rest _ hother
        unfold wordMarks at hrest ⊢
        rw [List.filterMap_cons, wordMark?_cons, if_pos hsignal, hrest]
        exact .refl _
    rw [marksFrom, commentMarks_cons]
    refine ((ih _ (n + 1)).append_left _).trans ?_
    refine List.Perm.trans ?_ (hwords.symm.append_right _)
    rw [List.append_assoc, List.append_assoc]
    exact (List.perm_append_comm_assoc ..).append_left _

/-- **The marks are sorted.** -/
theorem marksFrom_eq_mergeSort (lines : List (List Char)) :
    marksFrom [] 0 lines =
      (wordMarks 0 lines kinds ++ commentMarks 0 lines).mergeSort fun a b => a.place ≤ b.place := by
  have hperm := marksFrom_perm [] 0 lines
  have hmarks := pairwise_marksFrom [] 0 lines
  have hunseen : unseen [] = kinds := List.filter_eq_self.mpr fun _ _ => rfl
  rw [hunseen] at hperm
  have hsorted : ((wordMarks 0 lines kinds ++ commentMarks 0 lines).mergeSort
      fun a b => a.place ≤ b.place).Pairwise fun a b => decide (a.place ≤ b.place) = true := by
    refine List.pairwise_mergeSort (fun a b c hab hbc => ?_) (fun a b => ?_) _
    · exact decide_eq_true ((of_decide_eq_true hab).trans (of_decide_eq_true hbc))
    · simpa using le_total a.place b.place
  refine List.Perm.eq_of_pairwise ?_ (hmarks.imp fun hlt => decide_eq_true (le_of_lt hlt)) hsorted
    (hperm.trans (List.mergeSort_perm _ _).symm)
  -- two marks at one place are the same, for the pass has no two there
  intro a b ha hb hab hba
  have hmem : b ∈ marksFrom [] 0 lines := hperm.mem_iff.mpr (List.mem_mergeSort.mp hb)
  have hnodup : ((marksFrom [] 0 lines).map Mark.place).Nodup :=
    List.pairwise_map.mpr (hmarks.imp fun hlt heq => absurd heq (ne_of_lt hlt))
  exact List.inj_on_of_nodup_map hnodup ha hmem
    (le_antisymm (of_decide_eq_true hab) (of_decide_eq_true hba))

/-- The general steps are three, or two for a routine without parameters. -/
theorem length_general (r : Routine) :
    (general r).length = if r.parameters = [] then 2 else 3 := by
  unfold general
  cases r.parameters <;> simp

/-! ## The theorem -/

/-- **The steps of a routine.** They are its comments, line by line, if there are at least two.
Otherwise they are the first control word of each kind and the comment, sorted by line with the
control word in front; and if there is none of these, the general steps. -/
theorem steps_eq_sorted (r : Routine) :
    let lines := bodyLines r.source.toList
    let comments := commentMarks 0 lines
    let words := wordMarks 0 lines kinds
    r.steps =
        (if 2 ≤ comments.length then comments.map (·.text)
        else if comments ≠ [] ∨ words ≠ [] then
          ((words ++ comments).mergeSort fun a b => a.place ≤ b.place).map (·.text)
        else general r) ∧
      (general r).length = if r.parameters = [] then 2 else 3 := by
  intro lines comments words
  refine ⟨?_, length_general r⟩
  have hnotes : lines.filterMap note? = comments.map (·.text) :=
    (map_text_commentMarks 0 lines).symm
  have hmixed : mixed [] lines =
      ((words ++ comments).mergeSort fun a b => a.place ≤ b.place).map (·.text) := by
    rw [← map_text_marksFrom [] 0 lines, marksFrom_eq_mergeSort]
  have hempty : (mixed [] lines).isEmpty = true ↔ ¬ (comments ≠ [] ∨ words ≠ []) := by
    rw [hmixed, List.isEmpty_iff, List.map_eq_nil_iff, ← List.length_eq_zero_iff,
      List.length_mergeSort, List.length_eq_zero_iff]
    simp [and_comm]
  change (if 2 ≤ (lines.filterMap note?).length then lines.filterMap note?
    else if (mixed [] lines).isEmpty then general r else mixed [] lines) = _
  rw [hnotes, List.length_map]
  by_cases hnone : comments ≠ [] ∨ words ≠ []
  · rw [if_pos hnone, if_neg (mt hempty.mp (not_not.mpr hnone)), hmixed]
  · rw [if_neg hnone, if_pos (hempty.mpr hnone)]

end Steps

end Docwright
