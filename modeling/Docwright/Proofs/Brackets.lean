import Mathlib.Data.List.Basic
import Mathlib.Data.Nat.PSub

/-!
# Balanced brackets

A text is **balanced** (`Balanced`) if its square brackets belong together in pairs, groups beside
groups and inside groups. Reading from left to right one can count how many brackets are open
(`openBehind?`); the count ends early where a bracket is closed and none is open. A text is balanced
exactly if the count goes from zero to zero (`balanced_iff`), so this can be checked.

What one character does to the count it does at every depth, so a count that goes through also goes
through with more brackets open in front (`openBehind?_succ`). With one bracket less it goes through
as well, unless a closing bracket finds none open (`openBehind?_pred`). This is what becomes of a
text when an opening bracket is taken out of it.
-/

namespace Docwright.Text

/-- A text whose square brackets belong together in pairs. -/
inductive Balanced : List Char → Prop where
  /-- no brackets at all -/
  | nil : Balanced []
  /-- a character that is no bracket comes first -/
  | plain {c : Char} {s : List Char} (hopen : c ≠ '[') (hclose : c ≠ ']') (hs : Balanced s) :
      Balanced (c :: s)
  /-- a group comes first -/
  | group {inner rest : List Char} (hinner : Balanced inner) (hrest : Balanced rest) :
      Balanced ('[' :: (inner ++ ']' :: rest))

/-- How many brackets are open behind a character, if `n` are open in front of it. -/
def bracketStep (n : Nat) (c : Char) : Option Nat :=
  if c = '[' then some (n + 1) else if c = ']' then n.ppred else some n

/-- How many brackets are open behind a text, if `n` are open in front of it; nothing if one is
closed that was never opened. -/
def openBehind? (n : Nat) (s : List Char) : Option Nat :=
  s.foldlM bracketStep n

/-! ## Counting -/

theorem bracketStep_of_plain {c : Char} (hopen : c ≠ '[') (hclose : c ≠ ']') (n : Nat) :
    bracketStep n c = some n := by
  rw [bracketStep, if_neg hopen, if_neg hclose]

theorem bracketStep_close_eq_some_iff {n m : Nat} : bracketStep n ']' = some m ↔ m + 1 = n :=
  Nat.ppred_eq_some

theorem openBehind?_cons (n : Nat) (c : Char) (s : List Char) :
    openBehind? n (c :: s) = (bracketStep n c).bind (openBehind? · s) := rfl

theorem openBehind?_open (n : Nat) (s : List Char) :
    openBehind? n ('[' :: s) = openBehind? (n + 1) s := rfl

theorem openBehind?_close (n : Nat) (s : List Char) :
    openBehind? (n + 1) (']' :: s) = openBehind? n s := rfl

/-- Counting on behind a first part. -/
theorem openBehind?_append (n : Nat) (s t : List Char) :
    openBehind? n (s ++ t) = (openBehind? n s).bind (openBehind? · t) :=
  List.foldlM_append

theorem openBehind?_append_of_some {n m : Nat} {s : List Char} (h : openBehind? n s = some m)
    (t : List Char) : openBehind? n (s ++ t) = openBehind? m t := by
  rw [openBehind?_append, h, Option.bind_some]

/-- Without closing brackets every opening one stays open. -/
theorem openBehind?_of_not_close {s : List Char} (h : ']' ∉ s) (n : Nat) :
    openBehind? n s = some (n + s.count '[') := by
  induction s generalizing n with
  | nil => rfl
  | cons c s ih =>
    obtain ⟨hc, hs⟩ := not_or.mp (mt List.mem_cons.mpr h)
    by_cases hopen : c = '['
    · rw [hopen, openBehind?_open, ih hs, List.count_cons_self]
      congr 1
      omega
    · rw [openBehind?_cons, bracketStep_of_plain hopen (Ne.symm hc), Option.bind_some, ih hs,
        List.count_cons_of_ne hopen]

/-- Without brackets the count stays as it is. -/
theorem openBehind?_of_plain {s : List Char} (hopen : '[' ∉ s) (hclose : ']' ∉ s) (n : Nat) :
    openBehind? n s = some n := by
  rw [openBehind?_of_not_close hclose, List.count_eq_zero_of_not_mem hopen, Nat.add_zero]

/-! ## Pairs -/

/-- A balanced text leaves open what was open in front of it. -/
theorem Balanced.openBehind? {s : List Char} (h : Balanced s) (n : Nat) :
    openBehind? n s = some n := by
  induction h generalizing n with
  | nil => rfl
  | plain hopen hclose _ ih =>
    rw [openBehind?_cons, bracketStep_of_plain hopen hclose, Option.bind_some, ih]
  | group _ _ ihinner ihrest =>
    rw [openBehind?_open, openBehind?_append_of_some (ihinner (n + 1)), openBehind?_close, ihrest]

/-- **The other bracket of a pair.** Where a text closes more than it opens, a balanced part of it
comes first and then the bracket that closes what is open in front. -/
theorem exists_close {s : List Char} {n m : Nat} (h : openBehind? (n + 1) s = some m)
    (hm : m ≤ n) :
    ∃ inner rest, s = inner ++ ']' :: rest ∧ Balanced inner ∧ openBehind? n rest = some m := by
  match s with
  | [] =>
    obtain rfl := Option.some.inj h
    omega
  | c :: s =>
    by_cases hopen : c = '['
    · -- the group that starts here is closed first, and the search goes on behind it
      rw [hopen, openBehind?_open] at h
      obtain ⟨group, behind, rfl, hgroup, hbehind⟩ := exists_close h (Nat.le_succ_of_le hm)
      obtain ⟨inner, rest, rfl, hinner, hrest⟩ := exists_close hbehind hm
      exact ⟨'[' :: (group ++ ']' :: inner), rest, by simp [hopen], .group hgroup hinner, hrest⟩
    · by_cases hclose : c = ']'
      · subst hclose
        exact ⟨[], s, rfl, .nil, h⟩
      · rw [openBehind?_cons, bracketStep_of_plain hopen hclose, Option.bind_some] at h
        obtain ⟨inner, rest, rfl, hinner, hrest⟩ := exists_close h hm
        exact ⟨c :: inner, rest, rfl, .plain hopen hclose hinner, hrest⟩
termination_by s.length

/-- **Balanced texts** are those whose count goes from zero to zero. -/
theorem balanced_iff {s : List Char} : Balanced s ↔ openBehind? 0 s = some 0 := by
  refine ⟨fun h => h.openBehind? 0, fun h => ?_⟩
  match s with
  | [] => exact .nil
  | c :: s =>
    by_cases hopen : c = '['
    · subst hopen
      obtain ⟨inner, rest, rfl, hinner, hrest⟩ := exists_close h (Nat.le_refl 0)
      exact .group hinner (balanced_iff.mpr hrest)
    · have hclose : c ≠ ']' := by
        rintro rfl
        cases h
      rw [openBehind?_cons, bracketStep_of_plain hopen hclose, Option.bind_some] at h
      exact .plain hopen hclose (balanced_iff.mpr h)
termination_by s.length

instance (s : List Char) : Decidable (Balanced s) :=
  decidable_of_iff _ balanced_iff.symm

/-! ## One bracket more or less in front -/

theorem bracketStep_succ {n m : Nat} {c : Char} (h : bracketStep n c = some m) :
    bracketStep (n + 1) c = some (m + 1) := by
  by_cases hopen : c = '['
  · subst hopen
    obtain rfl := Option.some.inj h
    rfl
  · by_cases hclose : c = ']'
    · subst hclose
      rw [← bracketStep_close_eq_some_iff.mp h]
      rfl
    · rw [bracketStep_of_plain hopen hclose] at h ⊢
      rw [Option.some.inj h]

/-- One bracket more that is open in front stays open. -/
theorem openBehind?_succ {n m : Nat} {s : List Char} (h : openBehind? n s = some m) :
    openBehind? (n + 1) s = some (m + 1) := by
  induction s generalizing n with
  | nil =>
    obtain rfl := Option.some.inj h
    rfl
  | cons c s ih =>
    obtain ⟨k, hstep, hrest⟩ := Option.bind_eq_some_iff.mp h
    rw [openBehind?_cons, bracketStep_succ hstep, Option.bind_some, ih hrest]

/-- A character does the same with one bracket less in front, unless it closes the only one. -/
theorem bracketStep_pred {n k : Nat} {c : Char} (h : bracketStep (n + 1) c = some k) :
    (c = ']' ∧ n = 0) ∨ ∃ m, bracketStep n c = some m ∧ k = m + 1 := by
  by_cases hopen : c = '['
  · subst hopen
    exact .inr ⟨n + 1, rfl, (Option.some.inj h).symm⟩
  · by_cases hclose : c = ']'
    · subst hclose
      obtain rfl : k = n := Nat.succ.inj (bracketStep_close_eq_some_iff.mp h)
      cases k with
      | zero => exact .inl ⟨rfl, rfl⟩
      | succ m => exact .inr ⟨m, rfl, rfl⟩
    · rw [bracketStep_of_plain hopen hclose] at h ⊢
      exact .inr ⟨n, rfl, (Option.some.inj h).symm⟩

/-- **One bracket less in front.** The count is one lower all the way, or some bracket closes the
only one that is open. -/
theorem openBehind?_pred {n m : Nat} {s : List Char} (h : openBehind? (n + 1) s = some (m + 1)) :
    openBehind? n s = some m ∨
      ∃ inner rest, s = inner ++ ']' :: rest ∧ openBehind? (n + 1) inner = some 1 := by
  induction s generalizing n with
  | nil =>
    obtain rfl := Nat.succ.inj (Option.some.inj h)
    exact .inl rfl
  | cons c s ih =>
    obtain ⟨k, hstep, hrest⟩ := Option.bind_eq_some_iff.mp h
    rcases bracketStep_pred hstep with ⟨rfl, rfl⟩ | ⟨l, hbelow, rfl⟩
    · exact .inr ⟨[], s, rfl, rfl⟩
    · rw [openBehind?_cons, hbelow, Option.bind_some]
      rcases ih hrest with hcount | ⟨inner, rest, rfl, hinner⟩
      · exact .inl hcount
      · refine .inr ⟨c :: inner, rest, rfl, ?_⟩
        rw [openBehind?_cons, hstep, Option.bind_some, hinner]

end Docwright.Text
