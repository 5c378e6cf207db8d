/-!
# Associations

An association is a list of keys with values, each key once, in the order in which the keys first
came. A later value for a key takes the place of the earlier one.
-/

namespace Docwright

/-- A list of keys with values. -/
abbrev Association (κ α : Type) := List (κ × α)

namespace Association

variable {κ α : Type} [DecidableEq κ]

/-- The association with a new value under `key`: in the place of the old one, or else at the
end. -/
def set (key : κ) (value : α) : Association κ α → Association κ α
  | [] => [(key, value)]
  | (k, v) :: rest =>
    if k = key then (k, value) :: rest else (k, v) :: set key value rest

/-- The association that is left when the pairs are set one after the other. -/
def ofPairs (pairs : List (κ × α)) : Association κ α :=
  pairs.foldl (fun done pair => set pair.1 pair.2 done) []

/-- The keys after a `set` are the old ones, with a new key behind them. -/
theorem map_fst_set (key : κ) (value : α) (a : Association κ α) :
    (set key value a).map (·.1) =
      if key ∈ a.map (·.1) then a.map (·.1) else a.map (·.1) ++ [key] := by
  induction a with
  | nil => simp [set]
  | cons pair rest ih =>
    obtain ⟨k, v⟩ := pair
    by_cases h : k = key
    · simp [set, h]
    · have h' : ¬ key = k := fun e => h e.symm
      by_cases hm : key ∈ rest.map (·.1) <;> simp_all [set]

/-- **Reading after a `set`.** The new value stands under its key, and all others are kept. -/
theorem lookup_set [BEq κ] [LawfulBEq κ] (key k : κ) (value : α) (a : Association κ α) :
    (set key value a).lookup k = if k = key then some value else a.lookup k := by
  induction a with
  | nil =>
    rw [set, List.lookup_cons]
    by_cases h : k = key
    · simp [h]
    · simp [h, beq_eq_false_iff_ne.2 h]
  | cons pair rest ih =>
    obtain ⟨k₀, v₀⟩ := pair
    rw [set]
    by_cases h₀ : k₀ = key
    · subst h₀
      by_cases h : k = k₀
      · simp [h]
      · simp [List.lookup_cons, h, beq_eq_false_iff_ne.2 h]
    · rw [if_neg h₀, List.lookup_cons, List.lookup_cons, ih]
      by_cases h : k = k₀
      · simp [h, h₀]
      · simp [beq_eq_false_iff_ne.2 h]

end Association

end Docwright
