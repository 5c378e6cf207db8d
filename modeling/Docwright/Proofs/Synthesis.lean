import Mathlib
import Docwright.Documentation.Synthesis
import Docwright.Proofs.Export
import Docwright.Proofs.Text

/-!
# Complete documentation

A routine documents itself completely, whatever its name, text, docstring and parameters are: there
are claims and steps, the returned value is described by more than blanks, every parameter has its
note in its place, and neither the title nor a shown type is empty. All that a routine says of
itself is made of strings, so only its label can be a loose text
(`Routine.exists_string_of_mem_looseTexts`).

Each part comes from the routine where something is found there and from general wording where
nothing is, so every proof follows the choices of one analyzer down to a text that is not empty.
-/

namespace Docwright

/-- A trimmed text is empty or holds more than blanks. -/
theorem Text.trim_eq_nil_of_allBlank {s : List Char} (h : allBlank (trim s) = true) :
    trim s = [] := by
  have hend : trimEnd (trim s) = [] := trimEnd_eq_nil_iff.mpr (List.all_eq_true.mp h)
  rwa [trim, trimEnd_trimEnd] at hend

/-- A returns section holds more than blanks. -/
theorem Docstring.allBlank_returnsSection? {docstring text : List Char}
    (h : returnsSection? docstring = some text) : Text.allBlank text = false := by
  unfold returnsSection? at h
  split at h
  · cases h
  next body _ =>
    dsimp only at h
    split_ifs at h with hempty
    obtain rfl := Option.some.inj h
    by_contra hblank
    have hnil := Text.trim_eq_nil_of_allBlank (eq_true_of_ne_false hblank)
    rw [hnil] at hempty
    exact hempty rfl

/-- A literal that starts with a letter holds more than blanks. -/
theorem Text.allBlank_literal {s : List Char} (h : s.head?.any (fun c => !isBlank c) = true) :
    allBlank (String.ofList s).toList = false := by
  rw [String.toList_ofList]
  cases s with
  | nil => cases h
  | cons c s =>
    have hc : isBlank c = false := by simpa using h
    simp [allBlank, hc]

/-- A note is about its parameter and consists of strings. The type it shows is the declared one or
comes from the entry. -/
theorem Parameter.exists_note (p : Parameter) (entry : Option Docstring.Entry) :
    ∃ type description : String, p.note entry = ⟨p.name, type, description⟩ ∧
      (type = shownType p.type ∨ ∃ e ∈ entry, e.type = some type) := by
  cases entry with
  | none => exact ⟨_, _, rfl, .inl rfl⟩
  | some e =>
    rw [note]
    split_ifs
    · exact ⟨_, _, rfl, .inl rfl⟩
    · refine ⟨_, _, rfl, ?_⟩
      rcases htype : e.type with _ | type
      · exact .inl rfl
      · exact .inr ⟨e, rfl, htype⟩

namespace Routine

theorem functionality_ne_nil (r : Routine) : r.functionality ≠ [] := by
  unfold functionality
  dsimp only
  split_ifs with hempty
  · exact List.cons_ne_nil _ _
  · simpa using hempty

theorem steps_ne_nil (r : Routine) : r.steps ≠ [] := by
  unfold steps
  dsimp only
  split_ifs with hnotes hempty
  · exact List.ne_nil_of_length_pos (by omega)
  · exact List.cons_ne_nil _ _
  · simpa using hempty

theorem allBlank_returns (r : Routine) : Text.allBlank r.returns.toList = false := by
  unfold returns
  split
  next text htext =>
    rw [String.toList_ofList]
    exact Docstring.allBlank_returnsSection? htext
  next =>
    split
    · exact Text.allBlank_literal (by decide)
    · dsimp only
      split
      next shape _ => cases shape <;> exact Text.allBlank_literal (by decide)
      · exact Text.allBlank_literal (by decide)

theorem title_ne_empty (r : Routine) : r.title ≠ "" := by
  intro h
  have hlist := congrArg String.toList h
  simp [title] at hlist

/-- Every parameter has its note in its place. -/
theorem map_name_parameterNotes (r : Routine) :
    r.parameterNotes.map (·.name) = r.parameterNames := by
  have hname : ∀ (p : Parameter) entry, (p.note entry).name = p.name := by
    intro p entry
    obtain ⟨type, description, hnote, -⟩ := p.exists_note entry
    rw [hnote]
  simp [parameterNotes, parameterNames, hname]

end Routine

/-! ## Entries that are found -/

/-- A pair behind a `set` is the new one or an old one. -/
theorem Association.mem_of_mem_set {κ α : Type} [DecidableEq κ] {key : κ} {value : α}
    {a : Association κ α} {pair : κ × α} (h : pair ∈ set key value a) :
    pair = (key, value) ∨ pair ∈ a := by
  induction a with
  | nil => exact .inl (List.mem_singleton.mp h)
  | cons first a ih =>
    obtain ⟨k, v⟩ := first
    rw [set] at h
    split_ifs at h with hk
    · rcases List.mem_cons.mp h with rfl | h
      · exact .inl (by rw [hk])
      · exact .inr (List.mem_cons_of_mem _ h)
    · rcases List.mem_cons.mp h with rfl | h
      · exact .inr (List.mem_cons_self ..)
      · exact (ih h).imp_right (List.mem_cons_of_mem _)

/-- An association made from pairs holds nothing else. -/
theorem Association.mem_of_mem_ofPairs {κ α : Type} [DecidableEq κ] {pairs : List (κ × α)}
    {pair : κ × α} (h : pair ∈ ofPairs pairs) : pair ∈ pairs := by
  unfold ofPairs at h
  induction pairs using List.reverseRecOn with
  | nil => cases h
  | append_singleton pairs last ih =>
    rw [List.foldl_append, List.foldl_cons, List.foldl_nil] at h
    rcases mem_of_mem_set h with rfl | h
    · exact List.mem_append_right _ (List.mem_singleton.mpr rfl)
    · exact List.mem_append_left _ (ih h)

/-- Every entry of a section was read off behind one of its newlines. -/
theorem Docstring.exists_entryAt?_of_mem_entriesFrom {s : List Char} {skip : Nat} {entry : Entry}
    (h : entry ∈ entriesFrom skip s) : ∃ t length, entryAt? t = some (entry, length) := by
  induction s generalizing skip with
  | nil => cases h
  | cons c s ih =>
    cases skip with
    | succ skip => exact ih h
    | zero =>
      rw [entriesFrom] at h
      split at h
      next found length hfound =>
        rcases List.mem_cons.mp h with rfl | h
        · split_ifs at hfound
          exact ⟨s, length, hfound⟩
        · exact ih h
      next => exact ih h

/-- **An entry that is found** was read off somewhere. -/
theorem Docstring.exists_entryAt?_of_findEntry? {docstring : List Char} {name : String}
    {entry : Entry} (h : findEntry? docstring name = some entry) :
    ∃ s length, entryAt? s = some (entry, length) := by
  have hall : ∀ pair ∈ entries docstring, ∃ s length, entryAt? s = some (pair.2, length) := by
    intro pair hpair
    unfold entries at hpair
    split at hpair
    · cases hpair
    next body _ =>
      obtain ⟨found, hfound, rfl⟩ := List.mem_map.mp (Association.mem_of_mem_ofPairs hpair)
      exact exists_entryAt?_of_mem_entriesFrom hfound
  unfold findEntry? at h
  dsimp only at h
  split at h
  next found hfound =>
    obtain ⟨before, behind, hsplit, -⟩ := List.lookup_eq_some_iff.mp hfound
    obtain rfl := Option.some.inj h
    exact hall (name, found) (by rw [hsplit]; simp)
  next =>
    obtain ⟨pair, hpair, rfl⟩ := Option.map_eq_some_iff.mp h
    exact hall pair (List.mem_of_find?_eq_some hpair)

/-! ## Shown types -/

theorem markOptional?_ne_nil {s marked : List Char} (h : markOptional? s = some marked) :
    marked ≠ [] := by
  cases s with
  | nil => cases h
  | cons c s =>
    rw [markOptional?] at h
    dsimp only at h
    split at h
    next text hwrapped =>
      obtain rfl := Option.some.inj h
      split at hwrapped
      · cases hwrapped
      next rest _ =>
        obtain ⟨⟨inner, behind⟩, -, rfl⟩ := Option.map_eq_some_iff.mp hwrapped
        simp
    next =>
      obtain ⟨text, -, rfl⟩ := Option.map_eq_some_iff.mp h
      exact List.cons_ne_nil _ _

theorem shownType_ne_empty (declared : Option String) : shownType declared ≠ "" := by
  unfold shownType
  cases declared with
  | none => decide
  | some text =>
    dsimp only
    split_ifs with hempty
    · decide
    · rw [ne_eq, String.ofList_eq_empty_iff]
      rcases hmark : markOptional? text.toList with _ | marked
      · simpa using hempty
      · exact markOptional?_ne_nil hmark

theorem Docstring.type_ne_empty_of_entryAt? {s : List Char} {entry : Entry} {length : Nat}
    (h : entryAt? s = some (entry, length)) : ∀ type ∈ entry.type, type ≠ "" := by
  obtain ⟨head, -, heq⟩ := Option.map_eq_some_iff.mp h
  obtain ⟨rfl, -⟩ := Prod.mk.inj heq
  intro type htype
  dsimp only at htype
  split at htype
  next c t _ =>
    obtain rfl := Option.mem_some.mp htype
    rw [ne_eq, String.ofList_eq_empty_iff]
    exact List.cons_ne_nil c t
  next => cases htype

/-- No note shows an empty type. -/
theorem Routine.type_ne_empty {r : Routine} {note : ParameterNote} (h : note ∈ r.parameterNotes) :
    note.type ≠ [] := by
  obtain ⟨p, -, rfl⟩ := List.mem_map.mp h
  obtain ⟨type, description, hnote, htype⟩ :=
    p.exists_note (Docstring.findEntry? (r.docstring.getD "").toList p.name)
  have hne : type ≠ "" := by
    rcases htype with rfl | ⟨e, hentry, htype⟩
    · exact shownType_ne_empty p.type
    · obtain ⟨s, length, hread⟩ := Docstring.exists_entryAt?_of_findEntry? hentry
      exact Docstring.type_ne_empty_of_entryAt? hread type htype
  rw [hnote]
  exact fun hempty => hne (LooseText.ofString_injective hempty)

/-- **What a routine says of itself** is made of strings. -/
theorem Routine.exists_string_of_mem_looseTexts {r : Routine} {s : LooseText}
    (h : s ∈ r.synthesize.looseTexts) : ∃ text : String, s = text := by
  simp only [Documentation.looseTexts, Routine.synthesize, List.mem_cons, List.mem_append,
    List.mem_map, List.mem_flatMap] at h
  rcases h with hs | (⟨text, -, hs⟩ | ⟨text, -, hs⟩) | ⟨note, hnote, hs⟩
  · exact ⟨r.description, hs⟩
  · exact ⟨text, hs.symm⟩
  · exact ⟨text, hs.symm⟩
  · obtain ⟨p, -, rfl⟩ := List.mem_map.mp hnote
    obtain ⟨type, description, hform, -⟩ :=
      p.exists_note (Docstring.findEntry? (r.docstring.getD "").toList p.name)
    rw [hform] at hs
    rcases List.mem_pair.mp hs with hs | hs
    · exact ⟨type, hs⟩
    · exact ⟨description, hs⟩

end Docwright
