import Mathlib
import Docwright.Proofs.JsonText
import Docwright.Remote.Reply

/-!
# The shape of documentation

What the check of a reply accepts, and what it makes of it. Each way to build a check has a lemma
that says when the check gives a value; read off through all of them, the check of documentation
accepts a value exactly if the value *describes* documentation (`Describes`): every field is there
with the kind of value it should have, or is left out where it may be.

A string whose length matters has to be whole, so `Describes` says so by its types; everything else
in an object is ignored.
-/

namespace Docwright

namespace Schema

/-! ## Checks that give a value -/

theorem map_eq_ok_iff {α β : Type} {f : α → β} {checked : Checked α} {b : β} :
    checked.map f = .ok b ↔ ∃ a, checked = .ok a ∧ f a = b := by
  cases checked with
  | error faults => simp [Except.map]
  | ok a => simp [Except.map]

theorem Checked.ap_eq_ok_iff {α β : Type} {function : Checked (α → β)} {argument : Checked α}
    {b : β} : Checked.ap function argument = .ok b ↔
      ∃ f a, function = .ok f ∧ argument = .ok a ∧ f a = b := by
  cases function with
  | error faults => cases argument <;> simp [Checked.ap]
  | ok f => cases argument <;> simp [Checked.ap]

theorem string_eq_ok_iff {place : List String} {v : Json} {s : LooseText} :
    string place v = .ok s ↔ v = .str s := by
  cases v <;> simp [string, fault]

/-- Items pass one by one. -/
theorem items_eq_ok_iff {α : Type} {check : Check α} {place : List String} {xs : List Json}
    {values : List α} :
    items check place xs = .ok values ↔
      List.Forall₂ (fun v a => check place v = .ok a) xs values := by
  induction xs generalizing values with
  | nil =>
    rw [List.forall₂_nil_left_iff]
    simp [items, eq_comm]
  | cons v xs ih =>
    rw [items, Checked.ap_eq_ok_iff, List.forall₂_cons_left_iff]
    simp only [map_eq_ok_iff, ih]
    constructor
    · rintro ⟨_, rest, ⟨a, ha, rfl⟩, hrest, rfl⟩
      exact ⟨a, rest, ha, hrest, rfl⟩
    · rintro ⟨a, rest, ha, hrest, rfl⟩
      exact ⟨_, rest, ⟨a, ha, rfl⟩, hrest, rfl⟩

theorem array_eq_ok_iff {α : Type} {least : Nat} {check : Check α} {place : List String} {v : Json}
    {values : List α} :
    array least check place v = .ok values ↔
      ∃ xs, v = .arr xs ∧ List.Forall₂ (fun v a => check place v = .ok a) xs values ∧
        least ≤ values.length := by
  cases v with
  | arr xs =>
    simp only [array, Json.arr.injEq, exists_eq_left', ← items_eq_ok_iff]
    rcases items check place xs with faults | found
    · simp
    · dsimp only
      split_ifs with hlength
      · simp [fault]
        rintro rfl
        exact hlength
      · simp
        rintro rfl
        omega
  | _ => simp [array, fault]

theorem required_eq_ok_iff {α : Type} {key : String} {check : Check α} {place : List String}
    {v : Json} {a : α} :
    required key check place v = .ok a ↔
      ∃ w, v.field? key = some w ∧ check (place ++ [key]) w = .ok a := by
  unfold required
  cases v.field? key <;> simp [fault]

theorem optional_eq_ok_iff {α : Type} {key : String} {default : α} {check : Check α}
    {place : List String} {v : Json} {a : α} :
    optional key default check place v = .ok a ↔
      v.field? key = none ∧ a = default ∨
        ∃ w, v.field? key = some w ∧ check (place ++ [key]) w = .ok a := by
  unfold optional
  cases v.field? key <;> simp [eq_comm]

theorem object_eq_ok_iff {α : Type} {model : String} {check : Check α} {place : List String}
    {v : Json} {a : α} :
    object model check place v = .ok a ↔
      (∃ fields, v = .obj fields) ∧ check place v = .ok a := by
  cases v <;> simp [object, fault]

end Schema

/-- Only objects have fields. -/
theorem Json.exists_obj_of_field? {key : String} {v w : Json} (h : v.field? key = some w) :
    ∃ fields, v = .obj fields := by
  cases v with
  | obj fields => exact ⟨fields, rfl⟩
  | _ => cases h

namespace Remote

open Schema

/-- A filled string is a whole text with something in it. -/
theorem filledString_eq_ok_iff {place : List String} {v : Json} {s : String} :
    filledString place v = .ok s ↔ v = .str s ∧ s ≠ "" := by
  cases v with
  | str t =>
    have hempty : ∀ {t : String}, t.length < 1 ↔ t = "" := fun {t} => by
      rw [Nat.lt_one_iff, String.length_eq_zero_iff]
    simp only [filledString, boundedString, Json.str.injEq, ← LooseText.whole?_eq_some_iff]
    rcases t.whole? with _ | text
    · simp [fault]
    · dsimp only
      split_ifs with hshort
      · simp only [fault, reduceCtorEq, Option.some.injEq, false_iff]
        rintro ⟨rfl, hne⟩
        exact hne (hempty.mp hshort)
      · simp only [Except.ok.injEq, Option.some.injEq]
        constructor
        · rintro rfl
          exact ⟨rfl, mt hempty.mpr hshort⟩
        · exact fun h => h.1
  | _ => simp [filledString, boundedString, fault]

/-! ## What is described -/

/-- A value describes a parameter note: an object with a name and, if there are any, a type and a
description. A type that is missing or empty stands for any. -/
structure DescribesNote (v : Json) (note : ParameterNote) : Prop where
  /-- the name -/
  name : v.field? "name" = some (.str note.name)
  /-- the name is not empty -/
  name_ne : note.name ≠ ""
  /-- the type -/
  type : ∃ shown, (v.field? "type" = some (.str shown) ∨ v.field? "type" = none ∧ shown = []) ∧
    note.type = if shown = [] then anyType else shown
  /-- the description -/
  description : v.field? "description" = some (.str note.description) ∨
    v.field? "description" = none ∧ note.description = []

/-- A value describes documentation: an object with a title, a description, claims, steps and a
returned value, and with notes if there are any. -/
structure Describes (v : Json) (d : Documentation) : Prop where
  /-- the title -/
  title : v.field? "title" = some (.str d.title)
  /-- the title is not empty -/
  title_ne : d.title ≠ ""
  /-- the description -/
  description : v.field? "description" = some (.str d.description)
  /-- the claims -/
  functionality : v.field? "functionality" = some (.strings d.functionality)
  /-- there is a claim -/
  functionality_ne : d.functionality ≠ []
  /-- the notes, if there are any -/
  parameters : v.field? "parameters" = none ∧ d.parameters = [] ∨
    ∃ items, v.field? "parameters" = some (.arr items) ∧
      List.Forall₂ DescribesNote items d.parameters
  /-- the steps -/
  steps : v.field? "steps" = some (.strings d.steps)
  /-- there is a step -/
  steps_ne : d.steps ≠ []
  /-- the returned value -/
  returns : v.field? "returns" = some (.str d.returns)
  /-- the returned value is described -/
  returns_ne : d.returns ≠ ""

/-- **The check of a note** accepts what describes one. -/
theorem noteCheck_eq_ok_iff {place : List String} {v : Json} {note : ParameterNote} :
    noteCheck place v = .ok note ↔ DescribesNote v note := by
  simp only [noteCheck, object_eq_ok_iff, Checked.ap_eq_ok_iff, map_eq_ok_iff, required_eq_ok_iff,
    optional_eq_ok_iff, filledString_eq_ok_iff, string_eq_ok_iff]
  constructor
  · rintro ⟨-, _, description, ⟨_, type, ⟨name, ⟨w, hname, rfl, hne⟩, rfl⟩, htype, rfl⟩,
      hdescription, rfl⟩
    refine ⟨hname, hne, ?_, ?_⟩
    · rcases htype with ⟨hnone, rfl⟩ | ⟨w, hsome, rfl⟩
      · exact ⟨[], .inr ⟨hnone, rfl⟩, rfl⟩
      · exact ⟨type, .inl hsome, by simp⟩
    · rcases hdescription with ⟨hnone, rfl⟩ | ⟨w, hsome, rfl⟩
      · exact .inr ⟨hnone, rfl⟩
      · exact .inl hsome
  · obtain ⟨name, type, description⟩ := note
    rintro ⟨hname, hne, ⟨shown, htype, rfl⟩, hdescription⟩
    obtain ⟨given, hgiven, hshow⟩ : ∃ given,
        (v.field? "type" = none ∧ given = anyType ∨
            ∃ w, v.field? "type" = some w ∧ w = .str given) ∧
          (if given.isEmpty then anyType else given) = if shown = [] then anyType else shown := by
      rcases htype with hsome | ⟨hnone, rfl⟩
      · exact ⟨shown, .inr ⟨_, hsome, rfl⟩, by simp⟩
      · exact ⟨anyType, .inl ⟨hnone, rfl⟩, rfl⟩
    have hdescription' : v.field? "description" = none ∧ description = [] ∨
        ∃ w, v.field? "description" = some w ∧ w = .str description := by
      rcases hdescription with hsome | hnone
      · exact .inr ⟨_, hsome, rfl⟩
      · exact .inl hnone
    refine ⟨Json.exists_obj_of_field? hname, _, description,
      ⟨_, given, ⟨name, ⟨_, hname, rfl, hne⟩, rfl⟩, hgiven, rfl⟩, hdescription', ?_⟩
    rw [hshow]

/-- An array of strings. -/
theorem sentences_eq_ok_iff {place : List String} {v : Json} {sentences : List LooseText} :
    array 1 string place v = .ok sentences ↔ v = .strings sentences ∧ sentences ≠ [] := by
  have hitems : ∀ xs : List Json,
      List.Forall₂ (fun v s => string place v = .ok s) xs sentences ↔ xs = sentences.map .str := by
    intro xs
    simp only [string_eq_ok_iff]
    rw [← List.forall₂_map_right_iff (f := Json.str) (R := Eq), List.forall₂_eq_eq_eq]
  simp only [array_eq_ok_iff, hitems, Json.strings]
  rw [Nat.succ_le_iff, List.length_pos_iff]
  constructor
  · rintro ⟨_, rfl, rfl, hne⟩
    exact ⟨rfl, hne⟩
  · rintro ⟨rfl, hne⟩
    exact ⟨_, rfl, rfl, hne⟩

/-- The notes, if there are any. -/
theorem notes_eq_ok_iff {place : List String} {v : Json} {notes : List ParameterNote} :
    optional "parameters" [] (array 0 noteCheck) place v = .ok notes ↔
      v.field? "parameters" = none ∧ notes = [] ∨
        ∃ items, v.field? "parameters" = some (.arr items) ∧
          List.Forall₂ DescribesNote items notes := by
  simp only [optional_eq_ok_iff, array_eq_ok_iff, noteCheck_eq_ok_iff, Nat.zero_le, and_true]
  refine or_congr_right ⟨?_, ?_⟩
  · rintro ⟨_, hsome, items, rfl, hnotes⟩
    exact ⟨items, hsome, hnotes⟩
  · rintro ⟨items, hsome, hnotes⟩
    exact ⟨_, hsome, items, rfl, hnotes⟩

/-- **The check of documentation** accepts what describes documentation. -/
theorem documentationCheck_eq_ok_iff {place : List String} {v : Json} {d : Documentation} :
    documentationCheck place v = .ok d ↔ Describes v d := by
  simp only [documentationCheck, object_eq_ok_iff, Checked.ap_eq_ok_iff, map_eq_ok_iff,
    required_eq_ok_iff, notes_eq_ok_iff, filledString_eq_ok_iff, string_eq_ok_iff,
    sentences_eq_ok_iff]
  constructor
  · rintro ⟨-, _, returns, ⟨_, steps, ⟨_, parameters, ⟨_, functionality, ⟨_, description,
      ⟨title, ⟨_, htitle, rfl, htitle_ne⟩, rfl⟩, ⟨_, hdescription, rfl⟩, rfl⟩,
      ⟨_, hfunctionality, rfl, hfunctionality_ne⟩, rfl⟩, hparameters, rfl⟩,
      ⟨_, hsteps, rfl, hsteps_ne⟩, rfl⟩, ⟨_, hreturns, rfl, hreturns_ne⟩, rfl⟩
    exact ⟨htitle, htitle_ne, hdescription, hfunctionality, hfunctionality_ne, hparameters, hsteps,
      hsteps_ne, hreturns, hreturns_ne⟩
  · rintro ⟨htitle, htitle_ne, hdescription, hfunctionality, hfunctionality_ne, hparameters,
      hsteps, hsteps_ne, hreturns, hreturns_ne⟩
    exact ⟨Json.exists_obj_of_field? htitle, _, _, ⟨_, _, ⟨_, _, ⟨_, _, ⟨_, _,
      ⟨_, ⟨_, htitle, rfl, htitle_ne⟩, rfl⟩, ⟨_, hdescription, rfl⟩, rfl⟩,
      ⟨_, hfunctionality, rfl, hfunctionality_ne⟩, rfl⟩, hparameters, rfl⟩,
      ⟨_, hsteps, rfl, hsteps_ne⟩, rfl⟩, ⟨_, hreturns, rfl, hreturns_ne⟩, rfl⟩

/-! ## Accepted values -/

/-- **What is accepted**: a value that describes documentation of the routine's parameters. -/
theorem accept_eq_ok_iff {r : Routine} {v : Json} {d : Documentation} :
    accept r v = .ok d ↔ Describes v d ∧ d.parameterNames = r.parameterNames := by
  have hcheck : ∀ d, documentationCheck [] v = .ok d ↔ Describes v d := fun d =>
    documentationCheck_eq_ok_iff
  rw [← hcheck, accept]
  rcases documentationCheck [] v with faults | found
  · simp
  · dsimp only
    split_ifs with hnames
    · simp only [Except.ok.injEq]
      exact ⟨fun h => ⟨h, h ▸ hnames⟩, fun h => h.1⟩
    · simp only [Except.ok.injEq, false_iff]
      rintro ⟨rfl, h⟩
      exact hnames h

theorem parseReply_eq_ok_iff {reply : LooseText} {r : Routine} {d : Documentation} :
    parseReply reply r = .ok d ↔ ∃ v, readObject reply = .ok v ∧ accept r v = .ok d := by
  rw [parseReply]
  rcases readObject reply with stop | v
  · simp [Except.bind]
  · simp [Except.bind]

end Remote

end Docwright
