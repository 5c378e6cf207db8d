import Mathlib
import Docwright.Proofs.Shape
import Docwright.Proofs.Synthesis
import Docwright.Remote.Fallback
import Docwright.Report.Validation

/-!
# Validation

What validation finds in documentation that a routine gave itself, and in documentation that came in
a reply.

* A routine's own documentation is complete, so the only findings are missing docstrings, and their
  number is what coverage leaves of the whole (`validate_documentAll`).
* A reply is checked when it is taken, but not for the same things: a returned value that is
  described by blanks is long enough for the shape of a reply and not enough for validation. That is
  the one difference (`errors_of_parseReply`).
-/

namespace Docwright

/-! ## Complaints -/

/-- Where there are claims and steps and the notes match, only the returned value is left to
complain about. -/
theorem Documented.contentComplaints_eq {r : Routine} {d : Documentation}
    (hfunctionality : d.functionality ≠ []) (hsteps : d.steps ≠ [])
    (hnames : d.parameterNames = r.parameterNames) :
    contentComplaints (r, d) = if Text.allBlank d.returns.toList then [.noReturns] else [] := by
  simp [contentComplaints, hfunctionality, hsteps, hnames]

namespace Remote

theorem documentAll_none (workers : Option Int) (routines : List Routine) :
    documentAll none workers routines = .ok (routines.map fun r => (r, r.synthesize)) := by
  rw [documentAll]
  induction routines with
  | nil => rfl
  | cons r routines ih =>
    rw [documentEach, document]
    dsimp only
    rw [ih]
    rfl

end Remote

/-! ## Missing docstrings -/

/-- The routines without a docstring, or with an empty one. -/
def undocumented (routines : List Routine) : List Routine :=
  routines.filter fun r => r.docstring.getD "" = ""

/-- The messages about missing docstrings. -/
def missingDocstrings (routines : List Routine) : List LooseText :=
  (undocumented routines).map fun r =>
    r.label ++ ": " ++ "missing docstring (documentation is inferred)"

theorem Routine.isDocumented_eq_false_iff {r : Routine} :
    r.isDocumented = false ↔ r.docstring.getD "" = "" := by
  cases hd : r.docstring with
  | none => simp [Routine.isDocumented, hd]
  | some s => simp [Routine.isDocumented, hd]

/-- One routine and its own documentation: the only complaint is a missing docstring. -/
theorem Documented.validate_synthesize (strict : Bool) (r : Routine) :
    Documented.validate strict (r, r.synthesize) =
      if strict then { errors := missingDocstrings [r] }
      else { warnings := missingDocstrings [r] } := by
  have hcontent : Documented.contentComplaints (r, r.synthesize) = [] := by
    rw [contentComplaints_eq (d := r.synthesize) (mt List.map_eq_nil_iff.mp r.functionality_ne_nil)
      (mt List.map_eq_nil_iff.mp r.steps_ne_nil) r.map_name_parameterNotes]
    exact if_neg (Bool.not_eq_true _ ▸ r.allBlank_returns)
  have hmissing : (Documented.docstringComplaints (r, r.synthesize)).map
      (Documented.sentence (r, r.synthesize)) = missingDocstrings [r] := by
    by_cases h : r.docstring.getD "" = ""
    · have hdocumented := Routine.isDocumented_eq_false_iff.mpr h
      have hfilter : undocumented [r] = [r] := List.filter_cons_of_pos (by simpa using h)
      rw [docstringComplaints, hdocumented, missingDocstrings, hfilter]
      rfl
    · simp [docstringComplaints, missingDocstrings, undocumented,
        mt Routine.isDocumented_eq_false_iff.mp h, h]
  simp only [Documented.validate, hcontent, hmissing, List.map_nil, List.append_nil]

theorem validate_synthesize (strict : Bool) (routines : List Routine) :
    validate strict (routines.map fun r => (r, r.synthesize)) =
      if strict then { errors := missingDocstrings routines }
      else { warnings := missingDocstrings routines } := by
  have hmessages :
      routines.flatMap (fun r => missingDocstrings [r]) = missingDocstrings routines := by
    induction routines with
    | nil => rfl
    | cons r routines ih =>
      rw [List.flatMap_cons, ih, missingDocstrings, missingDocstrings, missingDocstrings,
        ← List.map_append, undocumented, undocumented, undocumented, ← List.filter_append,
        List.singleton_append]
  rw [validate, List.flatMap_map, List.flatMap_map]
  simp only [Documented.validate_synthesize]
  cases strict <;> simp [hmessages]

/-! ## Coverage -/

/-- The share of routines that have a docstring before it is rounded, as a numerator and a
denominator. -/
def coverageRatio (routines : List Routine) : Nat × Nat :=
  if routines.isEmpty then (1, 1) else (documentedCount routines, routines.length)

theorem coverage_eq (routines : List Routine) :
    coverage routines =
      .ofRatio false (coverageRatio routines).1 (coverageRatio routines).2 := by
  unfold coverage coverageRatio
  split_ifs <;> rfl

theorem length_undocumented (routines : List Routine) :
    ((undocumented routines).length : ℚ) = routines.length *
      (1 - ((coverageRatio routines).1 : ℚ) / (coverageRatio routines).2) := by
  cases routines with
  | nil => simp [undocumented]
  | cons r routines =>
    generalize hall : r :: routines = all
    have hpos : (0 : ℚ) < all.length := by
      rw [← hall]
      exact_mod_cast Nat.succ_pos _
    have hratio : coverageRatio all = (documentedCount all, all.length) := by
      rw [← hall]
      rfl
    -- every routine is documented or not
    have hsplit : documentedCount all + (undocumented all).length = all.length := by
      rw [documentedCount, undocumented, ← List.countP_eq_length_filter,
        List.length_eq_countP_add_countP (fun r : Routine => r.isDocumented)]
      congr 1
      refine List.countP_congr fun r _ => ?_
      simp [Routine.isDocumented_eq_false_iff]
    have hsplit' : (documentedCount all : ℚ) + (undocumented all).length = all.length := by
      exact_mod_cast hsplit
    rw [hratio, mul_sub, mul_one, mul_div_cancel₀ _ hpos.ne']
    linarith

/-- **Documentation of one's own is valid.** Without a service every routine of a batch documents
itself, validation has nothing to say about that but which docstrings are missing, a warning each or
an error each, and the share that coverage rounds counts the same routines. -/
theorem validate_documentAll (workers : Option Int) (routines : List Routine) :
    ∃ pairs, Remote.documentAll none workers routines = .ok pairs ∧
      validate false pairs = { errors := [], warnings := missingDocstrings routines } ∧
      validate true pairs = { errors := missingDocstrings routines, warnings := [] } ∧
      coverage routines =
        .ofRatio false (coverageRatio routines).1 (coverageRatio routines).2 ∧
      ((missingDocstrings routines).length : ℚ) = routines.length *
        (1 - ((coverageRatio routines).1 : ℚ) / (coverageRatio routines).2) := by
  refine ⟨_, Remote.documentAll_none workers routines, validate_synthesize false routines,
    validate_synthesize true routines, coverage_eq routines, ?_⟩
  rw [missingDocstrings, List.length_map]
  exact length_undocumented routines

namespace Remote

/-! ## Replies -/

/-- **What validation says of an accepted reply**: at most that the returned value is described by
blanks. -/
theorem errors_of_parseReply {reply : LooseText} {r : Routine} {d : Documentation}
    (h : parseReply reply r = .ok d) :
    (validate false [(r, d)]).errors =
      if Text.allBlank d.returns.toList then [r.label ++ ": " ++ "empty returns description"]
      else [] := by
  obtain ⟨v, -, haccept⟩ := parseReply_eq_ok_iff.mp h
  obtain ⟨hdescribes, hnames⟩ := accept_eq_ok_iff.mp haccept
  have hcontent := Documented.contentComplaints_eq hdescribes.functionality_ne
    hdescribes.steps_ne hnames
  simp only [validate, List.flatMap_cons, List.flatMap_nil, List.append_nil, Documented.validate,
    hcontent, if_neg Bool.false_ne_true]
  split_ifs <;> rfl

/-- A reply whose returned value is described by a blank. -/
def blankReply : String :=
  "\x7b\"title\": \"T\", \"description\": \"\", \"functionality\": [\"a\"], " ++
    "\"steps\": [\"s\"], \"returns\": \" \"\x7d"

theorem parseReply_blankReply :
    parseReply blankReply { name := "f" } = .ok ⟨"T", "", ["a"], [], ["s"], " "⟩ := by
  cbv

/-- The blank passes for a description when the reply is taken and not when it is validated. -/
theorem errors_of_parseReply_blank :
    parseReply blankReply { name := "f" } = .ok ⟨"T", "", ["a"], [], ["s"], " "⟩ ∧
      (validate false [({ name := "f" }, ⟨"T", "", ["a"], [], ["s"], " "⟩)]).errors =
        ["<input>:f: empty returns description"] := by
  refine ⟨parseReply_blankReply, (errors_of_parseReply parseReply_blankReply).trans ?_⟩
  decide

/-- Not every accepted reply is valid. -/
theorem not_errors_eq_nil_of_parseReply :
    ¬ ∀ (reply : LooseText) (r : Routine) (d : Documentation), parseReply reply r = .ok d →
      (validate false [(r, d)]).errors = [] := by
  intro h
  have hnone := h _ _ _ parseReply_blankReply
  revert hnone
  decide

end Remote

end Docwright
