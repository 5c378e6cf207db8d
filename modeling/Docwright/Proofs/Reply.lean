import Mathlib
import Docwright.Proofs.Fallback
import Docwright.Proofs.Shape
import Docwright.Proofs.Synthesis

/-!
# Replies

A reply that is the text of one object is taken for that object: there is no fence in it, for a
fence stands on lines of its own and the text is one line, and the widest text between braces is all
of it. So it gives documentation exactly if the object describes documentation of the routine's
parameters.

The documentation that a routine gives itself is described by its own JSON value, so a service that
answers with it changes nothing.
-/

namespace Docwright

namespace Remote

/-! ## The object in a one-line text -/

theorem fencedBehind?_eq_none {run : LooseText} (h : Glyph.char '\n' ∉ run) (rest : LooseText) :
    fencedBehind? run rest = none := by
  induction run with
  | nil => rfl
  | cons g run ih =>
    obtain ⟨hg, hrun⟩ := not_or.mp (mt List.mem_cons.mpr h)
    rw [fencedBehind?, ih hrun]
    exact if_neg (Ne.symm hg)

/-- There is no fence on one line. -/
theorem fenced?_eq_none {s : LooseText} (h : Glyph.char '\n' ∉ s) (opening : LooseText) :
    fenced? opening s = none := by
  induction s with
  | nil => rfl
  | cons g s ih =>
    have hhere : ∀ rest, Text.after? opening (g :: s) = some rest →
        fencedBehind? (rest.takeWhile (Glyph.isIn Text.isBlank))
          (rest.dropWhile (Glyph.isIn Text.isBlank)) = none := by
      intro rest hrest
      rw [Text.after?_eq_some_iff] at hrest
      refine fencedBehind?_eq_none (fun hmem => h ?_) _
      rw [hrest]
      exact List.mem_append_right _ (List.takeWhile_subset _ hmem)
    rw [fenced?]
    rcases hafter : Text.after? opening (g :: s) with _ | rest
    · exact ih fun hmem => h (List.mem_cons_of_mem g hmem)
    · dsimp only
      rw [hhere rest hafter]
      exact ih fun hmem => h (List.mem_cons_of_mem g hmem)

/-- One line between braces is an object by itself. -/
theorem objectText_of_braces {inner : LooseText}
    (h : Glyph.char '\n' ∉ .char '{' :: (inner ++ [.char '}'])) :
    objectText (.char '{' :: (inner ++ [.char '}'])) = .char '{' :: (inner ++ [.char '}']) := by
  have hbraced : braced? (.char '{' :: (inner ++ [.char '}'])) =
      some (.char '{' :: (inner ++ [.char '}'])) := by
    have hsplit := @Text.splitLast?_append Glyph _ (.char '}') [] List.not_mem_nil
      (.char '{' :: inner)
    rw [List.cons_append] at hsplit
    rw [braced?, List.dropWhile_cons_of_neg (by decide), hsplit]
    rfl
  simp [objectText, fenced?_eq_none h, hbraced]

/-- The text of an object stands between braces. -/
theorem exists_braces_renderAt (indent : Option Nat) (depth : Nat)
    (fields : List (LooseText × Json)) :
    ∃ inner, Json.renderAt indent depth (.obj fields) = '{' :: (inner ++ ['}']) := by
  cases fields with
  | nil => exact ⟨[], rfl⟩
  | cons field fields =>
    obtain ⟨key, value⟩ := field
    simp only [Json.renderAt_obj, List.cons_append]
    exact ⟨_, rfl⟩

/-- **The object of a reply** is found where the reply is the text of an object. -/
theorem readObject_render {fields : List (LooseText × Json)}
    (h : (Json.obj fields).WellFormed Text.IsSettled Json.maxDepth) :
    readObject ((Json.obj fields).render none) = .ok (.obj fields) := by
  obtain ⟨inner, htext⟩ := exists_braces_renderAt none 0 fields
  have hchars : LooseText.ofString ((Json.obj fields).render none) =
      .char '{' :: (LooseText.ofChars inner ++ [.char '}']) := by
    rw [LooseText.ofString, Json.render, String.toList_ofList, htext]
    simp
  have hline : Glyph.char '\n' ∉ LooseText.ofString ((Json.obj fields).render none) := by
    intro hmem
    obtain ⟨c, hc, hnewline⟩ := List.mem_map.mp hmem
    rw [Glyph.char.inj hnewline, Json.render, String.toList_ofList] at hc
    rcases h.inText none 0 _ hc with hprinted | ⟨-, hindent⟩
    · cases hprinted
    · cases hindent
  have hobject : objectText ((Json.obj fields).render none) = (Json.obj fields).render none := by
    rw [hchars] at hline ⊢
    exact objectText_of_braces hline
  rw [readObject, hobject, Json.read_render h none]

/-! ## Documentation of one's own -/

theorem describesNote_toJson {note : ParameterNote} (hname : note.name ≠ "")
    (htype : note.type ≠ []) : DescribesNote note.toJson note where
  name := rfl
  name_ne := hname
  type := ⟨note.type, .inl rfl, by rw [if_neg htype]⟩
  description := .inl rfl

/-- Complete documentation is described by its own JSON value. -/
theorem describes_toJson {d : Documentation} (htitle : d.title ≠ "")
    (hfunctionality : d.functionality ≠ []) (hsteps : d.steps ≠ []) (hreturns : d.returns ≠ "")
    (hnotes : ∀ note ∈ d.parameters, note.name ≠ "" ∧ note.type ≠ []) : Describes d.toJson d where
  title := rfl
  title_ne := htitle
  description := rfl
  functionality := rfl
  functionality_ne := hfunctionality
  parameters := by
    refine .inr ⟨_, rfl, ?_⟩
    rw [List.forall₂_map_left_iff]
    exact List.forall₂_same.mpr fun note hnote =>
      describesNote_toJson (hnotes note hnote).1 (hnotes note hnote).2
  steps := rfl
  steps_ne := hsteps
  returns := rfl
  returns_ne := hreturns

theorem describes_synthesize {r : Routine} (h : ∀ p ∈ r.parameters, p.name ≠ "") :
    Describes r.synthesize.toJson r.synthesize := by
  refine describes_toJson r.title_ne_empty (mt List.map_eq_nil_iff.mp r.functionality_ne_nil)
    (mt List.map_eq_nil_iff.mp r.steps_ne_nil) ?_ ?_
  · intro hempty
    have hblank := r.allBlank_returns
    rw [show r.returns = "" from hempty] at hblank
    cases hblank
  · intro note hnote
    have hname : note.name ∈ r.parameterNames := by
      rw [← r.map_name_parameterNotes]
      exact List.mem_map_of_mem hnote
    obtain ⟨p, hp, hpname⟩ := List.mem_map.mp hname
    exact ⟨hpname ▸ h p hp, r.type_ne_empty hnote⟩

/-! ## The text of an object as a reply -/

theorem parseReply_render {fields : List (LooseText × Json)}
    (h : (Json.obj fields).WellFormed Text.IsSettled Json.maxDepth) (r : Routine) :
    parseReply ((Json.obj fields).render none) r = accept r (.obj fields) := by
  rw [parseReply, readObject_render h]
  rfl

/-- **Replies are taken by their shape.** The text of an object gives documentation exactly if the
object describes it and it is about the routine's parameters; otherwise it fails, and it never
crashes. A routine whose parameters all have names is given its own documentation back from the
text of it. -/
theorem parseReply_render_iff (r : Routine) :
    (∀ fields, (Json.obj fields).WellFormed Text.IsSettled Json.maxDepth →
      (∀ d, parseReply ((Json.obj fields).render none) r = .ok d ↔
        Describes (.obj fields) d ∧ d.parameterNames = r.parameterNames) ∧
      ((¬ ∃ d, Describes (.obj fields) d ∧ d.parameterNames = r.parameterNames) →
        ∃ failure, parseReply ((Json.obj fields).render none) r = .error (.failed failure))) ∧
    ((∀ p ∈ r.parameters, p.name ≠ "") →
      parseReply (r.synthesize.toJson.render none) r = .ok r.synthesize) := by
  have hiff : ∀ fields, (Json.obj fields).WellFormed Text.IsSettled Json.maxDepth → ∀ d,
      parseReply ((Json.obj fields).render none) r = .ok d ↔
        Describes (.obj fields) d ∧ d.parameterNames = r.parameterNames := by
    intro fields h d
    rw [parseReply_render h, accept_eq_ok_iff]
  refine ⟨fun fields h => ⟨hiff fields h, fun hnone => ?_⟩, fun hnames => ?_⟩
  · rcases hresult : parseReply ((Json.obj fields).render none) r with stop | d
    · cases stop with
      | failed failure => exact ⟨failure, rfl⟩
      | crashed crash =>
        rw [parseReply_render h] at hresult
        exact absurd hresult (accept_ne_crashed r _ crash)
    · exact absurd ⟨d, (hiff fields h d).mp hresult⟩ hnone
  · have hsettled : ∀ s ∈ r.synthesize.looseTexts, Text.IsSettled s := fun s hs => by
      obtain ⟨text, rfl⟩ := Routine.exists_string_of_mem_looseTexts hs
      exact Text.isSettled_ofString text
    have hform := Documentation.wellFormed_toJson Text.isSettled_ofString hsettled 987
    exact (hiff _ hform _).mpr ⟨describes_synthesize hnames, r.map_name_parameterNotes⟩

/-- An empty type and a missing description are filled in, a field that nobody asked for is ignored,
and the same text is refused for a routine without parameters; what the routine gives itself is
taken. -/
theorem parseReply_render_iff_defaults :
    let r : Routine := { name := "f", parameters := [{ name := "x" }] }
    let fields : List (LooseText × Json) :=
      [("title", .str "T"), ("description", .str ""), ("functionality", .strings ["a"]),
        ("parameters", .arr [.obj [("name", .str "x"), ("type", .str "")]]),
        ("steps", .strings ["s"]), ("returns", .str "r"),
        ("size", .num (.binary (.finite false 6755399441055744 (-52))))]
    (Json.obj fields).WellFormed Text.IsSettled Json.maxDepth ∧
      parseReply ((Json.obj fields).render none) r =
        .ok ⟨"T", "", ["a"], [⟨"x", "Any", ""⟩], ["s"], "r"⟩ ∧
      (∃ failure, parseReply ((Json.obj fields).render none) { name := "f" } =
        .error (.failed failure)) ∧
      parseReply (r.synthesize.toJson.render none) r = .ok r.synthesize := by
  intro r fields
  have hform : (Json.obj fields).WellFormed Text.IsSettled Json.maxDepth := by
    have hnote : (Json.obj [("name", .str "x"), ("type", .str "")]).WellFormed
        Text.IsSettled 988 := by
      refine .record Text.isSettled_ofString (by simp) (by simp) ?_
      simp only [List.forall_mem_cons, List.not_mem_nil, false_implies, implies_true, and_true]
      exact ⟨.str (Text.isSettled_ofString _), .str (Text.isSettled_ofString _)⟩
    refine .record Text.isSettled_ofString (by simp [fields]) (by simp [fields]) ?_
    simp only [fields, List.forall_mem_cons, List.not_mem_nil, false_implies, implies_true,
      and_true]
    exact ⟨.str (Text.isSettled_ofString _), .str (Text.isSettled_ofString _),
      .strings (by decide +kernel), .arr (List.forall_mem_singleton.mpr hnote),
      .strings (by decide +kernel), .str (Text.isSettled_ofString _),
      .num ⟨by decide, by decide, by decide, .inl (by decide)⟩⟩
  have hdescribes : Describes (.obj fields) ⟨"T", "", ["a"], [⟨"x", "Any", ""⟩], ["s"], "r"⟩ :=
    ⟨rfl, by decide, rfl, rfl, by decide, .inr ⟨_, rfl, .cons
      ⟨rfl, by decide, ⟨[], .inl rfl, rfl⟩, .inr ⟨rfl, rfl⟩⟩ .nil⟩, rfl, by decide, rfl, by decide⟩
  obtain ⟨htaken, hown⟩ := parseReply_render_iff r
  refine ⟨hform, ((htaken fields hform).1 _).mpr ⟨hdescribes, rfl⟩, ?_, ?_⟩
  · refine ((parseReply_render_iff { name := "f" }).1 fields hform).2 ?_
    rintro ⟨d, hd, hnames⟩
    have hnone : d.parameters = [] := List.map_eq_nil_iff.mp hnames
    rcases hd.parameters with ⟨hfield, -⟩ | ⟨items, hfield, hnotes⟩
    · cases hfield
    · rw [hnone, List.forall₂_nil_right_iff] at hnotes
      rw [hnotes] at hfield
      cases hfield
  · exact hown (by decide)

end Remote

end Docwright
