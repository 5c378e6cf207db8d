import Mathlib
import Docwright.Proofs.PrintedText
import Docwright.Report.Export

/-!
# Lossless export

The export of documented routines keeps everything: its text is ASCII, the value is read back from
it, and the value tells the routines and their documentation apart. There is one under every indent
that is counted, and under no other.

The loose texts of a record are listed beside it (`looseTexts`); its other texts are strings. Where
the loose ones are settled, the JSON value of the record is well formed, and so it comes back. Each
`toJson` is injective, since it puts every field under a name of its own.
-/

namespace Docwright

/-! ## The loose texts of a record -/

/-- The loose texts of a parameter note. -/
def ParameterNote.looseTexts (note : ParameterNote) : List LooseText :=
  [note.type, note.description]

/-- The loose texts of some documentation. -/
def Documentation.looseTexts (d : Documentation) : List LooseText :=
  d.description :: (d.functionality ++ d.steps ++ d.parameters.flatMap (·.looseTexts))

/-- The loose texts of a documented routine. -/
def Documented.looseTexts (pair : Documented) : List LooseText :=
  pair.1.fileName :: pair.2.looseTexts

/-! ## Well-formed values -/

section

variable {p : LooseText → Prop} (hp : ∀ s : String, p s)
include hp

/-- An object under names that are strings. -/
theorem Json.WellFormed.record {room : Nat} {fields : List (LooseText × Json)}
    (hnames : (fields.map (·.1)).Nodup) (hwhole : ∀ field ∈ fields, field.1.whole?.isSome = true)
    (h : ∀ field ∈ fields, Json.WellFormed p room field.2) :
    Json.WellFormed p (room + 1) (.obj fields) := by
  refine .obj hnames (fun field hfield => ?_) h
  obtain ⟨name, hname⟩ := Option.isSome_iff_exists.mp (hwhole field hfield)
  rw [LooseText.whole?_eq_some_iff.mp hname]
  exact hp name

theorem Json.WellFormed.ofOption {room : Nat} (text : Option String) :
    Json.WellFormed p room (.ofOption text) := by
  cases text with
  | none => exact .null
  | some s => exact .str (hp s)

omit hp in
theorem Json.WellFormed.strings {room : Nat} {items : List LooseText} (h : ∀ s ∈ items, p s) :
    Json.WellFormed p (room + 1) (.strings items) :=
  .arr (List.forall_mem_map.mpr fun s hs => .str (h s hs))

theorem Parameter.wellFormed_toJson (q : Parameter) (room : Nat) :
    q.toJson.WellFormed p (room + 1) := by
  refine .record hp (by simp) (by simp) ?_
  simp only [List.forall_mem_cons, List.not_mem_nil, false_implies, implies_true, and_true]
  exact ⟨.str (hp _), .ofOption hp _, .ofOption hp _, .bool _⟩

/-- A routine has one loose text, its label. -/
theorem Routine.wellFormed_toJson {r : Routine} (h : p r.fileName) (room : Nat) :
    r.toJson.WellFormed p (room + 3) := by
  have harray : (Json.arr (r.parameters.map (·.toJson))).WellFormed p (room + 2) :=
    .arr (List.forall_mem_map.mpr fun q _ => q.wellFormed_toJson hp room)
  refine .record hp (by simp) (by simp) ?_
  simp only [List.forall_mem_cons, List.not_mem_nil, false_implies, implies_true, and_true]
  exact ⟨.str (hp _), .str (hp _), .str (hp _), harray, .ofOption hp _, .ofOption hp _, .str h⟩

theorem ParameterNote.wellFormed_toJson {note : ParameterNote} (h : ∀ s ∈ note.looseTexts, p s)
    (room : Nat) : note.toJson.WellFormed p (room + 1) := by
  simp only [ParameterNote.looseTexts, List.forall_mem_cons] at h
  obtain ⟨htype, hdescription, -⟩ := h
  refine .record hp (by simp) (by simp) ?_
  simp only [List.forall_mem_cons, List.not_mem_nil, false_implies, implies_true, and_true]
  exact ⟨.str (hp _), .str htype, .str hdescription⟩

theorem Documentation.wellFormed_toJson {d : Documentation} (h : ∀ s ∈ d.looseTexts, p s)
    (room : Nat) : d.toJson.WellFormed p (room + 3) := by
  simp only [Documentation.looseTexts, List.forall_mem_cons, List.forall_mem_append,
    List.forall_mem_flatMap] at h
  obtain ⟨hdescription, ⟨hfunctionality, hsteps⟩, hparameters⟩ := h
  have harray : (Json.arr (d.parameters.map (·.toJson))).WellFormed p (room + 2) :=
    .arr (List.forall_mem_map.mpr fun note hnote =>
      note.wellFormed_toJson hp (hparameters note hnote) room)
  refine .record hp (by simp) (by simp) ?_
  simp only [List.forall_mem_cons, List.not_mem_nil, false_implies, implies_true, and_true]
  exact ⟨.str (hp _), .str hdescription, .strings hfunctionality, harray, .strings hsteps,
    .str (hp _)⟩

/-- **An export** is a well-formed value. -/
theorem Documented.wellFormed_listToJson {pairs : List Documented}
    (h : ∀ pair ∈ pairs, ∀ s ∈ Documented.looseTexts pair, p s) (room : Nat) :
    (Documented.listToJson pairs).WellFormed p (room + 5) := by
  refine .arr (List.forall_mem_map.mpr fun pair hpair => ?_)
  obtain ⟨hlabel, hdocumentation⟩ := List.forall_mem_cons.mp (h pair hpair)
  refine .record hp (by simp) (by simp) ?_
  simp only [List.forall_mem_cons, List.not_mem_nil, false_implies, implies_true, and_true]
  exact ⟨Routine.wellFormed_toJson hp hlabel room,
    Documentation.wellFormed_toJson hp hdocumentation room⟩

end

/-! ## Injectivity -/

theorem Json.ofOption_injective : Function.Injective Json.ofOption := by
  intro a b h
  cases a <;> cases b <;> simp_all [Json.ofOption]

theorem Json.strings_injective : Function.Injective Json.strings := by
  intro a b h
  exact List.map_injective_iff.mpr (fun s t hst => Json.str.inj hst) (Json.arr.inj h)

theorem Parameter.toJson_injective : Function.Injective Parameter.toJson := by
  rintro ⟨_, _, _, _⟩ ⟨_, _, _, _⟩ h
  simpa [Parameter.toJson, Json.ofOption_injective.eq_iff] using h

theorem Routine.toJson_injective : Function.Injective Routine.toJson := by
  rintro ⟨_, _, _, _, _, _, _⟩ ⟨_, _, _, _, _, _, _⟩ h
  simpa [Routine.toJson, Json.ofOption_injective.eq_iff,
    (List.map_injective_iff.mpr Parameter.toJson_injective).eq_iff] using h

theorem ParameterNote.toJson_injective : Function.Injective ParameterNote.toJson := by
  rintro ⟨_, _, _⟩ ⟨_, _, _⟩ h
  simpa [ParameterNote.toJson] using h

theorem Documentation.toJson_injective : Function.Injective Documentation.toJson := by
  rintro ⟨_, _, _, _, _, _⟩ ⟨_, _, _, _, _, _⟩ h
  simpa [Documentation.toJson, Json.strings_injective.eq_iff,
    (List.map_injective_iff.mpr ParameterNote.toJson_injective).eq_iff] using h

/-- **An export tells apart** what it was made of. -/
theorem Documented.listToJson_injective : Function.Injective Documented.listToJson := by
  intro a b h
  refine List.map_injective_iff.mpr ?_ (Json.arr.inj h)
  rintro ⟨r, d⟩ ⟨r', d'⟩ hpair
  simpa [Documented.toJson, Routine.toJson_injective.eq_iff, Documentation.toJson_injective.eq_iff]
    using hpair

/-! ## The text of an export -/

/-- The indents under which an export has a text: none, and those that are counted. -/
def IsCounted (indent : Option Int) : Prop :=
  ∀ n ∈ indent, -indentBound ≤ n ∧ n < indentBound

instance (indent : Option Int) : Decidable (IsCounted indent) :=
  match indent with
  | none => isTrue (fun _ hn => by cases hn)
  | some n => decidable_of_iff (-indentBound ≤ n ∧ n < indentBound)
      ⟨fun h _ hn => Option.some.inj hn ▸ h, fun h => h n rfl⟩

/-- A counted indent has a width. -/
theorem exists_indentWidth {indent : Option Int} (h : IsCounted indent) :
    ∃ width, indentWidth indent = .ok width := by
  cases indent with
  | none => exact ⟨none, rfl⟩
  | some n => exact ⟨some n.toNat, if_pos (h n rfl)⟩

theorem indentWidth_of_not_isCounted {indent : Option Int} (h : ¬IsCounted indent) :
    indentWidth indent = .error .wideIndent := by
  cases indent with
  | none => exact absurd (fun _ hn => by cases hn) h
  | some n => exact if_neg fun hn => h fun _ hm => Option.some.inj hm ▸ hn

/-- **A wide indent** ends an export, whatever it holds. -/
theorem exportText_of_not_isCounted {indent : Option Int} (h : ¬IsCounted indent)
    (pairs : List Documented) : exportText pairs indent = .error .wideIndent := by
  rw [exportText, indentWidth_of_not_isCounted h]
  rfl

/-- An export is one value under some width. -/
theorem exists_width_of_exportText {pairs : List Documented} {indent : Option Int} {text : String}
    (h : exportText pairs indent = .ok text) :
    ∃ width, text = (Documented.listToJson pairs).render width := by
  unfold exportText at h
  cases hwidth : indentWidth indent with
  | error crash =>
    rw [hwidth] at h
    cases h
  | ok width =>
    rw [hwidth] at h
    exact ⟨width, (Except.ok.inj h).symm⟩

/-- An export is read back from its text. -/
theorem read_exportText {pairs : List Documented}
    (hpairs : ∀ pair ∈ pairs, ∀ s ∈ Documented.looseTexts pair, Text.IsSettled s)
    {indent : Option Int} {text : String} (h : exportText pairs indent = .ok text) :
    Json.read text = .ok (Documented.listToJson pairs) := by
  obtain ⟨width, rfl⟩ := exists_width_of_exportText h
  exact Json.read_render (Documented.wellFormed_listToJson Text.isSettled_ofString hpairs 985) width

/-- An export is ASCII. -/
theorem toNat_lt_of_mem_exportText {pairs : List Documented} {indent : Option Int} {text : String}
    (h : exportText pairs indent = .ok text) {c : Char} (hc : c ∈ text.toList) :
    c.toNat < 0x80 := by
  obtain ⟨width, rfl⟩ := exists_width_of_exportText h
  have hform : (Documented.listToJson pairs).WellFormed (fun _ => True) 5 :=
    Documented.wellFormed_listToJson (fun _ => trivial) (fun _ _ _ _ => trivial) 0
  rw [Json.render, String.toList_ofList] at hc
  rcases hform.inText _ 0 c hc with hprinted | ⟨rfl, -⟩
  · simp only [Json.isPrinted, Bool.and_eq_true, decide_eq_true_eq] at hprinted
    omega
  · decide

/-- **Export is lossless.** Under a counted indent there is a text. It is ASCII, the exported value
is read back from it, and only the same routines and documentation have it for their text, whatever
the indents. -/
theorem exportText_lossless {pairs : List Documented}
    (h : ∀ pair ∈ pairs, ∀ s ∈ Documented.looseTexts pair, Text.IsSettled s)
    {indent : Option Int} (hindent : IsCounted indent) :
    ∃ text, exportText pairs indent = .ok text ∧
      (∀ c ∈ text.toList, c.toNat < 0x80) ∧
      Json.read text = .ok (Documented.listToJson pairs) ∧
      ∀ (others : List Documented) (other : Option Int),
        (∀ pair ∈ others, ∀ s ∈ Documented.looseTexts pair, Text.IsSettled s) →
        exportText others other = .ok text → others = pairs := by
  obtain ⟨width, hwidth⟩ := exists_indentWidth hindent
  have htext : exportText pairs indent = .ok ((Documented.listToJson pairs).render width) := by
    rw [exportText, hwidth]
    rfl
  have hread := read_exportText h htext
  refine ⟨_, htext, fun c hc => toNat_lt_of_mem_exportText htext hc, hread, ?_⟩
  intro others other hothers hsame
  have hback := read_exportText hothers hsame
  rw [hread] at hback
  exact (Documented.listToJson_injective (Except.ok.inj hback)).symm

/-- A character beyond the first plane is written as a pair and a surrogate by itself, and below
zero an indent leaves the newlines; without its docstring the routine has another export, whatever
the indent. -/
theorem exportText_lossless_pair :
    let r : Routine := { name := "f", docstring := some "😀\x7f\"" }
    let d : Documentation := ⟨"F", "", [[.lone 0]], [⟨"x", "Any", ""⟩], ["Run."], "Nothing."⟩
    (∀ pair ∈ [(r, d)], ∀ s ∈ Documented.looseTexts pair, Text.IsSettled s) ∧
      IsCounted (some (-1)) ∧
      ∃ text, exportText [(r, d)] (some (-1)) = .ok text ∧
        (∀ c ∈ text.toList, c.toNat < 0x80) ∧
        Json.read text = .ok (Documented.listToJson [(r, d)]) ∧
        exportText [({ r with docstring := none }, d)] none ≠ .ok text := by
  intro r d
  have h : ∀ pair ∈ [(r, d)], ∀ s ∈ Documented.looseTexts pair, Text.IsSettled s := by
    decide +kernel
  have hindent : IsCounted (some (-1)) := by decide
  obtain ⟨text, htext, hascii, hread, hsame⟩ := exportText_lossless h hindent
  refine ⟨h, hindent, text, htext, hascii, hread, fun hother => ?_⟩
  exact absurd (hsame _ none (by decide +kernel) hother) (by decide +kernel)

/-- The bound of the counted indents is not one of them: there not even the export of nothing has a
text. -/
theorem not_exists_exportText_of_bound :
    (∀ pair ∈ ([] : List Documented), ∀ s ∈ Documented.looseTexts pair, Text.IsSettled s) ∧
      ¬∃ text, exportText [] (some (2 ^ 63)) = .ok text := by
  refine ⟨fun _ hpair => (List.not_mem_nil hpair).elim, ?_⟩
  rintro ⟨text, htext⟩
  rw [exportText_of_not_isCounted (by decide)] at htext
  cases htext

end Docwright
