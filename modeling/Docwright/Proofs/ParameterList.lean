import Docwright.Proofs.Text
import Docwright.Routine.Parameter

/-!
# Parameter lists written back

A list of parameters is read by three cuts, each followed by a trim: at the commas, at the first
equals sign and at the first colon in front of it. What comes out is `Declared`: its parts are
trimmed and hold no mark at which they would be cut again, and a bare name is one that is kept.
Written back, a declared parameter is read as itself (`ofFragment_render`), and so is a list of
them (`parseList_renderList`).

The main result is `parseList_written_back`.
-/

namespace Docwright

namespace Parameter

/-! ## Declared parameters -/

/-- A parameter as a list declares it. -/
structure Declared (p : Parameter) : Prop where
  /-- it may be left out exactly when it has a default -/
  isOptional_eq : p.isOptional = p.default.isSome
  /-- the name is trimmed -/
  name_trimmed : Text.trim p.name.toList = p.name.toList
  /-- the name holds no mark -/
  name_unmarked : ',' ∉ p.name.toList ∧ ':' ∉ p.name.toList ∧ '=' ∉ p.name.toList
  /-- the annotation is trimmed and holds neither a comma nor an equals sign -/
  type_plain : ∀ t ∈ p.type, Text.trim t.toList = t.toList ∧ ',' ∉ t.toList ∧ '=' ∉ t.toList
  /-- the default is trimmed and holds no comma -/
  default_plain : ∀ d ∈ p.default, Text.trim d.toList = d.toList ∧ ',' ∉ d.toList
  /-- a bare name is not empty and names no receiver -/
  bare_kept : p.type = none → p.default = none →
    p.name.toList ≠ [] ∧ isReceiver p.name.toList = false

/-- Is a fragment kept? -/
def keeps (fragment : List Char) : Bool :=
  !fragment.isEmpty && !isReceiver fragment

theorem parseList_eq (text : List Char) :
    parseList text = (((text.splitOn ',').map Text.trim).filter keeps).map ofFragment := rfl

/-- A text with a mark in it is no receiver. -/
theorem keeps_of_mem {fragment : List Char} {mark : Char} (hmark : mark = ':' ∨ mark = '=')
    (h : mark ∈ fragment) : keeps fragment = true := by
  have hne : fragment ≠ [] := List.ne_nil_of_mem h
  have hreceiver : isReceiver fragment = false := by
    by_contra hreceiver
    simp only [isReceiver, Bool.not_eq_false, Bool.or_eq_true, decide_eq_true_eq] at hreceiver
    rcases hreceiver with rfl | rfl <;> rcases hmark with rfl | rfl <;> exact absurd h (by decide)
  simp [keeps, hne, hreceiver]

/-! ## Reading a fragment -/

/-- A part of a fragment as a field of its parameter. -/
def field (s : List Char) : String :=
  String.ofList (Text.trim s)

theorem toList_field (s : List Char) : (field s).toList = Text.trim s :=
  String.toList_ofList

theorem trim_field (s : List Char) : Text.trim (field s).toList = (field s).toList := by
  rw [toList_field, Text.trim_trim]

theorem not_mem_field {mark : Char} {s : List Char} (h : mark ∉ s) : mark ∉ (field s).toList := by
  rw [toList_field]
  exact fun hmem => h (Text.trim_subset s hmem)

theorem field_of_trimmed {t : String} (h : Text.trim t.toList = t.toList) : field t.toList = t := by
  rw [field, h, String.ofList_toList]

theorem field_blank_append {blanks : List Char} (h : ∀ c ∈ blanks, Text.isBlank c = true)
    (s : List Char) : field (blanks ++ s) = field s := by
  rw [field, Text.trim_blank_append h, field]

theorem field_append_blank {blanks : List Char} (h : ∀ c ∈ blanks, Text.isBlank c = true)
    (s : List Char) : field (s ++ blanks) = field s := by
  rw [field, Text.trim_append_blank h, field]

/-- The parameter of a fragment, cut at its first equals sign. -/
def ofParts (declared : List Char) (default : Option (List Char)) : Parameter :=
  { name := field (Text.splitFirst ':' declared).1
    type := (Text.splitFirst ':' declared).2.map field
    default := default.map field }

theorem ofFragment_eq (fragment : List Char) :
    ofFragment fragment =
      ofParts (Text.splitFirst '=' fragment).1 (Text.splitFirst '=' fragment).2 := rfl

/-- Blanks in front of a fragment do not matter. -/
theorem ofParts_blank_append {blanks : List Char} (h : ∀ c ∈ blanks, Text.isBlank c = true)
    (declared : List Char) (default : Option (List Char)) :
    ofParts (blanks ++ declared) default = ofParts declared default := by
  have hcolon : ':' ∉ blanks := Text.not_mem_of_blank h rfl
  rcases Text.splitFirst_cases ':' declared with ⟨hmem, hcut⟩ | ⟨before, behind, hs, hmem, hcut⟩
  · have hcut' : Text.splitFirst ':' (blanks ++ declared) = (blanks ++ declared, none) :=
      Text.splitFirst_of_not_mem (by simp [hcolon, hmem])
    rw [ofParts, ofParts, hcut, hcut', field_blank_append h]
  · have hcut' : Text.splitFirst ':' (blanks ++ declared) = (blanks ++ before, some behind) := by
      rw [hs, ← List.append_assoc]
      exact Text.splitFirst_append_cons (by simp [hcolon, hmem]) behind
    rw [ofParts, ofParts, hcut, hcut', field_blank_append h]

/-- Blanks in front of the equals sign do not matter. -/
theorem ofParts_append_blank {blanks : List Char} (h : ∀ c ∈ blanks, Text.isBlank c = true)
    (declared : List Char) (default : Option (List Char)) :
    ofParts (declared ++ blanks) default = ofParts declared default := by
  have hcolon : ':' ∉ blanks := Text.not_mem_of_blank h rfl
  rcases Text.splitFirst_cases ':' declared with ⟨hmem, hcut⟩ | ⟨before, behind, hs, hmem, hcut⟩
  · have hcut' : Text.splitFirst ':' (declared ++ blanks) = (declared ++ blanks, none) :=
      Text.splitFirst_of_not_mem (by simp [hcolon, hmem])
    rw [ofParts, ofParts, hcut, hcut', field_append_blank h]
  · have hcut' : Text.splitFirst ':' (declared ++ blanks) = (before, some (behind ++ blanks)) := by
      rw [hs, List.append_assoc, List.cons_append]
      exact Text.splitFirst_append_cons hmem _
    rw [ofParts, ofParts, hcut, hcut', Option.map_some, Option.map_some, field_append_blank h]

/-- **Blanks around a fragment** do not matter. -/
theorem ofFragment_trim (fragment : List Char) :
    ofFragment (Text.trim fragment) = ofFragment fragment := by
  obtain ⟨front, back, hfront, hback, hs⟩ := Text.exists_trim_append fragment
  have houtFront : '=' ∉ front := Text.not_mem_of_blank hfront rfl
  have houtBack : '=' ∉ back := Text.not_mem_of_blank hback rfl
  rcases Text.splitFirst_cases '=' (Text.trim fragment) with
    ⟨hmem, hcut⟩ | ⟨before, behind, htrim, hmem, hcut⟩
  · have hcut' : Text.splitFirst '=' fragment = (front ++ (Text.trim fragment ++ back), none) := by
      rw [hs]
      refine Text.splitFirst_of_not_mem ?_
      rw [← hs]
      simp [houtFront, houtBack, hmem]
    rw [ofFragment_eq, ofFragment_eq, hcut, hcut', ofParts_blank_append hfront,
      ofParts_append_blank hback]
  · have hcut' : Text.splitFirst '=' fragment = (front ++ before, some (behind ++ back)) := by
      rw [← hs, htrim, List.append_assoc, List.cons_append, ← List.append_assoc]
      exact Text.splitFirst_append_cons (by simp [houtFront, hmem]) _
    rw [ofFragment_eq, ofFragment_eq, hcut, hcut', ofParts_blank_append hfront, ofParts, ofParts,
      Option.map_some, Option.map_some, field_append_blank hback]

/-- **A kept fragment declares its parameter.** -/
theorem declared_ofFragment {fragment : List Char} (hcomma : ',' ∉ fragment)
    (htrim : Text.trim fragment = fragment) (hkeep : keeps fragment = true) :
    (ofFragment fragment).Declared := by
  -- what stands in front of the equals sign, and the default behind it
  obtain ⟨declared, default, hfragment, hdeclared, hequals, hdefault, hbare⟩ :
      ∃ declared default, ofFragment fragment = ofParts declared default ∧ ',' ∉ declared ∧
        '=' ∉ declared ∧ (∀ d ∈ default, ',' ∉ d) ∧ (default = none → declared = fragment) := by
    rcases Text.splitFirst_cases '=' fragment with
      ⟨hequals, hs⟩ | ⟨before, behind, hs, hequals, hcut⟩
    · refine ⟨fragment, none, ?_, hcomma, hequals, by simp, fun _ => rfl⟩
      rw [ofFragment_eq, hs]
    · refine ⟨before, some behind, ?_, ?_, hequals, ?_, by simp⟩
      · rw [ofFragment_eq, hcut]
      · intro hmem
        exact hcomma (by rw [hs]; exact List.mem_append_left _ hmem)
      · rintro d hd hmem
        obtain rfl : behind = d := by simpa using hd
        exact hcomma (by rw [hs]; exact List.mem_append_right _ (List.mem_cons_of_mem _ hmem))
  -- the name in front of the colon, and the annotation behind it
  obtain ⟨name, type, hcut, hname, hcolon, htype, hwhole⟩ :
      ∃ name type, Text.splitFirst ':' declared = (name, type) ∧ (',' ∉ name ∧ '=' ∉ name) ∧
        ':' ∉ name ∧ (∀ t ∈ type, ',' ∉ t ∧ '=' ∉ t) ∧ (type = none → name = declared) := by
    rcases Text.splitFirst_cases ':' declared with ⟨hcolon, hs⟩ | ⟨before, behind, hs, hcolon, hcut⟩
    · exact ⟨declared, none, hs, ⟨hdeclared, hequals⟩, hcolon, by simp, fun _ => rfl⟩
    · rw [hs] at hdeclared hequals
      simp only [List.mem_append, List.mem_cons, not_or] at hdeclared hequals
      refine ⟨before, some behind, hcut, ⟨hdeclared.1, hequals.1⟩, hcolon, ?_, by simp⟩
      rintro t ht
      obtain rfl : behind = t := by simpa using ht
      exact ⟨hdeclared.2.2, hequals.2.2⟩
  rw [hfragment, ofParts, hcut]
  refine ⟨rfl, trim_field _, ⟨not_mem_field hname.1, not_mem_field hcolon, not_mem_field hname.2⟩,
    ?_, ?_, ?_⟩
  · intro t ht
    obtain ⟨s, hs, rfl⟩ := Option.map_eq_some_iff.mp ht
    exact ⟨trim_field s, not_mem_field (htype s hs).1, not_mem_field (htype s hs).2⟩
  · intro d hd
    obtain ⟨s, hs, rfl⟩ := Option.map_eq_some_iff.mp hd
    exact ⟨trim_field s, not_mem_field (hdefault s hs)⟩
  · intro hnone hnone'
    have hall : name = fragment :=
      (hwhole (Option.map_eq_none_iff.mp hnone)).trans (hbare (Option.map_eq_none_iff.mp hnone'))
    rw [toList_field, hall, htrim]
    simpa [keeps] using hkeep

/-- **What a list declares.** -/
theorem declared_of_mem_parseList {text : List Char} {p : Parameter} (h : p ∈ parseList text) :
    p.Declared := by
  rw [parseList_eq] at h
  obtain ⟨fragment, hmem, rfl⟩ := List.mem_map.mp h
  obtain ⟨hpart, hkeep⟩ := List.mem_filter.mp hmem
  obtain ⟨part, hsplit, rfl⟩ := List.mem_map.mp hpart
  refine declared_ofFragment (fun hmem => ?_) (Text.trim_trim part) hkeep
  exact Text.not_mem_of_mem_splitOn hsplit (Text.trim_subset part hmem)

/-! ## Writing back -/

/-- The annotation of a parameter, as it is written. -/
def typeText (p : Parameter) : List Char :=
  match p.type with
  | some t => ':' :: ' ' :: t.toList
  | none => []

theorem isBlank_of_mem_space : ∀ c ∈ [' '], Text.isBlank c = true :=
  List.forall_mem_singleton.mpr rfl

theorem render_of_bare {p : Parameter} (h : p.default = none) :
    p.render = p.name.toList ++ p.typeText := by
  rw [render, h]
  exact List.append_nil _

theorem render_of_default {p : Parameter} {d : String} (h : p.default = some d) :
    p.render = p.name.toList ++ p.typeText ++ [' '] ++ '=' :: ([' '] ++ d.toList) := by
  rw [render, h, List.append_assoc _ [' ']]
  rfl

/-- The name and the annotation, written, are read as themselves. -/
theorem ofParts_written {p : Parameter} (h : p.Declared) (default : Option (List Char)) :
    ofParts (p.name.toList ++ p.typeText) default =
      { name := p.name, type := p.type, default := default.map field } := by
  have hname : field p.name.toList = p.name := field_of_trimmed h.name_trimmed
  rcases htype : p.type with _ | t
  · rw [ofParts, typeText, htype, List.append_nil,
      Text.splitFirst_of_not_mem h.name_unmarked.2.1, hname]
    rfl
  · have hcut : Text.splitFirst ':' (p.name.toList ++ p.typeText) =
        (p.name.toList, some ([' '] ++ t.toList)) := by
      rw [typeText, htype]
      exact Text.splitFirst_append_cons h.name_unmarked.2.1 _
    rw [ofParts, hcut, hname, Option.map_some, field_blank_append isBlank_of_mem_space,
      field_of_trimmed (h.type_plain t htype).1]

/-- **A parameter written back** is read as itself. -/
theorem ofFragment_render {p : Parameter} (h : p.Declared) : ofFragment p.render = p := by
  have hequals : '=' ∉ p.name.toList ++ p.typeText := by
    rcases htype : p.type with _ | t
    · simp [typeText, htype, h.name_unmarked]
    · simp [typeText, htype, h.name_unmarked, h.type_plain t htype]
  have hself : p = { name := p.name, type := p.type, default := p.default } := by
    have := h.isOptional_eq
    cases p
    simp_all
  rcases hdefault : p.default with _ | d
  · rw [ofFragment_eq, render_of_bare hdefault, Text.splitFirst_of_not_mem hequals,
      ofParts_written h]
    conv_rhs => rw [hself, hdefault]
    rfl
  · have hcut : Text.splitFirst '=' p.render =
        (p.name.toList ++ p.typeText ++ [' '], some ([' '] ++ d.toList)) := by
      rw [render_of_default hdefault]
      refine Text.splitFirst_append_cons ?_ _
      rw [List.mem_append, not_or]
      exact ⟨hequals, by decide⟩
    rw [ofFragment_eq, hcut, ofParts_append_blank isBlank_of_mem_space, ofParts_written h,
      Option.map_some, field_blank_append isBlank_of_mem_space,
      field_of_trimmed (h.default_plain d hdefault).1]
    conv_rhs => rw [hself, hdefault]

/-- What is written is kept. -/
theorem keeps_render {p : Parameter} (h : p.Declared) : keeps (Text.trim p.render) = true := by
  rcases hdefault : p.default with _ | d
  · rcases htype : p.type with _ | t
    · have hrender : p.render = p.name.toList := by
        rw [render_of_bare hdefault, typeText, htype, List.append_nil]
      obtain ⟨hne, hreceiver⟩ := h.bare_kept htype hdefault
      rw [hrender, h.name_trimmed, keeps, hreceiver]
      simp [hne]
    · refine keeps_of_mem (.inl rfl) (Text.mem_trim ?_ rfl)
      simp [render_of_bare hdefault, typeText, htype]
  · refine keeps_of_mem (.inr rfl) (Text.mem_trim ?_ rfl)
    simp [render_of_default hdefault]

/-- A written parameter holds no comma. -/
theorem comma_not_mem_render {p : Parameter} (h : p.Declared) : ',' ∉ p.render := by
  have hfront : ',' ∉ p.name.toList ++ p.typeText := by
    rcases htype : p.type with _ | t
    · simp [typeText, htype, h.name_unmarked]
    · simp [typeText, htype, h.name_unmarked, h.type_plain t htype]
  rcases hdefault : p.default with _ | d
  · rwa [render_of_bare hdefault]
  · rw [render_of_default hdefault]
    simpa [(h.default_plain d hdefault).2] using hfront

/-- **Parameters written back** as a list are read as themselves. -/
theorem parseList_renderList {ps : List Parameter} (h : ∀ p ∈ ps, p.Declared) :
    parseList (renderList ps) = ps := by
  cases ps with
  | nil => decide
  | cons p ps =>
    have hcomma : ∀ part ∈ p.render :: (ps.map render).map (' ' :: ·), ',' ∉ part := by
      intro part hpart
      rcases List.mem_cons.mp hpart with rfl | hpart
      · exact comma_not_mem_render (h p (List.mem_cons_self ..))
      · obtain ⟨written, hwritten, rfl⟩ := List.mem_map.mp hpart
        obtain ⟨q, hq, rfl⟩ := List.mem_map.mp hwritten
        simp [comma_not_mem_render (h q (List.mem_cons_of_mem _ hq))]
    have htrim : (p.render :: (ps.map render).map (' ' :: ·)).map Text.trim =
        (p :: ps).map fun q => Text.trim q.render := by
      simp [Function.comp_def, Text.trim, Text.trimStart_cons_of_blank (c := ' ') rfl]
    have hkeep : ∀ part ∈ (p :: ps).map (fun q => Text.trim q.render), keeps part = true := by
      rintro part hpart
      obtain ⟨q, hq, rfl⟩ := List.mem_map.mp hpart
      exact keeps_render (h q hq)
    rw [parseList_eq, renderList, List.map_cons, Text.join_comma,
      List.splitOn_intercalate ',' hcomma (List.cons_ne_nil _ _), htrim,
      List.filter_eq_self.mpr hkeep, List.map_map]
    refine (List.map_congr_left fun q hq => ?_).trans (List.map_id _)
    exact (ofFragment_trim q.render).trans (ofFragment_render (h q hq))

/-! ## The theorem -/

/-- **Parameter lists survive being written back.** Whatever the text, the parameters that are read
from it are declared ones, and written back as a list they are read again. -/
theorem parseList_written_back (text : List Char) :
    (∀ p ∈ parseList text, p.Declared) ∧
      parseList (renderList (parseList text)) = parseList text :=
  ⟨fun _ hp => declared_of_mem_parseList hp,
    parseList_renderList fun _ hp => declared_of_mem_parseList hp⟩

/-- A receiver with a colon behind it is kept, with an empty annotation. -/
example : parseList "self, self:".toList = [{ name := "self", type := some "" }] := by
  decide +kernel

end Parameter

end Docwright
