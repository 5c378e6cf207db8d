import Docwright.Documentation.Synthesis
import Docwright.Proofs.Scan
import Docwright.Source.Extraction

/-!
# A routine's own source

A routine keeps the text of its definition, trimmed at the end. That text is read again as the same
routine and nothing else, although everything that stood around it is gone:

* the header is local (`exists_isHeader`), so it is read in front of any text;
* the body loses only blanks, and a body cut off there is still all body
  (`splitBody_of_isPrefix`);
* the docstring is found before the blanks that are lost (`docstring?_append_of_blank`).
-/

namespace Docwright

namespace Source

/-! ## Docstrings and blanks -/

/-- The trimmed content of the literal between two `delimiter`s that a body starts with. -/
def leadingLiteral? (body delimiter : List Char) : Option (List Char) :=
  match Text.after? delimiter (Text.trimStart body) with
  | none => none
  | some literal => (Text.cut? delimiter literal).map fun found => Text.trim found.1

theorem docstring?_eq_findSome? (body : List Char) :
    docstring? body = tripleQuotes.findSome? (leadingLiteral? body) := rfl

/-- A delimiter is made of quotes, which are no blanks. -/
theorem isBlank_eq_false_of_mem_tripleQuotes {delimiter : List Char}
    (h : delimiter ∈ tripleQuotes) : delimiter ≠ [] ∧ ∀ c ∈ delimiter, Text.isBlank c = false := by
  rcases List.mem_pair.mp h with rfl | rfl
  · simp [show Text.isBlank '\'' = false by decide]
  · simp [show Text.isBlank '"' = false by decide]

/-- Blanks behind a body do not get into its leading literal. -/
theorem leadingLiteral?_append_of_blank {body t delimiter : List Char}
    (h : delimiter ∈ tripleQuotes) (ht : ∀ c ∈ t, Text.isBlank c = true) :
    leadingLiteral? (body ++ t) delimiter = leadingLiteral? body delimiter := by
  obtain ⟨hne, hdelimiter⟩ := isBlank_eq_false_of_mem_tripleQuotes h
  unfold leadingLiteral?
  rcases Text.trimStart_append_of_blank ht with hstart | ⟨hbody, hstart⟩
  · rw [hstart, Text.after?_append_of_blank hdelimiter ht]
    rcases Text.after? delimiter (Text.trimStart body) with _ | literal
    · rfl
    · simp [Text.cut?_append_of_blank hne hdelimiter ht, Function.comp_def]
  · rw [hstart, hbody]

/-- **Blanks behind a body** do not change its docstring. -/
theorem docstring?_append_of_blank {body t : List Char} (ht : ∀ c ∈ t, Text.isBlank c = true) :
    docstring? (body ++ t) = docstring? body := by
  have hsingle := @leadingLiteral?_append_of_blank body t "'''".toList (by simp [tripleQuotes]) ht
  have hdouble :=
    @leadingLiteral?_append_of_blank body t "\"\"\"".toList (by simp [tripleQuotes]) ht
  rw [docstring?_eq_findSome?, docstring?_eq_findSome?, tripleQuotes]
  simp only [List.findSome?_cons, hsingle, hdouble, List.findSome?_nil]

/-- **Blanks in front of a body** do not change its docstring. -/
theorem docstring?_of_blank_append {s body : List Char} (hs : ∀ c ∈ s, Text.isBlank c = true) :
    docstring? (s ++ body) = docstring? body := by
  have : Text.trimStart (s ++ body) = Text.trimStart body := List.dropWhile_append_of_pos hs
  rw [docstring?, docstring?, this]

/-! ## The trimmed definition -/

/-- The body without the blanks behind it is what the trimmed rest of a definition has for a
body. -/
theorem dropWhile_trimEnd (rest : List Char) {body : List Char}
    (hbody : body <+: rest.dropWhile Text.isAsciiBlank) :
    (Text.trimEnd (rest.takeWhile Text.isAsciiBlank ++ body)).dropWhile Text.isAsciiBlank =
      Text.trimEnd body := by
  have hgap : ∀ c ∈ rest.takeWhile Text.isAsciiBlank, Text.isAsciiBlank c = true :=
    fun c hc => List.mem_takeWhile_imp hc
  by_cases hnil : Text.trimEnd body = []
  · -- all of the body is blank, so nothing is left behind the colon
    have hblank : ∀ c ∈ rest.takeWhile Text.isAsciiBlank ++ body, Text.isBlank c = true := by
      intro c hc
      rcases List.mem_append.mp hc with hc | hc
      · exact Text.isBlank_of_isAsciiBlank (hgap c hc)
      · exact Text.trimEnd_eq_nil_iff.mp hnil c hc
    rw [Text.trimEnd_eq_nil_iff.mpr hblank, hnil]
    rfl
  · rw [Text.trimEnd_append_of_ne_nil hnil]
    refine Text.dropWhile_append_of_stop hgap fun c hc => ?_
    obtain ⟨behind, hbehind⟩ := (List.rdropWhile_prefix Text.isBlank body).trans hbody
    have hhead := List.head?_dropWhile_not Text.isAsciiBlank rest
    rw [← hbehind, List.head?_append, show (body.rdropWhile Text.isBlank).head? = some c from hc]
      at hhead
    exact hhead

/-- **A definition cut out of its source** is read as the definition with the same header and the
body without the blanks behind it. -/
theorem definitionOf_trimEnd {head name params : List Char} {arrowed : Option (List Char)}
    (start : Nat) (rest : List Char) :
    let d := definitionOf head name params arrowed start rest
    definitionOf head name params arrowed 0
        (Text.trimEnd (rest.takeWhile Text.isAsciiBlank ++ d.body)) =
      { d with
        body := Text.trimEnd d.body
        text := head ++ Text.trimEnd (rest.takeWhile Text.isAsciiBlank ++ d.body)
        start := 0 } := by
  intro d
  have hprefix : d.body <+: rest.dropWhile Text.isAsciiBlank :=
    ⟨_, splitBody_append .code (rest.dropWhile Text.isAsciiBlank)⟩
  have hbody : (splitBody .code ((Text.trimEnd
      (rest.takeWhile Text.isAsciiBlank ++ d.body)).dropWhile Text.isAsciiBlank)).1 =
        Text.trimEnd d.body := by
    have hwhole : splitBody .code (Text.trimEnd d.body) = (Text.trimEnd d.body, []) :=
      splitBody_trimEnd Mode.proper_code _
    rw [dropWhile_trimEnd rest hprefix, hwhole]
  have htext : (Text.trimEnd (rest.takeWhile Text.isAsciiBlank ++ d.body)).takeWhile
      Text.isAsciiBlank ++ Text.trimEnd d.body =
        Text.trimEnd (rest.takeWhile Text.isAsciiBlank ++ d.body) := by
    rw [← dropWhile_trimEnd rest hprefix, List.takeWhile_append_dropWhile]
  rw [definitionOf, hbody, htext]
  rfl

/-- **A definition cut out of its source** is the only one of its own trimmed text. -/
theorem scan_trim_text {head name params : List Char} {arrowed : Option (List Char)}
    (h : IsHeader head name params arrowed) (start : Nat) (rest : List Char) :
    let d := definitionOf head name params arrowed start rest
    scan (Text.trim d.text) =
      [{ d with body := Text.trimEnd d.body, text := Text.trim d.text, start := 0 }] := by
  intro d
  let d' : Definition :=
    { d with body := Text.trimEnd d.body, text := Text.trim d.text, start := 0 }
  have htrim : Text.trim d.text =
      head ++ Text.trimEnd (rest.takeWhile Text.isAsciiBlank ++ d.body) := h.trim_append
  have hd' : definitionAt? none 0 (d'.text ++ []) = some d' := by
    rw [List.append_nil, show d'.text = Text.trim d.text from rfl, htrim,
      definitionAt?_of_isHeader h rfl, definitionOf_trimEnd start rest, ← htrim]
  have hne : d'.text ≠ [] := by
    obtain ⟨inner, rfl⟩ := h.exists_inner
    rw [show d'.text = Text.trim d.text from rfl, htrim]
    exact List.cons_ne_nil _ _
  have := scanFrom_append hd' hne
  rw [List.append_nil] at this
  exact this

/-- The routine of a definition is also the routine of its trimmed text. -/
theorem extract_trim_text {head name params : List Char} {arrowed : Option (List Char)}
    (h : IsHeader head name params arrowed) (start : Nat) (rest : List Char)
    (label label' : LooseText) :
    let r := (definitionOf head name params arrowed start rest).toRoutine label
    extract r.source label' = [{ r with fileName := label' }] := by
  intro r
  let d := definitionOf head name params arrowed start rest
  have hsource : r.source.toList = Text.trim d.text := String.toList_ofList
  have htrim : Text.trim (Text.trim d.text) = Text.trim d.text := by
    have hd : Text.trim d.text =
        head ++ Text.trimEnd (rest.takeWhile Text.isAsciiBlank ++ d.body) := h.trim_append
    rw [hd, h.trim_append, Text.trimEnd_trimEnd]
  have hdoc : docstring? (Text.trimEnd d.body) = docstring? d.body := by
    obtain ⟨blanks, hblanks, hbody⟩ := Text.exists_trimEnd_append d.body
    rw [← docstring?_append_of_blank hblanks, hbody]
  rw [extract, hsource, scan_trim_text h start rest, List.map_singleton]
  simp only [Definition.toRoutine, htrim, hdoc, r, d]

/-! ## The theorem -/

/-- **The round trip of extraction.** The source of every routine of a text, extracted again under
any label, gives that routine alone, label aside, and so the same documentation. -/
theorem extract_own_source {source : String} {label : LooseText} {r : Routine}
    (h : r ∈ extract source label) (label' : LooseText) :
    extract r.source label' = [{ r with fileName := label' }] ∧
      ({ r with fileName := label' } : Routine).synthesize = r.synthesize := by
  obtain ⟨d, hd, rfl⟩ := List.mem_map.mp h
  have hrun : Calls source.toList 0 (scan source.toList) := calls_iff_eq_scan.mpr rfl
  obtain ⟨-, head, arrowed, rest, -, hhead, hdef⟩ :=
    definitionAt?_eq_some (hrun.le_start d hd).2
  rw [hdef]
  exact ⟨extract_trim_text hhead d.start rest label label', rfl⟩

/-- A method whose docstring has a line in column zero and whose last literal is not closed, with a
wide blank behind it. -/
theorem extract_own_source_of_method :
    let source := "class A:\n  def f(self, n = (1)) -> int:\n    '''Doc\nx\n'''\n" ++
      "    return 'a\u3000\n\ny = f()\n"
    let r : Routine :=
      { name := "f"
        source := "def f(self, n = (1)) -> int:\n    '''Doc\nx\n'''\n    return 'a"
        parameters := [{ name := "n", default := some "(1)" }]
        docstring := some "Doc\nx"
        returnType := some "int"
        fileName := "m.py" }
    r ∈ extract source "m.py" ∧
      extract r.source "<input>" = [{ r with fileName := "<input>" }] ∧
      ({ r with fileName := "<input>" } : Routine).synthesize = r.synthesize := by
  intro source r
  have h : r ∈ extract source "m.py" := by decide +kernel
  exact ⟨h, extract_own_source h "<input>"⟩

end Source

end Docwright
