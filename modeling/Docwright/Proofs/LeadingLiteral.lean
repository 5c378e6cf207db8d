import Docwright.Proofs.DocstringPlace

/-!
# The docstring and the end of its body

Two readers look at the literal that a body starts with. The reader of the body goes through it
character by character, to find where the body ends; the docstring is cut out of the body that was
found. Both take the first delimiter behind the opening one, so they agree, whatever else stands in
the literal: more quotes, quotes of the other kind, lines in column zero, blanks of any kind.

The main result is `captures_docstring`. It is about positions of the text: the colon that ends the
header (`Definition.ColonAt`), the first position behind it without an ASCII blank (`bodyStart`) and
the first place of a delimiter (`FirstAt`).
-/

namespace Docwright

namespace Source

/-! ## Positions of a text -/

/-- The part of a text between two positions. -/
def slice (text : List Char) (i j : Nat) : List Char :=
  (text.take j).drop i

/-- The first place of a needle that is not in front of position `i`. -/
def FirstAt (needle text : List Char) (i j : Nat) : Prop :=
  i ≤ j ∧ needle <+: text.drop j ∧ ∀ k, i ≤ k → k < j → ¬ needle <+: text.drop k

theorem slice_append_drop (text : List Char) {i j : Nat} (h : i ≤ j) :
    slice text i j ++ text.drop j = text.drop i := by
  rw [slice, List.drop_take]
  conv_lhs => rw [show j = i + (j - i) by omega, ← List.drop_drop, Nat.add_sub_cancel_left]
  exact List.take_append_drop (j - i) (text.drop i)

/-- The first place of a needle is where a text is cut. -/
theorem FirstAt.cut? {needle text : List Char} {i j : Nat} (h : FirstAt needle text i j) :
    Text.cut? needle (text.drop i) = some (slice text i j, text.drop (j + needle.length)) := by
  obtain ⟨hle, ⟨behind, hneedle⟩, hfirst⟩ := h
  have hbehind : text.drop (j + needle.length) = behind := by
    rw [← List.drop_drop, ← hneedle, List.drop_left]
  have hwhole : text.drop i = slice text i j ++ (needle ++ behind) := by
    rw [hneedle, slice_append_drop text hle]
  rw [hbehind, hwhole]
  refine Text.cut?_append_of_first fun u v huv hv hhead => ?_
  have hlength : u.length < (slice text i j).length := by
    rw [huv, List.length_append]
    exact Nat.lt_add_of_pos_right (List.length_pos_of_ne_nil hv)
  rw [slice, List.length_drop, List.length_take] at hlength
  refine hfirst (i + u.length) (Nat.le_add_right ..) (by omega) ?_
  rwa [← List.drop_drop, hwhole, huv, List.append_assoc, List.drop_left]

/-- A needle that has no place is not in the text. -/
theorem not_isInfix_drop {needle text : List Char} {i : Nat}
    (h : ∀ k, i ≤ k → ¬ needle <+: text.drop k) : ¬ needle <:+: text.drop i := by
  rintro ⟨u, v, huv⟩
  refine h (i + u.length) (Nat.le_add_right ..) ⟨v, ?_⟩
  rw [← List.drop_drop, ← huv, List.append_assoc, List.drop_left]

/-! ## Where a body starts -/

/-- The header of a definition ends with the colon at position `colon`. -/
def Definition.ColonAt (d : Definition) (text : List Char) (colon : Nat) : Prop :=
  ∃ head arrowed, IsHeader head d.name d.params arrowed ∧ head <+: text.drop d.start ∧
    colon + 1 = d.start + head.length

/-- The first position behind a colon that holds no ASCII blank. -/
def bodyStart (text : List Char) (colon : Nat) : Nat :=
  colon + 1 + ((text.drop (colon + 1)).takeWhile Text.isAsciiBlank).length

/-- A text starts with one header at most. -/
theorem IsHeader.rest_unique {head name params rest : List Char} {arrowed : Option (List Char)}
    {head' name' params' rest' : List Char} {arrowed' : Option (List Char)}
    (h : IsHeader head name params arrowed) (h' : IsHeader head' name' params' arrowed')
    (heq : head ++ rest = head' ++ rest') : rest = rest' := by
  obtain ⟨behind, hopen, hsig⟩ := h rest
  obtain ⟨behind', hopen', hsig'⟩ := h' rest'
  rw [heq, hopen'] at hopen
  obtain ⟨-, rfl⟩ := Prod.mk.inj (Option.some.inj hopen)
  rw [hsig'] at hsig
  exact (congrArg Signature.rest (Option.some.inj hsig)).symm

/-- The colon of a header stands in one place. -/
theorem Definition.colonAt_iff {d : Definition} {text head rest : List Char}
    {arrowed : Option (List Char)} (hhead : IsHeader head d.name d.params arrowed)
    (hdrop : text.drop d.start = head ++ rest) (colon : Nat) :
    d.ColonAt text colon ↔ colon = d.start + head.length - 1 := by
  have hpos : 0 < head.length := by
    obtain ⟨inner, rfl⟩ := hhead.exists_inner
    exact Nat.succ_pos _
  constructor
  · rintro ⟨head', arrowed', hhead', ⟨rest', hrest'⟩, hcolon⟩
    have hrest := hhead'.rest_unique hhead (hrest'.trans hdrop)
    have hlength := congrArg List.length (hrest'.trans hdrop)
    rw [List.length_append, List.length_append, hrest] at hlength
    omega
  · rintro rfl
    exact ⟨head, arrowed, hhead, ⟨rest, hdrop.symm⟩, by omega⟩

/-- The body of a definition starts at position `b` of its text. -/
structure Definition.BodyAt (d : Definition) (text : List Char) (b : Nat) : Prop where
  /-- the body is what its reader takes from there on -/
  body_eq : d.body = (splitBody .code (text.drop b)).1
  /-- no ASCII blank stands there -/
  head_eq : ∀ c, (text.drop b).head? = some c → Text.isAsciiBlank c = false
  /-- the position is one of the text -/
  le_length : b ≤ text.length
  /-- a header and blanks stand between the start of the definition and its body -/
  front : ∃ head gap arrowed, IsHeader head d.name d.params arrowed ∧
    b = d.start + (head.length + gap.length) ∧ d.text = head ++ (gap ++ d.body)
  /-- the text goes on behind the definition -/
  drop_start : ∃ rest, text.drop d.start = d.text ++ rest

/-- A definition ends with its body. -/
theorem Definition.BodyAt.stop_eq {d : Definition} {text : List Char} {b : Nat}
    (h : d.BodyAt text b) : d.stop = b + d.body.length := by
  obtain ⟨head, gap, arrowed, -, rfl, htext⟩ := h.front
  rw [Definition.stop, htext]
  simp only [List.length_append]
  omega

/-- **The body behind the colon.** The colon of a header stands in one place, and the body starts at
the first position behind it without an ASCII blank. -/
theorem exists_bodyAt {text : List Char} {d : Definition} (hd : d ∈ scan text) :
    ∃ colon, (∀ other, d.ColonAt text other ↔ other = colon) ∧
      d.BodyAt text (bodyStart text colon) := by
  have hrun : Calls text 0 (scan text) := calls_iff_eq_scan.mpr rfl
  have hin := (hrun.le_start d hd).2
  have hlt := lt_length_of_definitionIn? hin
  obtain ⟨-, rest, hrest, -⟩ := drop_start_of_definitionIn? hin
  obtain ⟨-, head, arrowed, gap, core, hdrop, hhead, hgap, hcore, hdef⟩ :=
    definitionAt?_eq_some_parts hin
  have hpos : 0 < head.length := by
    obtain ⟨inner, rfl⟩ := hhead.exists_inner
    exact Nat.succ_pos _
  have hb : bodyStart text (d.start + head.length - 1) = d.start + (head.length + gap.length) := by
    rw [bodyStart, Nat.sub_add_cancel (by omega), ← List.drop_drop, hdrop, List.drop_left,
      Text.takeWhile_append_of_stop hgap hcore, Nat.add_assoc]
  have hbody : d.body = (splitBody .code core).1 := by rw [hdef]
  have hdropb : text.drop (d.start + (head.length + gap.length)) = core := by
    rw [← List.drop_drop, hdrop, ← List.append_assoc, ← List.length_append, List.drop_left]
  have hlength := congrArg List.length hdrop
  simp only [List.length_append, List.length_drop] at hlength
  refine ⟨_, d.colonAt_iff hhead hdrop, ?_⟩
  rw [hb]
  exact
    { body_eq := by rw [hdropb, hbody]
      head_eq := by rwa [hdropb]
      le_length := by omega
      front := ⟨head, gap, arrowed, hhead, rfl, by rw [hbody, hdef]⟩
      drop_start := ⟨rest, hrest⟩ }

/-! ## Docstrings of bodies -/

variable {head name params gap s content behind : List Char} {arrowed : Option (List Char)}
  {quote : Char}

theorem trimStart_triple_append (hquote : isQuote quote = true) (s : List Char) :
    Text.trimStart (triple quote ++ s) = triple quote ++ s :=
  Text.trimStart_cons_of_not (isBlank_eq_false_of_isQuote hquote)

/-- A literal that is closed is the docstring of the body it opens. -/
theorem docstring?_of_closed (hquote : isQuote quote = true)
    (h : Text.cut? (triple quote) s = some (content, behind)) :
    docstring? (splitBody .code (triple quote ++ s)).1 = some (Text.trim content) := by
  rw [splitBody_literal hquote h, docstring?_triple hquote (trimStart_triple_append hquote _),
    Text.cut?_append_of_cut? h]
  rfl

/-- A literal that is not closed takes the whole text, and is no docstring. -/
theorem docstring?_of_unclosed (hquote : isQuote quote = true) (h : ¬ triple quote <:+: s) :
    splitBody .code (triple quote ++ s) = (triple quote ++ s, []) ∧
      docstring? (triple quote ++ s) = none := by
  constructor
  · rw [splitBody_triple hquote, splitBody_long_of_not_isInfix h]
  · rw [docstring?_triple hquote (trimStart_triple_append hquote s), Text.cut?_eq_none_iff.mpr h]
    rfl

/-- A body that starts with something else has no docstring. -/
theorem docstring?_of_absent {body : List Char}
    (hblank : ∀ c, body.head? = some c → Text.isBlank c = false)
    (h : ∀ quote, isQuote quote = true → ¬ triple quote <+: body) : docstring? body = none := by
  have hstart : Text.trimStart body = body := by
    cases body with
    | nil => rfl
    | cons c body => exact Text.trimStart_cons_of_not (hblank c rfl)
  have hnone : ∀ quote, isQuote quote = true → leadingLiteral? body (triple quote) = none := by
    intro quote hquote
    rw [leadingLiteral?, hstart, Text.after?_eq_none_iff.mpr (h quote hquote)]
  have htriples : tripleQuotes = [triple '\'', triple '"'] := rfl
  rw [docstring?_eq_findSome?, htriples, List.findSome?_cons, hnone '\'' rfl, List.findSome?_cons,
    hnone '"' rfl, List.findSome?_nil]

/-- Around a definition nothing is trimmed in front of the end of a literal. -/
theorem isPrefix_trim_text (hhead : IsHeader head name params arrowed)
    (hquote : isQuote quote = true) (content tail : List Char) :
    head ++ (gap ++ (triple quote ++ (content ++ triple quote))) <+:
      Text.trim (head ++ (gap ++ (triple quote ++ (content ++ (triple quote ++ tail))))) := by
  have hparts : gap ++ (triple quote ++ (content ++ (triple quote ++ tail))) =
      (gap ++ (triple quote ++ content)) ++ (triple quote ++ tail) := by
    simp
  rw [hhead.trim_append, hparts, trimEnd_append_triple hquote]
  exact ⟨Text.trimEnd tail, by simp⟩

/-! ## The literal that opens there -/

/-- The docstring of a routine and the end of its definition agree about what stands at position
`b` of the text. -/
structure CapturesDocstring (text : List Char) (d : Definition) (r : Routine) (b : Nat) : Prop where
  /-- a literal that is closed is the docstring, and the definition goes on to its end at least -/
  closed : ∀ quote c, isQuote quote = true → triple quote <+: text.drop b →
    FirstAt (triple quote) text (b + 3) c →
      r.docstring = some (String.ofList (Text.trim (slice text (b + 3) c))) ∧
        c + 3 ≤ d.stop ∧ slice text d.start (c + 3) <+: r.source.toList
  /-- with a literal that is not closed there is no docstring, and the definition goes on to the end
  of the text -/
  unclosed : ∀ quote, isQuote quote = true → triple quote <+: text.drop b →
    (∀ c, b + 3 ≤ c → ¬ triple quote <+: text.drop c) →
      r.docstring = none ∧ d.stop = text.length
  /-- without a literal there is no docstring -/
  absent : b = text.length ∨
      (∃ c, text[b]? = some c ∧ Text.isBlank c = false ∧
        ∀ quote, isQuote quote = true → ¬ triple quote <+: text.drop b) →
    r.docstring = none

variable {text : List Char} {d : Definition} {b : Nat}

theorem drop_of_triple_isPrefix (h : triple quote <+: text.drop b) :
    text.drop b = triple quote ++ text.drop (b + 3) := by
  obtain ⟨s, hs⟩ := h
  rw [← List.drop_drop, ← hs]
  rfl

/-- What a definition holds up to a position. -/
theorem Definition.BodyAt.slice_start (h : d.BodyAt text b) {s t : List Char}
    (hs : d.text = s ++ t) :
    slice text d.start (d.start + s.length) = s := by
  obtain ⟨rest, hrest⟩ := h.drop_start
  rw [slice, List.drop_take, hrest, hs, Nat.add_sub_cancel_left, List.append_assoc, List.take_left]

/-- A literal that is closed is captured. -/
theorem Definition.BodyAt.closed (h : d.BodyAt text b) (hquote : isQuote quote = true)
    (hopens : triple quote <+: text.drop b) {c : Nat}
    (hfirst : FirstAt (triple quote) text (b + 3) c) :
    docstring? d.body = some (Text.trim (slice text (b + 3) c)) ∧ c + 3 ≤ d.stop ∧
      slice text d.start (c + 3) <+: Text.trim d.text := by
  have hcut := hfirst.cut?
  have hdoc := docstring?_of_closed hquote hcut
  have hparts := congrArg Prod.fst (splitBody_literal hquote hcut)
  rw [← drop_of_triple_isPrefix hopens, ← h.body_eq] at hdoc hparts
  -- the literal ends three characters behind its last delimiter
  have hlength : (slice text (b + 3) c).length = c - (b + 3) := by
    have hle : c ≤ text.length := by
      by_contra hlt
      have hne := List.ne_nil_of_mem (hfirst.2.1.subset (List.mem_cons_self ..))
      exact hne (List.drop_eq_nil_of_le (Nat.le_of_not_le hlt))
    rw [slice, List.length_drop, List.length_take, Nat.min_eq_left hle]
  have hle := hfirst.1
  refine ⟨hdoc, ?_, ?_⟩
  · have hbody := congrArg List.length hparts
    rw [h.stop_eq, hbody]
    simp only [List.length_append, hlength, triple, List.length_cons, List.length_nil]
    omega
  · obtain ⟨head, gap, arrowed, hhead, hb, htext⟩ := h.front
    obtain ⟨tail, htail⟩ : ∃ tail, d.body =
        triple quote ++ (slice text (b + 3) c ++ (triple quote ++ tail)) := ⟨_, hparts⟩
    rw [htail] at htext
    have hslice := h.slice_start (s := head ++ (gap ++ (triple quote ++
      (slice text (b + 3) c ++ triple quote)))) (t := tail) (by rw [htext]; simp)
    have hend : d.start + (head ++ (gap ++ (triple quote ++
        (slice text (b + 3) c ++ triple quote)))).length = c + 3 := by
      simp only [List.length_append, hlength, triple, List.length_cons, List.length_nil]
      omega
    rw [hend] at hslice
    rw [hslice, htext]
    exact isPrefix_trim_text hhead hquote _ _

/-- A literal that is not closed takes all of the text. -/
theorem Definition.BodyAt.unclosed (h : d.BodyAt text b) (hquote : isQuote quote = true)
    (hopens : triple quote <+: text.drop b)
    (hnever : ∀ c, b + 3 ≤ c → ¬ triple quote <+: text.drop c) :
    docstring? d.body = none ∧ d.stop = text.length := by
  obtain ⟨hsplit, hdoc⟩ := docstring?_of_unclosed hquote (not_isInfix_drop hnever)
  rw [← drop_of_triple_isPrefix hopens] at hsplit hdoc
  have hbody : d.body = text.drop b := by rw [h.body_eq, hsplit]
  have hle := h.le_length
  refine ⟨by rw [hbody, hdoc], ?_⟩
  rw [h.stop_eq, hbody, List.length_drop]
  omega

/-- Where no literal opens nothing is captured. -/
theorem Definition.BodyAt.absent (h : d.BodyAt text b)
    (hblank : ∀ c, text[b]? = some c → Text.isBlank c = false)
    (hliteral : ∀ quote, isQuote quote = true → ¬ triple quote <+: text.drop b) :
    docstring? d.body = none := by
  have hprefix : d.body <+: text.drop b := by
    rw [h.body_eq]
    exact ⟨_, splitBody_append .code (text.drop b)⟩
  refine docstring?_of_absent (fun c hc => hblank c ?_) fun quote hquote hopens =>
    hliteral quote hquote (hopens.trans hprefix)
  obtain ⟨rest, hrest⟩ := hprefix
  rw [← List.head?_drop, ← hrest, List.head?_append, hc, Option.some_or]

/-! ## The theorem -/

/-- **The docstring and the end of its body.** The colon of a header stands in one place, and the
docstring that is captured agrees with the end of the body about what stands behind it. -/
theorem captures_docstring (hd : d ∈ scan text) (label : LooseText) :
    ∃ colon, (∀ other, d.ColonAt text other ↔ other = colon) ∧
      CapturesDocstring text d (d.toRoutine label) (bodyStart text colon) := by
  obtain ⟨colon, hcolon, hbody⟩ := exists_bodyAt hd
  have hsource : (d.toRoutine label).source.toList = Text.trim d.text := String.toList_ofList
  have hdoc : ∀ found, docstring? d.body = found →
      (d.toRoutine label).docstring = found.map String.ofList :=
    fun _ hfound => congrArg (Option.map String.ofList) hfound
  refine ⟨colon, hcolon, ?_, ?_, ?_⟩
  · intro quote c hquote hopens hfirst
    obtain ⟨hcontent, hstop, hslice⟩ := hbody.closed hquote hopens hfirst
    exact ⟨hdoc _ hcontent, hstop, by rwa [hsource]⟩
  · intro quote hquote hopens hnever
    obtain ⟨hnone, hstop⟩ := hbody.unclosed hquote hopens hnever
    exact ⟨hdoc _ hnone, hstop⟩
  · rintro (hend | ⟨c, hc, hblank, hliteral⟩)
    · refine hdoc _ (hbody.absent ?_ ?_)
      · rw [hend, List.getElem?_length]
        simp
      · rw [hend, List.drop_length]
        simp [triple]
    · refine hdoc _ (hbody.absent (fun c' hc' => ?_) hliteral)
      rwa [← Option.some.inj (hc.symm.trans hc')]

/-- A docstring with a fourth quote, a triple of the other kind and a line in column zero. -/
theorem captures_docstring_fourQuotes :
    let text := "def f():\n  \"\"\"\"a '''\nb \"\"\"\n  return\nx = 1\n".toList
    let d : Definition :=
      { name := "f".toList
        params := []
        returnType := none
        body := "\"\"\"\"a '''\nb \"\"\"\n  return".toList
        text := "def f():\n  \"\"\"\"a '''\nb \"\"\"\n  return".toList
        start := 0 }
    d ∈ scan text ∧ (d.toRoutine "m.py").docstring = some "\"a '''\nb" ∧
      ∃ colon, (∀ other, d.ColonAt text other ↔ other = colon) ∧
        CapturesDocstring text d (d.toRoutine "m.py") (bodyStart text colon) := by
  intro text d
  have h : d ∈ scan text := by decide +kernel
  exact ⟨h, by decide +kernel, captures_docstring h "m.py"⟩

end Source

end Docwright
