import Docwright.Proofs.Extraction
import Docwright.Proofs.Locality
import Docwright.Proofs.Search

/-!
# The place of a docstring

A text with a place for the content of a docstring (`DocstringPlace`) is one text for every content.
If the place is the docstring of a definition for one content, then it is for all contents without a
quote, and nothing but the content changes in the definition (`Front.mem_scan_text`,
`Front.docstring?_body`):

* the header and the blanks behind it come before the literal, and so does all that the scan has
  found by then (`exists_start_of_header`);
* the reader of the body is back in code behind the literal (`splitBody_literal`).
-/

namespace Docwright

namespace Source

/-! ## Reading a literal -/

/-- The delimiter of a long literal. -/
def triple (quote : Char) : List Char :=
  [quote, quote, quote]

theorem ne_of_isQuote {quote c : Char} (h : isQuote quote = true) (hc : isQuote c = false) :
    quote ≠ c := by
  rintro rfl
  rw [h] at hc
  cases hc

/-- A quote is no blank. -/
theorem isBlank_eq_false_of_isQuote {quote : Char} (h : isQuote quote = true) :
    Text.isBlank quote = false := by
  by_contra hblank
  rw [isQuote_eq_false_of_isBlank (eq_true_of_ne_false hblank)] at h
  cases h

/-- No blanks are trimmed in front of a delimiter. -/
theorem trimEnd_append_triple {quote : Char} (h : isQuote quote = true) (s t : List Char) :
    Text.trimEnd (s ++ (triple quote ++ t)) = s ++ (triple quote ++ Text.trimEnd t) := by
  have htrimmed : Text.trimEnd (s ++ triple quote) = s ++ triple quote := by
    have hlast : s ++ triple quote = (s ++ [quote, quote]) ++ [quote] := by
      simp [triple]
    rw [hlast]
    exact Text.trimEnd_concat (isBlank_eq_false_of_isQuote h)
  rw [← List.append_assoc, Text.trimEnd_append_of_trimmed htrimmed, List.append_assoc]

/-- A delimiter is a quote with two more behind it. -/
theorem triple_isPrefix_cons_iff {quote c : Char} {s : List Char} :
    triple quote <+: c :: s ↔ (c = quote && twoMore quote s) = true := by
  match s with
  | [] => simp [triple, twoMore]
  | [a] => simp [triple, twoMore]
  | a :: b :: s =>
    simp only [triple, twoMore, List.cons_prefix_cons, List.nil_prefix, and_true, Bool.and_eq_true,
      decide_eq_true_eq, beq_iff_eq]
    rw [@eq_comm _ c, @eq_comm _ a, @eq_comm _ b]

theorem isBoundary_long (quote c : Char) (s : List Char) :
    isBoundary (.long quote) c s = false := by
  simp [isBoundary, Mode.atLineEnd]

/-- Without a delimiter the reader stays in a long literal. -/
theorem step_long_of_not_isPrefix {quote c : Char} {s : List Char}
    (h : ¬ triple quote <+: c :: s) : (Mode.long quote).step c s = .long quote := by
  rw [Mode.step, if_neg (mt triple_isPrefix_cons_iff.mpr h)]

/-- In a long literal the reader goes on to the first delimiter. -/
theorem splitBody_long {quote : Char} {s content behind : List Char}
    (h : Text.cut? (triple quote) s = some (content, behind)) :
    splitBody (.long quote) s =
      (content ++ (triple quote ++ (splitBody .code behind).1), (splitBody .code behind).2) := by
  induction s generalizing content with
  | nil => cases h
  | cons c s ih =>
    rw [Text.cut?] at h
    rcases hafter : Text.after? (triple quote) (c :: s) with _ | rest
    · rw [hafter] at h
      obtain ⟨⟨content, behind⟩, hrest, heq⟩ := Option.map_eq_some_iff.mp h
      obtain ⟨rfl, rfl⟩ := Prod.mk.inj heq
      rw [splitBody_of_not_boundary (isBoundary_long quote c s),
        step_long_of_not_isPrefix (Text.after?_eq_none_iff.mp hafter), ih hrest]
      rfl
    · rw [hafter] at h
      obtain ⟨rfl, rfl⟩ := Prod.mk.inj (Option.some.inj h)
      rw [Text.after?_eq_some_iff.mp hafter]
      simp [triple, splitBody, isBoundary, Mode.atLineEnd, Mode.step, twoMore]

/-- A long literal without a delimiter behind it goes on to the end of the text. -/
theorem splitBody_long_of_not_isInfix {quote : Char} {s : List Char}
    (h : ¬ triple quote <:+: s) : splitBody (.long quote) s = (s, []) := by
  induction s with
  | nil => rfl
  | cons c s ih =>
    rw [List.infix_cons_iff, not_or] at h
    rw [splitBody_of_not_boundary (isBoundary_long quote c s), step_long_of_not_isPrefix h.1,
      ih h.2]

/-- Behind an opening delimiter the reader is in a long literal. -/
theorem splitBody_triple {quote : Char} (hquote : isQuote quote = true) (s : List Char) :
    splitBody .code (triple quote ++ s) =
      (triple quote ++ (splitBody (.long quote) s).1, (splitBody (.long quote) s).2) := by
  have hsign : quote ≠ '#' := ne_of_isQuote hquote rfl
  have hline : quote ≠ '\n' := ne_of_isQuote hquote rfl
  simp [triple, splitBody, isBoundary, Mode.step, twoMore, hsign, hline, hquote]

/-- **Reading a literal.** Behind it the reader is in code again. -/
theorem splitBody_literal {quote : Char} (hquote : isQuote quote = true)
    {s content behind : List Char} (h : Text.cut? (triple quote) s = some (content, behind)) :
    splitBody .code (triple quote ++ s) =
      (triple quote ++ (content ++ (triple quote ++ (splitBody .code behind).1)),
        (splitBody .code behind).2) := by
  rw [splitBody_triple hquote, splitBody_long h]

/-- A body that starts with a delimiter has a docstring if the delimiter comes again. -/
theorem docstring?_triple {quote : Char} (hquote : isQuote quote = true) {body s : List Char}
    (hbody : Text.trimStart body = triple quote ++ s) :
    docstring? body = (Text.cut? (triple quote) s).map fun found => Text.trim found.1 := by
  have hown : leadingLiteral? body (triple quote) =
      (Text.cut? (triple quote) s).map fun found => Text.trim found.1 := by
    have hafter : Text.after? (triple quote) (triple quote ++ s) = some s :=
      Text.after?_eq_some_iff.mpr rfl
    rw [leadingLiteral?, hbody, hafter]
  have htriples : tripleQuotes = [triple '\'', triple '"'] := rfl
  rw [docstring?_eq_findSome?, htriples, List.findSome?_cons, List.findSome?_cons]
  simp only [isQuote, Bool.or_eq_true, beq_iff_eq] at hquote
  rcases hquote with rfl | rfl
  · have hother : leadingLiteral? body (triple '"') = none := by
      rw [leadingLiteral?, hbody]
      rfl
    rw [hown, hother]
    cases Text.cut? (triple '\'') s <;> rfl
  · have hother : leadingLiteral? body (triple '\'') = none := by
      rw [leadingLiteral?, hbody]
      rfl
    rw [hother, hown]
    cases Text.cut? (triple '"') s <;> rfl

theorem Mode.step_code_of_isBlank {c : Char} (h : Text.isBlank c = true) (rest : List Char) :
    Mode.code.step c rest = .code := by
  have hsign : c ≠ '#' := by
    rintro rfl
    cases h
  simp [Mode.step, hsign, isQuote_eq_false_of_isBlank h]

/-- Blanks that a body starts with stay its start in front of every text with the same first
character. -/
theorem splitBody_of_blank_append {s t : List Char} (hs : ∀ c ∈ s, Text.isBlank c = true)
    (h : s <+: (splitBody .code (s ++ t)).1) {t' : List Char} (ht : t'.head? = t.head?) :
    splitBody .code (s ++ t') = (s ++ (splitBody .code t').1, (splitBody .code t').2) := by
  induction s with
  | nil => rfl
  | cons c s ih =>
    have hc := hs c (List.mem_cons_self ..)
    have hb : isBoundary .code c (s ++ t) = false := by
      by_contra hb
      rw [List.cons_append, splitBody_of_boundary (eq_true_of_ne_false hb)] at h
      simp at h
    have hb' : isBoundary .code c (s ++ t') = false := by
      cases s with
      | nil =>
        cases t <;> cases t' <;> simp_all [isBoundary, inColumnZero]
      | cons d s => exact hb
    rw [List.cons_append, splitBody_of_not_boundary hb, Mode.step_code_of_isBlank hc,
      List.cons_prefix_cons] at h
    rw [List.cons_append, splitBody_of_not_boundary hb', Mode.step_code_of_isBlank hc,
      ih (fun d hd => hs d (List.mem_cons_of_mem c hd)) h.2]
    rfl

/-! ## Places -/

/-- A text with a place for the content of a long literal. -/
structure DocstringPlace where
  /-- the text in front of the literal -/
  before : List Char
  /-- the quote of its delimiters -/
  quote : Char
  /-- the text behind the literal -/
  behind : List Char
  /-- the quote is one -/
  quote_isQuote : isQuote quote = true

/-- A content without quotes and backslashes. -/
def PlainContent (content : List Char) : Prop :=
  ∀ c ∈ content, isQuote c = false ∧ c ≠ '\\'

theorem PlainContent.not_mem {content : List Char} (h : PlainContent content) {c : Char}
    (hc : isQuote c = true) : c ∉ content := by
  intro hmem
  rw [(h c hmem).1] at hc
  cases hc

/-- The position where the body of a definition starts behind its blanks. -/
def Definition.docstringStart (d : Definition) : Nat :=
  d.stop - (Text.trimStart d.body).length

namespace DocstringPlace

variable (p : DocstringPlace)

/-- The literal with a content, and a text behind it. -/
def literal (content rest : List Char) : List Char :=
  triple p.quote ++ (content ++ (triple p.quote ++ rest))

/-- The text with a content. -/
def text (content : List Char) : List Char :=
  p.before ++ p.literal content p.behind

/-- What the body of a definition takes from the text behind the literal. -/
def tail : List Char :=
  (splitBody .code p.behind).1

variable {p}

theorem head?_literal (content rest : List Char) :
    (p.literal content rest).head? = some p.quote := rfl

theorem isAsciiBlank_quote : Text.isAsciiBlank p.quote = false := by
  by_contra hblank
  have := isQuote_eq_false_of_isBlank (Text.isBlank_of_isAsciiBlank (eq_true_of_ne_false hblank))
  rw [p.quote_isQuote] at this
  cases this

/-- The delimiter is not found in a content without quotes. -/
theorem cut?_triple {content : List Char} (h : PlainContent content) (rest : List Char) :
    Text.cut? (triple p.quote) (content ++ (triple p.quote ++ rest)) = some (content, rest) := by
  refine Text.cut?_append_of_first fun u v huv hv hhead => ?_
  obtain ⟨c, v, rfl⟩ := List.exists_cons_of_ne_nil hv
  have hc : p.quote = c := (List.cons_prefix_cons.mp hhead).1
  refine h.not_mem p.quote_isQuote ?_
  rw [huv, hc]
  simp

/-! ## What stands in front of a docstring -/

/-- What stands in front of the docstring of a definition: a text, the header, the ASCII blanks that
the reader skips and the blanks that the body starts with. -/
structure Front (p : DocstringPlace) where
  /-- the text in front of the definition -/
  lead : List Char
  /-- the header -/
  head : List Char
  /-- the name in it -/
  name : List Char
  /-- the text between its parentheses -/
  params : List Char
  /-- the text behind its arrow -/
  arrowed : Option (List Char)
  /-- the blanks behind the colon -/
  gap : List Char
  /-- the blanks in front of the literal -/
  blanks : List Char
  /-- these are all parts -/
  before_eq : p.before = lead ++ (head ++ (gap ++ blanks))
  /-- no identifier goes on into the header -/
  lead_word : lead.getLast?.any Text.isIdentChar = false
  /-- the header is one -/
  isHeader : IsHeader head name params arrowed
  /-- the reader skips the gap -/
  gap_blank : ∀ c ∈ gap, Text.isAsciiBlank c = true
  /-- there are only blanks in front of the literal -/
  blanks_blank : ∀ c ∈ blanks, Text.isBlank c = true
  /-- the reader skips no more than the gap -/
  blanks_head : ∀ c, blanks.head? = some c → Text.isAsciiBlank c = false
  /-- the body does not end in front of the literal, whatever its content -/
  blanks_body : ∀ content, blanks <+: (splitBody .code (blanks ++ p.literal content p.behind)).1

/-- **The front of a docstring** is the same for every content. -/
theorem exists_front {content : List Char} {d : Definition}
    (hd : definitionIn? (p.text content) d.start = some d)
    (hplace : d.docstringStart = p.before.length) :
    ∃ f : Front p, f.name = d.name ∧ f.params = d.params ∧ f.lead.length = d.start := by
  have hlt := lt_length_of_definitionIn? hd
  obtain ⟨hlead, head, arrowed, gap, core, hdrop, hhead, hgap, hcore, hdef⟩ :=
    definitionAt?_eq_some_parts hd
  have hbody : d.body = (splitBody .code core).1 := by rw [hdef]
  have htext : d.text = head ++ (gap ++ d.body) := by rw [hbody, hdef]
  have hsplit : d.body ++ (splitBody .code core).2 = core := by
    rw [hbody]
    exact splitBody_append .code core
  have hinner : d.body.takeWhile Text.isBlank ++ Text.trimStart d.body = d.body :=
    List.takeWhile_append_dropWhile
  have hblank : ∀ c ∈ d.body.takeWhile Text.isBlank, Text.isBlank c = true :=
    fun c hc => List.mem_takeWhile_imp hc
  -- the position of the literal cuts the text between the blanks and the rest of the body
  have hlength : p.before.length = ((p.text content).take d.start ++
      (head ++ (gap ++ d.body.takeWhile Text.isBlank))).length := by
    have hlen := congrArg List.length hinner
    rw [List.length_append] at hlen
    rw [← hplace, Definition.docstringStart, Definition.stop, htext]
    simp only [List.length_append, List.length_take]
    omega
  have hwhole : p.before ++ p.literal content p.behind = ((p.text content).take d.start ++
      (head ++ (gap ++ d.body.takeWhile Text.isBlank))) ++
        (Text.trimStart d.body ++ (splitBody .code core).2) := by
    have hcut := List.take_append_drop d.start (p.text content)
    rw [hdrop, ← hsplit, ← hinner] at hcut
    refine hcut.symm.trans ?_
    simp only [List.append_assoc]
  obtain ⟨hfront, hliteral⟩ := List.append_inj hwhole hlength
  have hwith : d.body.takeWhile Text.isBlank <+:
      (splitBody .code (d.body.takeWhile Text.isBlank ++ p.literal content p.behind)).1 := by
    rw [hliteral, ← List.append_assoc, hinner, hsplit, ← hbody]
    exact List.takeWhile_prefix _
  refine ⟨⟨(p.text content).take d.start, head, d.name, d.params, arrowed, gap,
    d.body.takeWhile Text.isBlank, hfront, hlead, hhead, hgap, hblank, ?_, ?_⟩, rfl, rfl,
    List.length_take_of_le hlt.le⟩
  · intro c hc
    refine hcore c ?_
    rw [← hsplit, ← hinner, List.append_assoc, List.head?_append, hc, Option.some_or]
  · intro content'
    rw [@splitBody_of_blank_append _ _ hblank hwith (p.literal content' p.behind) rfl]
    exact List.prefix_append ..

theorem Front.text_eq (f : Front p) (content : List Char) :
    p.text content =
      f.lead ++ (f.head ++ (f.gap ++ (f.blanks ++ p.literal content p.behind))) := by
  rw [text, f.before_eq]
  simp

/-- The definition of a front, with a content for its docstring. -/
def Front.definition (f : Front p) (content : List Char) : Definition where
  name := f.name
  params := f.params
  returnType := Signature.returnType ⟨f.params, f.arrowed, []⟩
  body := f.blanks ++ p.literal content p.tail
  text := f.head ++ (f.gap ++ (f.blanks ++ p.literal content p.tail))
  start := f.lead.length

/-- **The docstring is all that changes** in a definition when its content does. -/
theorem Front.definitionIn?_text (f : Front p) {content : List Char}
    (h : PlainContent content) :
    definitionIn? (p.text content) f.lead.length = some (f.definition content) := by
  have hfirst : ∀ c, (f.blanks ++ p.literal content p.behind).head? = some c →
      Text.isAsciiBlank c = false := by
    intro c hc
    rcases hblanks : f.blanks with _ | ⟨b, blanks⟩
    · rw [hblanks, List.nil_append, head?_literal] at hc
      rw [← Option.some.inj hc]
      exact isAsciiBlank_quote
    · refine f.blanks_head c ?_
      rw [hblanks] at hc ⊢
      exact hc
  have hbody : (splitBody .code (f.blanks ++ p.literal content p.behind)).1 =
      f.blanks ++ p.literal content p.tail := by
    rw [splitBody_of_blank_append f.blanks_blank (f.blanks_body content) rfl, literal,
      splitBody_literal p.quote_isQuote (cut?_triple h p.behind)]
    rfl
  rw [definitionIn?, f.text_eq, List.take_left, List.drop_left,
    definitionAt?_of_isHeader f.isHeader f.lead_word,
    definitionOf_append f.head _ _ f.arrowed _ f.gap_blank hfirst, hbody, definition]

/-- **The definition is found** for every content, if it is for one. -/
theorem Front.mem_scan_text (f : Front p) {content : List Char}
    (hfound : ∃ d ∈ scan (p.text content), d.start = f.lead.length) {content' : List Char}
    (h : PlainContent content') : f.definition content' ∈ scan (p.text content') := by
  rw [f.text_eq] at hfound
  obtain ⟨d, hd, hstart⟩ := exists_start_of_header f.isHeader f.lead_word hfound
    (f.gap ++ (f.blanks ++ p.literal content' p.behind))
  rw [← f.text_eq] at hd
  have hrun : Calls (p.text content') 0 (scan (p.text content')) := calls_iff_eq_scan.mpr rfl
  have hin := (hrun.le_start d hd).2
  rw [hstart, f.definitionIn?_text h] at hin
  rwa [Option.some.inj hin]

/-! ## What is read of the definition -/

/-- **The docstring** is the trimmed content. -/
theorem docstring?_literal {content : List Char} (h : PlainContent content) {body rest : List Char}
    (hbody : Text.trimStart body = p.literal content rest) :
    docstring? body = some (Text.trim content) := by
  rw [docstring?_triple p.quote_isQuote hbody, cut?_triple h]
  rfl

/-- The docstring of a definition with a front is its content. -/
theorem Front.docstring?_body (f : Front p) {content : List Char} (h : PlainContent content) :
    docstring? (f.definition content).body = some (Text.trim content) := by
  refine @docstring?_literal p content h _ p.tail ?_
  refine Text.dropWhile_append_of_stop f.blanks_blank fun c hc => ?_
  rw [← Option.some.inj hc]
  exact isBlank_eq_false_of_isQuote p.quote_isQuote

/-- The text between the start of the definition and its docstring. -/
theorem Front.drop_before (f : Front p) :
    p.before.drop f.lead.length = f.head ++ (f.gap ++ f.blanks) := by
  rw [f.before_eq, List.drop_left]

/-- **The source of the routine** is the text up to the docstring, the literal, and what the body
takes along, without the blanks at its end. -/
theorem Front.source_toRoutine (f : Front p) (label : LooseText) (content : List Char) :
    ((f.definition content).toRoutine label).source.toList =
      p.before.drop f.lead.length ++ p.literal content (Text.trimEnd p.tail) := by
  have hparts : f.gap ++ (f.blanks ++ p.literal content p.tail) =
      (f.gap ++ (f.blanks ++ (triple p.quote ++ content))) ++ (triple p.quote ++ p.tail) := by
    simp [literal]
  rw [Definition.toRoutine, String.toList_ofList, definition, f.isHeader.trim_append, hparts,
    trimEnd_append_triple p.quote_isQuote, f.drop_before]
  simp [literal]

end DocstringPlace

end Source

end Docwright
