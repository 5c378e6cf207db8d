import Docwright.Proofs.LeadingLiteral
import Docwright.Proofs.LexicalPieces

/-!
# Bodies that end in a literal

A line in column zero ends a body, but not if it is a line of a long literal. The reader of a body
knows long literals, but not the escapes in them: it takes a delimiter behind a backslash for the
end of its literal, where the language goes on. Until it meets such a delimiter it agrees with the
reader of the language (`Agree.behind`).

The main result is `keepsLiterals_iff`. It says of a text whether the ends of all its bodies stand
outside long literals (`KeepsLiterals`): exactly when no body has an escaped delimiter
(`EscapedEnd`) from which the language reads on into a long literal that is open where the body
ends.
-/

namespace Docwright

namespace Source

open Reading

/-! ## Long literals of a text -/

/-- A long literal of a text. -/
structure LongLiteral (text : List Char) where
  /-- the text in front of it -/
  before : List Char
  /-- the quote of its delimiters -/
  quote : Char
  /-- the text between the delimiters -/
  content : List Char
  /-- the closing delimiter, or nothing at the end of the text -/
  ending : List Char
  /-- the text behind it -/
  behind : List Char
  /-- the text is these parts -/
  text_eq : text = before ++ (triple quote ++ (content ++ (ending ++ behind)))
  /-- the quote is a quote -/
  quote_isQuote : isQuote quote = true
  /-- the literal opens outside comments and other literals -/
  opens : Pieces before (triple quote ++ (content ++ (ending ++ behind)))
  /-- it is closed by the first delimiter that is not escaped, or never -/
  ends : ending = triple quote ∧ EndsFirst (LongEnd quote) content (ending ++ behind) ∨
    ending ++ behind = [] ∧ OnlyEscaped (LongEnd quote) content []

/-- The position of a literal. -/
def LongLiteral.start {text : List Char} (l : LongLiteral text) : Nat :=
  l.before.length

/-- The position behind a literal. -/
def LongLiteral.stop {text : List Char} (l : LongLiteral text) : Nat :=
  l.start + (triple l.quote ++ (l.content ++ l.ending)).length

/-- The text from the start of a body on. -/
def Definition.onward (d : Definition) (text : List Char) : List Char :=
  text.drop (d.stop - d.body.length)

/-- No body of a text ends strictly inside a long literal. -/
def KeepsLiterals (text : List Char) : Prop :=
  ∀ d ∈ scan text, ∀ l : LongLiteral (d.onward text),
    ¬ (l.start < d.body.length ∧ d.body.length < l.stop)

variable {s t body rest : List Char} {c quote : Char} {mode : Mode} {r : Reading}

theorem LongLiteral.onlyEscaped {text : List Char} (l : LongLiteral text) :
    OnlyEscaped (LongEnd l.quote) l.content (l.ending ++ l.behind) := by
  rcases l.ends with ⟨-, hends⟩ | ⟨hnil, honly⟩
  · exact hends.onlyEscaped
  · rwa [hnil]

/-- A literal around a newline holds the newline in its content. -/
theorem LongLiteral.exists_content {text : List Char} (l : LongLiteral text)
    (htext : text = body ++ '\n' :: rest) (hstart : l.start < body.length)
    (hstop : body.length < l.stop) :
    ∃ u v, body = l.before ++ (triple l.quote ++ u) ∧ l.content = u ++ v ∧
      v ++ (l.ending ++ l.behind) = '\n' :: rest := by
  have hparts := l.text_eq.symm.trans htext
  -- the newline is in no delimiter, so both of them stand on one side of it
  have hside : ∀ u, triple l.quote <+: u ++ '\n' :: rest → triple l.quote <+: u :=
    fun u => (triple_isPrefix_append_iff l.quote_isQuote rfl).mp
  rcases List.append_eq_append_iff.mp hparts with ⟨m, rfl, hm⟩ | ⟨m, hbefore, -⟩
  · obtain ⟨u, rfl⟩ := hside m ⟨_, hm⟩
    rw [List.append_assoc, List.append_cancel_left_eq] at hm
    rcases List.append_eq_append_iff.mp hm with ⟨w, rfl, hw⟩ | ⟨v, hv, hrest⟩
    · exfalso
      rcases l.ends with ⟨hending, -⟩ | ⟨hnil, -⟩
      · rw [hending] at hw
        have hle := (hside w ⟨_, hw⟩).length_le
        simp only [stop, start, hending, List.length_append] at hstop
        omega
      · rw [hnil] at hw
        exact absurd hw.symm (List.append_ne_nil_of_right_ne_nil w (List.cons_ne_nil _ _))
    · exact ⟨u, v, rfl, hv, hrest.symm⟩
  · exfalso
    rw [start, hbefore, List.length_append] at hstart
    omega

/-- **Inside a literal** the reader of the language is in a long literal. -/
theorem LongLiteral.inLong {text : List Char} (l : LongLiteral text)
    (htext : text = body ++ '\n' :: rest) (hstart : l.start < body.length)
    (hstop : body.length < l.stop) :
    ((ofMode .code).behind body ('\n' :: rest)).InLong := by
  obtain ⟨u, v, rfl, hcontent, hrest⟩ := l.exists_content htext hstart hstop
  have hopens := l.opens
  have honly := l.onlyEscaped
  rw [hcontent] at hopens honly
  rw [List.append_assoc, hrest, ← List.append_assoc] at hopens
  have hpart := honly.left
  rw [hrest] at hpart
  rw [behind_append, hopens.behind_code, behind_append, behind_triple l.quote_isQuote]
  by_cases hescapes : EscapesNext u
  · rw [(behind_longContent hpart).1 hescapes]
    trivial
  · rw [(behind_longContent hpart).2 hescapes]
    trivial

/-- Where all ends in a literal are escaped so far and the text goes on, the literal ends behind
that place. -/
theorem exists_ending {content : List Char} (hne : rest ≠ [])
    (honly : OnlyEscaped (LongEnd quote) content rest) :
    ∃ whole ending behind, content ++ rest = whole ++ (ending ++ behind) ∧
      content.length < (whole ++ ending).length ∧
        (ending = triple quote ∧ EndsFirst (LongEnd quote) whole (ending ++ behind) ∨
          ending ++ behind = [] ∧ OnlyEscaped (LongEnd quote) whole []) := by
  rcases exists_endsFirst (LongEnd quote) (content ++ rest) [] with
    ⟨whole, v, hparts, -, hends⟩ | hopen
  · rw [List.append_nil] at hends
    obtain ⟨behind, rfl⟩ := hends.isEnd
    have hle : content.length ≤ whole.length := by
      rcases List.append_eq_append_iff.mp hparts with ⟨w, rfl, -⟩ | ⟨w, hw, hrest⟩
      · simp
      · cases w with
        | nil => simp [hw]
        | cons d w =>
          rw [hrest] at hends
          exact absurd (honly whole (d :: w) hw (List.cons_ne_nil _ _) hends.isEnd)
            hends.not_escapesNext
    refine ⟨whole, triple quote, behind, hparts, ?_, .inl ⟨rfl, hends⟩⟩
    simp only [triple, List.length_append, List.length_cons]
    omega
  · refine ⟨content ++ rest, [], [], by simp, ?_, .inr ⟨rfl, hopen⟩⟩
    simpa using List.length_pos_of_ne_nil hne

/-- **Where the reader of the language is in a long literal**, there is one. -/
theorem exists_longLiteral (hne : rest ≠ []) (hhead : rest.head?.any isQuote = false)
    (h : ((ofMode .code).behind body rest).InLong) :
    ∃ l : LongLiteral (body ++ rest), l.start < body.length ∧ body.length < l.stop := by
  obtain ⟨before, quote, content, hbody, hquote, hopens, honly⟩ :=
    exists_open_of_inLong hhead .nil h
  obtain rfl : body = before ++ (triple quote ++ content) := hbody
  obtain ⟨whole, ending, behind, hparts, hlt, hends⟩ := exists_ending hne honly
  rw [hparts] at hopens
  let l : LongLiteral ((before ++ (triple quote ++ content)) ++ rest) :=
    { before, quote, content := whole, ending, behind
      text_eq := by rw [List.append_assoc, List.append_assoc, hparts]
      quote_isQuote := hquote
      opens := hopens
      ends := hends }
  refine ⟨l, ?_, ?_⟩
  · simp [l, LongLiteral.start, triple]
  · simp only [l, LongLiteral.stop, LongLiteral.start, List.length_append] at hlt ⊢
    omega

/-! ## The two readers -/

/-- The reader of a body agrees with the reader of the language, but does not see escapes in long
literals. -/
def Agree (mode : Mode) (r : Reading) : Prop :=
  r = ofMode mode ∨ ∃ quote, mode = .long quote ∧ r = escapedLong quote

/-- In front of a delimiter that is escaped and that ends the literal in a body. -/
def AtEscaped (mode : Mode) (r : Reading) (s : List Char) : Prop :=
  ∃ quote, mode = .long quote ∧ r = escapedLong quote ∧ triple quote <+: s

theorem Agree.step (h : Agree mode r) (hmode : mode.Proper) (c : Char) (s : List Char) :
    Agree (mode.step c s) (r.step c s) ∨ AtEscaped mode r (c :: s) := by
  rcases h with rfl | ⟨quote, rfl, rfl⟩
  · rcases step_ofMode mode c with hstep | ⟨quote, rfl, rfl⟩
    · exact .inl (.inl (hstep s))
    · have hne : ¬ triple quote <+: '\\' :: s := by
        rintro hend
        obtain rfl : quote = '\\' := (List.cons_prefix_cons.mp hend).1
        cases hmode
      rw [step_long_of_not_isPrefix hne]
      exact .inl (.inr ⟨quote, rfl, rfl⟩)
  · by_cases hend : triple quote <+: c :: s
    · exact .inr ⟨quote, rfl, rfl, hend⟩
    · rw [step_long_of_not_isPrefix hend]
      exact .inl (.inl rfl)

/-- **The two readers** agree, unless they have met an escaped delimiter. -/
theorem Agree.behind (h : Agree mode r) (hmode : mode.Proper) (s t : List Char) :
    Agree (mode.behind s t) (r.behind s t) ∨
      ∃ u v, s = u ++ v ∧ v ≠ [] ∧
        AtEscaped (mode.behind u (v ++ t)) (r.behind u (v ++ t)) (v ++ t) := by
  induction s generalizing mode r with
  | nil => exact .inl h
  | cons c s ih =>
    rcases h.step hmode c (s ++ t) with hstep | hescaped
    · rcases ih hstep (hmode.step c _) with hagree | ⟨u, v, rfl, hv, hescaped⟩
      · exact .inl hagree
      · rw [List.append_assoc] at hescaped
        exact .inr ⟨c :: u, v, rfl, hv, hescaped⟩
    · exact .inr ⟨[], c :: s, rfl, List.cons_ne_nil _ _, hescaped⟩

/-! ## Escaped delimiters in a body -/

/-- A delimiter in a body that the reader of the body takes for the end of a literal and that the
language takes for a part of it. -/
structure EscapedEnd (body : List Char) where
  /-- the body in front of it -/
  before : List Char
  /-- its quote -/
  quote : Char
  /-- the body behind it -/
  behind : List Char
  /-- the body is these parts -/
  body_eq : body = before ++ (triple quote ++ behind)
  /-- the reader of the body is in the literal -/
  taken : Mode.code.behind before (triple quote ++ behind) = .long quote
  /-- the reader of the language has a backslash there -/
  escaped : (ofMode .code).behind before (triple quote ++ behind) = escapedLong quote

/-- The language reads on from there, over the delimiter, and is in a long literal where the body
ends. -/
def EscapedEnd.LeavesOpen (e : EscapedEnd body) : Prop :=
  ((escapedLong e.quote).behind (triple e.quote ++ e.behind) []).InLong

theorem EscapedEnd.leavesOpen_iff (e : EscapedEnd body) :
    e.LeavesOpen ↔ ((ofMode .code).behind body []).InLong := by
  have hbody : (ofMode .code).behind body [] =
      (escapedLong e.quote).behind (triple e.quote ++ e.behind) [] := by
    conv_lhs => rw [e.body_eq, behind_append, List.append_nil, e.escaped]
  rw [hbody, LeavesOpen]

/-- Where a body ends in a long literal of the language, though its reader sees no literal there, it
has an escaped delimiter. -/
theorem exists_escapedEnd (hline : (Mode.code.behind body []).atLineEnd = true)
    (h : ((ofMode .code).behind body []).InLong) : Nonempty (EscapedEnd body) := by
  have hstart : Agree .code (ofMode .code) := .inl rfl
  rcases hstart.behind Mode.proper_code body [] with
    (hsame | ⟨quote, hlong, -⟩) | ⟨before, v, rfl, -, quote, htaken, hescaped, hend⟩
  · rw [hsame] at h
    cases hmode : Mode.code.behind body [] <;> simp_all [Mode.atLineEnd, InLong]
  · rw [hlong] at hline
    cases hline
  · rw [List.append_nil] at htaken hescaped hend
    obtain ⟨behind, rfl⟩ := hend
    exact ⟨⟨before, quote, behind, rfl, htaken, hescaped⟩⟩

/-! ## Ends of bodies -/

/-- Where a body ends in front of the end of the text, its reader stands at a boundary. -/
theorem isBoundary_behind (h : splitBody mode s = (body, c :: rest)) :
    isBoundary (mode.behind body (c :: rest)) c rest = true := by
  induction s generalizing mode body with
  | nil => cases h
  | cons d s ih =>
    rcases hb : isBoundary mode d s
    · rw [splitBody_of_not_boundary hb] at h
      obtain ⟨rfl, hrest⟩ := Prod.mk.inj h
      have hs : (splitBody (mode.step d s) s).1 ++ c :: rest = s := by
        rw [← hrest, splitBody_append]
      have hbehind := ih (Prod.ext rfl hrest)
      rw [Mode.behind, stateBehind, hs]
      exact hbehind
    · rw [splitBody_of_boundary hb] at h
      obtain ⟨rfl, hrest⟩ := Prod.mk.inj h
      obtain ⟨rfl, rfl⟩ := List.cons.inj hrest
      exact hb

/-- The text from the start of a body on is the body and, unless that is the end of the text, a
newline behind it at which its reader sees a line end. -/
theorem onward_eq {text : List Char} {d : Definition} (hd : d ∈ scan text) :
    d.stop = text.length ∧ d.onward text = d.body ∨
      d.stop < text.length ∧ (Mode.code.behind d.body []).atLineEnd = true ∧
        ∃ rest, d.onward text = d.body ++ '\n' :: rest := by
  obtain ⟨colon, -, hbody⟩ := exists_bodyAt hd
  have hstop := hbody.stop_eq
  have hle := hbody.le_length
  have honward : d.onward text = text.drop (bodyStart text colon) := by
    rw [Definition.onward, hstop, Nat.add_sub_cancel]
  have hfst : (splitBody .code (d.onward text)).1 = d.body := by
    rw [honward, ← hbody.body_eq]
  have hparts := splitBody_append .code (d.onward text)
  have hlength := congrArg List.length hparts
  rw [hfst] at hparts hlength
  rw [List.length_append, honward, List.length_drop, ← honward] at hlength
  rcases splitBody_snd .code (d.onward text) with hsnd | ⟨c, rest, hsnd, -⟩
  · rw [hsnd] at hparts hlength
    rw [List.length_nil] at hlength
    exact .inl ⟨by omega, by rw [← hparts, List.append_nil]⟩
  · have hline := isBoundary_behind (Prod.ext hfst hsnd)
    rw [Mode.behind_of_head rfl Mode.proper_code] at hline
    rw [hsnd] at hparts hlength
    rw [List.length_cons] at hlength
    simp only [isBoundary, Bool.and_eq_true] at hline
    exact .inr ⟨by omega, hline.1.2, c :: rest, hparts.symm⟩

/-- **The end of a body** stands in a long literal exactly when the text goes on there and the
reader of the language is in one. -/
theorem exists_longLiteral_iff {text : List Char} {d : Definition} (hd : d ∈ scan text) :
    (∃ l : LongLiteral (d.onward text), l.start < d.body.length ∧ d.body.length < l.stop) ↔
      d.stop < text.length ∧ ((ofMode .code).behind d.body []).InLong := by
  rcases onward_eq hd with ⟨hstop, honward⟩ | ⟨hstop, -, rest, honward⟩
  · constructor
    · rintro ⟨l, -, hlt⟩
      have hlength := congrArg List.length (l.text_eq.symm.trans honward)
      simp only [LongLiteral.stop, LongLiteral.start, List.length_append] at hlt hlength
      omega
    · rintro ⟨hlt, -⟩
      omega
  · have hhead : (ofMode .code).behind d.body ('\n' :: rest) = (ofMode .code).behind d.body [] :=
      behind_of_head (r := ofMode .code) rfl Mode.proper_code d.body
    rw [← hhead]
    constructor
    · rintro ⟨l, hstart, hend⟩
      exact ⟨hstop, l.inLong honward hstart hend⟩
    · rintro ⟨-, hlong⟩
      rw [honward]
      exact exists_longLiteral (List.cons_ne_nil _ _) rfl hlong

theorem KeepsLiterals.not_leavesOpen {text : List Char} (h : KeepsLiterals text) {d : Definition}
    (hd : d ∈ scan text) (hstop : d.stop < text.length) (e : EscapedEnd d.body) :
    ¬ e.LeavesOpen := by
  intro hopen
  obtain ⟨l, hl⟩ := (exists_longLiteral_iff hd).mpr ⟨hstop, e.leavesOpen_iff.mp hopen⟩
  exact h d hd l hl

/-! ## The theorem -/

/-- **Bodies and long literals.** No body of a text ends inside a long literal, exactly when no body
that ends in front of the end of the text has an escaped delimiter behind which the language is
left in a long literal. -/
theorem keepsLiterals_iff (text : List Char) :
    KeepsLiterals text ↔
      ∀ d ∈ scan text, d.stop < text.length → ∀ e : EscapedEnd d.body, ¬ e.LeavesOpen := by
  constructor
  · intro h d hd hstop e
    exact h.not_leavesOpen hd hstop e
  · intro h d hd l hl
    obtain ⟨hstop, hlong⟩ := (exists_longLiteral_iff hd).mp ⟨l, hl⟩
    rcases onward_eq hd with ⟨hend, -⟩ | ⟨-, hline, -⟩
    · omega
    · obtain ⟨e⟩ := exists_escapedEnd hline hlong
      exact h d hd hstop e (e.leavesOpen_iff.mpr hlong)

/-- A docstring with an escaped delimiter, and a line in column zero behind that. -/
def escapedDelimiter : List Char :=
  "def f():\n    \"\"\"A \\\"\"\" in it\nx\n    \"\"\"\n    return 1\n".toList

/-- The body ends in front of that line. -/
theorem not_keepsLiterals_escapedDelimiter :
    (scan escapedDelimiter).map (·.stop) = [28] ∧ ¬ KeepsLiterals escapedDelimiter := by
  refine ⟨by decide +kernel, fun h => ?_⟩
  let d : Definition :=
    { name := "f".toList
      params := []
      returnType := none
      body := "\"\"\"A \\\"\"\" in it".toList
      text := "def f():\n    \"\"\"A \\\"\"\" in it".toList
      start := 0 }
  have hd : d ∈ scan escapedDelimiter := by decide +kernel
  let e : EscapedEnd d.body :=
    { before := "\"\"\"A \\".toList
      quote := '"'
      behind := " in it".toList
      body_eq := by decide +kernel
      taken := by decide +kernel
      escaped := by decide +kernel }
  exact h.not_leavesOpen hd (by decide +kernel) e trivial

end Source

end Docwright
