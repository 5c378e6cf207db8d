import Docwright.Proofs.DocstringPlace
import Mathlib.Algebra.Group.Nat.Even
import Mathlib.Data.List.DropRight

/-!
# Pieces of a text

A text of the language is a row of pieces: plain characters, comments, short literals and long
literals (`Piece`, `Pieces`). A literal of either kind ends at the first end that is not escaped.
This is said of the text alone, without a reader.

The reader of the language (`Reading`) goes through a text like the reader of a body, but in a long
literal too a backslash takes the next character along. It is in code behind whole pieces
(`Pieces.behind_code`), and where it is in a long literal, one was opened behind whole pieces and
has met no end but escaped ones (`exists_open_of_inLong`).
-/

namespace Docwright

namespace Source

/-! ## Escapes -/

/-- Is the character behind a text escaped? An odd number of backslashes stands in front of it. -/
def EscapesNext (s : List Char) : Prop :=
  Odd (s.rtakeWhile (· == '\\')).length

theorem not_escapesNext_nil : ¬ EscapesNext [] := by
  simp [EscapesNext]

/-- A backslash escapes what is next unless it is escaped itself. -/
theorem escapesNext_concat {s : List Char} {c : Char} :
    EscapesNext (s ++ [c]) ↔ c = '\\' ∧ ¬ EscapesNext s := by
  by_cases hc : c = '\\'
  · simp [EscapesNext, hc, Nat.odd_add_one]
  · simp [EscapesNext, hc]

/-- All the ends in `s`, which `t` follows, are escaped. -/
def OnlyEscaped (ends : List Char → Prop) (s t : List Char) : Prop :=
  ∀ u v, s = u ++ v → v ≠ [] → ends (v ++ t) → EscapesNext u

/-- The first end that is not escaped stands behind `s`, where `t` starts. -/
structure EndsFirst (ends : List Char → Prop) (s t : List Char) : Prop where
  /-- the ends in front are escaped -/
  onlyEscaped : OnlyEscaped ends s t
  /-- this is one -/
  isEnd : ends t
  /-- it is not escaped -/
  not_escapesNext : ¬ EscapesNext s

variable {ends : List Char → Prop} {s t u : List Char} {c quote : Char}

theorem OnlyEscaped.left (h : OnlyEscaped ends (s ++ u) t) : OnlyEscaped ends s (u ++ t) := by
  rintro x y rfl hy hend
  refine h x (y ++ u) (List.append_assoc ..) (List.append_ne_nil_of_left_ne_nil hy u) ?_
  rwa [List.append_assoc]

/-- One character more, which is no end or is escaped. -/
theorem OnlyEscaped.concat (h : OnlyEscaped ends s (c :: t))
    (hc : ends (c :: t) → EscapesNext s) : OnlyEscaped ends (s ++ [c]) t := by
  intro x y hxy hy hend
  rcases List.eq_nil_or_concat y with rfl | ⟨y, d, rfl⟩
  · exact absurd rfl hy
  · rw [List.concat_eq_append, ← List.append_assoc] at hxy
    obtain ⟨rfl, hd⟩ := List.append_inj' hxy rfl
    obtain rfl := List.singleton_inj.mp hd
    rw [List.concat_eq_append, List.append_assoc, List.singleton_append] at hend
    cases y with
    | nil =>
      rw [List.append_nil] at hc
      exact hc hend
    | cons d y => exact h x (d :: y) rfl (List.cons_ne_nil _ _) hend

/-- A text has a first end that is not escaped, or only escaped ones. -/
theorem exists_endsFirst (ends : List Char → Prop) (s t : List Char) :
    (∃ u v, s = u ++ v ∧ v ≠ [] ∧ EndsFirst ends u (v ++ t)) ∨ OnlyEscaped ends s t := by
  induction s using List.reverseRecOn generalizing t with
  | nil => exact .inr fun u v huv hv => absurd (List.append_eq_nil_iff.mp huv.symm).2 hv
  | append_singleton s c ih =>
    rcases ih (c :: t) with ⟨u, v, rfl, hv, hfirst⟩ | honly
    · refine .inl ⟨u, v ++ [c], List.append_assoc .., List.append_ne_nil_of_left_ne_nil hv _, ?_⟩
      rwa [List.append_assoc]
    · by_cases hend : ends (c :: t) ∧ ¬ EscapesNext s
      · exact .inl ⟨s, [c], rfl, List.cons_ne_nil _ _, honly, hend.1, hend.2⟩
      · exact .inr (honly.concat fun h => of_not_not fun hs => hend ⟨h, hs⟩)

/-! ## Pieces -/

/-- A short literal may end here: at its quote, or with the line. -/
def ShortEnd (quote : Char) (s : List Char) : Prop :=
  s.head? = some quote ∨ s.head? = some '\n'

/-- A long literal may end here. -/
def LongEnd (quote : Char) (s : List Char) : Prop :=
  triple quote <+: s

/-- A piece of a text, in front of `t`. -/
inductive Piece : (piece t : List Char) → Prop
  /-- a character outside comments and literals -/
  | plain {c : Char} {t : List Char} (hsign : c ≠ '#') (hquote : isQuote c = false) : Piece [c] t
  /-- a comment and the end of its line -/
  | comment {note t : List Char} (h : '\n' ∉ note) : Piece ('#' :: (note ++ ['\n'])) t
  /-- a short literal with what ends it -/
  | short {quote c : Char} {content t : List Char} (hquote : isQuote quote = true)
      (hshort : ¬ triple quote <+: quote :: (content ++ c :: t))
      (h : EndsFirst (ShortEnd quote) content (c :: t)) : Piece (quote :: (content ++ [c])) t
  /-- a long literal between its delimiters -/
  | long {quote : Char} {content t : List Char} (hquote : isQuote quote = true)
      (h : EndsFirst (LongEnd quote) content (triple quote ++ t)) :
      Piece (triple quote ++ (content ++ triple quote)) t

/-- A row of whole pieces, in front of `t`. -/
inductive Pieces : (s t : List Char) → Prop
  /-- nothing is a row -/
  | nil {t : List Char} : Pieces [] t
  /-- a row goes on with a piece -/
  | concat {s piece t : List Char} (hs : Pieces s (piece ++ t)) (hpiece : Piece piece t) :
      Pieces (s ++ piece) t

/-! ## Readers -/

/-- The state of a reader that looks ahead, behind `s`, which `t` follows. -/
def stateBehind {σ : Type} (step : σ → Char → List Char → σ) (state : σ) : (s t : List Char) → σ
  | [], _ => state
  | c :: s, t => stateBehind step (step state c (s ++ t)) s t

section

variable {σ : Type} {step : σ → Char → List Char → σ}

theorem stateBehind_append (state : σ) (s u t : List Char) :
    stateBehind step state (s ++ u) t =
      stateBehind step (stateBehind step state s (u ++ t)) u t := by
  induction s generalizing state with
  | nil => rfl
  | cons c s ih => rw [List.cons_append, stateBehind, stateBehind, ih, List.append_assoc]

/-- The state behind one character more is one step on. -/
theorem stateBehind_concat (state : σ) (s t : List Char) (c : Char) :
    stateBehind step state (s ++ [c]) t = step (stateBehind step state s (c :: t)) c t :=
  stateBehind_append state s [c] t

/-- What a reader sees of the text behind does not matter, if no step looks at it. -/
theorem stateBehind_of_look {P : σ → Prop} {state : σ} (hstate : P state)
    (hstep : ∀ state c s, P state → P (step state c s))
    (hlook : ∀ state c s, P state → step state c (s ++ t) = step state c s) (s : List Char) :
    stateBehind step state s t = stateBehind step state s [] := by
  induction s generalizing state with
  | nil => rfl
  | cons c s ih =>
    rw [stateBehind, stateBehind, hlook state c s hstate, List.append_nil]
    exact ih (hstep state c s hstate)

/-- **The content of a literal.** Up to the first end that is not escaped a reader is in one of two
states, by the backslashes it has just read. -/
theorem stateBehind_content {inside escaped : σ}
    (hbackslash : ∀ rest, step inside '\\' rest = escaped)
    (hinside : ∀ c rest, c ≠ '\\' → ¬ ends (c :: rest) → step inside c rest = inside)
    (hescaped : ∀ c rest, step escaped c rest = inside) (h : OnlyEscaped ends s t) :
    (EscapesNext s → stateBehind step inside s t = escaped) ∧
      (¬ EscapesNext s → stateBehind step inside s t = inside) := by
  induction s using List.reverseRecOn generalizing t with
  | nil => exact ⟨fun hnil => absurd hnil not_escapesNext_nil, fun _ => rfl⟩
  | append_singleton s c ih =>
    obtain ⟨hyes, hno⟩ := ih h.left
    have hend : ends (c :: t) → EscapesNext s := h s [c] rfl (List.cons_ne_nil _ _)
    rw [escapesNext_concat, stateBehind_concat]
    by_cases hs : EscapesNext s
    · have hstate : stateBehind step inside s (c :: t) = escaped := hyes hs
      exact ⟨fun hc => absurd hs hc.2, fun _ => by rw [hstate, hescaped]⟩
    · have hstate : stateBehind step inside s (c :: t) = inside := hno hs
      rw [hstate]
      constructor
      · rintro ⟨rfl, -⟩
        exact hbackslash t
      · intro hc
        exact hinside c t (fun hc' => hc ⟨hc', hs⟩) (mt hend hs)

end

/-- The mode behind `s`, which `t` follows. -/
def Mode.behind (mode : Mode) (s t : List Char) : Mode :=
  stateBehind Mode.step mode s t

theorem Mode.behind_of_head (ht : t.head?.any isQuote = false) {mode : Mode} (hmode : mode.Proper)
    (s : List Char) : mode.behind s t = mode.behind s [] :=
  stateBehind_of_look hmode (fun _ c s h => h.step c s) (fun _ _ _ h => h.step_append ht) s

/-- Where a reader of the language stands: as in a body, or behind a backslash in a long literal. -/
inductive Reading where
  /-- as in a body -/
  | ofMode (mode : Mode)
  /-- behind a backslash in a literal between triple `quote`s -/
  | escapedLong (quote : Char)
  deriving DecidableEq, Repr

namespace Reading

/-- The reading behind the character `c`, which `rest` follows. A backslash in a long literal takes
the next character along. -/
def step : Reading → Char → List Char → Reading
  | ofMode (.long quote), c, rest =>
    if c = '\\' then escapedLong quote else ofMode ((Mode.long quote).step c rest)
  | ofMode mode, c, rest => ofMode (mode.step c rest)
  | escapedLong quote, _, _ => ofMode (.long quote)

/-- The reading behind `s`, which `t` follows. -/
def behind (r : Reading) (s t : List Char) : Reading :=
  stateBehind step r s t

theorem behind_cons (r : Reading) (c : Char) (s t : List Char) :
    r.behind (c :: s) t = (r.step c (s ++ t)).behind s t := rfl

theorem behind_append (r : Reading) (s u t : List Char) :
    r.behind (s ++ u) t = (r.behind s (u ++ t)).behind u t :=
  stateBehind_append r s u t

theorem behind_concat (r : Reading) (s t : List Char) (c : Char) :
    r.behind (s ++ [c]) t = (r.behind s (c :: t)).step c t :=
  stateBehind_concat r s t c

/-- The quote of a literal is a quote. -/
def Proper : Reading → Prop
  | ofMode mode => mode.Proper
  | escapedLong quote => isQuote quote = true

/-- The two readers take the same step, except over a backslash in a long literal. -/
theorem step_ofMode (mode : Mode) (c : Char) :
    (∀ s, (ofMode mode).step c s = ofMode (mode.step c s)) ∨
      ∃ quote, mode = .long quote ∧ c = '\\' := by
  cases mode with
  | long quote =>
    by_cases hc : c = '\\'
    · exact .inr ⟨quote, rfl, hc⟩
    · exact .inl fun s => by rw [step, if_neg hc]
  | code | comment | short | escaped | opening | closing => exact .inl fun _ => rfl

/-- Readings stay proper. -/
theorem Proper.step {r : Reading} (h : r.Proper) (c : Char) (s : List Char) :
    (r.step c s).Proper := by
  rcases r with mode | quote
  · rcases step_ofMode mode c with hstep | ⟨quote, rfl, rfl⟩
    · rw [hstep s]
      exact Mode.Proper.step h c s
    · exact h
  · exact h

theorem Proper.step_append {r : Reading} (h : r.Proper) (ht : t.head?.any isQuote = false)
    (c : Char) (s : List Char) : r.step c (s ++ t) = r.step c s := by
  rcases r with mode | quote
  · rcases step_ofMode mode c with hstep | ⟨quote, rfl, rfl⟩
    · rw [hstep, hstep, Mode.Proper.step_append h ht]
    · rfl
  · rfl

theorem behind_of_head (ht : t.head?.any isQuote = false) {r : Reading} (hr : r.Proper)
    (s : List Char) : r.behind s t = r.behind s [] :=
  stateBehind_of_look hr (fun _ c s h => h.step c s) (fun _ c s h => h.step_append ht c s) s

/-- Is the reader in a long literal? -/
def InLong : Reading → Prop
  | ofMode (.long _) | escapedLong _ => True
  | _ => False

/-- Three quotes open a long literal. -/
theorem behind_triple (hquote : isQuote quote = true) (t : List Char) :
    (ofMode .code).behind (triple quote) t = ofMode (.long quote) := by
  have hsign : quote ≠ '#' := ne_of_isQuote hquote rfl
  simp [behind, triple, stateBehind, step, Mode.step, twoMore, hquote, hsign]

/-- A long literal whose ends are all escaped stays open, and an odd backslash at the end of it
waits for the next character. -/
theorem behind_longContent (h : OnlyEscaped (LongEnd quote) s t) :
    (EscapesNext s → (ofMode (.long quote)).behind s t = escapedLong quote) ∧
      (¬ EscapesNext s → (ofMode (.long quote)).behind s t = ofMode (.long quote)) :=
  stateBehind_content (fun _ => rfl)
    (fun c rest hc hend => by rw [step, if_neg hc, step_long_of_not_isPrefix hend])
    (fun _ _ => rfl) h

/-- A short literal stays open in the same way. -/
theorem behind_shortContent (h : OnlyEscaped (ShortEnd quote) s t) :
    (EscapesNext s → (ofMode (.short quote)).behind s t = ofMode (.escaped quote)) ∧
      (¬ EscapesNext s → (ofMode (.short quote)).behind s t = ofMode (.short quote)) :=
  stateBehind_content (fun _ => rfl)
    (fun c rest hc hend => by
      have hne : ¬ (c = quote || c = '\n') = true := by simpa [ShortEnd] using hend
      have hstep : (ofMode (.short quote)).step c rest = ofMode ((Mode.short quote).step c rest) :=
        rfl
      rw [hstep, Mode.step, if_neg hc, if_neg hne])
    (fun _ _ => rfl) h

/-- A comment goes on to the end of its line. -/
theorem behind_comment (h : '\n' ∉ s) : (ofMode .comment).behind s t = ofMode .comment := by
  induction s with
  | nil => rfl
  | cons c s ih =>
    rw [List.mem_cons, not_or] at h
    have hstep : (ofMode .comment).step c (s ++ t) = ofMode .comment :=
      congrArg ofMode (if_neg (Ne.symm h.1))
    rw [behind_cons, hstep, ih h.2]

end Reading

open Reading

/-! ## The reader on pieces -/

/-- A quote that does not start a triple has no two more behind it. -/
theorem twoMore_eq_false (h : ¬ triple quote <+: quote :: s) : twoMore quote s = false := by
  by_contra htwo
  refine h (triple_isPrefix_cons_iff.mpr ?_)
  simpa using eq_true_of_ne_false htwo

/-- A quote that opens no long literal opens a short one. -/
theorem step_quote (hquote : isQuote quote = true) (h : ¬ triple quote <+: quote :: s) :
    (ofMode .code).step quote s = ofMode (.short quote) := by
  have hsign : quote ≠ '#' := ne_of_isQuote hquote rfl
  simp [Reading.step, Mode.step, hsign, hquote, twoMore_eq_false h]

/-- The reader goes through a piece from code to code. -/
theorem Piece.behind_code {piece : List Char} (h : Piece piece t) :
    (ofMode .code).behind piece t = ofMode .code := by
  cases h with
  | plain hsign hquote => simp [behind, stateBehind, Reading.step, Mode.step, hsign, hquote]
  | @comment note _ hnote =>
    have hcomment : (ofMode .comment).behind note ('\n' :: t) = ofMode .comment :=
      behind_comment hnote
    have hstep : (ofMode .code).step '#' (note ++ ['\n'] ++ t) = ofMode .comment := rfl
    rw [behind_cons, hstep, behind_concat, hcomment]
    rfl
  | @short quote c content _ hquote hshort hends =>
    have hstep : (ofMode .code).step quote (content ++ [c] ++ t) = ofMode (.short quote) := by
      rw [List.append_assoc]
      exact step_quote hquote hshort
    have hcontent : (ofMode (.short quote)).behind content (c :: t) = ofMode (.short quote) :=
      (behind_shortContent hends.onlyEscaped).2 hends.not_escapesNext
    have hend : c = quote ∨ c = '\n' := by simpa [ShortEnd] using hends.isEnd
    have hc : c ≠ '\\' := by
      rcases hend with rfl | rfl
      · exact ne_of_isQuote hquote rfl
      · decide
    rw [behind_cons, hstep, behind_concat, hcontent]
    simp [Reading.step, Mode.step, hc, hend]
  | @long quote content _ hquote hends =>
    have hcontent :
        (ofMode (.long quote)).behind content (triple quote ++ t) = ofMode (.long quote) :=
      (behind_longContent hends.onlyEscaped).2 hends.not_escapesNext
    have hc : quote ≠ '\\' := ne_of_isQuote hquote rfl
    rw [behind_append, behind_triple hquote, behind_append, hcontent]
    simp [triple, behind, stateBehind, Reading.step, Mode.step, twoMore, hc]

/-- **Whole pieces.** Behind them the reader is in code. -/
theorem Pieces.behind_code (h : Pieces s t) : (ofMode .code).behind s t = ofMode .code := by
  induction h with
  | nil => rfl
  | concat _ hpiece ih => rw [behind_append, ih, hpiece.behind_code]

/-- A delimiter does not go on in a text that starts with no quote. -/
theorem triple_isPrefix_append_iff (hquote : isQuote quote = true)
    (ht : t.head?.any isQuote = false) : triple quote <+: s ++ t ↔ triple quote <+: s := by
  refine Text.isPrefix_append_iff fun c hc hmem => ?_
  obtain rfl : c = quote := by simpa [triple] using hmem
  rw [hc, Option.any_some, hquote] at ht
  cases ht

/-- How `s` starts, which `t` follows. -/
inductive Start (s t : List Char) : Prop
  /-- the text starts with a piece -/
  | piece (piece rest : List Char) (hs : s = piece ++ rest) (hne : piece ≠ [])
      (hpiece : Piece piece (rest ++ t))
  /-- it starts with a long literal that does not end in it -/
  | openLong (quote : Char) (content : List Char) (hquote : isQuote quote = true)
      (hs : s = triple quote ++ content) (honly : OnlyEscaped (LongEnd quote) content t)
  /-- the reader does not come to a long literal -/
  | other (h : ¬ ((ofMode .code).behind s t).InLong)

/-- A number sign starts a comment, ended or not. -/
theorem start_comment (s t : List Char) : Start ('#' :: s) t := by
  by_cases hline : '\n' ∈ s
  · obtain ⟨note, rest, rfl, hnote⟩ := List.eq_append_cons_of_mem hline
    exact .piece ('#' :: (note ++ ['\n'])) rest (by simp) (List.cons_ne_nil _ _) (.comment hnote)
  · refine .other ?_
    have hstep : (ofMode .code).step '#' (s ++ t) = ofMode .comment := rfl
    rw [behind_cons, hstep, behind_comment hline]
    exact id

/-- A quote that starts no triple starts a short literal, ended or not. -/
theorem start_short (hquote : isQuote quote = true) (h : ¬ triple quote <+: quote :: (s ++ t)) :
    Start (quote :: s) t := by
  rcases exists_endsFirst (ShortEnd quote) s t with ⟨content, v, rfl, hv, hends⟩ | honly
  · cases v with
    | nil => exact absurd rfl hv
    | cons c rest =>
      refine .piece (quote :: (content ++ [c])) rest (by simp) (List.cons_ne_nil _ _) ?_
      rw [List.append_assoc] at h
      exact .short hquote h hends
  · refine .other ?_
    rw [behind_cons, step_quote hquote h]
    by_cases hescapes : EscapesNext s
    · rw [(behind_shortContent honly).1 hescapes]
      exact id
    · rw [(behind_shortContent honly).2 hescapes]
      exact id

/-- Three quotes start a long literal, ended or not. -/
theorem start_long (hquote : isQuote quote = true) (ht : t.head?.any isQuote = false)
    (s : List Char) : Start (triple quote ++ s) t := by
  rcases exists_endsFirst (LongEnd quote) s t with ⟨content, v, rfl, -, hends⟩ | honly
  · obtain ⟨rest, rfl⟩ := (triple_isPrefix_append_iff hquote ht).mp hends.isEnd
    refine .piece (triple quote ++ (content ++ triple quote)) rest (by simp)
      (List.cons_ne_nil _ _) (.long hquote ?_)
    rwa [List.append_assoc] at hends
  · exact .openLong quote s hquote rfl honly

/-- A text that no quote follows starts in one of these ways. -/
theorem start_of_head (ht : t.head?.any isQuote = false) (s : List Char) : Start s t := by
  cases s with
  | nil => exact .other id
  | cons c s =>
    by_cases hsign : c = '#'
    · rw [hsign]
      exact start_comment s t
    · by_cases hquote : isQuote c = true
      · by_cases hlong : triple c <+: c :: s
        · obtain ⟨content, hcontent⟩ := hlong
          rw [← hcontent]
          exact start_long hquote ht content
        · refine start_short hquote ?_
          rwa [← List.cons_append, triple_isPrefix_append_iff hquote ht]
      · exact .piece [c] s rfl (List.cons_ne_nil _ _) (.plain hsign (eq_false_of_ne_true hquote))

/-- **Long literals.** Where the reader is in one, it was opened behind whole pieces and all ends in
it are escaped. -/
theorem exists_open_of_inLong {front : List Char} (ht : t.head?.any isQuote = false)
    (hfront : Pieces front (s ++ t)) (h : ((ofMode .code).behind s t).InLong) :
    ∃ before quote content, front ++ s = before ++ (triple quote ++ content) ∧
      isQuote quote = true ∧ Pieces before (triple quote ++ (content ++ t)) ∧
        OnlyEscaped (LongEnd quote) content t := by
  induction hlength : s.length using Nat.strong_induction_on generalizing s front with
  | _ n ih =>
    rcases start_of_head ht s with
      ⟨piece, rest, rfl, hne, hpiece⟩ | ⟨quote, content, hquote, rfl, honly⟩ | hnot
    · rw [List.append_assoc] at hfront
      rw [behind_append, hpiece.behind_code] at h
      have hshorter : rest.length < n := by
        rw [← hlength, List.length_append]
        exact Nat.lt_add_of_pos_left (List.length_pos_of_ne_nil hne)
      rw [← List.append_assoc]
      exact ih rest.length hshorter (hfront.concat hpiece) h rfl
    · exact ⟨front, quote, content, rfl, hquote, by rwa [List.append_assoc] at hfront, honly⟩
    · exact absurd h hnot

end Source

end Docwright
