import Docwright.Proofs.Extraction

/-!
# One routine for each block

A `Block` is a definition as it is usually laid out: the header on a line of its own, then an
indented body in which no line starts in column zero and no literal is left open. Any number of
blocks with newlines between them is read as one routine for each block, in order
(`extract_laidOut`).

The invariant behind the induction on the blocks is the mode of the reader. At the end of a block
it is in code or in a comment, so the newlines behind the block belong to its body up to the last
one, which the defining word of the next block follows in column zero.
-/

namespace Docwright

namespace Source

/-! ## Blocks -/

/-- A definition laid out with its header on a line of its own. -/
structure Block where
  /-- the identifier behind the defining word -/
  name : List Char
  /-- the text between the parentheses -/
  params : List Char
  /-- the annotation behind the arrow -/
  annotation : Option (List Char)
  /-- the lines behind the header -/
  body : List Char
  /-- the name is an identifier -/
  name_identifier : isIdentifier name = true
  /-- the parameter list holds no closing parenthesis -/
  params_open : ')' ∉ params
  /-- the annotation is not blank and holds no colon -/
  annotation_plain : ∀ a ∈ annotation, Text.allBlank a = false ∧ ':' ∉ a
  /-- the body is indented -/
  body_indented : body.head? = some ' ' ∨ body.head? = some '\t'
  /-- the body does not end with a blank -/
  body_trimmed : body.getLast?.any Text.isBlank = false
  /-- the reader of the body meets no boundary -/
  body_whole : (splitBody .code (body.dropWhile Text.isAsciiBlank)).2 = []
  /-- the reader of the body leaves no literal open -/
  body_closed : Mode.after .code (body.dropWhile Text.isAsciiBlank) ∈ [Mode.code, Mode.comment]

namespace Block

/-- The arrow and the annotation. -/
def arrow (b : Block) : List Char :=
  match b.annotation with
  | none => []
  | some a => " -> ".toList ++ a

/-- The line of the header. -/
def header (b : Block) : List Char :=
  definingWord ++ ' ' :: (b.name ++ '(' :: (b.params ++ ')' :: (b.arrow ++ [':'])))

/-- The whole block. -/
def text (b : Block) : List Char :=
  b.header ++ '\n' :: b.body

/-- The routine that a block declares. -/
def routine (label : LooseText) (b : Block) : Routine where
  name := String.ofList b.name
  source := String.ofList b.text
  parameters := Parameter.parseList b.params
  docstring := (docstring? (Text.trimStart b.body)).map String.ofList
  returnType := b.annotation.map fun a => String.ofList (Text.trim a)
  fileName := label

/-- The header of a block is a header. -/
theorem isHeader (b : Block) :
    IsHeader b.header b.name b.params (b.annotation.map (' ' :: ·)) := by
  intro rest
  have hspace : ∀ c ∈ [' '], Text.isBlank c = true := by
    simp [show Text.isBlank ' ' = true by decide]
  refine ⟨b.params ++ ')' :: (b.arrow ++ ':' :: rest), ?_, ?_⟩
  · refine opening?_eq_some_iff.mpr
      ⟨[' '], [], by simp, hspace, b.name_identifier, by simp, ?_⟩
    simp [header]
  · refine signature?_eq_some_iff.mpr ⟨b.arrow ++ ':' :: rest, rfl, ?_, ?_⟩
    · rcases ha : b.annotation with _ | a
      · rw [arrow, ha]
        exact .colon rest
      · rw [arrow, ha]
        have hcolon : ':' ∉ ' ' :: a := by
          simpa using (b.annotation_plain a ha).2
        exact @HeaderEnd.arrow [' '] (' ' :: a) rest hspace hcolon
    · intro u v huv
      have hmem : ')' ∈ b.params := by
        rw [show b.params = u ++ ')' :: v from huv]
        simp
      exact absurd hmem b.params_open

/-- The part of a block that the reader of its body sees. -/
def core (b : Block) : List Char :=
  b.body.dropWhile Text.isAsciiBlank

/-- The body is not all blank. -/
theorem exists_body_concat (b : Block) : ∃ s c, b.body = s ++ [c] ∧ Text.isBlank c = false := by
  have hne : b.body ≠ [] := by
    intro hnil
    have := b.body_indented
    simp [hnil] at this
  refine ⟨b.body.dropLast, b.body.getLast hne, (List.dropLast_concat_getLast hne).symm, ?_⟩
  have := b.body_trimmed
  rwa [List.getLast?_eq_some_getLast hne, Option.any_some] at this

theorem core_ne_nil (b : Block) : b.core ≠ [] := by
  obtain ⟨s, c, hbody, hc⟩ := b.exists_body_concat
  rw [core, ne_eq, List.dropWhile_eq_nil_iff]
  intro hblank
  have := Text.isBlank_of_isAsciiBlank (hblank c (by simp [hbody]))
  rw [hc] at this
  cases this

theorem splitBody_core (b : Block) : splitBody .code b.core = (b.core, []) := by
  have happend := splitBody_append .code b.core
  have hrest : (splitBody .code b.core).2 = [] := b.body_whole
  rw [hrest, List.append_nil] at happend
  exact Prod.ext happend hrest

/-- Nothing of a block is trimmed, and nothing but the blanks behind it. -/
theorem trim_text_append (b : Block) {t : List Char} (ht : ∀ c ∈ t, Text.isBlank c = true) :
    Text.trim (b.text ++ t) = b.text := by
  obtain ⟨s, c, hbody, hc⟩ := b.exists_body_concat
  rw [text, List.append_assoc, b.isHeader.trim_append, Text.trimEnd_append_of_blank ht, hbody,
    ← List.cons_append, Text.trimEnd_concat hc]

/-- The definition that a block is read as, if the reader of its body takes `x` along. -/
def definition (b : Block) (start : Nat) (x : List Char) : Definition where
  name := b.name
  params := b.params
  returnType := Signature.returnType ⟨b.params, b.annotation.map (' ' :: ·), []⟩
  body := b.core ++ x
  text := b.text ++ x
  start := start

/-- **A block in its surroundings.** What follows a block does not change how it is read, as long as
it starts neither with a quote nor in column zero; the reader of its body goes on into it. -/
theorem definitionAt?_text_append (b : Block) {before : Option Char}
    (hbefore : before.any Text.isIdentChar = false) (start : Nat) {t : List Char}
    (hquote : t.head?.any isQuote = false) (hzero : inColumnZero t = false) :
    definitionAt? before start (b.text ++ t) =
      some (b.definition start (splitBody (Mode.after .code b.core) t).1) := by
  -- the blanks behind the colon end inside the body, which is not all blank
  have hdrop : ('\n' :: (b.body ++ t)).dropWhile Text.isAsciiBlank = b.core ++ t := by
    rw [List.dropWhile_cons_of_pos (by decide), List.dropWhile_append, if_neg]
    · rfl
    · rw [List.isEmpty_iff]
      exact b.core_ne_nil
  have htake : ('\n' :: (b.body ++ t)).takeWhile Text.isAsciiBlank ++ b.core = '\n' :: b.body := by
    have := List.takeWhile_append_dropWhile (p := Text.isAsciiBlank) (l := '\n' :: (b.body ++ t))
    rw [hdrop, ← List.append_assoc] at this
    exact List.append_cancel_right this
  rw [text, List.append_assoc, List.cons_append, definitionAt?_of_isHeader b.isHeader hbefore,
    definitionOf, hdrop, splitBody_append_of_whole Mode.proper_code hquote hzero b.splitBody_core]
  dsimp only
  rw [← List.append_assoc _ b.core, htake, ← List.append_assoc]
  rfl

/-- The annotation of a block, read behind its arrow. -/
theorem returnType_eq (b : Block) :
    Signature.returnType ⟨b.params, b.annotation.map (' ' :: ·), []⟩ =
      b.annotation.map Text.trim := by
  rcases ha : b.annotation with _ | a
  · rfl
  · have htrim : Text.trim (' ' :: a) = Text.trim a := by
      rw [Text.trim, Text.trimStart_cons_of_blank (by decide), Text.trim]
    have hne : Text.trim a ≠ [] := by
      rw [ne_eq, Text.trim_eq_nil_iff, (b.annotation_plain a ha).1]
      decide
    obtain ⟨c, s, hs⟩ := List.exists_cons_of_ne_nil hne
    simp [Signature.returnType, htrim, hs]

/-- **A block declares its routine**, whatever blanks its definition takes along. -/
theorem toRoutine_definition (b : Block) (label : LooseText) (start : Nat) {x : List Char}
    (hx : ∀ c ∈ x, Text.isBlank c = true) :
    (b.definition start x).toRoutine label = b.routine label := by
  have hcore : docstring? b.body = docstring? b.core := by
    conv_lhs => rw [← List.takeWhile_append_dropWhile (p := Text.isAsciiBlank) (l := b.body)]
    exact docstring?_of_blank_append fun c hc =>
      Text.isBlank_of_isAsciiBlank (List.mem_takeWhile_imp hc)
  have hstart : docstring? b.body = docstring? (Text.trimStart b.body) := by
    conv_lhs => rw [← List.takeWhile_append_dropWhile (p := Text.isBlank) (l := b.body)]
    exact docstring?_of_blank_append fun c hc => List.mem_takeWhile_imp hc
  have hdoc : docstring? (b.core ++ x) = docstring? (Text.trimStart b.body) := by
    rw [docstring?_append_of_blank hx, ← hcore, hstart]
  simp [Definition.toRoutine, definition, routine, returnType_eq, hdoc, b.trim_text_append hx,
    Function.comp_def]

end Block

/-! ## Newlines between blocks -/

/-- A newline makes no boundary in front of another one. -/
theorem inColumnZero_replicate (n : Nat) : inColumnZero (List.replicate n '\n') = false := by
  cases n <;> rfl

/-- Newlines at the end of the text belong to the body. -/
theorem splitBody_newlines (mode : Mode) (n : Nat) :
    splitBody mode (List.replicate n '\n') = (List.replicate n '\n', []) := by
  induction n generalizing mode with
  | zero => rfl
  | succ n ih =>
    have hb : isBoundary mode '\n' (List.replicate n '\n') = false := by
      rw [isBoundary, inColumnZero_replicate, Bool.and_false]
    rw [List.replicate_succ, splitBody_of_not_boundary hb, ih]

/-- **Newlines in front of column zero** belong to the body up to the last one. -/
theorem splitBody_newlines_append {mode : Mode} (hmode : mode ∈ [Mode.code, Mode.comment])
    {s : List Char} (hs : inColumnZero s = true) (n : Nat) :
    splitBody mode (List.replicate (n + 1) '\n' ++ s) = (List.replicate n '\n', '\n' :: s) := by
  induction n generalizing mode with
  | zero =>
    have hb : isBoundary mode '\n' s = true := by
      rcases List.mem_pair.mp hmode with rfl | rfl <;> simp [isBoundary, Mode.atLineEnd, hs]
    exact splitBody_of_boundary hb
  | succ n ih =>
    have hb : isBoundary mode '\n' (List.replicate (n + 1) '\n' ++ s) = false := by
      simp [isBoundary, List.replicate_succ, inColumnZero, Text.isAsciiBlank]
    have hstep : mode.step '\n' (List.replicate (n + 1) '\n' ++ s) = .code := by
      rcases List.mem_pair.mp hmode with rfl | rfl <;> rfl
    rw [List.replicate_succ, List.cons_append, splitBody_of_not_boundary hb, hstep,
      ih (List.mem_cons_self ..)]
    rfl

/-- No definition starts at a newline. -/
theorem scanFrom_newline (before : Option Char) (pos : Nat) (s : List Char) :
    scanFrom before pos 0 ('\n' :: s) = scanFrom (some '\n') (pos + 1) 0 s := by
  rw [scanFrom]
  rcases hd : definitionAt? before pos ('\n' :: s) with _ | d
  · rfl
  · obtain ⟨-, head, arrowed, rest, hs, hhead, -⟩ := definitionAt?_eq_some hd
    obtain ⟨inner, rfl⟩ := hhead.exists_inner
    cases hs

/-- The scan passes over newlines; no identifier goes on behind them. -/
theorem scanFrom_newlines {before : Option Char} (hbefore : before.any Text.isIdentChar = false)
    (pos n : Nat) (s : List Char) :
    ∃ before' pos', before'.any Text.isIdentChar = false ∧
      scanFrom before pos 0 (List.replicate n '\n' ++ s) = scanFrom before' pos' 0 s := by
  induction n generalizing before pos with
  | zero => exact ⟨before, pos, hbefore, rfl⟩
  | succ n ih =>
    obtain ⟨before', pos', hbefore', heq⟩ := @ih (some '\n') rfl (pos + 1)
    refine ⟨before', pos', hbefore', ?_⟩
    rw [List.replicate_succ, List.cons_append, scanFrom_newline, heq]

/-! ## Blocks laid out one after another -/

/-- Blocks laid out one after another: each with a number of newlines in front of it, and some more
at the end. -/
def laidOut (trailing : Nat) : List (Nat × Block) → List Char
  | [] => List.replicate trailing '\n'
  | (gap, b) :: rest => List.replicate gap '\n' ++ (b.text ++ laidOut trailing rest)

/-- **One block.** The scan finds a block where it stands and goes on where the reader of its body
has stopped. -/
theorem scanFrom_text_append (b : Block) {before : Option Char}
    (hbefore : before.any Text.isIdentChar = false) (pos : Nat) {t x y : List Char}
    (hquote : t.head?.any isQuote = false) (hzero : inColumnZero t = false)
    (hsplit : splitBody (Mode.after .code b.core) t = (x, y)) :
    ∃ before' pos', scanFrom before pos 0 (b.text ++ t) =
      b.definition pos x :: scanFrom before' pos' 0 y := by
  have hd := b.definitionAt?_text_append hbefore pos hquote hzero
  have ht := splitBody_append (Mode.after .code b.core) t
  rw [hsplit] at hd ht
  rw [← ht, ← List.append_assoc] at hd ⊢
  refine ⟨_, _, scanFrom_append (d := b.definition pos x) hd ?_⟩
  obtain ⟨inner, hinner⟩ := b.isHeader.exists_inner
  simp [Block.definition, Block.text, hinner]

/-- **All blocks behind the first.** By induction on the blocks that follow: each takes along the
newlines behind it but the last, which the scan passes over before the next block. -/
theorem map_scanFrom_laidOut (label : LooseText) (trailing : Nat) {rest : List (Nat × Block)}
    (hgaps : ∀ p ∈ rest, 0 < p.1) (b : Block) {before : Option Char}
    (hbefore : before.any Text.isIdentChar = false) (pos : Nat) :
    (scanFrom before pos 0 (b.text ++ laidOut trailing rest)).map (·.toRoutine label) =
      b.routine label :: rest.map fun p => p.2.routine label := by
  have hnewlines : ∀ n, ∀ c ∈ List.replicate n '\n', Text.isBlank c = true := by
    intro n c hc
    rw [List.eq_of_mem_replicate hc]
    decide
  induction rest generalizing b before pos with
  | nil =>
    have hquote : (List.replicate trailing '\n').head?.any isQuote = false := by
      cases trailing <;> rfl
    obtain ⟨before', pos', hscan⟩ := scanFrom_text_append b hbefore pos hquote
      (inColumnZero_replicate trailing) (splitBody_newlines _ trailing)
    rw [laidOut, hscan, List.map_cons, b.toRoutine_definition label pos (hnewlines trailing)]
    rfl
  | cons p rest ih =>
    obtain ⟨gap, b'⟩ := p
    obtain ⟨n, rfl⟩ : ∃ n, gap = n + 1 :=
      Nat.exists_eq_succ_of_ne_zero (Nat.pos_iff_ne_zero.mp (hgaps _ (List.mem_cons_self ..)))
    have hzero : inColumnZero (b'.text ++ laidOut trailing rest) = true := by
      obtain ⟨inner, hinner⟩ := b'.isHeader.exists_inner
      rw [Block.text, hinner]
      rfl
    -- `b` takes the newlines along but the last, which the scan passes over
    obtain ⟨before', pos', hscan⟩ := scanFrom_text_append b hbefore pos
      (t := List.replicate (n + 1) '\n' ++ (b'.text ++ laidOut trailing rest)) rfl rfl
      (splitBody_newlines_append b.body_closed hzero n)
    rw [laidOut, hscan, scanFrom_newline, List.map_cons, List.map_cons,
      b.toRoutine_definition label pos (hnewlines n),
      ih (fun q hq => hgaps q (List.mem_cons_of_mem _ hq)) b' rfl]

/-! ## The theorem -/

/-- **One routine for each block.** Blocks laid out with at least one newline between neighbours are
extracted one by one, in order, each as the routine it declares. -/
theorem extract_laidOut (label : LooseText) (trailing : Nat) (layout : List (Nat × Block))
    (hgaps : ∀ p ∈ layout.tail, 0 < p.1) :
    extract (String.ofList (laidOut trailing layout)) label =
      layout.map fun p => p.2.routine label := by
  rw [extract, String.toList_ofList, scan]
  cases layout with
  | nil =>
    obtain ⟨before', pos', -, hscan⟩ := @scanFrom_newlines none rfl 0 trailing []
    rw [List.append_nil] at hscan
    rw [laidOut, hscan]
    rfl
  | cons p rest =>
    obtain ⟨gap, b⟩ := p
    obtain ⟨before', pos', hbefore', hscan⟩ :=
      @scanFrom_newlines none rfl 0 gap (b.text ++ laidOut trailing rest)
    rw [List.tail_cons] at hgaps
    rw [laidOut, hscan, map_scanFrom_laidOut label trailing hgaps b hbefore' pos']
    rfl

/-- Two blocks with two newlines between them: the first has a definition and text in column zero
inside its literals, the second ends in a comment with a quote in it. -/
theorem extract_laidOut_pair :
    let first : Block :=
      { name := "f".toList, params := "x, y: int = (1".toList, annotation := some "str ".toList
        body := "    '''Doc\ndef g():\n'''\n    def h(): return \"\\\"#\"".toList
        name_identifier := by decide, params_open := by decide, annotation_plain := by decide
        body_indented := by decide, body_trimmed := by decide, body_whole := by decide
        body_closed := by decide }
    let second : Block :=
      { name := "k2".toList, params := [], annotation := none, body := "\tpass # it's".toList
        name_identifier := by decide, params_open := by decide, annotation_plain := by decide
        body_indented := by decide, body_trimmed := by decide, body_whole := by decide
        body_closed := by decide }
    (∀ p ∈ [(0, first), (2, second)].tail, 0 < p.1) ∧
      extract (String.ofList (laidOut 1 [(0, first), (2, second)])) "m.py" =
        [first.routine "m.py", second.routine "m.py"] := by
  intro first second
  have hgaps : ∀ p ∈ [(0, first), (2, second)].tail, 0 < p.1 := by simp
  exact ⟨hgaps, extract_laidOut "m.py" 1 [(0, first), (2, second)] hgaps⟩

end Source

end Docwright
