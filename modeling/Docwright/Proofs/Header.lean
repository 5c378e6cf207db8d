import Docwright.Proofs.Text
import Docwright.Source.Header

/-!
# What a header is

The readers of a header are given by recursion; here they meet the grammar they follow.

* `Opens` — the **opening**: the defining word, a gap, an identifier and a parenthesis.
* `HeaderEnd` and `Closes` — what has to stand behind the parenthesis that closes the parameter
  list: a colon at once, or an arrow with a colon somewhere behind it.
* `IsHeader` — a whole header. The readers look past a parenthesis that closes nothing, as far as a
  colon behind an arrow, but never past the colon that ends the header. So a text that is a header
  in front of one text is the same header in front of every other (`exists_isHeader`), which is what
  lets a definition be cut out of its source and read again.
-/

namespace Docwright

namespace Source

/-! ## The opening -/

/-- Is the text an identifier of ASCII letters, digits and underscores? -/
def isIdentifier : List Char → Bool
  | [] => false
  | c :: s => Text.isIdentStart c && s.all Text.isIdentChar

/-- The text `s` opens a definition of `name`; `behind` follows its opening parenthesis. -/
def Opens (s name behind : List Char) : Prop :=
  ∃ gap space, gap ≠ [] ∧ (∀ c ∈ gap, Text.isBlank c = true) ∧ isIdentifier name = true ∧
    (∀ c ∈ space, Text.isBlank c = true) ∧
    s = definingWord ++ (gap ++ (name ++ (space ++ '(' :: behind)))

/-- Every character of an identifier may continue one. -/
theorem isIdentChar_of_mem {name : List Char} (h : isIdentifier name = true) :
    ∀ c ∈ name, Text.isIdentChar c = true := by
  cases name with
  | nil => cases h
  | cons first name =>
    obtain ⟨hfirst, hname⟩ := Bool.and_eq_true_iff.mp h
    intro c hc
    rcases List.mem_cons.mp hc with rfl | hc
    · exact Text.isIdentChar_of_isIdentStart hfirst
    · exact List.all_eq_true.mp hname c hc

/-- No character of an identifier is a blank. -/
theorem isBlank_eq_false_of_mem {name : List Char} (h : isIdentifier name = true) :
    ∀ c ∈ name, Text.isBlank c = false :=
  fun c hc => Text.isBlank_eq_false_of_isIdentChar (isIdentChar_of_mem h c hc)

/-- An identifier ends in front of blanks and a parenthesis. -/
theorem isIdentChar_head?_eq_false {space behind : List Char}
    (hspace : ∀ c ∈ space, Text.isBlank c = true) :
    ∀ c, (space ++ '(' :: behind).head? = some c → Text.isIdentChar c = false := by
  intro c hc
  cases space with
  | nil =>
    obtain rfl : '(' = c := by simpa using hc
    decide
  | cons b space =>
    obtain rfl : b = c := by simpa using hc
    by_contra hident
    have := Text.isBlank_eq_false_of_isIdentChar (eq_true_of_ne_false hident)
    rw [hspace b (List.mem_cons_self ..)] at this
    cases this

/-- What the reader takes for an opening is one. -/
theorem opens_of_opening? {s name behind : List Char} (h : opening? s = some (name, behind)) :
    Opens s name behind := by
  unfold opening? at h
  rcases hword : Text.after? definingWord s with _ | rest
  · rw [hword] at h
    cases h
  · rw [hword] at h
    dsimp only at h
    split at h
    · next c rest first tail behind' hname hparen =>
      by_cases hcond : (Text.isBlank c && Text.isIdentStart first) = true
      · rw [if_pos hcond] at h
        obtain ⟨rfl, rfl⟩ := Prod.mk.inj (Option.some.inj h)
        obtain ⟨hblank, hstart⟩ := Bool.and_eq_true_iff.mp hcond
        have hrun : ∀ x ∈ first :: tail, Text.isIdentChar x = true := by
          rw [← hname]
          exact fun x hx => List.mem_takeWhile_imp hx
        -- the gap, the name and the space are the runs that the reader has dropped
        refine ⟨(c :: rest).takeWhile Text.isBlank,
          (((c :: rest).dropWhile Text.isBlank).dropWhile Text.isIdentChar).takeWhile Text.isBlank,
          ?_, fun x hx => List.mem_takeWhile_imp hx, ?_, fun x hx => List.mem_takeWhile_imp hx, ?_⟩
        · simp [hblank]
        · rw [hname, isIdentifier, hstart, Bool.true_and, List.all_eq_true]
          exact fun x hx => hrun x (List.mem_cons_of_mem _ hx)
        · rw [Text.after?_eq_some_iff.mp hword, ← hparen, List.takeWhile_append_dropWhile,
            List.takeWhile_append_dropWhile, List.takeWhile_append_dropWhile]
      · rw [if_neg hcond] at h
        cases h
    · cases h

/-- An opening is read as the opening it is. -/
theorem opening?_of_opens {s name behind : List Char} (h : Opens s name behind) :
    opening? s = some (name, behind) := by
  obtain ⟨gap, space, hgap, hgapBlank, hname, hspace, rfl⟩ := h
  obtain ⟨first, tail, rfl⟩ : ∃ first tail, name = first :: tail := by
    cases name with
    | nil => cases hname
    | cons first tail => exact ⟨first, tail, rfl⟩
  obtain ⟨c, gap, rfl⟩ : ∃ c gap', gap = c :: gap' := List.exists_cons_of_ne_nil hgap
  have hstart : Text.isIdentStart first = true := (Bool.and_eq_true_iff.mp hname).1
  have hc : Text.isBlank c = true := hgapBlank c (List.mem_cons_self ..)
  have hword : Text.after? definingWord
      (definingWord ++ (c :: gap ++ (first :: tail ++ (space ++ '(' :: behind)))) =
        some (c :: gap ++ (first :: tail ++ (space ++ '(' :: behind))) :=
    Text.after?_eq_some_iff.mpr rfl
  have hnamed : (c :: gap ++ (first :: tail ++ (space ++ '(' :: behind))).dropWhile Text.isBlank =
      first :: tail ++ (space ++ '(' :: behind) := by
    refine Text.dropWhile_append_of_stop hgapBlank fun x hx => ?_
    obtain rfl : first = x := by simpa using hx
    exact isBlank_eq_false_of_mem hname first (List.mem_cons_self ..)
  have hparen : (space ++ '(' :: behind).dropWhile Text.isBlank = '(' :: behind := by
    refine Text.dropWhile_append_of_stop hspace fun x hx => ?_
    obtain rfl : '(' = x := by simpa using hx
    decide
  rw [opening?, hword]
  dsimp only
  rw [hnamed, Text.takeWhile_append_of_stop (isIdentChar_of_mem hname)
      (isIdentChar_head?_eq_false hspace),
    Text.dropWhile_append_of_stop (isIdentChar_of_mem hname) (isIdentChar_head?_eq_false hspace),
    hparen]
  simp [hc, hstart]

/-- **The opening.** The reader finds an opening exactly where one stands. -/
theorem opening?_eq_some_iff {s name behind : List Char} :
    opening? s = some (name, behind) ↔ Opens s name behind :=
  ⟨opens_of_opening?, opening?_of_opens⟩

/-! ## The end of a header -/

/-- The end of a header behind its closing parenthesis: what stands between the arrow, if there is
one, and the colon, and what follows the colon. -/
inductive HeaderEnd : (s : List Char) → (arrowed : Option (List Char)) → (rest : List Char) → Prop
  /-- the colon at once -/
  | colon (rest : List Char) : HeaderEnd (':' :: rest) none rest
  /-- blanks, an arrow, and the first colon behind it -/
  | arrow {gap arrowed : List Char} (rest : List Char) (hgap : ∀ c ∈ gap, Text.isBlank c = true)
      (hcolon : ':' ∉ arrowed) :
      HeaderEnd (gap ++ '-' :: '>' :: (arrowed ++ ':' :: rest)) (some arrowed) rest

/-- A parenthesis in front of `s` closes a parameter list: a colon follows at once, or blanks and an
arrow with a colon somewhere behind it. -/
def Closes (s : List Char) : Prop :=
  (∃ rest, s = ':' :: rest) ∨
    ∃ gap rest, (∀ c ∈ gap, Text.isBlank c = true) ∧ s = gap ++ '-' :: '>' :: rest ∧ ':' ∈ rest

/-- What the reader takes for the end of a header is one. -/
theorem headerEnd_of_headerEnd? {s rest : List Char} {arrowed : Option (List Char)}
    (h : headerEnd? s = some (arrowed, rest)) : HeaderEnd s arrowed rest := by
  unfold headerEnd? at h
  split at h
  · next rest' =>
    obtain ⟨rfl, rfl⟩ := Prod.mk.inj (Option.some.inj h)
    exact .colon rest'
  · split at h
    · next behind hdrop =>
      split at h
      · next arrowed' rest' hsplit =>
        obtain ⟨rfl, rfl⟩ := Prod.mk.inj (Option.some.inj h)
        obtain ⟨rfl, hcolon⟩ := Text.splitFirst_eq_some_iff.mp hsplit
        rw [← List.takeWhile_append_dropWhile (p := Text.isBlank) (l := s), hdrop]
        exact .arrow rest' (fun c hc => List.mem_takeWhile_imp hc) hcolon
      · cases h
    · cases h

/-- The end of a header is read as the end it is. -/
theorem headerEnd?_of_headerEnd {s rest : List Char} {arrowed : Option (List Char)}
    (h : HeaderEnd s arrowed rest) : headerEnd? s = some (arrowed, rest) := by
  cases h with
  | colon => rfl
  | @arrow gap arrowed _ hgap hcolon =>
    have hdrop : (gap ++ '-' :: '>' :: (arrowed ++ ':' :: rest)).dropWhile Text.isBlank =
        '-' :: '>' :: (arrowed ++ ':' :: rest) := by
      refine Text.dropWhile_append_of_stop hgap fun c hc => ?_
      obtain rfl : '-' = c := by simpa using hc
      decide
    have hsplit : Text.splitFirst ':' (arrowed ++ ':' :: rest) = (arrowed, some rest) :=
      Text.splitFirst_eq_some_iff.mpr ⟨rfl, hcolon⟩
    unfold headerEnd?
    split
    · next rest' heq =>
      -- neither the gap nor the arrow starts with a colon
      cases gap with
      | nil => cases heq
      | cons b gap =>
        obtain ⟨rfl, -⟩ := List.cons.inj heq
        exact absurd (hgap ':' (List.mem_cons_self ..)) (by decide)
    · rw [hdrop]
      simp only [hsplit]

/-- **The end of a header.** The reader finds the end of a header exactly where one stands. -/
theorem headerEnd?_eq_some_iff {s rest : List Char} {arrowed : Option (List Char)} :
    headerEnd? s = some (arrowed, rest) ↔ HeaderEnd s arrowed rest :=
  ⟨headerEnd_of_headerEnd?, headerEnd?_of_headerEnd⟩

/-- A parenthesis closes a list exactly when the end of a header follows it. -/
theorem closes_iff_headerEnd {s : List Char} :
    Closes s ↔ ∃ arrowed rest, HeaderEnd s arrowed rest := by
  constructor
  · rintro (⟨rest, rfl⟩ | ⟨gap, behind, hgap, rfl, hmem⟩)
    · exact ⟨none, rest, .colon rest⟩
    · rcases hsplit : Text.splitFirst ':' behind with ⟨arrowed, _ | rest⟩
      · have hnone : (Text.splitFirst ':' behind).2 = none := by rw [hsplit]
        exact absurd hmem (Text.splitFirst_snd_eq_none_iff.mp hnone)
      · obtain ⟨rfl, hcolon⟩ := Text.splitFirst_eq_some_iff.mp hsplit
        exact ⟨some arrowed, rest, .arrow rest hgap hcolon⟩
  · rintro ⟨arrowed, rest, h⟩
    cases h with
    | colon => exact .inl ⟨rest, rfl⟩
    | arrow _ hgap hcolon => exact .inr ⟨_, _, hgap, rfl, by simp⟩

/-- What ends a header in front of one text ends it in front of every other, and holds a colon. -/
theorem HeaderEnd.exists_text {s rest : List Char} {arrowed : Option (List Char)}
    (h : HeaderEnd s arrowed rest) :
    ∃ text, s = text ++ ':' :: rest ∧ ∀ rest', HeaderEnd (text ++ ':' :: rest') arrowed rest' := by
  cases h with
  | colon => exact ⟨[], rfl, .colon⟩
  | @arrow gap arrowed _ hgap hcolon =>
    refine ⟨gap ++ '-' :: '>' :: arrowed, by simp, fun rest' => ?_⟩
    simpa using @HeaderEnd.arrow gap arrowed rest' hgap hcolon

/-- Whether an earlier parenthesis closes the list does not hang on what follows a later one, as
long as there is a colon. -/
theorem Closes.of_append_paren {v x y : List Char} (hy : ':' ∈ y) (h : Closes (v ++ ')' :: x)) :
    Closes (v ++ ')' :: y) := by
  rcases h with ⟨rest, heq⟩ | ⟨gap, rest, hgap, heq, -⟩
  · cases v with
    | nil => cases heq
    | cons c v =>
      obtain ⟨rfl, -⟩ := List.cons.inj heq
      exact .inl ⟨_, rfl⟩
  · -- the arrow ends before the later parenthesis, which is neither a blank nor part of it
    rcases List.append_eq_append_iff.mp heq with ⟨z, rfl, hz⟩ | ⟨z, rfl, hz⟩
    · cases z with
      | nil => cases hz
      | cons c z =>
        obtain ⟨rfl, -⟩ := List.cons.inj hz
        exact absurd (hgap ')' (by simp)) (by decide)
    · obtain ⟨z, rfl⟩ : ∃ z', z = '-' :: '>' :: z' := by
        cases z with
        | nil => cases hz
        | cons a z =>
          obtain ⟨rfl, hz'⟩ := List.cons.inj hz
          cases z with
          | nil => cases hz'
          | cons b z =>
            obtain ⟨rfl, -⟩ := List.cons.inj hz'
            exact ⟨z, rfl⟩
      exact .inr ⟨gap, z ++ ')' :: y, hgap, by simp, by simp [hy]⟩

/-! ## Signatures -/

/-- The text `s` goes on with the signature `sig`: its parameter list ends at the first parenthesis
that closes it. -/
def Signed (s : List Char) (sig : Signature) : Prop :=
  ∃ tail, s = sig.params ++ ')' :: tail ∧ HeaderEnd tail sig.arrowed sig.rest ∧
    ∀ u v, sig.params = u ++ ')' :: v → ¬ Closes (v ++ ')' :: tail)

/-- A parenthesis that closes the list leaves no choice. -/
theorem signed_paren_iff {s rest : List Char} {arrowed : Option (List Char)} {sig : Signature}
    (h : HeaderEnd s arrowed rest) : Signed (')' :: s) sig ↔ ⟨[], arrowed, rest⟩ = sig := by
  constructor
  · rintro ⟨tail, heq, hend, hfirst⟩
    obtain ⟨params, arrowed', rest'⟩ := sig
    cases params with
    | nil =>
      obtain ⟨-, rfl⟩ := List.cons.inj heq
      have := (headerEnd?_eq_some_iff.mpr h).symm.trans (headerEnd?_eq_some_iff.mpr hend)
      obtain ⟨rfl, rfl⟩ := Prod.mk.inj (Option.some.inj this)
      rfl
    | cons c params =>
      obtain ⟨rfl, rfl⟩ := List.cons.inj heq
      exact absurd (closes_iff_headerEnd.mpr ⟨arrowed, rest, h⟩) (hfirst [] params rfl)
  · rintro rfl
    exact ⟨s, rfl, h, fun u v huv => absurd huv (by simp)⟩

/-- Any other character is part of the list. -/
theorem signed_cons_iff {c : Char} {s : List Char} {sig : Signature}
    (h : c = ')' → ¬ Closes s) :
    Signed (c :: s) sig ↔ ∃ sig', Signed s sig' ∧ sig'.push c = sig := by
  constructor
  · rintro ⟨tail, heq, hend, hfirst⟩
    obtain ⟨params, arrowed, rest⟩ := sig
    cases params with
    | nil =>
      obtain ⟨hc, rfl⟩ := List.cons.inj heq
      exact absurd (closes_iff_headerEnd.mpr ⟨arrowed, rest, hend⟩) (h hc)
    | cons d params =>
      obtain ⟨rfl, rfl⟩ := List.cons.inj heq
      refine ⟨⟨params, arrowed, rest⟩, ⟨tail, rfl, hend, ?_⟩, rfl⟩
      intro u v huv
      exact hfirst (c :: u) v (congrArg (c :: ·) huv)
  · rintro ⟨sig', ⟨tail, rfl, hend, hfirst⟩, rfl⟩
    refine ⟨tail, rfl, hend, ?_⟩
    intro u v huv
    cases u with
    | nil =>
      obtain ⟨hc, rfl⟩ := List.cons.inj huv
      exact h hc
    | cons d u =>
      obtain ⟨-, huv⟩ := List.cons.inj huv
      exact hfirst u v huv

/-- **The signature.** The reader finds the signature exactly where one stands. -/
theorem signature?_eq_some_iff {s : List Char} {sig : Signature} :
    signature? s = some sig ↔ Signed s sig := by
  induction s generalizing sig with
  | nil =>
    constructor
    · intro h
      cases h
    · rintro ⟨tail, heq, -⟩
      simp at heq
  | cons c s ih =>
    rw [signature?]
    by_cases hc : c = ')'
    · subst hc
      rw [if_pos rfl]
      rcases hend : headerEnd? s with _ | ⟨arrowed, rest⟩
      · have hopen : ¬ Closes s := by
          rw [closes_iff_headerEnd]
          rintro ⟨arrowed, rest, hclose⟩
          rw [headerEnd?_eq_some_iff.mpr hclose] at hend
          cases hend
        rw [signed_cons_iff fun _ => hopen]
        simp only [Option.map_eq_some_iff, ih]
      · rw [signed_paren_iff (headerEnd?_eq_some_iff.mp hend), Option.some.injEq]
    · rw [if_neg hc, signed_cons_iff fun h => absurd h hc]
      simp only [Option.map_eq_some_iff, ih]

/-- There is a signature as soon as some parenthesis closes the list. -/
theorem exists_signed_of_closes (params : List Char) {tail : List Char} (h : Closes tail) :
    ∃ sig, Signed (params ++ ')' :: tail) sig := by
  induction params with
  | nil =>
    obtain ⟨arrowed, rest, hend⟩ := closes_iff_headerEnd.mp h
    exact ⟨_, (signed_paren_iff hend).mpr rfl⟩
  | cons c params ih =>
    by_cases hc : c = ')' ∧ Closes (params ++ ')' :: tail)
    · -- the list is closed before the parenthesis we know of
      obtain ⟨rfl, hclose⟩ := hc
      obtain ⟨arrowed, rest, hend⟩ := closes_iff_headerEnd.mp hclose
      exact ⟨_, (signed_paren_iff hend).mpr rfl⟩
    · obtain ⟨sig, hsig⟩ := ih
      exact ⟨_, (signed_cons_iff fun hparen hclose => hc ⟨hparen, hclose⟩).mpr ⟨sig, hsig, rfl⟩⟩

/-- A signature stays what it is when the text behind it is another one. -/
theorem Signed.exists_text {s : List Char} {sig : Signature} (h : Signed s sig) :
    ∃ text, s = text ++ ':' :: sig.rest ∧
      ∀ rest', Signed (text ++ ':' :: rest') { sig with rest := rest' } := by
  obtain ⟨tail, rfl, hend, hfirst⟩ := h
  obtain ⟨text, rfl, hends⟩ := hend.exists_text
  refine ⟨sig.params ++ ')' :: text, by simp, fun rest' => ?_⟩
  refine ⟨text ++ ':' :: rest', by simp, hends rest', fun u v huv hclose => ?_⟩
  -- a parenthesis that closes nothing in front of the one text closes nothing in front of the other
  exact hfirst u v huv (hclose.of_append_paren (by simp))

/-! ## Whole headers -/

/-- The text `head` is a header: whatever follows, it is read as this one. -/
def IsHeader (head name params : List Char) (arrowed : Option (List Char)) : Prop :=
  ∀ rest, ∃ behind, opening? (head ++ rest) = some (name, behind) ∧
    signature? behind = some ⟨params, arrowed, rest⟩

/-- **Headers are local.** Where a header is read, some text is that header, whatever follows it. -/
theorem exists_isHeader {s name behind : List Char} {sig : Signature}
    (hopen : opening? s = some (name, behind)) (hsig : signature? behind = some sig) :
    ∃ head, s = head ++ sig.rest ∧ IsHeader head name sig.params sig.arrowed := by
  obtain ⟨gap, space, hne, hgap, hname, hspace, rfl⟩ := opening?_eq_some_iff.mp hopen
  obtain ⟨text, rfl, hsigned⟩ := (signature?_eq_some_iff.mp hsig).exists_text
  refine ⟨definingWord ++ (gap ++ (name ++ (space ++ '(' :: (text ++ [':'])))), by simp, ?_⟩
  intro rest
  refine ⟨text ++ ':' :: rest, opening?_eq_some_iff.mpr ?_,
    signature?_eq_some_iff.mpr (hsigned rest)⟩
  exact ⟨gap, space, hne, hgap, hname, hspace, by simp⟩

/-- A header starts with the defining word and ends with a colon. -/
theorem IsHeader.exists_inner {head name params : List Char} {arrowed : Option (List Char)}
    (h : IsHeader head name params arrowed) : ∃ inner, head = 'd' :: (inner ++ [':']) := by
  obtain ⟨behind, hopen, hsig⟩ := h []
  obtain ⟨gap, space, -, -, -, -, hhead⟩ := opening?_eq_some_iff.mp hopen
  obtain ⟨text, rfl, -⟩ := (signature?_eq_some_iff.mp hsig).exists_text
  rw [List.append_nil] at hhead
  exact ⟨'e' :: 'f' :: (gap ++ (name ++ (space ++ '(' :: text))), by simp [hhead, definingWord]⟩

/-- Around a header nothing is trimmed. -/
theorem IsHeader.trim_append {head name params s : List Char} {arrowed : Option (List Char)}
    (h : IsHeader head name params arrowed) : Text.trim (head ++ s) = head ++ Text.trimEnd s := by
  obtain ⟨inner, rfl⟩ := h.exists_inner
  rw [Text.trim, List.cons_append, Text.trimStart_cons_of_not (by decide), ← List.cons_append]
  refine Text.trimEnd_append_of_trimmed ?_
  rw [← List.cons_append]
  exact Text.trimEnd_concat (by decide)

end Source

end Docwright
