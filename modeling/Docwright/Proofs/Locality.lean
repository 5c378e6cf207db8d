import Docwright.Proofs.Scan

/-!
# What follows a header

The scan reads a text from the left, and what it has found so far tells where it looks next. So
whether it finds a definition at a header could hang on anything that follows, by way of an earlier
definition that reaches further or not at all. It does not (`exists_start_of_header`):

* `Opens.exists_behind` — **an opening in front of a header** ends in front of it, and the
  parenthesis of the header closes its list if no other does (`StartsAt.of_header`);
* `definitionIn?_of_stop_lt` — **a definition that ends in front of it** is read up to the first
  character of the next line.
-/

namespace Docwright

namespace Source

/-! ## Openings in front of a header -/

/-- A header in front of a text: an opening whose parameter list is closed. -/
theorem IsHeader.exists_opens {head name params : List Char} {arrowed : Option (List Char)}
    (h : IsHeader head name params arrowed) (rest : List Char) :
    ∃ tail, Opens (head ++ rest) name (params ++ ')' :: tail) ∧ Closes tail := by
  obtain ⟨behind, hopen, hsig⟩ := h rest
  obtain ⟨tail, rfl, hend, -⟩ := signature?_eq_some_iff.mp hsig
  exact ⟨tail, opening?_eq_some_iff.mp hopen, closes_iff_headerEnd.mpr ⟨_, _, hend⟩⟩

theorem isIdentChar_of_mem_definingWord : ∀ c ∈ definingWord, Text.isIdentChar c = true := by
  simp [definingWord, Text.isIdentChar]

/-- The defining word of an opening is no name with a parenthesis behind it. -/
theorem Opens.ne_name {s name behind other space rest : List Char} (h : Opens s name behind)
    (hother : isIdentifier other = true) (hspace : ∀ c ∈ space, Text.isBlank c = true) :
    s ≠ other ++ (space ++ '(' :: rest) := by
  obtain ⟨gap, space', hne, hgap, hname, -, rfl⟩ := h
  intro heq
  -- behind the first word and the blanks there is a name on the one side only
  have hgapIdent : ∀ c ∈ gap, Text.isIdentChar c = false := by
    intro c hc
    by_contra hident
    have := Text.isBlank_eq_false_of_isIdentChar (eq_true_of_ne_false hident)
    rw [hgap c hc] at this
    cases this
  have hword : (definingWord ++ (gap ++ (name ++ (space' ++ '(' :: behind)))).dropWhile
      Text.isIdentChar = gap ++ (name ++ (space' ++ '(' :: behind)) := by
    refine Text.dropWhile_append_of_stop isIdentChar_of_mem_definingWord fun c hc => ?_
    rw [List.head?_append_of_ne_nil _ hne] at hc
    exact hgapIdent c (List.mem_of_mem_head? hc)
  have hnamed : (gap ++ (name ++ (space' ++ '(' :: behind))).dropWhile Text.isBlank =
      name ++ (space' ++ '(' :: behind) := by
    refine Text.dropWhile_append_of_stop hgap fun c hc => ?_
    cases name with
    | nil => cases hname
    | cons first tail =>
      obtain rfl := Option.some.inj hc
      exact isBlank_eq_false_of_mem hname first (List.mem_cons_self ..)
  have hparen : ((other ++ (space ++ '(' :: rest)).dropWhile Text.isIdentChar).dropWhile
      Text.isBlank = '(' :: rest := by
    rw [Text.dropWhile_append_of_stop (isIdentChar_of_mem hother)
      (isIdentChar_head?_eq_false hspace)]
    refine Text.dropWhile_append_of_stop hspace fun c hc => ?_
    obtain rfl := Option.some.inj hc
    decide
  rw [← heq, hword, hnamed] at hparen
  cases name with
  | nil => cases hname
  | cons first tail =>
    have hfirst := isIdentChar_of_mem hname first (List.mem_cons_self ..)
    rw [(List.cons.inj hparen).1] at hfirst
    cases hfirst

/-- A part of the first text, unless the second one starts in it. -/
theorem exists_append_of_not_across {v t part rest : List Char} (h : v ++ t = part ++ rest)
    (hacross : ∀ z, z ≠ [] → part = v ++ z → t ≠ z ++ rest) :
    ∃ v', v = part ++ v' ∧ v' ++ t = rest := by
  rcases List.append_eq_append_iff.mp h with ⟨z, hpart, ht⟩ | ⟨v', hv, hrest⟩
  · by_cases hz : z = []
    · subst hz
      exact ⟨[], by simpa using hpart.symm, by simpa using ht⟩
    · exact absurd ht (hacross z hz hpart)
  · exact ⟨v', hv, hrest.symm⟩

/-- **An opening in front of another one** ends in front of it. The second one starts with a letter
that does not go on with a word, so it starts in none of the parts of the first. -/
theorem Opens.exists_behind {v t name behind other behind' : List Char}
    (h : Opens (v ++ t) name behind) (hother : Opens t other behind') (hne : v ≠ [])
    (hlast : v.getLast?.any Text.isIdentChar = false) :
    ∃ v', ∀ t', Opens (v ++ t') name (v' ++ t') := by
  obtain ⟨gap, space, hgapne, hgap, hname, hspace, heq⟩ := h
  have hletter : ∀ z rest, z ≠ [] → t = z ++ rest → 'd' ∈ z := by
    intro z rest hz ht
    obtain ⟨c, z, rfl⟩ := List.exists_cons_of_ne_nil hz
    obtain ⟨gap', space', -, -, -, -, rfl⟩ := hother
    rw [← (List.cons.inj ht).1]
    exact List.mem_cons_self ..
  have hword : ∀ part, part ≠ [] → (∀ c ∈ part, Text.isIdentChar c = true) → ¬ part <:+ v := by
    rintro part hpart hident ⟨u, rfl⟩
    rw [List.getLast?_append_of_ne_nil u hpart] at hlast
    obtain ⟨c, hc⟩ := Option.ne_none_iff_exists'.mp (mt List.getLast?_eq_none_iff.mp hpart)
    rw [hc, Option.any_some, hident c (List.mem_of_getLast? hc)] at hlast
    cases hlast
  obtain ⟨v₁, rfl, h₁⟩ := exists_append_of_not_across heq fun z _ hpart _ =>
    hword v hne (fun c hc => isIdentChar_of_mem_definingWord c
      (by rw [hpart]; exact List.mem_append_left z hc)) List.suffix_rfl
  obtain ⟨v₂, rfl, h₂⟩ := exists_append_of_not_across h₁ fun z hz hpart ht =>
    absurd (hgap 'd' (by rw [hpart]; exact List.mem_append_right v₁ (hletter z _ hz ht)))
      (by decide)
  obtain ⟨v₃, rfl, h₃⟩ := exists_append_of_not_across h₂ fun z hz hpart ht => by
    by_cases hv₂ : v₂ = []
    · subst hv₂
      rw [List.nil_append] at hpart
      exact hother.ne_name hname hspace (by rw [ht, hpart])
    · refine hword v₂ hv₂ (fun c hc => ?_) ⟨definingWord ++ gap, by simp⟩
      exact isIdentChar_of_mem hname c (by rw [hpart]; exact List.mem_append_left z hc)
  obtain ⟨v₄, rfl, h₄⟩ := exists_append_of_not_across h₃ fun z hz hpart ht =>
    absurd (hspace 'd' (by rw [hpart]; exact List.mem_append_right v₃ (hletter z _ hz ht)))
      (by decide)
  rcases v₄ with _ | ⟨c, v'⟩
  · have := hletter ['('] behind (by simp) h₄
    simp at this
  · obtain ⟨rfl, -⟩ := List.cons.inj h₄
    exact ⟨v', fun t' => ⟨gap, space, hgapne, hgap, hname, hspace, by simp⟩⟩

/-- Whether a definition may start in front of a header does not hang on what follows the header. -/
theorem StartsAt.of_header {u head name params x : List Char} {arrowed : Option (List Char)}
    (hhead : IsHeader head name params arrowed)
    (hbefore : u.getLast?.any Text.isIdentChar = false) {q : Nat} (hq : q < u.length)
    (h : StartsAt (u ++ (head ++ x)) q) (y : List Char) : StartsAt (u ++ (head ++ y)) q := by
  obtain ⟨hword, other, params', tail, hopens, -⟩ := h
  rw [List.take_append_of_le_length hq.le] at hword
  rw [List.drop_append_of_le_length hq.le] at hopens
  have hne : u.drop q ≠ [] := by
    rw [ne_eq, List.drop_eq_nil_iff]
    omega
  have hlast : (u.drop q).getLast?.any Text.isIdentChar = false := by
    rwa [List.getLast?_drop, if_neg (by omega)]
  obtain ⟨_, hheader, -⟩ := hhead.exists_opens x
  obtain ⟨v', hv'⟩ := hopens.exists_behind hheader hne hlast
  -- the parenthesis of the header closes the list
  obtain ⟨tail', ⟨gap, space, -, -, -, -, htext⟩, hcloses⟩ := hhead.exists_opens y
  refine ⟨?_, other, v' ++ (definingWord ++ (gap ++ (name ++ (space ++ '(' :: params)))), tail', ?_,
    hcloses⟩
  · rwa [List.take_append_of_le_length hq.le]
  · rw [List.drop_append_of_le_length hq.le]
    simpa [htext] using hv' (head ++ y)

/-! ## Definitions in front of a header -/

/-- A body that ends in front of a line is read up to the first character of that line. -/
theorem splitBody_of_line {mode : Mode} (hmode : mode.Proper) {s t : List Char} {c : Char}
    (h : splitBody mode (s ++ '\n' :: c :: t) = (s, '\n' :: c :: t)) (t' : List Char) :
    splitBody mode (s ++ '\n' :: c :: t') = (s, '\n' :: c :: t') := by
  induction s generalizing mode with
  | nil =>
    have hb : isBoundary mode '\n' (c :: t) = true := by
      by_contra hb
      rw [List.nil_append, splitBody_of_not_boundary (eq_false_of_ne_true hb)] at h
      cases (Prod.mk.inj h).1
    exact splitBody_of_boundary (show isBoundary mode '\n' (c :: t') = true from hb)
  | cons d s ih =>
    have hquote : ∀ u : List Char, ('\n' :: u).head?.any isQuote = false := fun u => rfl
    have hb : isBoundary mode d (s ++ '\n' :: c :: t) = false := by
      by_contra hb
      rw [List.cons_append, splitBody_of_boundary (eq_true_of_ne_false hb)] at h
      cases (Prod.mk.inj h).1
    have hb' : isBoundary mode d (s ++ '\n' :: c :: t') = false := by
      cases s with
      | nil => exact hb
      | cons e s => exact hb
    rw [List.cons_append, splitBody_of_not_boundary hb, hmode.step_append (hquote _)] at h
    obtain ⟨hbody, hrest⟩ := Prod.mk.inj h
    have hstep : splitBody (mode.step d s) (s ++ '\n' :: c :: t) = (s, '\n' :: c :: t) :=
      Prod.ext (List.cons.inj hbody).2 hrest
    rw [List.cons_append, splitBody_of_not_boundary hb', hmode.step_append (hquote _),
      ih (hmode.step d s) hstep]

/-- The parts of a definition whose blanks behind the colon are known. -/
theorem definitionOf_append (head name params : List Char) (arrowed : Option (List Char))
    (start : Nat) {gap s : List Char} (hgap : ∀ c ∈ gap, Text.isAsciiBlank c = true)
    (hs : ∀ c, s.head? = some c → Text.isAsciiBlank c = false) :
    definitionOf head name params arrowed start (gap ++ s) =
      { name, params, returnType := Signature.returnType ⟨params, arrowed, []⟩
        body := (splitBody .code s).1
        text := head ++ (gap ++ (splitBody .code s).1), start } := by
  rw [definitionOf, Text.dropWhile_append_of_stop hgap hs, Text.takeWhile_append_of_stop hgap hs]
  rfl

/-- A definition taken apart at the blanks behind its colon. -/
theorem definitionAt?_eq_some_parts {before : Option Char} {start : Nat} {s : List Char}
    {d : Definition} (h : definitionAt? before start s = some d) :
    before.any Text.isIdentChar = false ∧
      ∃ head arrowed gap core, s = head ++ (gap ++ core) ∧ IsHeader head d.name d.params arrowed ∧
        (∀ c ∈ gap, Text.isAsciiBlank c = true) ∧
        (∀ c, core.head? = some c → Text.isAsciiBlank c = false) ∧
        d =
          { name := d.name, params := d.params
            returnType := Signature.returnType ⟨d.params, arrowed, []⟩
            body := (splitBody .code core).1
            text := head ++ (gap ++ (splitBody .code core).1), start } := by
  obtain ⟨hbefore, head, arrowed, rest, rfl, hhead, hd⟩ := definitionAt?_eq_some h
  have hgap : ∀ c ∈ rest.takeWhile Text.isAsciiBlank, Text.isAsciiBlank c = true :=
    fun c hc => List.mem_takeWhile_imp hc
  have hcore : ∀ c, (rest.dropWhile Text.isAsciiBlank).head? = some c →
      Text.isAsciiBlank c = false := by
    intro c hc
    have := List.head?_dropWhile_not Text.isAsciiBlank rest
    rwa [hc] at this
  have hrest := List.takeWhile_append_dropWhile (p := Text.isAsciiBlank) (l := rest)
  refine ⟨hbefore, head, arrowed, rest.takeWhile Text.isAsciiBlank,
    rest.dropWhile Text.isAsciiBlank, by rw [hrest], hhead, hgap, hcore, ?_⟩
  rw [← definitionOf_append head _ _ arrowed start hgap hcore, hrest, ← hd]

/-- A definition that ends in front of a line is read up to the first character of that line. -/
theorem definitionAt?_of_line {before : Option Char} {start : Nat} {d : Definition} {c : Char}
    {t : List Char} (h : definitionAt? before start (d.text ++ '\n' :: c :: t) = some d)
    (t' : List Char) : definitionAt? before start (d.text ++ '\n' :: c :: t') = some d := by
  obtain ⟨hbefore, head, arrowed, gap, core, hwhole, hhead, hgap, hcore, hd⟩ :=
    definitionAt?_eq_some_parts h
  have htext : d.text = head ++ (gap ++ (splitBody .code core).1) := by rw [hd]
  have hbody := splitBody_append .code core
  have hleft : (splitBody .code core).2 = '\n' :: c :: t := by
    have hparts : d.text ++ (splitBody .code core).2 = head ++ (gap ++ core) := by
      rw [htext]
      simp [hbody]
    exact List.append_cancel_left (hparts.trans hwhole.symm)
  -- the blanks behind the colon do not end in front of a newline
  have hne : (splitBody .code core).1 ≠ [] := by
    intro hnil
    rw [hnil, List.nil_append, hleft] at hbody
    have := hcore '\n' (by rw [← hbody]; rfl)
    cases this
  have hline : splitBody .code ((splitBody .code core).1 ++ '\n' :: c :: t') =
      ((splitBody .code core).1, '\n' :: c :: t') := by
    refine splitBody_of_line Mode.proper_code (t := t) ?_ t'
    rw [← hleft, hbody]
  have hsplit : d.text ++ '\n' :: c :: t' =
      head ++ (gap ++ ((splitBody .code core).1 ++ '\n' :: c :: t')) := by
    rw [htext]
    simp
  rw [hsplit, definitionAt?_of_isHeader hhead hbefore,
    definitionOf_append head _ _ arrowed _ hgap ?_, hline, ← hd]
  intro b hb
  refine hcore b ?_
  rw [List.head?_append_of_ne_nil _ hne] at hb
  rw [← hbody, List.head?_append_of_ne_nil _ hne, hb]

/-- **A definition that ends early** does not hang on what follows. -/
theorem definitionIn?_of_stop_lt {w x : List Char} {d : Definition}
    (h : definitionIn? (w ++ x) d.start = some d) (hstop : d.stop + 1 < w.length) (y : List Char) :
    definitionIn? (w ++ y) d.start = some d := by
  obtain ⟨-, rest, hdrop, hrest⟩ := drop_start_of_definitionIn? h
  rw [Definition.stop] at hstop
  have hle : d.start ≤ w.length := by omega
  rw [List.drop_append_of_le_length hle] at hdrop
  have hlength : (w.drop d.start).length = w.length - d.start := List.length_drop ..
  obtain ⟨v, hv, rfl⟩ : ∃ v, w.drop d.start = d.text ++ v ∧ rest = v ++ x := by
    rcases List.append_eq_append_iff.mp hdrop with ⟨z, hz, -⟩ | ⟨v, hv, hleft⟩
    · have := congrArg List.length hz
      rw [List.length_append] at this
      omega
    · exact ⟨v, hv, hleft⟩
  rw [hv, List.length_append] at hlength
  -- the newline and the first character of the next line stand in front of what follows
  obtain ⟨c, v, rfl⟩ : ∃ c v', v = '\n' :: c :: v' := by
    rcases v with _ | ⟨a, _ | ⟨b, v⟩⟩
    · rw [List.length_nil] at hlength
      omega
    · rw [List.length_singleton] at hlength
      omega
    · rcases hrest with hnil | ⟨c, rest', hline, -⟩
      · cases hnil
      · obtain ⟨rfl, -⟩ := List.cons.inj hline
        exact ⟨b, v, rfl⟩
  rw [definitionIn?, List.take_append_of_le_length hle, List.drop_append_of_le_length hle, hv,
    List.append_assoc] at h ⊢
  exact definitionAt?_of_line h (v ++ y)

/-! ## The run -/

/-- A call finds the first definition at or behind its position. -/
theorem next?_of_first {text : List Char} {pos : Nat} {d : Definition} (hpos : pos ≤ d.start)
    (hin : definitionIn? text d.start = some d)
    (hnone : ∀ q, pos ≤ q → q < d.start → definitionIn? text q = none) :
    next? text pos = some d := by
  rcases hnext : next? text pos with _ | e
  · rw [next?_eq_none hnext d.start hpos] at hin
    cases hin
  · obtain ⟨hle, hein, hgap⟩ := next?_eq_some hnext
    rcases Nat.lt_trichotomy e.start d.start with hlt | heq | hgt
    · rw [hnone e.start hle hlt] at hein
      cases hein
    · rw [heq, hin] at hein
      exact hein.symm
    · rw [hgap d.start hpos hgt] at hin
      cases hin

/-- **What follows a header** does not decide whether its definition is found. The two runs find the
same definitions in front of it. -/
theorem Calls.exists_start_of_header {u head name params x y : List Char}
    {arrowed : Option (List Char)} (hhead : IsHeader head name params arrowed)
    (hbefore : u.getLast?.any Text.isIdentChar = false) {pos : Nat} {ds ds' : List Definition}
    (h : Calls (u ++ (head ++ x)) pos ds) (hfound : ∃ d ∈ ds, d.start = u.length)
    (h' : Calls (u ++ (head ++ y)) pos ds') : ∃ d ∈ ds', d.start = u.length := by
  have hnone : ∀ q, q < u.length → definitionIn? (u ++ (head ++ x)) q = none →
      definitionIn? (u ++ (head ++ y)) q = none := by
    intro q hq hx
    by_contra hy
    have hstarts := definitionIn?_isSome_iff.mp (Option.isSome_iff_ne_none.mpr hy)
    have hsome := definitionIn?_isSome_iff.mpr (hstarts.of_header hhead hbefore hq x)
    rw [hx] at hsome
    cases hsome
  induction h generalizing ds' with
  | done => exact absurd hfound (by simp)
  | @found pos d ds hnext run ih =>
    obtain ⟨hpos, hin, hgap⟩ := next?_eq_some hnext
    obtain ⟨e, he, hstart⟩ := hfound
    rcases List.mem_cons.mp he with rfl | he
    · -- the first definition found is the one at the header
      have hhere : definitionIn? (u ++ (head ++ y)) u.length =
          some (definitionOf head name params arrowed u.length y) := by
        rw [definitionIn?, List.take_left, List.drop_left]
        exact definitionAt?_of_isHeader hhead hbefore u.length y
      have hfirst := next?_of_first (d := definitionOf head name params arrowed u.length y)
        (hstart ▸ hpos) hhere fun q hq hlt => hnone q hlt (hgap q hq (hstart ▸ hlt))
      cases h' with
      | done hnone' =>
        rw [hfirst] at hnone'
        cases hnone'
      | found hnext' run' =>
        obtain rfl := Option.some.inj (hfirst.symm.trans hnext')
        exact ⟨_, List.mem_cons_self .., rfl⟩
    · -- it ends in front of the header, so the other run finds it too
      have hle : d.stop ≤ u.length := hstart ▸ (run.le_start e he).1
      have hlt := (foundIn_of_definitionIn? hin).nonempty
      obtain ⟨inner, rfl⟩ := hhead.exists_inner
      have hstop : d.stop + 1 < (u ++ 'd' :: (inner ++ [':'])).length := by
        rw [List.length_append, List.length_cons, List.length_append, List.length_singleton]
        omega
      have hfirst := next?_of_first hpos
        (by
          rw [← List.append_assoc] at hin ⊢
          exact definitionIn?_of_stop_lt hin hstop y)
        fun q hq hlt' => hnone q (by omega) (hgap q hq hlt')
      cases h' with
      | done hnone' =>
        rw [hfirst] at hnone'
        cases hnone'
      | found hnext' run' =>
        obtain rfl := Option.some.inj (hfirst.symm.trans hnext')
        obtain ⟨e', he', hstart'⟩ := ih ⟨e, he, hstart⟩ run'
        exact ⟨e', List.mem_cons_of_mem _ he', hstart'⟩

/-- The same for the scan. -/
theorem exists_start_of_header {u head name params x : List Char} {arrowed : Option (List Char)}
    (hhead : IsHeader head name params arrowed)
    (hbefore : u.getLast?.any Text.isIdentChar = false)
    (h : ∃ d ∈ scan (u ++ (head ++ x)), d.start = u.length) (y : List Char) :
    ∃ d ∈ scan (u ++ (head ++ y)), d.start = u.length :=
  Calls.exists_start_of_header hhead hbefore (calls_iff_eq_scan.mpr rfl) h
    (calls_iff_eq_scan.mpr rfl)

end Source

end Docwright
