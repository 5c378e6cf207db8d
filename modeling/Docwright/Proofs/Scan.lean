import Docwright.Proofs.Definition

/-!
# The leftmost definitions that do not overlap

The scan goes through a text once, character by character. It is the same as asking again and again
for the next definition, each time from the end of the one before:

* `next?` — one **call**: the first definition at or behind a position.
* `Calls` — a **run** of calls from a position to the first that finds nothing. A run is a finite
  derivation; the scan from that position is one, and there is no other (`calls_iff_eq_scanAt`).

What is said of the definitions of a text is proved of one call first and then, by induction on the
run, of all of them: they are disjoint and in order (`Calls.pairwise`), and none that could have
been found is missed (`Calls.exists_start_iff`).
-/

namespace Docwright

namespace Source

/-! ## One position -/

/-- The definition that starts at a position of a text. -/
def definitionIn? (text : List Char) (pos : Nat) : Option Definition :=
  definitionAt? (text.take pos).getLast? pos (text.drop pos)

/-- A definition may start at position `pos`: no identifier goes on there, and an opening stands
there whose parameter list is closed by some parenthesis. -/
def StartsAt (text : List Char) (pos : Nat) : Prop :=
  (text.take pos).getLast?.any Text.isIdentChar = false ∧
    ∃ name params tail, Opens (text.drop pos) name (params ++ ')' :: tail) ∧ Closes tail

/-- A definition may end at position `pos`: the text ends there, or a line whose next one starts
in column zero. -/
def EndsAt (text : List Char) (pos : Nat) : Prop :=
  pos = text.length ∨
    text[pos]? = some '\n' ∧
      ∃ c, text[pos + 1]? = some c ∧ c ∉ [' ', '\t', '\n', '\r', '\x0c', '\x0b']

/-- There is a definition exactly where one may start. -/
theorem definitionIn?_isSome_iff {text : List Char} {pos : Nat} :
    (definitionIn? text pos).isSome ↔ StartsAt text pos :=
  definitionAt?_isSome_iff

/-- What a definition found at a position says of the text. -/
structure Definition.FoundIn (d : Definition) (text : List Char) : Prop where
  /-- it has at least one character -/
  nonempty : d.start < d.stop
  /-- it is the part of the text between its two positions -/
  text_eq : (text.take d.stop).drop d.start = d.text
  /-- it ends where a definition may end -/
  endsAt : EndsAt text d.stop
  /-- its name and parameters are those of the opening and the first parenthesis that closes -/
  header : ∃ tail, Opens (text.drop d.start) d.name (d.params ++ ')' :: tail) ∧ Closes tail ∧
    ∀ u v, d.params = u ++ ')' :: v → ¬ Closes (v ++ ')' :: tail)

/-- A definition starts where it is found. -/
theorem start_eq_of_definitionIn? {text : List Char} {pos : Nat} {d : Definition}
    (h : definitionIn? text pos = some d) : d.start = pos := by
  obtain ⟨-, head, arrowed, rest, -, -, hd⟩ := definitionAt?_eq_some h
  rw [hd]
  rfl

/-- Positions in what follows a definition are positions behind it in the text. -/
theorem getElem?_stop_add {text rest : List Char} {d : Definition}
    (hsplit : text.drop d.start = d.text ++ rest) (i : Nat) :
    text[d.stop + i]? = rest[i]? := by
  have : (text.drop d.start)[d.text.length + i]? = rest[i]? := by
    rw [hsplit, List.getElem?_append_right (Nat.le_add_right ..), Nat.add_sub_cancel_left]
  rw [← this, List.getElem?_drop, Definition.stop, Nat.add_assoc]

/-- What the reader of the body leaves over follows the definition. -/
theorem drop_start_of_definitionIn? {text : List Char} {d : Definition}
    (h : definitionIn? text d.start = some d) :
    d.text ≠ [] ∧ ∃ rest, text.drop d.start = d.text ++ rest ∧
      (rest = [] ∨ ∃ c rest', rest = '\n' :: c :: rest' ∧ Text.isAsciiBlank c = false) := by
  obtain ⟨-, head, arrowed, behind, hdrop, hhead, hd⟩ := definitionAt?_eq_some h
  rw [hd]
  refine ⟨definitionOf_text_ne_nil hhead _ _,
    (splitBody .code (behind.dropWhile Text.isAsciiBlank)).2, ?_, splitBody_snd .code _⟩
  rw [definitionOf_text_append]
  exact hdrop

/-- **One definition.** What is found at a position is a definition of the text. -/
theorem foundIn_of_definitionIn? {text : List Char} {d : Definition}
    (h : definitionIn? text d.start = some d) : d.FoundIn text := by
  obtain ⟨hne, rest, hsplit, hend⟩ := drop_start_of_definitionIn? h
  have hpos : 0 < d.text.length := List.length_pos_of_ne_nil hne
  refine ⟨?_, ?_, ?_, ?_⟩
  · rw [Definition.stop]
    omega
  · rw [List.drop_take, hsplit, Definition.stop, Nat.add_sub_cancel_left, List.take_left]
  · rcases hend with rfl | ⟨c, rest', rfl, hc⟩
    · left
      have hlen := congrArg List.length hsplit
      rw [List.length_drop, List.append_nil] at hlen
      rw [Definition.stop]
      omega
    · right
      refine ⟨getElem?_stop_add hsplit 0, c, getElem?_stop_add hsplit 1, ?_⟩
      simpa [Text.isAsciiBlank, and_assoc] using hc
  · obtain ⟨-, head, arrowed, behind, hdrop, hhead, -⟩ := definitionAt?_eq_some h
    obtain ⟨inner, hopen, hsig⟩ := hhead behind
    obtain ⟨tail, rfl, hclose, hfirst⟩ := signature?_eq_some_iff.mp hsig
    refine ⟨tail, ?_, closes_iff_headerEnd.mpr ⟨_, _, hclose⟩, hfirst⟩
    rw [hdrop]
    exact opening?_eq_some_iff.mp hopen

/-! ## One call -/

/-- The first definition of a text that starts at or behind a position. -/
def next? (text : List Char) (pos : Nat) : Option Definition :=
  (List.range' pos (text.length - pos)).findSome? (definitionIn? text)

/-- A definition starts before the end of the text. -/
theorem lt_length_of_definitionIn? {text : List Char} {pos : Nat} {d : Definition}
    (h : definitionIn? text pos = some d) : pos < text.length := by
  obtain rfl := start_eq_of_definitionIn? h
  obtain ⟨hne, rest, hsplit, -⟩ := drop_start_of_definitionIn? h
  by_contra hle
  rw [List.drop_eq_nil_of_le (Nat.le_of_not_lt hle)] at hsplit
  exact hne (List.append_eq_nil_iff.mp hsplit.symm).1

/-- A call at the end of the text finds nothing. -/
theorem next?_eq_none_of_le {text : List Char} {pos : Nat} (h : text.length ≤ pos) :
    next? text pos = none := by
  rw [next?, Nat.sub_eq_zero_of_le h]
  rfl

/-- A call finds what starts at its own position. -/
theorem next?_of_definitionIn? {text : List Char} {pos : Nat} {d : Definition}
    (h : definitionIn? text pos = some d) : next? text pos = some d := by
  obtain ⟨n, hn⟩ : ∃ n, text.length - pos = n + 1 :=
    ⟨text.length - pos - 1, by have := lt_length_of_definitionIn? h; omega⟩
  rw [next?, hn, List.range'_succ, List.findSome?_cons, h]

/-- A call goes on to the next position where nothing starts. -/
theorem next?_succ {text : List Char} {pos : Nat} (h : definitionIn? text pos = none) :
    next? text pos = next? text (pos + 1) := by
  by_cases hle : text.length ≤ pos
  · rw [next?_eq_none_of_le hle, next?_eq_none_of_le (by omega)]
  · obtain ⟨n, hn⟩ : ∃ n, text.length - pos = n + 1 := ⟨text.length - pos - 1, by omega⟩
    rw [next?, next?, hn, List.range'_succ, List.findSome?_cons, h,
      show text.length - (pos + 1) = n by omega]

/-- **One call.** What is found starts at or behind the position, and nothing starts in between. -/
theorem next?_eq_some {text : List Char} {pos : Nat} {d : Definition}
    (h : next? text pos = some d) :
    pos ≤ d.start ∧ definitionIn? text d.start = some d ∧
      ∀ q, pos ≤ q → q < d.start → definitionIn? text q = none := by
  obtain ⟨before, q, behind, hrange, hq, hnone⟩ := List.findSome?_eq_some_iff.mp h
  obtain rfl := start_eq_of_definitionIn? hq
  obtain ⟨k, -, rfl, hbehind⟩ := List.range'_eq_append_iff.mp hrange
  obtain ⟨hstart, -, -⟩ := List.range'_eq_cons_iff.mp hbehind.symm
  refine ⟨by omega, hq, fun q hpos hlt => hnone q ?_⟩
  rw [List.mem_range'_1]
  omega

/-- A call that finds nothing: nothing starts at or behind the position. -/
theorem next?_eq_none {text : List Char} {pos : Nat} (h : next? text pos = none) :
    ∀ q, pos ≤ q → definitionIn? text q = none := by
  intro q hq
  rcases hd : definitionIn? text q with _ | d
  · rfl
  · have hlt := lt_length_of_definitionIn? hd
    rw [next?, List.findSome?_eq_none_iff] at h
    rw [h q (List.mem_range'_1.mpr (by omega))] at hd
    cases hd

/-! ## Runs of calls -/

/-- A run of calls from position `pos` on finds the definitions `ds`: each call starts where the
definition before it stops, and the last one finds nothing. -/
inductive Calls (text : List Char) : (pos : Nat) → (ds : List Definition) → Prop
  /-- there is no definition left -/
  | done {pos : Nat} (h : next? text pos = none) : Calls text pos []
  /-- a definition is found, and the run goes on behind it -/
  | found {pos : Nat} {d : Definition} {ds : List Definition} (h : next? text pos = some d)
      (run : Calls text d.stop ds) : Calls text pos (d :: ds)

/-- From a position there is only one run. -/
theorem Calls.unique {text : List Char} {pos : Nat} {ds ds' : List Definition}
    (h : Calls text pos ds) (h' : Calls text pos ds') : ds = ds' := by
  induction h generalizing ds' with
  | done hnone =>
    cases h' with
    | done => rfl
    | found hsome =>
      rw [hnone] at hsome
      cases hsome
  | found hsome run ih =>
    cases h' with
    | done hnone =>
      rw [hnone] at hsome
      cases hsome
    | found hsome' run' =>
      obtain rfl := Option.some.inj (hsome.symm.trans hsome')
      rw [ih run']

/-- Where nothing starts, a run may as well start at the next position. -/
theorem Calls.of_succ {text : List Char} {pos : Nat} {ds : List Definition}
    (hnone : definitionIn? text pos = none) (h : Calls text (pos + 1) ds) : Calls text pos ds := by
  cases h with
  | done hnext => exact .done ((next?_succ hnone).trans hnext)
  | found hnext run => exact .found ((next?_succ hnone).trans hnext) run

/-- What is found behind a position starts there. -/
theorem Calls.le_start {text : List Char} {pos : Nat} {ds : List Definition}
    (h : Calls text pos ds) : ∀ d ∈ ds, pos ≤ d.start ∧ definitionIn? text d.start = some d := by
  induction h with
  | done => exact fun d hd => absurd hd List.not_mem_nil
  | @found pos d ds hnext run ih =>
    obtain ⟨hpos, hin, -⟩ := next?_eq_some hnext
    intro e he
    rcases List.mem_cons.mp he with rfl | he
    · exact ⟨hpos, hin⟩
    · obtain ⟨hle, hein⟩ := ih e he
      have := (foundIn_of_definitionIn? hin).nonempty
      exact ⟨by omega, hein⟩

/-- The definitions of a run are disjoint and in order. -/
theorem Calls.pairwise {text : List Char} {pos : Nat} {ds : List Definition}
    (h : Calls text pos ds) : ds.Pairwise fun d e => d.stop ≤ e.start := by
  induction h with
  | done => exact .nil
  | found hnext run ih => exact .cons (fun e he => (run.le_start e he).1) ih

/-- **No definition is missed.** A definition of the run starts exactly where one may start outside
the definitions found before. -/
theorem Calls.exists_start_iff {text : List Char} {pos p : Nat} {ds : List Definition}
    (h : Calls text pos ds) (hp : pos ≤ p) :
    (∃ d ∈ ds, d.start = p) ↔
      (∀ d ∈ ds, d.start < p → d.stop ≤ p) ∧ (definitionIn? text p).isSome := by
  induction h with
  | done hnext => simp [next?_eq_none hnext p hp]
  | @found pos d ds hnext run ih =>
    obtain ⟨hpos, hin, hgap⟩ := next?_eq_some hnext
    have hne := (foundIn_of_definitionIn? hin).nonempty
    have hlater : ∀ e ∈ ds, d.stop ≤ e.start := fun e he => (run.le_start e he).1
    rw [List.exists_mem_cons_iff, List.forall_mem_cons]
    by_cases hbehind : d.stop ≤ p
    · -- the first definition lies before the position, so the rest of the run decides
      constructor
      · rintro (hstart | hrest)
        · omega
        · obtain ⟨hout, hsome⟩ := (ih hbehind).mp hrest
          exact ⟨⟨fun _ => hbehind, hout⟩, hsome⟩
      · rintro ⟨⟨-, hout⟩, hsome⟩
        exact .inr ((ih hbehind).mpr ⟨hout, hsome⟩)
    · -- the rest of the run lies behind the position, so the first definition decides
      constructor
      · rintro (hstart | ⟨e, he, hstart⟩)
        · refine ⟨⟨fun hlt => absurd hlt (by omega), fun e he hlt => ?_⟩, ?_⟩
          · have := hlater e he
            omega
          · rw [← hstart, hin]
            rfl
        · have := hlater e he
          omega
      · rintro ⟨⟨hout, -⟩, hsome⟩
        left
        by_contra hne'
        rcases Nat.lt_or_gt_of_ne hne' with hlt | hgt
        · exact hbehind (hout hlt)
        · rw [hgap p hp hgt] at hsome
          cases hsome

/-- **The scan is a run of calls.** The characters to be skipped belong to the definition found
last, so the run starts behind them. -/
theorem calls_scanFrom {text s : List Char} {before : Option Char} {pos : Nat} (u : List Char)
    (skip : Nat) (htext : u ++ s = text) (hpos : u.length = pos) (hbefore : u.getLast? = before) :
    Calls text (pos + skip) (scanFrom before pos skip s) := by
  induction s generalizing u before pos skip with
  | nil =>
    have hlen : text.length = pos := by rw [← htext, List.append_nil, hpos]
    exact .done (next?_eq_none_of_le (by omega))
  | cons c s ih =>
    have htext' : (u ++ [c]) ++ s = text := by rw [← htext, List.append_assoc]; rfl
    have hpos' : (u ++ [c]).length = pos + 1 := by rw [List.length_append, hpos]; rfl
    have hbefore' : (u ++ [c]).getLast? = some c := List.getLast?_concat
    have hin : definitionIn? text pos = definitionAt? before pos (c :: s) := by
      rw [definitionIn?, ← htext, ← hpos, List.take_left, List.drop_left, hbefore]
    cases skip with
    | succ skip =>
      -- a character of the definition found last: the run does not start before its end
      rw [scanFrom, ← Nat.add_assoc, Nat.add_right_comm]
      exact ih (u ++ [c]) skip htext' hpos' hbefore'
    | zero =>
      rw [scanFrom]
      rcases hd : definitionAt? before pos (c :: s) with _ | d
      · exact .of_succ (hin.trans hd) (ih (u ++ [c]) 0 htext' hpos' hbefore')
      · have hin' := hin.trans hd
        obtain rfl := start_eq_of_definitionIn? hin'
        have hstop := (foundIn_of_definitionIn? hin').nonempty
        refine .found (next?_of_definitionIn? hin') ?_
        have := ih (u ++ [c]) (d.text.length - 1) htext' hpos' hbefore'
        rw [Definition.stop] at hstop ⊢
        rwa [show d.start + 1 + (d.text.length - 1) = d.start + d.text.length by omega] at this

/-- The definitions of a text from a position on are a run of calls from there. -/
theorem calls_scanAt (text : List Char) (pos : Nat) : Calls text pos (scanAt pos text) := by
  rw [scanAt]
  by_cases hle : pos ≤ text.length
  · exact calls_scanFrom (text.take pos) 0 (List.take_append_drop pos text)
      (List.length_take_of_le hle) rfl
  · rw [List.drop_eq_nil_of_le (Nat.le_of_not_le hle)]
    exact .done (next?_eq_none_of_le (Nat.le_of_not_le hle))

/-- There is one run of calls from every position, and the scan from there gives it. -/
theorem calls_iff_eq_scanAt {text : List Char} {pos : Nat} {ds : List Definition} :
    Calls text pos ds ↔ ds = scanAt pos text := by
  constructor
  · intro h
    exact h.unique (calls_scanAt text pos)
  · rintro rfl
    exact calls_scanAt text pos

/-- The definitions of a text are what a run of calls from its start finds. -/
theorem calls_iff_eq_scan {text : List Char} {ds : List Definition} :
    Calls text 0 ds ↔ ds = scan text := calls_iff_eq_scanAt

/-! ## The theorem -/

/-- **The scan finds exactly the leftmost definitions that do not overlap.** Calling for the next
definition from the start of the text ends, and what it finds is the scan. Every definition is a
piece of the text that is not empty and ends where one may end; they are disjoint and in order; and
one starts exactly where a definition may start outside the ones before. -/
theorem scan_leftmost (text : List Char) :
    (∀ ds, Calls text 0 ds ↔ ds = scan text) ∧
      (∀ d ∈ scan text, d.FoundIn text) ∧
      (scan text).Pairwise (fun d e => d.stop ≤ e.start) ∧
      ∀ p, (∃ d ∈ scan text, d.start = p) ↔
        (∀ d ∈ scan text, d.start < p → d.stop ≤ p) ∧ StartsAt text p := by
  have hrun : Calls text 0 (scan text) := calls_iff_eq_scan.mpr rfl
  refine ⟨fun ds => calls_iff_eq_scan, fun d hd => ?_, hrun.pairwise, fun p => ?_⟩
  · exact foundIn_of_definitionIn? (hrun.le_start d hd).2
  · rw [hrun.exists_start_iff (Nat.zero_le p), definitionIn?_isSome_iff]

end Source

end Docwright
