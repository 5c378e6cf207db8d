import Mathlib
import Docwright.Proofs.NumberText
import Docwright.Proofs.StringText

/-!
# JSON texts

A value is read back from its text, whatever the indent.

* `WellFormed p room v` — what a text can hold: numbers with texts of their own, strings and names
  with the property `p`, distinct names, and holders nested at most `room` deep.
* `ComesBack room v` — the reader finds `v` at any depth of a text and stops right behind it.
* `read_render` — a well-formed value with settled strings is read back from its text.

Values come back by induction on well-formedness: a scalar by its own lemma, a holder by what the
reader does at its first item, at a separator and at the closing bracket. The fuel of the reader is
twice the length of the text, and every item and field leaves enough of it to those behind.
-/

namespace Docwright

/-! ## Fields -/

/-- A new key goes to the end. -/
theorem Association.set_of_not_mem {κ α : Type} [DecidableEq κ] {key : κ} {value : α}
    {a : Association κ α} (h : key ∉ a.map (·.1)) : set key value a = a ++ [(key, value)] := by
  induction a with
  | nil => rfl
  | cons pair a ih =>
    obtain ⟨k, v⟩ := pair
    simp only [List.map_cons, List.mem_cons, not_or] at h
    rw [set, if_neg (Ne.symm h.1), ih h.2]
    rfl

/-- Pairs with distinct keys stay as they are. -/
theorem Association.ofPairs_of_nodup {κ α : Type} [DecidableEq κ] {pairs : List (κ × α)}
    (h : (pairs.map (·.1)).Nodup) : ofPairs pairs = pairs := by
  unfold ofPairs
  induction pairs using List.reverseRecOn with
  | nil => rfl
  | append_singleton pairs pair ih =>
    rw [List.map_append, List.nodup_append] at h
    rw [List.foldl_append, ih h.1, List.foldl_cons, List.foldl_nil]
    exact set_of_not_mem fun hmem => h.2.2 _ hmem _ (by simp) rfl

namespace Json

open LooseText

/-- What a text can hold: `p` is what all strings and field names are, and `room` how deep holders
may be nested. -/
inductive WellFormed (p : LooseText → Prop) : (room : Nat) → (v : Json) → Prop
  /-- `null` -/
  | null {room : Nat} : WellFormed p room .null
  /-- a truth value -/
  | bool {room : Nat} (b : Bool) : WellFormed p room (.bool b)
  /-- a number -/
  | num {room : Nat} {n : Number} (h : Writable n) : WellFormed p room (.num n)
  /-- a string -/
  | str {room : Nat} {s : LooseText} (h : p s) : WellFormed p room (.str s)
  /-- an array -/
  | arr {room : Nat} {items : List Json} (h : ∀ v ∈ items, WellFormed p room v) :
      WellFormed p (room + 1) (.arr items)
  /-- an object -/
  | obj {room : Nat} {fields : List (LooseText × Json)} (hnames : (fields.map (·.1)).Nodup)
      (hkeys : ∀ field ∈ fields, p field.1)
      (h : ∀ field ∈ fields, WellFormed p room field.2) : WellFormed p (room + 1) (.obj fields)

/-! ## Steps of the printer -/

theorem renderAt_str (indent : Option Nat) (depth : Nat) (s : LooseText) :
    renderAt indent depth (.str s) = quote s := rfl

theorem renderItems_cons (indent : Option Nat) (depth : Nat) (item : Json) (items : List Json) :
    renderItems indent depth (item :: items) =
      separator indent depth ++ renderAt indent depth item ++ renderItems indent depth items := rfl

theorem renderFields_cons (indent : Option Nat) (depth : Nat) (name : LooseText) (value : Json)
    (fields : List (LooseText × Json)) :
    renderFields indent depth ((name, value) :: fields) =
      separator indent depth ++ quote name ++ [':', ' '] ++ renderAt indent depth value ++
        renderFields indent depth fields := rfl

theorem renderAt_arr (indent : Option Nat) (depth : Nat) (item : Json) (items : List Json) :
    renderAt indent depth (.arr (item :: items)) =
      '[' :: gap indent (depth + 1) ++ renderAt indent (depth + 1) item ++
        renderItems indent (depth + 1) items ++ gap indent depth ++ [']'] := rfl

theorem renderAt_obj (indent : Option Nat) (depth : Nat) (name : LooseText) (value : Json)
    (fields : List (LooseText × Json)) :
    renderAt indent depth (.obj ((name, value) :: fields)) =
      '{' :: gap indent (depth + 1) ++ quote name ++ [':', ' '] ++
        renderAt indent (depth + 1) value ++ renderFields indent (depth + 1) fields ++
        gap indent depth ++ ['}'] := rfl

/-- A text that is not empty leaves some fuel. -/
theorem exists_fuel {s t : List Char} {c : Char} (hs : s = c :: t) {fuel : Nat}
    (hfuel : 2 * s.length ≤ fuel) : ∃ k, fuel = k + 1 := by
  rw [hs, List.length_cons] at hfuel
  exact ⟨fuel - 1, by omega⟩

/-! ## What stands between values -/

/-- What follows a value: the text ends there, or a separator or a closing bracket comes next. -/
def Follows (rest : LooseText) : Prop :=
  ∀ g, rest.head? = some g →
    g = .char ',' ∨ g = .char ']' ∨ g = .char '}' ∨ g = .char '\n'

/-- No number goes on there. -/
theorem Follows.endsNumber {rest : LooseText} (h : Follows rest) : EndsNumber rest.front := by
  intro c hc
  have hhead : rest.head? = some (.char c) := by
    cases rest with
    | nil => cases hc
    | cons g rest =>
      cases g with
      | char d => rw [Option.some.inj hc]; rfl
      | lone offset => cases hc
  rcases h _ hhead with hg | hg | hg | hg <;>
    · obtain rfl := Glyph.char.inj hg
      decide

/-- The reader finds the value and stops right behind it. -/
def ComesBack (room : Nat) (v : Json) : Prop :=
  ∀ indent depth fuel rest, Follows rest → 2 * (renderAt indent depth v).length ≤ fuel →
    readValue room fuel (ofChars (renderAt indent depth v) ++ rest) = .ok (v, rest)

/-- A gap is made of blanks. -/
theorem isGap_of_mem_gap {indent : Option Nat} {depth : Nat} :
    ∀ c ∈ gap indent depth, isGap c = true := by
  intro c hc
  cases indent with
  | none => cases hc
  | some width =>
    rcases List.mem_cons.mp hc with rfl | hc
    · rfl
    · rw [List.eq_of_mem_replicate hc]
      rfl

/-- Blanks in front are skipped. -/
theorem skipGap_append {blanks : List Char} (h : ∀ c ∈ blanks, isGap c = true) (s : LooseText) :
    skipGap (ofChars blanks ++ s) = skipGap s := by
  refine List.dropWhile_append_of_pos fun g hg => ?_
  obtain ⟨c, hc, rfl⟩ := List.mem_map.mp hg
  exact h c hc

/-- What is no blank stays. -/
theorem skipGap_cons {g : Glyph} (h : g.isIn isGap = false) (s : LooseText) :
    skipGap (g :: s) = g :: s := by
  simp [skipGap, h]

/-- A separator is a comma and blanks. -/
theorem separator_eq (indent : Option Nat) (depth : Nat) :
    ∃ blanks, separator indent depth = ',' :: blanks ∧ ∀ c ∈ blanks, isGap c = true := by
  cases indent with
  | none => exact ⟨[' '], rfl, by simp [isGap]⟩
  | some width => exact ⟨_, rfl, isGap_of_mem_gap⟩

/-- A value starts neither with a blank nor with a closing bracket or a byte order mark. -/
theorem head_of_readValue {room fuel : Nat} {s : LooseText} {p : Json × LooseText}
    (h : readValue room fuel s = .ok p) :
    ∃ g t, s = g :: t ∧ g.isIn isGap = false ∧ g ≠ .char ']' ∧ g ≠ .char '\ufeff' := by
  cases fuel with
  | zero => cases h
  | succ fuel =>
    cases s with
    | nil => cases h
    | cons g t =>
      refine ⟨g, t, rfl, ?_⟩
      cases g with
      | lone offset => exact ⟨rfl, nofun, nofun⟩
      | char c =>
        by_contra hc
        have hcases : c = ' ' ∨ c = '\t' ∨ c = '\n' ∨ c = '\r' ∨ c = ']' ∨ c = '\ufeff' := by
          by_contra hne
          simp only [not_or] at hne
          exact hc (by simp [Glyph.isIn, isGap, hne])
        rcases hcases with rfl | rfl | rfl | rfl | rfl | rfl <;> cases h

/-- A gap and a closing bracket can follow a value. -/
theorem follows_gap_append {g : Glyph} (h : g = .char ']' ∨ g = .char '}') (indent : Option Nat)
    (depth : Nat) (rest : LooseText) : Follows (ofChars (gap indent depth) ++ g :: rest) := by
  intro d hd
  cases indent with
  | none =>
    obtain rfl : g = d := by simpa [gap] using hd
    exact .inr (h.imp id .inl)
  | some width =>
    obtain rfl : .char '\n' = d := by simpa [gap] using hd
    simp

/-- A comma and a gap can follow a value. -/
theorem follows_separator_append (indent : Option Nat) (depth : Nat) (rest : LooseText) :
    Follows (ofChars (separator indent depth) ++ rest) := by
  obtain ⟨blanks, hsep, -⟩ := separator_eq indent depth
  intro d hd
  rw [hsep] at hd
  exact .inl (Option.some.inj hd).symm

/-- More items and the end of an array can follow a value. -/
theorem follows_renderItems_append (indent : Option Nat) (depth k : Nat) (items : List Json)
    (rest : LooseText) :
    Follows (ofChars (renderItems indent depth items) ++
      (ofChars (gap indent k) ++ .char ']' :: rest)) := by
  cases items with
  | nil => exact follows_gap_append (.inl rfl) indent k rest
  | cons item items =>
    simp only [renderItems_cons, ofChars_append, List.append_assoc]
    exact follows_separator_append indent depth _

/-- More fields and the end of an object can follow a value. -/
theorem follows_renderFields_append (indent : Option Nat) (depth k : Nat)
    (fields : List (LooseText × Json)) (rest : LooseText) :
    Follows (ofChars (renderFields indent depth fields) ++
      (ofChars (gap indent k) ++ .char '}' :: rest)) := by
  cases fields with
  | nil => exact follows_gap_append (.inr rfl) indent k rest
  | cons field fields =>
    obtain ⟨name, value⟩ := field
    simp only [renderFields_cons, ofChars_append, List.append_assoc]
    exact follows_separator_append indent depth _

/-! ## Steps of the reader -/

/-- How items go on is decided behind the first one. -/
theorem readItems_of_item {room fuel : Nat} {s t : LooseText} {item : Json}
    (hitem : readValue room fuel s = .ok (item, t)) :
    readItems room (fuel + 1) s =
      match skipGap t with
      | .char ']' :: rest => .ok ([item], rest)
      | .char ',' :: rest =>
        match readItems room fuel (skipGap rest) with
        | .ok (items, rest) => .ok (item :: items, rest)
        | .error stop => .error stop
      | rest => .error (.malformed .expectingComma rest) := by
  rewrite [readItems, hitem]
  rfl

/-- The last item, with a closing bracket behind it. -/
theorem readItems_close {room fuel : Nat} {s t rest : LooseText} {item : Json}
    (hitem : readValue room fuel s = .ok (item, t)) (hclose : skipGap t = .char ']' :: rest) :
    readItems room (fuel + 1) s = .ok ([item], rest) := by
  rw [readItems_of_item hitem, hclose]
  rfl

/-- An item with a comma and more items behind it. -/
theorem readItems_comma {room fuel : Nat} {s t t' rest : LooseText} {item : Json}
    {items : List Json} (hitem : readValue room fuel s = .ok (item, t))
    (hcomma : skipGap t = .char ',' :: t')
    (hitems : readItems room fuel (skipGap t') = .ok (items, rest)) :
    readItems room (fuel + 1) s = .ok (item :: items, rest) := by
  rw [readItems_of_item hitem, hcomma]
  simp only [hitems]

/-- How fields go on is decided behind the first one. -/
theorem readFields_of_field {room fuel : Nat} {s s₁ s₂ s₃ : LooseText} {pieces : List Piece}
    {value : Json} (hname : readPieces (.char '"' :: s) s = .ok (pieces, s₁))
    (hcolon : skipGap s₁ = .char ':' :: s₂)
    (hvalue : readValue room fuel (skipGap s₂) = .ok (value, s₃)) :
    readFields room (fuel + 1) (.char '"' :: s) =
      match skipGap s₃ with
      | .char '}' :: rest => .ok ([(ofPieces pieces, value)], rest)
      | .char ',' :: rest =>
        match readFields room fuel (skipGap rest) with
        | .ok (fields, rest) => .ok ((ofPieces pieces, value) :: fields, rest)
        | .error stop => .error stop
      | rest => .error (.malformed .expectingComma rest) := by
  rewrite [readFields, hname]
  simp only [hcolon]
  rewrite [hvalue]
  rfl

/-- The last field, with a closing brace behind it. -/
theorem readFields_close {room fuel : Nat} {s s₁ s₂ s₃ rest : LooseText} {pieces : List Piece}
    {value : Json} (hname : readPieces (.char '"' :: s) s = .ok (pieces, s₁))
    (hcolon : skipGap s₁ = .char ':' :: s₂)
    (hvalue : readValue room fuel (skipGap s₂) = .ok (value, s₃))
    (hclose : skipGap s₃ = .char '}' :: rest) :
    readFields room (fuel + 1) (.char '"' :: s) = .ok ([(ofPieces pieces, value)], rest) := by
  rw [readFields_of_field hname hcolon hvalue, hclose]
  rfl

/-- A field with a comma and more fields behind it. -/
theorem readFields_comma {room fuel : Nat} {s s₁ s₂ s₃ s₄ rest : LooseText} {pieces : List Piece}
    {value : Json} {fields : List (LooseText × Json)}
    (hname : readPieces (.char '"' :: s) s = .ok (pieces, s₁))
    (hcolon : skipGap s₁ = .char ':' :: s₂)
    (hvalue : readValue room fuel (skipGap s₂) = .ok (value, s₃))
    (hcomma : skipGap s₃ = .char ',' :: s₄)
    (hfields : readFields room fuel (skipGap s₄) = .ok (fields, rest)) :
    readFields room (fuel + 1) (.char '"' :: s) =
      .ok ((ofPieces pieces, value) :: fields, rest) := by
  rw [readFields_of_field hname hcolon hvalue, hcomma]
  simp only [hfields]

theorem readValue_quote (room fuel : Nat) (s : LooseText) :
    readValue room (fuel + 1) (.char '"' :: s) =
      match readPieces (.char '"' :: s) s with
      | .ok (pieces, rest) => .ok (.str (ofPieces pieces), rest)
      | .error stop => .error stop := rfl

theorem readValue_bracket (room fuel : Nat) (s : LooseText) :
    readValue (room + 1) (fuel + 1) (.char '[' :: s) =
      match skipGap s with
      | .char ']' :: rest => .ok (.arr [], rest)
      | rest =>
        match readItems room fuel rest with
        | .ok (items, rest) => .ok (.arr items, rest)
        | .error stop => .error stop := rfl

theorem readValue_brace (room fuel : Nat) (s : LooseText) :
    readValue (room + 1) (fuel + 1) (.char '{' :: s) =
      match skipGap s with
      | .char '}' :: rest => .ok (.obj [], rest)
      | rest =>
        match readFields room fuel rest with
        | .ok (fields, rest) => .ok (.obj (Association.ofPairs fields), rest)
        | .error stop => .error stop := rfl

/-- An array that is not closed at once is its items. -/
theorem readValue_arr {room fuel : Nat} {s t rest : LooseText} {g : Glyph} {items : List Json}
    (hstart : skipGap s = g :: t) (hg : g ≠ .char ']')
    (hitems : readItems room fuel (g :: t) = .ok (items, rest)) :
    readValue (room + 1) (fuel + 1) (.char '[' :: s) = .ok (.arr items, rest) := by
  rw [readValue_bracket, hstart]
  split
  · next heq =>
    injection heq with heq
    exact absurd heq hg
  · rw [hitems]

/-- An object whose first field has a name is its fields. -/
theorem readValue_obj {room fuel : Nat} {s t rest : LooseText} {fields : List (LooseText × Json)}
    (hstart : skipGap s = .char '"' :: t)
    (hfields : readFields room fuel (.char '"' :: t) = .ok (fields, rest)) :
    readValue (room + 1) (fuel + 1) (.char '{' :: s) =
      .ok (.obj (Association.ofPairs fields), rest) := by
  rw [readValue_brace, hstart]
  split
  · next heq =>
    injection heq with heq
    exact absurd heq (by decide)
  · rw [hfields]

/-! ## Holders -/

/-- A printed value does not start with a blank. -/
theorem skipGap_renderAt {room : Nat} {v : Json} (hv : ComesBack room v) (indent : Option Nat)
    (depth : Nat) {rest : LooseText} (hrest : Follows rest) :
    skipGap (ofChars (renderAt indent depth v) ++ rest) =
      ofChars (renderAt indent depth v) ++ rest := by
  obtain ⟨g, t, htext, hg, -⟩ := head_of_readValue (hv indent depth _ rest hrest le_rfl)
  rw [htext, skipGap_cons hg]

/-- **Items** come back if each of them does. -/
theorem readItems_renderItems {room : Nat} (indent : Option Nat) (depth k : Nat) (rest : LooseText)
    {items : List Json} (hitems : ∀ v ∈ items, ComesBack room v) {item : Json}
    (hitem : ComesBack room item) {fuel : Nat}
    (hfuel : 2 * (renderAt indent depth item).length +
      2 * (renderItems indent depth items).length ≤ fuel) :
    readItems room (fuel + 1) (ofChars (renderAt indent depth item) ++
      (ofChars (renderItems indent depth items) ++
        (ofChars (gap indent k) ++ .char ']' :: rest))) = .ok (item :: items, rest) := by
  induction items generalizing item fuel with
  | nil =>
    have hread := hitem indent depth fuel _ (follows_renderItems_append indent depth k [] rest)
      (by omega)
    refine readItems_close hread ?_
    exact (skipGap_append isGap_of_mem_gap _).trans (skipGap_cons rfl _)
  | cons next items ih =>
    have hnext := hitems next (List.mem_cons_self ..)
    have hread := hitem indent depth fuel _
      (follows_renderItems_append indent depth k (next :: items) rest) (by omega)
    obtain ⟨blanks, hsep, hblanks⟩ := separator_eq indent depth
    simp only [renderItems_cons, hsep, ofChars_append, ofChars_cons, List.append_assoc,
      List.cons_append, List.length_append, List.length_cons] at hfuel hread ⊢
    obtain ⟨fuel, rfl⟩ : ∃ k, fuel = k + 1 := ⟨fuel - 1, by omega⟩
    refine readItems_comma hread (skipGap_cons rfl _) ?_
    rw [skipGap_append hblanks, skipGap_renderAt hnext indent depth
      (follows_renderItems_append indent depth k items rest)]
    exact ih (fun v hv => hitems v (List.mem_cons_of_mem _ hv)) hnext (by omega)

/-- **An array** comes back if its items do. -/
theorem comesBack_arr {room : Nat} {items : List Json} (h : ∀ v ∈ items, ComesBack room v) :
    ComesBack (room + 1) (.arr items) := by
  intro indent depth fuel rest hrest hfuel
  cases items with
  | nil =>
    obtain ⟨fuel, rfl⟩ := exists_fuel rfl hfuel
    rfl
  | cons item items =>
    have hitem := h item (List.mem_cons_self ..)
    simp only [renderAt_arr, ofChars_append, ofChars_cons,
      ofChars_nil, List.append_assoc, List.cons_append, List.nil_append,
      List.length_append, List.length_cons] at hfuel ⊢
    obtain ⟨fuel, rfl⟩ : ∃ k, fuel = k + 2 := ⟨fuel - 2, by omega⟩
    have hfollows := follows_renderItems_append indent (depth + 1) depth items rest
    obtain ⟨g, t, htext, -, hclose, -⟩ :=
      head_of_readValue (hitem indent (depth + 1) _ _ hfollows le_rfl)
    refine readValue_arr (g := g) (t := t) ?_ hclose ?_
    · rw [skipGap_append isGap_of_mem_gap, skipGap_renderAt hitem indent (depth + 1) hfollows,
        htext]
    · rw [← htext]
      exact readItems_renderItems indent (depth + 1) depth rest
        (fun v hv => h v (List.mem_cons_of_mem _ hv)) hitem (by omega)

/-- The value of a field is found behind the colon and the space. -/
theorem readValue_behind_colon {room fuel : Nat} {v : Json} (hv : ComesBack room v)
    (indent : Option Nat) (depth : Nat) {rest : LooseText} (hrest : Follows rest)
    (hfuel : 2 * (renderAt indent depth v).length ≤ fuel) :
    readValue room fuel (skipGap (.char ' ' :: (ofChars (renderAt indent depth v) ++ rest))) =
      .ok (v, rest) := by
  have hblank : ∀ c ∈ [' '], isGap c = true := by simp [isGap]
  have hskip := skipGap_append hblank (ofChars (renderAt indent depth v) ++ rest)
  rw [ofChars_cons, ofChars_nil, List.cons_append, List.nil_append] at hskip
  rw [hskip, skipGap_renderAt hv indent depth hrest]
  exact hv indent depth fuel rest hrest hfuel

/-- **Fields** come back if their values do. -/
theorem readFields_renderFields {room : Nat} (indent : Option Nat) (depth k : Nat)
    (rest : LooseText) {fields : List (LooseText × Json)}
    (hfields : ∀ field ∈ fields, Text.IsSettled field.1 ∧ ComesBack room field.2)
    {name : LooseText} {value : Json} (hname : Text.IsSettled name)
    (hvalue : ComesBack room value) {fuel : Nat}
    (hfuel : 2 * (renderAt indent depth value).length +
      2 * (renderFields indent depth fields).length ≤ fuel) :
    readFields room (fuel + 1) (.char '"' :: (ofChars (name.flatMap escapeGlyph) ++
      (.char '"' :: .char ':' :: .char ' ' :: (ofChars (renderAt indent depth value) ++
        (ofChars (renderFields indent depth fields) ++
          (ofChars (gap indent k) ++ .char '}' :: rest)))))) =
            .ok ((name, value) :: fields, rest) := by
  induction fields generalizing name value fuel with
  | nil =>
    have hread := readValue_behind_colon hvalue indent depth
      (follows_renderFields_append indent depth k [] rest) (by omega : _ ≤ fuel)
    rw [readFields_close (readPieces_quote _ hname _) (skipGap_cons rfl _) hread,
      ofPieces_map_ofGlyph]
    exact (skipGap_append isGap_of_mem_gap _).trans (skipGap_cons rfl _)
  | cons next fields ih =>
    obtain ⟨nextName, nextValue⟩ := next
    obtain ⟨hnextName, hnextValue⟩ : Text.IsSettled nextName ∧ ComesBack room nextValue :=
      hfields _ (List.mem_cons_self ..)
    have hread := readValue_behind_colon hvalue indent depth
      (follows_renderFields_append indent depth k ((nextName, nextValue) :: fields) rest)
      (by omega : _ ≤ fuel)
    obtain ⟨blanks, hsep, hblanks⟩ := separator_eq indent depth
    simp only [renderFields_cons, quote, hsep, ofChars_append, ofChars_cons, List.append_assoc,
      List.cons_append, List.nil_append, List.length_append, List.length_cons] at hfuel hread ⊢
    obtain ⟨fuel, rfl⟩ : ∃ k, fuel = k + 1 := ⟨fuel - 1, by omega⟩
    have hrest := ih (fun field hfield => hfields field (List.mem_cons_of_mem _ hfield)) hnextName
      hnextValue (by omega : _ ≤ fuel)
    rw [← skipGap_cons rfl, ← skipGap_append hblanks] at hrest
    rw [readFields_comma (readPieces_quote _ hname _) (skipGap_cons rfl _) hread
      (skipGap_cons rfl _) hrest, ofPieces_map_ofGlyph]

/-- **An object** comes back if the values of its fields do. -/
theorem comesBack_obj {room : Nat} {fields : List (LooseText × Json)}
    (hnames : (fields.map (·.1)).Nodup)
    (h : ∀ field ∈ fields, Text.IsSettled field.1 ∧ ComesBack room field.2) :
    ComesBack (room + 1) (.obj fields) := by
  intro indent depth fuel rest hrest hfuel
  cases fields with
  | nil =>
    obtain ⟨fuel, rfl⟩ := exists_fuel rfl hfuel
    rfl
  | cons field fields =>
    obtain ⟨name, value⟩ := field
    obtain ⟨hname, hvalue⟩ : Text.IsSettled name ∧ ComesBack room value :=
      h _ (List.mem_cons_self ..)
    simp only [renderAt_obj, quote, ofChars_append, ofChars_cons,
      ofChars_nil, List.append_assoc, List.cons_append, List.nil_append,
      List.length_append, List.length_cons] at hfuel ⊢
    obtain ⟨fuel, rfl⟩ : ∃ k, fuel = k + 2 := ⟨fuel - 2, by omega⟩
    have hread := readFields_renderFields indent (depth + 1) depth rest
      (fun field hfield => h field (List.mem_cons_of_mem _ hfield)) hname hvalue
      (by omega : _ ≤ fuel)
    have hstart : ∀ t, skipGap (ofChars (gap indent (depth + 1)) ++ .char '"' :: t) =
        .char '"' :: t := fun t => by
      rw [skipGap_append isGap_of_mem_gap, skipGap_cons rfl]
    rw [readValue_obj (hstart _) hread, Association.ofPairs_of_nodup hnames]

/-! ## Scalars -/

theorem comesBack_str {room : Nat} {s : LooseText} (hs : Text.IsSettled s) :
    ComesBack room (.str s) := by
  intro indent depth fuel rest hrest hfuel
  obtain ⟨fuel, rfl⟩ := exists_fuel rfl hfuel
  have htext : ofChars (renderAt indent depth (.str s)) ++ rest =
      .char '"' :: (ofChars (s.flatMap escapeGlyph) ++ .char '"' :: rest) := by
    simp only [renderAt_str, quote, ofChars_append, ofChars_cons,
      ofChars_nil, List.append_assoc, List.cons_append, List.nil_append]
  rw [htext, readValue_quote, readPieces_quote _ hs]
  simp only [ofPieces_map_ofGlyph]

theorem comesBack_null {room : Nat} : ComesBack room .null := by
  intro indent depth fuel rest hrest hfuel
  obtain ⟨fuel, rfl⟩ := exists_fuel rfl hfuel
  rfl

theorem comesBack_bool {room : Nat} (b : Bool) : ComesBack room (.bool b) := by
  intro indent depth fuel rest hrest hfuel
  cases b with
  | true =>
    obtain ⟨fuel, rfl⟩ := exists_fuel rfl hfuel
    rfl
  | false =>
    obtain ⟨fuel, rfl⟩ := exists_fuel rfl hfuel
    rfl

theorem comesBack_num {room : Nat} {n : Number} (h : Writable n) : ComesBack room (.num n) := by
  intro indent depth fuel rest hrest hfuel
  -- a text that can be read is not empty
  obtain ⟨fuel, rfl⟩ : ∃ k, fuel = k + 1 := by
    have hends : EndsNumber (LooseText.front []) := fun c hc => by cases hc
    obtain ⟨g, t, htext, -⟩ := head_of_readValue (readValue_numberText h hends room 0)
    rcases hchars : numberText n with _ | ⟨c, cs⟩
    · rw [hchars] at htext
      cases htext
    · exact exists_fuel hchars hfuel
  exact readValue_numberText h hrest.endsNumber room fuel

/-! ## Documents -/

/-- **Values come back.** -/
theorem WellFormed.comesBack {room : Nat} {v : Json} (h : WellFormed Text.IsSettled room v) :
    ComesBack room v := by
  induction h with
  | null => exact comesBack_null
  | bool b => exact comesBack_bool b
  | num h => exact comesBack_num h
  | str h => exact comesBack_str h
  | arr _ ih => exact comesBack_arr ih
  | obj hnames hkeys _ ih =>
    exact comesBack_obj hnames fun field hfield => ⟨hkeys field hfield, ih field hfield⟩

/-- **A document** is read back from its text. -/
theorem read_render {v : Json} (h : WellFormed Text.IsSettled maxDepth v) (indent : Option Nat) :
    read (v.render indent) = .ok v := by
  have hends : Follows [] := fun g hg => by cases hg
  rw [render, LooseText.ofString, String.toList_ofList]
  have hread := h.comesBack indent 0 (2 * (renderAt indent 0 v).length + 2) [] hends (by omega)
  rw [List.append_nil, ← LooseText.length_ofChars] at hread
  obtain ⟨g, t, htext, hg, -, hmark⟩ := head_of_readValue hread
  rw [htext] at hread ⊢
  have hdocument : readDocument (g :: t) = .ok v := by
    unfold readDocument
    split
    · next heq => exact absurd (List.cons.inj heq).1 hmark
    · rw [skipGap_cons hg, hread]
      rfl
  rw [read, hdocument]
  rfl

end Json

end Docwright
