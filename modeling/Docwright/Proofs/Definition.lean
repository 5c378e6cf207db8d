import Docwright.Proofs.Header
import Docwright.Proofs.Body
import Docwright.Source.Definition

/-!
# Definitions in their surroundings

A definition is read at a position of a text that goes on behind it. Here it is taken apart
(`definitionAt?_eq_some`) and put together again from its header and whatever follows
(`definitionAt?_of_isHeader`): its text is the header, the ASCII blanks behind the colon and the
body. The scan then steps over exactly that text (`scanFrom_append`).
-/

namespace Docwright

namespace Source

/-- The definition with a given header that starts a text, where `rest` follows the header. -/
def definitionOf (head name params : List Char) (arrowed : Option (List Char)) (start : Nat)
    (rest : List Char) : Definition :=
  let body := (splitBody .code (rest.dropWhile Text.isAsciiBlank)).1
  { name, params, returnType := Signature.returnType ⟨params, arrowed, rest⟩, body
    text := head ++ (rest.takeWhile Text.isAsciiBlank ++ body), start }

/-- Nothing but the rest of the body's reader follows the text of a definition. -/
theorem definitionOf_text_append (head name params : List Char) (arrowed : Option (List Char))
    (start : Nat) (rest : List Char) :
    (definitionOf head name params arrowed start rest).text ++
      (splitBody .code (rest.dropWhile Text.isAsciiBlank)).2 = head ++ rest := by
  simp only [definitionOf, List.append_assoc]
  rw [splitBody_append, List.takeWhile_append_dropWhile]

/-- **A definition put together.** Behind a header there is always a definition. -/
theorem definitionAt?_of_isHeader {head name params : List Char} {arrowed : Option (List Char)}
    (h : IsHeader head name params arrowed) {before : Option Char}
    (hbefore : before.any Text.isIdentChar = false) (start : Nat) (rest : List Char) :
    definitionAt? before start (head ++ rest) =
      some (definitionOf head name params arrowed start rest) := by
  obtain ⟨behind, hopen, hsig⟩ := h rest
  have htext := definitionOf_text_append head name params arrowed start rest
  have htake : (head ++ rest).take ((head ++ rest).length -
      (splitBody .code (rest.dropWhile Text.isAsciiBlank)).2.length) =
        (definitionOf head name params arrowed start rest).text := by
    rw [← htext, List.length_append, Nat.add_sub_cancel, List.take_left]
  rw [definitionAt?, hbefore, if_neg Bool.false_ne_true, hopen]
  dsimp only
  rw [hsig]
  dsimp only
  rw [htake]
  rfl

/-- **A definition taken apart.** Where a definition is read there is a header, and nothing that
would make the defining word the end of an identifier stands in front of it. -/
theorem definitionAt?_eq_some {before : Option Char} {start : Nat} {s : List Char} {d : Definition}
    (h : definitionAt? before start s = some d) :
    before.any Text.isIdentChar = false ∧
      ∃ head arrowed rest, s = head ++ rest ∧ IsHeader head d.name d.params arrowed ∧
        d = definitionOf head d.name d.params arrowed start rest := by
  have hinv := h
  rw [definitionAt?] at hinv
  by_cases hbefore : before.any Text.isIdentChar = true
  · rw [if_pos hbefore] at hinv
    cases hinv
  · rw [if_neg hbefore] at hinv
    rcases hopen : opening? s with _ | ⟨name, behind⟩
    · rw [hopen] at hinv
      cases hinv
    · rw [hopen] at hinv
      dsimp only at hinv
      rcases hsig : signature? behind with _ | sig
      · rw [hsig] at hinv
        cases hinv
      · -- the header that was read is one in front of any text, so it can be put together again
        obtain ⟨head, rfl, hhead⟩ := exists_isHeader hopen hsig
        have hput := definitionAt?_of_isHeader hhead (eq_false_of_ne_true hbefore) start sig.rest
        obtain rfl := Option.some.inj (h.symm.trans hput)
        exact ⟨eq_false_of_ne_true hbefore, head, sig.arrowed, sig.rest, rfl, hhead, rfl⟩

/-- There is a definition exactly behind an opening whose parameter list is closed. -/
theorem definitionAt?_isSome_iff {before : Option Char} {start : Nat} {s : List Char} :
    (definitionAt? before start s).isSome ↔
      before.any Text.isIdentChar = false ∧
        ∃ name params tail, Opens s name (params ++ ')' :: tail) ∧ Closes tail := by
  constructor
  · intro h
    obtain ⟨d, hd⟩ := Option.isSome_iff_exists.mp h
    obtain ⟨hbefore, head, arrowed, rest, rfl, hhead, -⟩ := definitionAt?_eq_some hd
    obtain ⟨behind, hopen, hsig⟩ := hhead rest
    obtain ⟨tail, rfl, hend, -⟩ := signature?_eq_some_iff.mp hsig
    exact ⟨hbefore, d.name, d.params, tail, opening?_eq_some_iff.mp hopen,
      closes_iff_headerEnd.mpr ⟨_, _, hend⟩⟩
  · rintro ⟨hbefore, name, params, tail, hopen, hclose⟩
    obtain ⟨sig, hsig⟩ := exists_signed_of_closes params hclose
    obtain ⟨head, rfl, hhead⟩ :=
      exists_isHeader (opening?_eq_some_iff.mpr hopen) (signature?_eq_some_iff.mpr hsig)
    rw [definitionAt?_of_isHeader hhead hbefore]
    rfl

/-- A definition is not empty. -/
theorem definitionOf_text_ne_nil {head name params : List Char} {arrowed : Option (List Char)}
    (h : IsHeader head name params arrowed) (start : Nat) (rest : List Char) :
    (definitionOf head name params arrowed start rest).text ≠ [] := by
  obtain ⟨inner, rfl⟩ := h.exists_inner
  simp [definitionOf]

/-! ## Stepping over a definition -/

theorem getLast?_or_some (c : Char) (x : List Char) :
    x.getLast?.or (some c) = (c :: x).getLast? := by
  rw [List.getLast?_cons]
  cases x.getLast? <;> rfl

/-- The scan steps over the characters it is told to skip. -/
theorem scanFrom_skip (before : Option Char) (pos : Nat) (x t : List Char) :
    scanFrom before pos x.length (x ++ t) =
      scanFrom (x.getLast?.or before) (pos + x.length) 0 t := by
  induction x generalizing before pos with
  | nil => rfl
  | cons c x ih =>
    have hlast : (c :: x).getLast?.or before = (c :: x).getLast? := by
      rw [List.getLast?_cons]
      rfl
    rw [List.length_cons, List.cons_append, scanFrom, ih, getLast?_or_some, hlast,
      Nat.add_right_comm, Nat.add_assoc]

/-- A definition that is found is followed by those found behind its text. -/
theorem scanFrom_append {before : Option Char} {pos : Nat} {t : List Char} {d : Definition}
    (hd : definitionAt? before pos (d.text ++ t) = some d) (hne : d.text ≠ []) :
    scanFrom before pos 0 (d.text ++ t) =
      d :: scanFrom d.text.getLast? (pos + d.text.length) 0 t := by
  rcases htext : d.text with _ | ⟨c, x⟩
  · exact absurd htext hne
  · rw [htext, List.cons_append] at hd
    rw [List.cons_append, scanFrom, hd]
    dsimp only
    rw [htext, List.length_cons, Nat.add_sub_cancel, scanFrom_skip, getLast?_or_some,
      Nat.add_assoc, Nat.add_comm 1]

end Source

end Docwright
