import Docwright.Proofs.JsonLexis
import Docwright.Proofs.Reply
import Docwright.Proofs.Search

/-!
# Wrapped replies

A reply may put an object into a fence, marked or not, or among other words. Three searches are made
for it, over all of the reply, and each could be led astray by what the object itself holds. The
lexical rules of JSON (`Json.Lexed`) keep them on the way:

* `fenced?_of_lexed` — **no fence opens in the object**: a fence needs a newline among the blanks
  behind its mark, and in a string there is none before the closing quote;
* `cut?_closing` — **no fence closes in the object**: a newline is not followed by a backtick there;
* `fenced?_append` — **no fence opens across the start of the object or of its fence**.

So every reply that is wrapped around an object (`Wraps`) has it for its object
(`objectText_of_wraps`).
-/

namespace Docwright

namespace Remote

/-! ## Fences -/

theorem fence_eq : fence = [.char '`', .char '`', .char '`'] := rfl

/-- The text of a fence that opens at the very start. -/
def fencedHere? (opening s : LooseText) : Option (LooseText) :=
  (Text.after? opening s).bind fun rest =>
    fencedBehind? (rest.takeWhile (Glyph.isIn Text.isBlank))
      (rest.dropWhile (Glyph.isIn Text.isBlank))

theorem fenced?_cons (opening : LooseText) (c : Glyph) (s : LooseText) :
    fenced? opening (c :: s) = (fencedHere? opening (c :: s)).or (fenced? opening s) := by
  rw [fenced?, fencedHere?]
  rcases Text.after? opening (c :: s) with _ | rest
  · rfl
  · dsimp only [Option.bind_some]
    cases fencedBehind? (rest.takeWhile (Glyph.isIn Text.isBlank))
      (rest.dropWhile (Glyph.isIn Text.isBlank)) <;> rfl

/-- A character that opens no fence is passed over. -/
theorem fenced?_cons_of_none {opening : LooseText} {c : Glyph} {s : LooseText}
    (h : fencedHere? opening (c :: s) = none) : fenced? opening (c :: s) = fenced? opening s := by
  rw [fenced?_cons, h, Option.none_or]

/-- A fence that opens at the very start is the first. -/
theorem fenced?_of_here {opening s text : LooseText} (h : fencedHere? opening s = some text) :
    fenced? opening s = some text := by
  cases s with
  | nil => cases opening <;> cases h
  | cons c s => rw [fenced?_cons, h, Option.some_or]

theorem fencedHere?_of_not_isPrefix {opening s : LooseText} (h : ¬ opening <+: s) :
    fencedHere? opening s = none := by
  rw [fencedHere?, Text.after?_eq_none_iff.mpr h, Option.bind_none]

/-- A fence needs a newline among the blanks behind its mark. -/
theorem fencedHere?_of_line {opening rest : LooseText}
    (h : Glyph.char '\n' ∉ rest.takeWhile (Glyph.isIn Text.isBlank)) :
    fencedHere? opening (opening ++ rest) = none := by
  have hafter : Text.after? opening (opening ++ rest) = some rest := Text.after?_eq_some_iff.mpr rfl
  rw [fencedHere?, hafter, Option.bind_some, fencedBehind?_eq_none h]

/-- A fence needs a closing mark on a new line. -/
theorem fencedBehind?_of_not_isInfix {run rest : LooseText}
    (h : ¬ .char '\n' :: fence <:+: run ++ rest) : fencedBehind? run rest = none := by
  induction run with
  | nil => rfl
  | cons c run ih =>
    have hrun : ¬ .char '\n' :: fence <:+: run ++ rest :=
      fun hin => h (hin.trans (List.suffix_cons c _).isInfix)
    rw [fencedBehind?, ih hrun, Text.cut?_eq_none_iff.mpr hrun]
    exact ite_self none

theorem fenced?_of_not_isInfix {opening s : LooseText} (h : ¬ .char '\n' :: fence <:+: s) :
    fenced? opening s = none := by
  induction s with
  | nil => rfl
  | cons c s ih =>
    have hrest : ¬ .char '\n' :: fence <:+: s :=
      fun hin => h (hin.trans (List.suffix_cons c s).isInfix)
    rw [fenced?_cons, ih hrest, Option.or_none, fencedHere?]
    rcases hafter : Text.after? opening (c :: s) with _ | rest
    · rfl
    · rw [Option.bind_some]
      refine fencedBehind?_of_not_isInfix fun hin => h ?_
      rw [List.takeWhile_append_dropWhile] at hin
      rw [Text.after?_eq_some_iff.mp hafter]
      exact hin.trans (List.suffix_append opening rest).isInfix

/-! ## Passing over texts without a fence -/

/-- **No fence opens in a literal**: the blanks behind its mark end in the literal, which has no
newline. -/
theorem fenced?_literal {opening inner : LooseText} (hopening : Glyph.char '"' ∉ opening)
    (hinner : Glyph.char '\n' ∉ inner) (s : LooseText) :
    fenced? opening (inner ++ .char '"' :: s) = fenced? opening (.char '"' :: s) := by
  induction inner with
  | nil => rfl
  | cons c inner ih =>
    rw [List.cons_append, fenced?_cons_of_none, ih (fun h => hinner (List.mem_cons_of_mem c h))]
    by_cases hhead : opening <+: c :: (inner ++ .char '"' :: s)
    · obtain ⟨rest, hrest⟩ := hhead
      -- the mark ends before the closing quote
      obtain ⟨rest', hsplit, rfl⟩ : ∃ rest', c :: inner = opening ++ rest' ∧
          rest = rest' ++ .char '"' :: s := by
        rw [← List.cons_append] at hrest
        rcases List.append_eq_append_iff.mp hrest with ⟨u, hu, hs⟩ | ⟨u, hu, hs⟩
        · exact ⟨u, hu, hs⟩
        · cases u with
          | nil => exact ⟨[], by simpa using hu.symm, by simpa using hs.symm⟩
          | cons d u =>
            obtain ⟨rfl, -⟩ := List.cons.inj hs
            exact absurd (hu ▸ by simp) hopening
      rw [← hrest]
      refine fencedHere?_of_line fun hmem => hinner ?_
      have hrun : (rest' ++ .char '"' :: s).takeWhile (Glyph.isIn Text.isBlank) <+: rest' := by
        refine Text.takeWhile_append_isPrefix (fun d hd => ?_) rest'
        obtain rfl : Glyph.char '"' = d := by simpa using hd
        decide
      rw [hsplit]
      exact List.mem_append_right opening (hrun.subset hmem)
    · exact fencedHere?_of_not_isPrefix hhead

/-- **No fence opens in a JSON text**: its backticks stand in literals. -/
theorem fenced?_of_lexed {mark s rest : LooseText} (hmark : Glyph.char '"' ∉ mark)
    (h : Json.Lexed s rest) : fenced? (.char '`' :: mark) s = fenced? (.char '`' :: mark) rest := by
  have hplain : ∀ {c : Glyph} {s : LooseText}, c ≠ .char '`' →
      fenced? (.char '`' :: mark) (c :: s) = fenced? (.char '`' :: mark) s := by
    intro c s hc
    refine fenced?_cons_of_none (fencedHere?_of_not_isPrefix fun hhead => hc ?_)
    exact (List.cons_prefix_cons.mp hhead).1.symm
  induction h with
  | refl => rfl
  | plain hc _ ih => rw [hplain hc, ih]
  | literal hinner _ ih =>
    rw [hplain (by decide), fenced?_literal (by simp [hmark]) hinner, hplain (by decide), ih]

/-- Where a fence lies across the start of a text that starts with a fence too, a backtick follows
it. -/
theorem head?_of_overlap {v u x y : LooseText} (hfence : fence = v ++ u) (hv : v ≠ []) (hu : u ≠ [])
    (h : u ++ y = fence ++ x) : y.head? = some (.char '`') := by
  have hlength : v.length + u.length = 3 := by
    rw [← List.length_append, ← hfence]
    rfl
  have hdrop : u = fence.drop v.length := by rw [hfence, List.drop_left]
  have hvpos : 0 < v.length := List.length_pos_of_ne_nil hv
  have hupos : 0 < u.length := List.length_pos_of_ne_nil hu
  obtain hone | htwo : v.length = 1 ∨ v.length = 2 := by omega
  · obtain rfl : u = [Glyph.char '`', .char '`'] := by rw [hdrop, hone]; rfl
    have hy : y = .char '`' :: x := by simpa [fence_eq] using h
    rw [hy]
    rfl
  · obtain rfl : u = [Glyph.char '`'] := by rw [hdrop, htwo]; rfl
    have hy : y = .char '`' :: .char '`' :: x := by simpa [fence_eq] using h
    rw [hy]
    rfl

/-- A fence that lies across the start of a text which starts with a fence, or with something else
than a backtick, has no line of its own. -/
theorem newline_not_mem_of_overlap {mark v u t rest : LooseText}
    (hmark : mark.head? ≠ some (.char '`')) (ht : t.head? ≠ some (.char '`') ∨ fence <+: t)
    (hfence : fence = v ++ u) (hv : v ≠ []) (hu : u ≠ []) (htext : t = u ++ (mark ++ rest)) :
    Glyph.char '\n' ∉ rest.takeWhile (Glyph.isIn Text.isBlank) := by
  have hhead : t.head? = some (.char '`') := by
    obtain ⟨c, u, rfl⟩ := List.exists_cons_of_ne_nil hu
    have hmem : c ∈ fence := by simp [hfence]
    have hc : c = .char '`' := by simpa [fence_eq] using hmem
    rw [htext, hc]
    rfl
  obtain ⟨x, hx⟩ := ht.resolve_left (not_not.mpr hhead)
  have hnext : (mark ++ rest).head? = some (.char '`') :=
    head?_of_overlap hfence hv hu (htext.symm.trans hx.symm)
  cases mark with
  | nil =>
    cases rest with
    | nil => simp
    | cons c rest =>
      obtain rfl : c = .char '`' := by simpa using hnext
      rw [List.takeWhile_cons_of_neg (by decide)]
      exact List.not_mem_nil
  | cons c mark => exact absurd hnext hmark

/-- **No fence opens in front of a text** that itself starts with a fence or with something else
than a backtick. -/
theorem fenced?_append {mark P t : LooseText} (hmark : mark.head? ≠ some (.char '`'))
    (hP : ¬ fence <:+: P) (ht : t.head? ≠ some (.char '`') ∨ fence <+: t) :
    fenced? (fence ++ mark) (P ++ t) = fenced? (fence ++ mark) t := by
  induction P with
  | nil => rfl
  | cons c P ih =>
    have hrest := ih fun hin => hP (hin.trans (List.suffix_cons c P).isInfix)
    rw [List.cons_append, fenced?_cons_of_none, hrest]
    by_cases hhead : fence ++ mark <+: c :: (P ++ t)
    · obtain ⟨rest, hsplit⟩ := hhead
      rw [← hsplit]
      refine fencedHere?_of_line ?_
      rw [List.append_assoc, ← List.cons_append] at hsplit
      rcases List.append_eq_append_iff.mp hsplit with ⟨u, hu, -⟩ | ⟨u, hu, htext⟩
      · exact absurd ⟨[], u, by rw [List.nil_append, hu]⟩ hP
      · by_cases hnil : u = []
        · rw [hnil, List.append_nil] at hu
          exact absurd ⟨[], [], by rw [List.nil_append, List.append_nil, hu]⟩ hP
        · exact newline_not_mem_of_overlap hmark ht hu (List.cons_ne_nil c P) hnil htext
    · exact fencedHere?_of_not_isPrefix hhead

/-! ## The text of a fence -/

/-- The closing fence is found behind a JSON text, not in it. -/
theorem cut?_closing {J : LooseText} (h : Json.Lexed J []) (hclose : J.getLast? = some (.char '}'))
    (S : LooseText) :
    Text.cut? (.char '\n' :: fence) (J ++ (.char '\n' :: fence ++ S)) = some (J, S) := by
  refine Text.cut?_append_of_first fun u v huv hv hhead => ?_
  obtain ⟨c, v, rfl⟩ := List.exists_cons_of_ne_nil hv
  obtain ⟨rfl, hfence⟩ := List.cons_prefix_cons.mp hhead
  cases v with
  | nil =>
    rw [huv, List.getLast?_concat] at hclose
    cases hclose
  | cons d v =>
    rw [fence_eq] at hfence
    obtain ⟨rfl, -⟩ := List.cons_prefix_cons.mp hfence
    exact h.not_isInfix ⟨u, v, by simp [huv]⟩

/-- **A fenced object** is the text of its fence, whatever stands in front of it without a fence. -/
theorem fenced?_object {mark P J : LooseText} (hmark : mark.head? ≠ some (.char '`'))
    (hP : ¬ fence <:+: P) (h : Json.Lexed J []) (hopen : J.head? = some (.char '{'))
    (hclose : J.getLast? = some (.char '}')) (S : LooseText) :
    fenced? (fence ++ mark)
      (P ++ (fence ++ mark ++ .char '\n' :: (J ++ (.char '\n' :: fence ++ S)))) = some J := by
  obtain ⟨inner, rfl⟩ : ∃ inner, J = .char '{' :: inner := by
    cases J with
    | nil => cases hopen
    | cons c inner => exact ⟨inner, by rw [Option.some.inj hopen]⟩
  have hhere : fencedHere? (fence ++ mark)
      (fence ++ mark ++ .char '\n' :: (.char '{' :: inner ++ (.char '\n' :: fence ++ S))) =
        some (.char '{' :: inner) := by
    have hafter : Text.after? (fence ++ mark)
        (fence ++ mark ++ .char '\n' :: (.char '{' :: inner ++ (.char '\n' :: fence ++ S))) =
          some (.char '\n' :: (.char '{' :: inner ++ (.char '\n' :: fence ++ S))) :=
      Text.after?_eq_some_iff.mpr rfl
    have hcut := cut?_closing h hclose S
    rw [fencedHere?, hafter, Option.bind_some, List.cons_append,
      List.takeWhile_cons_of_pos (by decide), List.takeWhile_cons_of_neg (by decide),
      List.dropWhile_cons_of_pos (by decide), List.dropWhile_cons_of_neg (by decide),
      fencedBehind?, fencedBehind?, ← List.cons_append, List.nil_append, hcut]
    rfl
  rw [fenced?_append hmark hP (.inr ⟨_, (List.append_assoc ..).symm⟩)]
  exact fenced?_of_here hhere

/-! ## Replies around an object -/

/-- The ways in which a reply may be wrapped around the text of an object. -/
inductive Wraps (J : LooseText) : (reply : LooseText) → Prop
  /-- the object alone -/
  | alone : Wraps J J
  /-- in a fence that is marked as JSON -/
  | marked {P S : LooseText} (hP : ¬ fence <:+: P) (hS : ¬ fence <:+: S) :
      Wraps J (P ++ "```json\n" ++ J ++ "\n```" ++ S)
  /-- in a fence without a mark -/
  | fenced {P S : LooseText} (hP : ¬ fence <:+: P) (hS : ¬ fence <:+: S) :
      Wraps J (P ++ "```\n" ++ J ++ "\n```" ++ S)
  /-- among words without a brace on its side of the object -/
  | among {P S : LooseText} (hP : ¬ fence <:+: P) (hS : ¬ fence <:+: S) (hopen : Glyph.char '{' ∉ P)
      (hclose : Glyph.char '}' ∉ S) : Wraps J (P ++ J ++ S)

/-- Behind the closing fence there is no other. -/
theorem not_isInfix_behind {S : LooseText} (hS : ¬ fence <:+: S) :
    ¬ .char '\n' :: fence <:+: fence ++ S := by
  intro hin
  have hbehind := Json.isInfix_of_append (by decide) hin
  exact hS ((List.suffix_cons (Glyph.char '\n') fence).isInfix.trans hbehind)

/-- **Among words** the widest text between braces is the object. -/
theorem braced?_among {P J S : LooseText} (hopen : J.head? = some (.char '{'))
    (hclose : J.getLast? = some (.char '}')) (hP : Glyph.char '{' ∉ P) (hS : Glyph.char '}' ∉ S) :
    braced? (P ++ (J ++ S)) = some J := by
  have hdrop : (P ++ (J ++ S)).dropWhile (· != .char '{') = J ++ S := by
    refine Text.dropWhile_append_of_stop (fun c hc => ?_) fun c hc => ?_
    · exact bne_iff_ne.mpr fun heq => hP (heq ▸ hc)
    · rw [List.head?_append, hopen, Option.some_or] at hc
      rw [← Option.some.inj hc]
      decide
  obtain ⟨inner, rfl⟩ := List.getLast?_eq_some_iff.mp hclose
  rw [braced?, hdrop, List.append_assoc, List.singleton_append, Text.splitLast?_append hS]
  rfl

/-! ## The object of a wrapped reply -/

/-- **No fence**: neither the words around a JSON text nor the text itself open one. -/
theorem fenced?_among {mark P J S : LooseText} (hmark : mark.head? ≠ some (.char '`'))
    (hquote : Glyph.char '"' ∉ mark)
    (h : Json.Lexed J []) (hopen : J.head? = some (.char '{')) (hP : ¬ fence <:+: P)
    (hS : ¬ fence <:+: S) : fenced? (fence ++ mark) (P ++ (J ++ S)) = none := by
  have hhead : (J ++ S).head? ≠ some (.char '`') := by
    rw [List.head?_append, hopen, Option.some_or]
    decide
  have hbehind : fenced? (fence ++ mark) (S ++ []) = none :=
    fenced?_append hmark hS (.inl (by simp))
  have hlexed : fenced? (fence ++ mark) (J ++ S) = fenced? (fence ++ mark) S :=
    @fenced?_of_lexed (.char '`' :: .char '`' :: mark) _ _ (by simpa using hquote) (h.append S)
  rw [List.append_nil] at hbehind
  rw [fenced?_append hmark hP (.inl hhead), hlexed, hbehind]

/-- **No marked fence** where the object stands in a fence without a mark. -/
theorem fenced?_marked_of_fenced {P J S : LooseText} (h : Json.Lexed J []) (hP : ¬ fence <:+: P)
    (hS : ¬ fence <:+: S) :
    fenced? (fence ++ LooseText.ofString "json")
      (P ++ (fence ++ .char '\n' :: (J ++ (.char '\n' :: fence ++ S)))) = none := by
  have hline : Json.Lexed (.char '\n' :: (J ++ (.char '\n' :: fence ++ S))) (fence ++ S) :=
    .plain (by decide) ((h.append _).trans (.plain (by decide) (.refl _)))
  have hskip : fenced? (fence ++ LooseText.ofString "json")
      (.char '\n' :: (J ++ (.char '\n' :: fence ++ S))) = none :=
    (@fenced?_of_lexed (LooseText.ofString "``json") _ _ (by decide) hline).trans
      (fenced?_of_not_isInfix (not_isInfix_behind hS))
  -- the opening fence itself is not marked, nor is what follows its backticks
  have hpass : ∀ ticks : LooseText, ticks <:+ fence →
      fenced? (fence ++ LooseText.ofString "json")
        (ticks ++ .char '\n' :: (J ++ (.char '\n' :: fence ++ S))) = none := by
    intro ticks hticks
    induction ticks with
    | nil => exact hskip
    | cons c ticks ih =>
      rw [List.cons_append, fenced?_cons_of_none, ih ((List.suffix_cons c ticks).trans hticks)]
      refine fencedHere?_of_not_isPrefix fun hhead => ?_
      -- the mark is longer than the backticks, so the newline would be one of its letters
      obtain ⟨rest, hsplit⟩ := hhead
      have hlength : (c :: ticks).length < (fence ++ LooseText.ofString "json").length :=
        Nat.lt_of_le_of_lt hticks.length_le (by decide)
      rw [← List.cons_append] at hsplit
      have hmem : Glyph.char '\n' ∈ fence ++ LooseText.ofString "json" := by
        rcases List.append_eq_append_iff.mp hsplit with ⟨u, hu, -⟩ | ⟨u, hu, hline⟩
        · rw [hu, List.length_append] at hlength
          omega
        · cases u with
          | nil =>
            rw [hu, List.append_nil] at hlength
            exact absurd hlength (Nat.lt_irrefl _)
          | cons d u =>
            obtain ⟨rfl, -⟩ := List.cons.inj hline
            rw [hu]
            simp
      exact absurd hmem (by decide)
  rw [fenced?_append (by decide) hP (.inr ⟨_, rfl⟩)]
  exact hpass fence List.suffix_rfl

/-- **The object of a wrapped reply** is the one that it is wrapped around. -/
theorem objectText_of_wraps {J reply : LooseText} (h : Json.Lexed J [])
    (hopen : J.head? = some (.char '{')) (hclose : J.getLast? = some (.char '}'))
    (hreply : Wraps J reply) :
    objectText reply = J := by
  have hamong : ∀ {P S : LooseText}, ¬ fence <:+: P → ¬ fence <:+: S → Glyph.char '{' ∉ P →
      Glyph.char '}' ∉ S →
      objectText (P ++ (J ++ S)) = J := by
    intro P S hP hS hbrace hbrace'
    have hnone := @fenced?_among [] P J S (by decide) (by decide) h hopen hP hS
    rw [List.append_nil] at hnone
    rw [objectText, fenced?_among (by decide) (by decide) h hopen hP hS, hnone,
      braced?_among hopen hclose hbrace hbrace']
    rfl
  cases hreply with
  | alone => simpa using @hamong [] [] (by decide) (by decide) (by simp) (by simp)
  | @marked P S hP hS =>
    have hmarked := @fenced?_object (LooseText.ofString "json") P J (by decide) hP h hopen hclose S
    have hreply : P ++ "```json\n" ++ J ++ "\n```" ++ S =
        P ++ (fence ++ LooseText.ofString "json" ++
          .char '\n' :: (J ++ (.char '\n' :: fence ++ S))) := by
      simp [fence_eq, LooseText.ofString]
    rw [hreply, objectText, hmarked]
    rfl
  | @fenced P S hP hS =>
    have hfenced := @fenced?_object [] P J (by decide) hP h hopen hclose S
    have hreply : P ++ "```\n" ++ J ++ "\n```" ++ S =
        P ++ (fence ++ .char '\n' :: (J ++ (.char '\n' :: fence ++ S))) := by
      simp [fence_eq, LooseText.ofString]
    rw [List.append_nil] at hfenced
    rw [hreply, objectText, fenced?_marked_of_fenced h hP hS, hfenced]
    rfl
  | among hP hS hbrace hbrace' =>
    rw [List.append_assoc]
    exact hamong hP hS hbrace hbrace'

/-! ## The theorem -/

/-- **Wrapping does not matter.** Where a text that starts and ends with the braces of an object is
read as JSON, every reply that is wrapped around it has it for its object, and so gives the same
documentation or fails in the same way as the text alone. -/
theorem parseReply_of_wraps {J reply : LooseText} {v : Json} (hread : Json.read J = .ok v)
    (hopen : J.head? = some (.char '{')) (hclose : J.getLast? = some (.char '}'))
    (hreply : Wraps J reply) :
    objectText reply = J ∧ ∀ r : Routine, parseReply reply r = parseReply J r := by
  have hlexed := Json.lexed_of_read hread
  have hobject := objectText_of_wraps hlexed hopen hclose hreply
  have halone := objectText_of_wraps hlexed hopen hclose .alone
  refine ⟨hobject, fun r => ?_⟩
  rw [parseReply, parseReply, readObject, readObject, hobject, halone]

/-- An object with a marked fence, a blank and a brace in a string, and a newline outside of it. -/
def fenceInString : LooseText :=
  "\x7b\"a\": \"```json\u00a0\x7d\",\n\"b\": []\x7d"

theorem read_fenceInString : Json.read fenceInString =
    .ok (.obj [("a", .str "```json\u00a0\x7d"), ("b", .arr [])]) := by
  cbv

/-- The object in a marked fence behind a stray backtick, with the word of the mark behind it. -/
theorem parseReply_of_wraps_marked :
    let reply := LooseText.ofString "Use \x7b`" ++ "```json\n" ++ fenceInString ++
      "\n```" ++ LooseText.ofString "json\n\x7b\x7d"
    Json.read fenceInString = .ok (.obj [("a", .str "```json\u00a0\x7d"), ("b", .arr [])]) ∧
      fenceInString.head? = some (.char '{') ∧ fenceInString.getLast? = some (.char '}') ∧
      Wraps fenceInString reply ∧ objectText reply = fenceInString ∧
      ∀ r : Routine, parseReply reply r = parseReply fenceInString r := by
  intro reply
  have hopen : fenceInString.head? = some (.char '{') := by decide
  have hclose : fenceInString.getLast? = some (.char '}') := by decide
  have hwraps : Wraps fenceInString reply := .marked (by decide) (by decide)
  exact ⟨read_fenceInString, hopen, hclose, hwraps,
    parseReply_of_wraps read_fenceInString hopen hclose hwraps⟩

end Remote

end Docwright
