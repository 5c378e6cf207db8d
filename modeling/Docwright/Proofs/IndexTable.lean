import Docwright.Proofs.Header
import Docwright.Report.Markdown

/-!
# Reading the index back

The index is a table, and its cells hold free text. A reader cuts the text into lines and a row at
its **bars**; a bar behind a backslash is text (`barCount`, `cut`). That this gives back what was
written rests on two things:

* a cell has no bar of its own and no newline, and a space stands in front of the bar that ends it,
  so the row is cut where it was put together (`cutFrom_cell_append`, `cut_indexRow`);
* taking the backslashes off again undoes the cell but for its newlines (`unescape_cell`).

The link in the first cell is no cell of this kind, but there is nothing in an identifier or in an
anchor that would have to be escaped (`cell_link`).
-/

namespace Docwright

namespace Markdown

open LooseText

/-! ## The reader -/

/-- The lines of a text. -/
def linesOf (s : LooseText) : List LooseText :=
  s.splitOn (.char '\n')

/-- How many bars of a row do not follow a backslash. -/
def barCount (row : LooseText) : Nat :=
  (row.zip (none :: row.map some)).countP fun (g, before) =>
    g == .char '|' && before != some (.char '\\')

/-- A row cut at the bars that do not follow a backslash; `escaped` says that a backslash came
last. -/
def cutFrom (escaped : Bool) : LooseText → List LooseText
  | [] => [[]]
  | g :: s =>
    if g == .char '|' && !escaped then [] :: cutFrom false s
    else (cutFrom (g == .char '\\') s).modifyHead (g :: ·)

/-- The parts of a row. -/
def cut (row : LooseText) : List LooseText :=
  cutFrom false row

/-- A text with every escaped bar made a bar. -/
def unescape : LooseText → LooseText
  | .char '\\' :: .char '|' :: s => .char '|' :: unescape s
  | g :: s => g :: unescape s
  | [] => []

/-- A text with its newlines made spaces. -/
def onOneLine (s : LooseText) : LooseText :=
  s.map fun g => if g = .char '\n' then .char ' ' else g

/-- The bars are where a row is cut. -/
theorem length_cutFrom (before : Option Glyph) (row : LooseText) :
    (cutFrom (before == some (.char '\\')) row).length =
      ((row.zip (before :: row.map some)).countP fun (g, before) =>
        g == .char '|' && before != some (.char '\\')) + 1 := by
  induction row generalizing before with
  | nil => rfl
  | cons g row ih =>
    have hlast : (g == .char '\\') = (some g == some (.char '\\')) := rfl
    rw [cutFrom, List.map_cons, List.zip_cons_cons, List.countP_cons, ← bne]
    split_ifs with hbar
    · have hg : g = .char '|' := by simpa using (Bool.and_eq_true_iff.mp hbar).1
      rw [List.length_cons, ← ih (some g), hg]
      rfl
    · rw [List.length_modifyHead, hlast, ih (some g)]

theorem length_cut (row : LooseText) : (cut row).length = barCount row + 1 :=
  length_cutFrom none row

/-! ## Cells -/

theorem cell_cons (g : Glyph) (s : LooseText) : cell (g :: s) = escapeCellGlyph g ++ cell s :=
  List.flatMap_cons

/-- A cell does not start with a bar. -/
theorem head?_cell_ne_bar (s : LooseText) : (cell s).head? ≠ some (.char '|') := by
  cases s with
  | nil => exact fun h => by cases h
  | cons g s =>
    rw [cell_cons, escapeCellGlyph]
    split_ifs with hbar hnewline
    · exact fun h => absurd (Option.some.inj h) (by decide)
    · exact fun h => absurd (Option.some.inj h) (by decide)
    · exact fun h => hbar (Option.some.inj h)

theorem newline_not_mem_cell (s : LooseText) : Glyph.char '\n' ∉ cell s := by
  intro h
  obtain ⟨g, -, hg⟩ := List.mem_flatMap.mp h
  rw [escapeCellGlyph] at hg
  split_ifs at hg with hbar hnewline
  · exact absurd hg (by decide)
  · exact absurd hg (by decide)
  · exact hnewline (List.mem_singleton.mp hg).symm

/-- A text without bars and newlines is its own cell. -/
theorem cell_of_not_mem {s : LooseText} (hbar : Glyph.char '|' ∉ s)
    (hnewline : Glyph.char '\n' ∉ s) : cell s = s := by
  induction s with
  | nil => rfl
  | cons g s ih =>
    rw [List.mem_cons, not_or] at hbar hnewline
    rw [cell_cons, escapeCellGlyph, if_neg (Ne.symm hbar.1), if_neg (Ne.symm hnewline.1),
      ih hbar.2 hnewline.2]
    rfl

/-- **A cell is cut off whole** at the bar that ends it. -/
theorem cutFrom_cell_append (escaped : Bool) (s rest : LooseText) :
    cutFrom escaped (cell s ++ .char ' ' :: .char '|' :: rest) =
      (cell s ++ [.char ' ']) :: cutFrom false rest := by
  induction s generalizing escaped with
  | nil => rfl
  | cons g s ih =>
    rw [cell_cons, escapeCellGlyph]
    split_ifs with hbar hnewline
    · -- the backslash is put down first, so the bar behind it does not count
      simp [cutFrom, ih]
    · simp [cutFrom, ih]
    · simp [cutFrom, ih, hbar]

theorem unescape_cons {g : Glyph} {s : LooseText}
    (h : g = .char '\\' → s.head? ≠ some (.char '|')) :
    unescape (g :: s) = g :: unescape s := by
  rw [unescape.eq_def]
  split
  next rest heq =>
    obtain ⟨rfl, rfl⟩ := List.cons.inj heq
    exact absurd rfl (h rfl)
  next heq =>
    obtain ⟨rfl, rfl⟩ := List.cons.inj heq
    rfl
  next heq => cases heq

/-- **Unescaping undoes a cell**, but for its newlines. -/
theorem unescape_cell (s : LooseText) : unescape (cell s) = onOneLine s := by
  induction s with
  | nil => rfl
  | cons g s ih =>
    rw [cell_cons, escapeCellGlyph, onOneLine, List.map_cons, ← onOneLine, ← ih]
    split_ifs with hbar hnewline hnewline
    · rw [hbar] at hnewline
      exact absurd hnewline (by decide)
    · rw [hbar]
      rfl
    · exact unescape_cons fun h => absurd h (by decide)
    · exact unescape_cons fun _ => head?_cell_ne_bar s

/-! ## Rows -/

/-- The link of a row. -/
def link (pair : Documented) : LooseText :=
  "[`" ++ pair.1.name ++ "`](#" ++ anchorOf pair.2.title ++ ")"

/-- Nothing in an anchor has to be escaped. -/
theorem isAnchorChar_of_mem {heading : List Char} {c : Char} (h : c ∈ anchor heading) :
    isAnchorChar c = true := by
  obtain ⟨d, hd, rfl⟩ := List.mem_map.mp h
  split_ifs
  · decide
  · exact (List.mem_filter.mp hd).2

theorem not_mem_link {pair : Documented} (hname : Source.isIdentifier pair.1.name.toList = true)
    {c : Char} (hident : Text.isIdentChar c = false) (hanchor : isAnchorChar c = false)
    (hmarks : c ∉ "[`".toList ++ "`](#".toList ++ ")".toList) : Glyph.char c ∉ link pair := by
  have hname' : c ∉ pair.1.name.toList := by
    intro hmem
    rw [Source.isIdentChar_of_mem hname c hmem] at hident
    cases hident
  have hanchor' : c ∉ anchor pair.2.title.toList := by
    intro hmem
    rw [isAnchorChar_of_mem hmem] at hanchor
    cases hanchor
  simp only [List.mem_append, not_or] at hmarks
  simp only [link, anchorOf, List.mem_append, char_mem_ofString_iff, String.toList_ofList,
    not_or]
  exact ⟨⟨⟨⟨hmarks.1.1, hname'⟩, hmarks.1.2⟩, hanchor'⟩, hmarks.2⟩

theorem cell_link {pair : Documented} (hname : Source.isIdentifier pair.1.name.toList = true) :
    cell (link pair) = link pair :=
  cell_of_not_mem (not_mem_link hname (by decide) (by decide) (by decide))
    (not_mem_link hname (by decide) (by decide) (by decide))

/-- A row is three cells between bars. -/
theorem indexRow_eq {pair : Documented}
    (hname : Source.isIdentifier pair.1.name.toList = true) :
    indexRow pair =
      .char '|' :: (cell (.char ' ' :: link pair) ++ .char ' ' :: .char '|' ::
        (cell (.char ' ' :: pair.1.fileName) ++ .char ' ' :: .char '|' ::
          (cell (.char ' ' :: pair.2.description) ++ [.char ' ', .char '|']))) := by
  have hspace : ∀ s, cell (.char ' ' :: s) = .char ' ' :: cell s := fun s => cell_cons (.char ' ') s
  have hopen : ofString "| [`" = .char '|' :: .char ' ' :: ofString "[`" := by decide
  have hclose : ofString ") | " = ofString ")" ++ [.char ' ', .char '|', .char ' '] := by decide
  have hbetween : ofString " | " = [.char ' ', .char '|', .char ' '] := by decide
  have hend : ofString " |" = [.char ' ', .char '|'] := by decide
  rw [hspace, hspace, hspace, cell_link hname]
  simp only [indexRow, link, hopen, hclose, hbetween, hend, List.append_assoc, List.cons_append,
    List.nil_append]

/-- **A row is cut into its cells.** -/
theorem cut_indexRow {pair : Documented} (hname : Source.isIdentifier pair.1.name.toList = true) :
    cut (indexRow pair) =
      [[], .char ' ' :: (link pair ++ [.char ' ']),
        .char ' ' :: (cell pair.1.fileName ++ [.char ' ']),
        .char ' ' :: (cell pair.2.description ++ [.char ' ']), []] := by
  have hspace : ∀ s, cell (.char ' ' :: s) = .char ' ' :: cell s := fun s => cell_cons (.char ' ') s
  have hbar : ∀ s, cutFrom false (.char '|' :: s) = [] :: cutFrom false s := fun _ => rfl
  rw [indexRow_eq hname, cut, hbar, cutFrom_cell_append, cutFrom_cell_append,
    cutFrom_cell_append, hspace, hspace, hspace, cell_link hname]
  rfl

theorem newline_not_mem_indexRow {pair : Documented}
    (hname : Source.isIdentifier pair.1.name.toList = true) :
    Glyph.char '\n' ∉ indexRow pair := by
  rw [indexRow_eq hname]
  simp [newline_not_mem_cell]

/-! ## The table -/

/-- The lines above the rows. -/
def tableHead : List LooseText :=
  ["# Function Reference", "", "| Function | File | Description |",
    "|----------|------|-------------|"]

theorem linesOf_index {pairs : List Documented}
    (h : ∀ pair ∈ pairs, Source.isIdentifier pair.1.name.toList = true) :
    linesOf (index pairs) = tableHead ++ pairs.map indexRow ++ [[]] := by
  have hhead : ∀ line ∈ tableHead, Glyph.char '\n' ∉ line := by decide
  refine List.splitOn_intercalate (Glyph.char '\n') (fun line hline => ?_) (by simp)
  rcases List.mem_append.mp hline with hline | hline
  · rcases List.mem_append.mp hline with hline | hline
    · exact hhead line hline
    · obtain ⟨pair, hpair, rfl⟩ := List.mem_map.mp hline
      exact newline_not_mem_indexRow (h pair hpair)
  · rw [List.mem_singleton.mp hline]
    exact List.not_mem_nil

/-- **The index reads back.** Whatever the titles, descriptions and labels are, there is a line for
each routine behind the head of the table, and a row cut at its four bars gives back the label and
the description, on one line each. -/
theorem index_readsBack (pairs : List Documented)
    (h : ∀ pair ∈ pairs, Source.isIdentifier pair.1.name.toList = true) :
    (linesOf (index pairs)).length = pairs.length + 5 ∧
      ∀ i pair, pairs[i]? = some pair →
        ∃ row, (linesOf (index pairs))[i + 4]? = some row ∧ barCount row = 4 ∧
          ∃ first file description : LooseText,
            cut row = [[], first, .char ' ' :: (file ++ [.char ' ']),
                .char ' ' :: (description ++ [.char ' ']), []] ∧
              unescape file = onOneLine pair.1.fileName ∧
              unescape description = onOneLine pair.2.description := by
  rw [linesOf_index h]
  refine ⟨by simp [tableHead], fun i pair hi => ⟨indexRow pair, ?_, ?_, ?_⟩⟩
  · have hlength : i < pairs.length := (List.getElem?_eq_some_iff.mp hi).1
    rw [List.getElem?_append_left (by simpa [tableHead] using hlength),
      List.getElem?_append_right (by simp [tableHead]), List.getElem?_map]
    simp [tableHead, hi]
  · have hname := h pair (List.mem_of_getElem? hi)
    have hlength := length_cut (indexRow pair)
    rw [cut_indexRow hname] at hlength
    exact (Nat.succ.inj hlength).symm
  · have hname := h pair (List.mem_of_getElem? hi)
    exact ⟨_, _, _, cut_indexRow hname, unescape_cell _, unescape_cell _⟩

/-- A routine with bars, backslashes and a newline in all its texts. -/
def barred : Documented :=
  ({ name := "f", fileName := "a\\|b\\" }, ⟨"T | U\n", "x | y\n\\|", [], [], [], ""⟩)

theorem index_readsBack_barred :
    Source.isIdentifier barred.1.name.toList = true ∧
      (linesOf (index [barred])).length = 6 ∧
      ∃ row, (linesOf (index [barred]))[4]? = some row ∧ barCount row = 4 ∧
        ∃ first file description : LooseText,
          cut row = [[], first, .char ' ' :: (file ++ [.char ' ']),
              .char ' ' :: (description ++ [.char ' ']), []] ∧
            unescape file = "a\\|b\\" ∧ unescape description = "x | y \\|" := by
  have hname : Source.isIdentifier barred.1.name.toList = true := by decide
  obtain ⟨hlength, hrow⟩ := index_readsBack [barred] (List.forall_mem_singleton.mpr hname)
  exact ⟨hname, hlength, hrow 0 barred rfl⟩

end Markdown

end Docwright
