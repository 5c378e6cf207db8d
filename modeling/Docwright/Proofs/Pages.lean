import Mathlib
import Docwright.Command.Documents
import Docwright.Proofs.Header
import Docwright.Proofs.Path
import Docwright.Proofs.Tree

/-!
# The pages of a run

A repeated name gets a number, and the number is all that keeps its page apart. Two numbered names
are never the same (`numbered_inj`), but a routine may be called what another one's page is called,
or what the index is called. The names **keep apart** (`KeepApart`) if that does not happen, and
this is exactly when all documents have paths of their own (`nodup_paths_iff`).

Writing goes through the documents one by one. What one of them leaves in the tree is one file
(`write_eq_none_iff`), and everything else is as before (`keeps_of_write`). So at the end every file
holds the last document that was written to its path (`holds_of_writeAll`), and no document is lost
exactly if each could be written and the names keep apart (`keepsEveryDocument_iff`).
-/

namespace Docwright

namespace Command

/-! ## Numbered names -/

/-- A name with a number behind it. -/
def numbered (name : String) (k : Nat) : String :=
  name ++ "_" ++ toString k

theorem underscore_not_mem_digits (k : Nat) : '_' ∉ (toString k).toList := by
  rw [Nat.toString_eq_repr, Nat.toList_repr]
  intro h
  exact absurd (Nat.isDigit_of_mem_toDigits (by decide) (by decide) h) (by decide)

theorem toList_numbered (name : String) (k : Nat) :
    (numbered name k).toList = name.toList ++ '_' :: (toString k).toList := by
  simp [numbered, String.toList_append]

theorem eq_nil_of_underscore {digits more gap : List Char} (hdigits : '_' ∉ digits)
    (h : '_' :: digits = gap ++ '_' :: more) : gap = [] := by
  cases gap with
  | nil => rfl
  | cons c gap =>
    obtain ⟨-, rfl⟩ := List.cons.inj h
    exact absurd (by simp) hdigits

/-- The last underscore tells the name from the number. -/
theorem numbered_inj {m n : String} {i j : Nat} (h : numbered m i = numbered n j) :
    m = n ∧ i = j := by
  have hlist := congrArg String.toList h
  rw [toList_numbered, toList_numbered] at hlist
  have hsame : m.toList = n.toList := by
    rcases List.append_eq_append_iff.mp hlist with ⟨gap, hgap, hrest⟩ | ⟨gap, hgap, hrest⟩
    · rw [hgap, eq_nil_of_underscore (underscore_not_mem_digits i) hrest, List.append_nil]
    · rw [hgap, eq_nil_of_underscore (underscore_not_mem_digits j) hrest, List.append_nil]
  rw [hsame] at hlist
  have hdigits : toString i = toString j :=
    String.toList_inj.mp (List.cons.inj (List.append_cancel_left hlist)).2
  exact ⟨String.toList_inj.mp hsame, Nat.repr_injective hdigits⟩

/-- A number makes another name. -/
theorem numbered_ne (name : String) (k : Nat) : numbered name k ≠ name := by
  intro h
  have hlength := congrArg (fun s => s.toList.length) h
  simp [toList_numbered] at hlength

/-! ## Names of pages -/

/-- The name of a page, when the name of its routine has come some times before. -/
def pageName (name : String) (count : Nat) : String :=
  if count = 0 then name else numbered name (count + 1)

theorem distinctFrom_cons (before : List String) (name : String) (rest : List String) :
    distinctFrom before (name :: rest) =
      pageName name (before.count name) :: distinctFrom (name :: before) rest :=
  rfl

theorem count_cons_add (first name : String) (before rest : List String) :
    (first :: before).count name + rest.count name =
      before.count name + (first :: rest).count name := by
  simp only [List.count_cons]
  omega

/-- Only the first of some names has its own number taken by the step from it to the next. -/
theorem eq_of_count_cons {first name : String} {before : List String} {k : Nat}
    (hlow : before.count name < k) (hhigh : k ≤ (first :: before).count name) :
    name = first ∧ k = before.count first + 1 := by
  by_cases h : first = name
  · subst h
    rw [List.count_cons_self] at hhigh
    exact ⟨rfl, by omega⟩
  · rw [List.count_cons_of_ne h] at hhigh
    omega

/-- **The names of pages** are the names that are new, and numbered ones for all repetitions. -/
theorem mem_distinctFrom {before names : List String} {page : String} :
    page ∈ distinctFrom before names ↔
      page ∈ names ∧ page ∉ before ∨
        ∃ name k, 2 ≤ k ∧ before.count name < k ∧ k ≤ before.count name + names.count name ∧
          page = numbered name k := by
  induction names generalizing before with
  | nil =>
    simp [distinctFrom]
    omega
  | cons first rest ih =>
    rw [distinctFrom_cons, List.mem_cons, ih]
    constructor
    · rintro (rfl | ⟨hrest, hnew⟩ | ⟨name, k, htwo, hlow, hhigh, rfl⟩)
      · by_cases hcount : before.count first = 0
        · rw [pageName, if_pos hcount]
          exact .inl ⟨List.mem_cons_self, List.count_eq_zero.mp hcount⟩
        · rw [pageName, if_neg hcount]
          refine .inr ⟨first, _, by omega, by omega, ?_, rfl⟩
          rw [List.count_cons_self]
          omega
      · exact .inl ⟨List.mem_cons_of_mem _ hrest, fun h => hnew (List.mem_cons_of_mem _ h)⟩
      · refine .inr ⟨name, k, htwo, ?_, count_cons_add .. ▸ hhigh, rfl⟩
        exact Nat.lt_of_le_of_lt (List.count_le_count_cons) hlow
    · rintro (⟨hmem, hnew⟩ | ⟨name, k, htwo, hlow, hhigh, rfl⟩)
      · by_cases hfirst : page = first
        · subst hfirst
          exact .inl (by rw [pageName, if_pos (List.count_eq_zero.mpr hnew)])
        · exact .inr (.inl ⟨by simpa [hfirst] using hmem, by simp [hfirst, hnew]⟩)
      · by_cases hnext : (first :: before).count name < k
        · exact .inr (.inr ⟨name, k, htwo, hnext, count_cons_add .. ▸ hhigh, rfl⟩)
        · obtain ⟨rfl, rfl⟩ := eq_of_count_cons hlow (Nat.not_lt.mp hnext)
          exact .inl (by rw [pageName, if_neg (by omega)])

/-- **When the page of a name comes again**: the name is new and a repeated one is numbered to it,
or it is repeated itself and a name to come is what its page is called. -/
theorem pageName_mem_iff {before rest : List String} {first : String} :
    pageName first (before.count first) ∈ distinctFrom (first :: before) rest ↔
      (first ∉ before ∧ ∃ name k, 2 ≤ k ∧ before.count name < k ∧
        k ≤ before.count name + (first :: rest).count name ∧ numbered name k = first) ∨
      (first ∈ before ∧ numbered first (before.count first + 1) ∈ rest ∧
        numbered first (before.count first + 1) ∉ first :: before) := by
  rw [mem_distinctFrom]
  by_cases hbefore : first ∈ before
  · have hcount : 0 < before.count first := List.count_pos_iff.mpr hbefore
    simp only [pageName, if_neg hcount.ne', hbefore, not_true_eq_false, false_and, false_or,
      true_and, or_iff_left_iff_imp]
    rintro ⟨name, k, -, hlow, -, hpage⟩
    obtain ⟨rfl, rfl⟩ := numbered_inj hpage
    rw [List.count_cons_self] at hlow
    omega
  · have hcount : before.count first = 0 := List.count_eq_zero.mpr hbefore
    simp only [pageName, if_pos hcount, hbefore, not_false_eq_true, true_and, false_and, or_false,
      List.mem_cons, not_true_eq_false, and_false, false_or]
    refine exists₂_congr fun name k => ?_
    rw [count_cons_add, @eq_comm _ first]
    refine and_congr_right fun _ => ?_
    constructor
    · rintro ⟨hlow, hhigh, hpage⟩
      exact ⟨Nat.lt_of_le_of_lt List.count_le_count_cons hlow, hhigh, hpage⟩
    · rintro ⟨hlow, hhigh, hpage⟩
      have hother : first ≠ name := fun h => numbered_ne name k (hpage.trans h)
      exact ⟨by rwa [List.count_cons_of_ne hother], hhigh, hpage⟩

/-- **When the names of pages are distinct**: no name is what the page of a repeated one is called.
Only names that are still to come matter, both as repeated ones and as those in the way. -/
theorem nodup_distinctFrom_iff {before names : List String} :
    (distinctFrom before names).Nodup ↔
      ∀ name k, 2 ≤ k → before.count name < k → k ≤ before.count name + names.count name →
        numbered name k ∈ names → numbered name k ∈ before := by
  induction names generalizing before with
  | nil => simp [distinctFrom]
  | cons first rest ih =>
    rw [distinctFrom_cons, List.nodup_cons, ih, pageName_mem_iff]
    constructor
    · rintro ⟨hfirst, hrest⟩ name k htwo hlow hhigh hmem
      by_contra hnew
      by_cases hname : numbered name k = first
      · -- the first name is in the way of a page that is still to come
        exact hfirst (.inl ⟨hname ▸ hnew, name, k, htwo, hlow, hhigh, hname⟩)
      · have hlater : numbered name k ∈ rest := by simpa [hname] using hmem
        have hunused : numbered name k ∉ first :: before := by simp [hname, hnew]
        by_cases hnext : (first :: before).count name < k
        · exact hunused (hrest name k htwo hnext (count_cons_add .. ▸ hhigh) hlater)
        · -- the page of the first name is in the way of a name that is still to come
          obtain ⟨rfl, rfl⟩ := eq_of_count_cons hlow (Nat.not_lt.mp hnext)
          exact hfirst (.inr ⟨List.count_pos_iff.mp (by omega), hlater, hunused⟩)
    · intro h
      refine ⟨?_, fun name k htwo hlow hhigh hmem => ?_⟩
      · rintro (⟨hnew, name, k, htwo, hlow, hhigh, rfl⟩ | ⟨hbefore, hlater, hunused⟩)
        · exact hnew (h name k htwo hlow hhigh List.mem_cons_self)
        · have hcount := List.count_pos_iff.mpr hbefore
          refine hunused (List.mem_cons_of_mem _ ?_)
          refine h first _ (by omega) (by omega) ?_ (List.mem_cons_of_mem _ hlater)
          rw [List.count_cons_self]
          omega
      · have hlow' := Nat.lt_of_le_of_lt List.count_le_count_cons hlow
        exact List.mem_cons_of_mem _
          (h name k htwo hlow' (count_cons_add .. ▸ hhigh) (List.mem_cons_of_mem _ hmem))

/-- The names of some routines keep apart: none is that of the index, and none is what the page of
another one is called when its name comes again. -/
structure KeepApart (names : List String) : Prop where
  /-- no routine is called like the index -/
  index : "README" ∉ names
  /-- no routine is called like the page of a repetition -/
  repetition : ∀ name k, 2 ≤ k → k ≤ names.count name → numbered name k ∉ names

/-- No numbered name is the name of the index. -/
theorem readme_ne_numbered (name : String) (k : Nat) : "README" ≠ numbered name k := by
  intro h
  have hmem : '_' ∈ "README".toList := by
    rw [h, toList_numbered]
    simp
  exact absurd hmem (by decide)

/-- The names of pages differ from each other and from the index if the routines keep apart. -/
theorem nodup_pageNames_iff {pairs : List Documented} :
    ("README" :: pageNames pairs).Nodup ↔ KeepApart (pairs.map (·.1.name)) := by
  rw [List.nodup_cons, pageNames, nodup_distinctFrom_iff, mem_distinctFrom]
  constructor
  · rintro ⟨hindex, hpages⟩
    refine ⟨fun hmem => hindex (.inl ⟨hmem, List.not_mem_nil⟩), fun name k htwo hcount hmem => ?_⟩
    exact List.not_mem_nil (hpages name k htwo (by simp; omega) (by simpa using hcount) hmem)
  · rintro ⟨hindex, hrepetition⟩
    refine ⟨?_, fun name k htwo _ hcount hmem => ?_⟩
    · rintro (⟨hmem, -⟩ | ⟨name, k, -, -, -, h⟩)
      · exact hindex hmem
      · exact readme_ne_numbered name k h
    · exact absurd hmem (hrepetition name k htwo (by simpa using hcount))

/-! ## The documents -/

theorem length_distinctFrom (before names : List String) :
    (distinctFrom before names).length = names.length := by
  induction names generalizing before with
  | nil => rfl
  | cons name rest ih => rw [distinctFrom_cons, List.length_cons, List.length_cons, ih]

theorem length_pageNames (pairs : List Documented) : (pageNames pairs).length = pairs.length := by
  rw [pageNames, length_distinctFrom, List.length_map]

/-- The path of a document in a directory. -/
def documentPath (directory : Files.Path) (name : String) : Files.Path :=
  directory.extend [name ++ ".md"]

/-- Different names have different paths. -/
theorem documentPath_injective (directory : Files.Path) :
    Function.Injective (documentPath directory) := by
  intro m n h
  have hnames := congrArg Files.Path.names h
  simpa [documentPath, Files.Path.extend] using hnames

variable (directory : Files.Path) (pairs : List Documented)

theorem length_documents : (documents directory pairs .markdown).length = pairs.length + 1 := by
  simp [documents, pageDocuments, length_pageNames]

theorem map_path_documents :
    (documents directory pairs .markdown).map (·.path) =
      ("README" :: pageNames pairs).map (documentPath directory) := by
  rw [documents, List.map_cons, List.map_cons, pageDocuments, List.map_zipWith]
  congr 1
  refine List.ext_getElem (by simp [length_pageNames]) fun i _ _ => ?_
  simp [documentPath]

/-- **When the documents have paths of their own.** -/
theorem nodup_paths_iff :
    ((documents directory pairs .markdown).map (·.path)).Nodup ↔
      KeepApart (pairs.map (·.1.name)) := by
  rw [map_path_documents, List.nodup_map_iff (documentPath_injective directory),
    nodup_pageNames_iff]

/-- The document of the routine with a number. -/
theorem getElem?_documents {i : Nat} {pair : Documented} (h : pairs[i]? = some pair) :
    ∃ name, (documents directory pairs .markdown)[i + 1]? =
      some ⟨documentPath directory name, Markdown.page pair⟩ := by
  have hi : i < (pageNames pairs).length := by
    rw [length_pageNames]
    exact (List.getElem?_eq_some_iff.mp h).1
  refine ⟨(pageNames pairs)[i], ?_⟩
  rw [documents, List.getElem?_cons_succ, pageDocuments, List.getElem?_zipWith,
    List.getElem?_eq_getElem hi, h]
  rfl

/-- What the documents of a run are. -/
theorem mem_documents {document : Document} (h : document ∈ documents directory pairs .markdown) :
    ∃ name ∈ "README" :: pageNames pairs, document.path = documentPath directory name ∧
      (document.text = Markdown.index pairs ∨
        ∃ pair ∈ pairs, document.text = Markdown.page pair) := by
  rcases List.mem_cons.mp h with rfl | h
  · exact ⟨"README", List.mem_cons_self, rfl, .inl rfl⟩
  · rw [pageDocuments, ← List.map_uncurry_zip_eq_zipWith] at h
    obtain ⟨⟨name, pair⟩, hzip, rfl⟩ := List.mem_map.mp h
    obtain ⟨hname, hpair⟩ := List.of_mem_zip hzip
    dsimp only [Function.uncurry_apply_pair]
    exact ⟨name, List.mem_cons_of_mem _ hname, rfl, .inr ⟨pair, hpair, rfl⟩⟩

/-! ## Writing -/

/-- The tree holds a document: its file has the bytes of its text. -/
def Holds (t : Files.Tree) (document : Document) : Prop :=
  ∃ bytes, Text.Utf8.encode? document.text = .ok bytes ∧ t.entry document.path = .ok (.file bytes)

section

variable {directory} {t u : Files.Tree} {parent : Files.Place} {plan : List Document}

/-- **One document** is one file more in the directory, if its text has bytes, its name fits and it
may be written there. -/
theorem write_eq_none_iff (hparent : t.LeadsTo directory parent) {name text : LooseText} :
    write t ⟨directory.extend [name], text⟩ = (u, none) ↔
      ∃ bytes, Text.Utf8.encode? text = .ok bytes ∧ Files.Tree.FitsIn directory name ∧
        t.MayWrite parent name.bytes ∧ u = t.put (parent ++ [name.bytes]) (.file bytes) := by
  rw [write]
  cases Text.Utf8.encode? text with
  | error error =>
    dsimp only
    split <;> simp
  | ok bytes =>
    have hwrite : t.write (directory.extend [name]) bytes = .ok u ↔ _ :=
      Files.Tree.write_extend_eq_ok_iff hparent
    dsimp only
    cases hresult : t.write (directory.extend [name]) bytes with
    | error refusal =>
      rw [hresult] at hwrite
      simpa using hwrite
    | ok written =>
      rw [hresult] at hwrite
      simpa using hwrite

/-- When a document in a directory can be written. -/
theorem exists_write_iff (hparent : t.LeadsTo directory parent) {name text : LooseText} :
    (∃ u, write t ⟨directory.extend [name], text⟩ = (u, none)) ↔
      (∃ bytes, Text.Utf8.encode? text = .ok bytes) ∧ Files.Tree.FitsIn directory name ∧
        t.MayWrite parent name.bytes := by
  simp only [write_eq_none_iff hparent]
  constructor
  · rintro ⟨u, bytes, hbytes, hfits, hmay, -⟩
    exact ⟨⟨bytes, hbytes⟩, hfits, hmay⟩
  · rintro ⟨⟨bytes, hbytes⟩, hfits, hmay⟩
    exact ⟨_, bytes, hbytes, hfits, hmay, rfl⟩

/-- **What one document keeps**: the tree grows, every other file stays as it was, and whether a
document could be written is the same before and after. -/
theorem keeps_of_write (hparent : t.LeadsTo directory parent) {own text : LooseText}
    (h : write t ⟨directory.extend [own], text⟩ = (u, none)) :
    t.Grows u ∧
      (∀ name : Files.Name, name ≠ own.bytes →
        u.find? (parent ++ [name]) = t.find? (parent ++ [name])) ∧
      ∀ name text, (∃ v, write u ⟨directory.extend [name], text⟩ = (v, none)) ↔
        ∃ v, write t ⟨directory.extend [name], text⟩ = (v, none) := by
  obtain ⟨bytes, -, -, hmay, rfl⟩ := (write_eq_none_iff hparent).mp h
  have hgrows := Files.Tree.grows_put hmay.ne_directory (.file bytes)
  refine ⟨hgrows, fun name hne => ?_, fun name text => ?_⟩
  · rw [Files.Tree.find?_put t (by simp), if_neg (by simpa using hne)]
  · rw [exists_write_iff (hgrows.leadsTo hparent), exists_write_iff hparent, hmay.put_iff]

/-- A plan is written if its first document is, and then the others. -/
theorem writeAll_cons_eq_none_iff {document : Document} :
    writeAll t (document :: plan) = (u, none) ↔
      ∃ written, write t document = (written, none) ∧ writeAll written plan = (u, none) := by
  rw [writeAll]
  rcases write t document with ⟨written, _ | crash⟩
  · simp
  · simp

theorem writeAll_append_eq_none_iff {more : List Document} :
    writeAll t (plan ++ more) = (u, none) ↔
      ∃ written, writeAll t plan = (written, none) ∧ writeAll written more = (u, none) := by
  induction plan generalizing t with
  | nil => simp [writeAll]
  | cons document plan ih =>
    simp only [List.cons_append, writeAll_cons_eq_none_iff, ih]
    constructor
    · rintro ⟨first, hfirst, written, hwritten, hmore⟩
      exact ⟨written, ⟨first, hfirst, hwritten⟩, hmore⟩
    · rintro ⟨written, ⟨first, hfirst, hwritten⟩, hmore⟩
      exact ⟨first, hfirst, written, hwritten, hmore⟩

/-- All documents of a plan stand in one directory. -/
def InDirectory (directory : Files.Path) (plan : List Document) : Prop :=
  ∀ document ∈ plan, ∃ name : String, document.path = directory.extend [(name : LooseText)]

/-- **What a run of writing keeps**: the tree grows, and a file that no document is for stays as it
was. -/
theorem keeps_of_writeAll (hplan : InDirectory directory plan)
    (hparent : t.LeadsTo directory parent) (h : writeAll t plan = (u, none)) :
    t.Grows u ∧ ∀ name : String,
      (∀ document ∈ plan, document.path ≠ directory.extend [(name : LooseText)]) →
        u.find? (parent ++ [LooseText.bytes name]) =
          t.find? (parent ++ [LooseText.bytes name]) := by
  induction plan generalizing t with
  | nil =>
    cases h
    exact ⟨.refl _, fun _ _ => rfl⟩
  | cons document plan ih =>
    obtain ⟨written, hwritten, hrest⟩ := writeAll_cons_eq_none_iff.mp h
    obtain ⟨⟨own, hown⟩, hbehind⟩ := List.forall_mem_cons.mp hplan
    obtain ⟨path, text⟩ := document
    obtain rfl : path = directory.extend [(own : LooseText)] := hown
    obtain ⟨hgrows, hothers, -⟩ := keeps_of_write hparent hwritten
    obtain ⟨hmore, hkept⟩ := ih hbehind (hgrows.leadsTo hparent) hrest
    refine ⟨hgrows.trans hmore, fun name hname => ?_⟩
    obtain ⟨hfirst, hlater⟩ := List.forall_mem_cons.mp hname
    have hne : name ≠ own := by
      rintro rfl
      exact hfirst rfl
    rw [hkept name hlater, hothers _ (mt (fun h => LooseText.bytes_ofString_injective h) hne)]

/-- **When a run of writing comes to its end**: if each document could be written by itself. -/
theorem exists_writeAll_iff (hplan : InDirectory directory plan)
    (hparent : t.LeadsTo directory parent) :
    (∃ written, writeAll t plan = (written, none)) ↔
      ∀ document ∈ plan, ∃ written, write t document = (written, none) := by
  induction plan generalizing t with
  | nil => simp [writeAll]
  | cons document plan ih =>
    obtain ⟨⟨own, hown⟩, hbehind⟩ := List.forall_mem_cons.mp hplan
    obtain ⟨path, text⟩ := document
    obtain rfl : path = directory.extend [(own : LooseText)] := hown
    simp only [List.forall_mem_cons, writeAll_cons_eq_none_iff]
    -- the first document changes nothing about whether the others can be written
    have hsame : ∀ written, write t ⟨directory.extend [(own : LooseText)], text⟩ = (written, none) →
        ((∃ u, writeAll written plan = (u, none)) ↔
          ∀ document ∈ plan, ∃ u, write t document = (u, none)) := by
      intro written hwritten
      obtain ⟨hgrows, -, hcan⟩ := keeps_of_write hparent hwritten
      rw [ih hbehind (hgrows.leadsTo hparent)]
      refine forall₂_congr fun document hdocument => ?_
      obtain ⟨name, hname⟩ := hbehind document hdocument
      obtain ⟨path, text⟩ := document
      obtain rfl : path = directory.extend [(name : LooseText)] := hname
      exact hcan name text
    constructor
    · rintro ⟨u, written, hwritten, hrest⟩
      exact ⟨⟨written, hwritten⟩, (hsame written hwritten).mp ⟨u, hrest⟩⟩
    · rintro ⟨⟨written, hwritten⟩, hothers⟩
      obtain ⟨u, hrest⟩ := (hsame written hwritten).mpr hothers
      exact ⟨u, written, hwritten, hrest⟩

/-- **The last document of a path stays.** -/
theorem holds_of_writeAll {before after : List Document} {document : Document}
    (hplan : InDirectory directory (before ++ document :: after))
    (hparent : t.LeadsTo directory parent)
    (h : writeAll t (before ++ document :: after) = (u, none))
    (hlast : ∀ later ∈ after, later.path ≠ document.path) : Holds u document := by
  obtain ⟨hbefore, hbehind⟩ := List.forall_mem_append.mp hplan
  obtain ⟨⟨name, hname⟩, hafter⟩ := List.forall_mem_cons.mp hbehind
  obtain ⟨path, text⟩ := document
  obtain rfl : path = directory.extend [(name : LooseText)] := hname
  obtain ⟨v, hv, hrest⟩ := writeAll_append_eq_none_iff.mp h
  obtain ⟨w, hw, hrest⟩ := writeAll_cons_eq_none_iff.mp hrest
  have hparent' := (keeps_of_writeAll hbefore hparent hv).1.leadsTo hparent
  have hgrows := (keeps_of_write hparent' hw).1
  obtain ⟨hmore, hkept⟩ := keeps_of_writeAll hafter (hgrows.leadsTo hparent') hrest
  obtain ⟨bytes, hbytes, hfits, ⟨hpass, -⟩, rfl⟩ := (write_eq_none_iff hparent').mp hw
  refine ⟨bytes, hbytes, ?_⟩
  refine Files.Tree.entry_extend ((hgrows.trans hmore).leadsTo hparent')
    ((hgrows.trans hmore).allows hpass) hfits ?_
  rw [hkept name hlast, Files.Tree.find?_put v (by simp), if_pos rfl]

end

/-! ## The output directory -/

/-- Every document of a run could be written by itself into the output directory as it was made. -/
def CanWriteEach (t : Files.Tree) (directory : Files.Path) (pairs : List Documented) : Prop :=
  directory.fault? = none ∧ ∃ made, t.makeDirectories directory = (made, none) ∧
    ∀ document ∈ documents directory pairs .markdown,
      ∃ written, write made document = (written, none)

/-- No document of a run is lost: the run comes to its end, there is a path for the index and one
for each routine, all distinct, and the files hold the index and the page of each routine. -/
def KeepsEveryDocument (t : Files.Tree) (directory : Files.Path) (pairs : List Documented) :
    Prop :=
  ∃ written, writeDocuments t directory pairs .markdown = (written, none) ∧
    (documents directory pairs .markdown).length = pairs.length + 1 ∧
    ((documents directory pairs .markdown).map (·.path)).Nodup ∧
    Holds written ⟨documentPath directory "README", Markdown.index pairs⟩ ∧
    ∀ i pair, pairs[i]? = some pair →
      ∃ path, ((documents directory pairs .markdown).map (·.path))[i + 1]? = some path ∧
        Holds written ⟨path, Markdown.page pair⟩

/-- A run writes its documents if the directory can be made and the plan is written to it. -/
theorem writeDocuments_eq_none_iff {t written : Files.Tree} {format : Format} :
    writeDocuments t directory pairs format = (written, none) ↔
      directory.fault? = none ∧ ∃ made, t.makeDirectories directory = (made, none) ∧
        writeAll made (documents directory pairs format) = (written, none) := by
  rw [writeDocuments]
  cases directory.fault? with
  | some crash => simp
  | none =>
    rcases t.makeDirectories directory with ⟨made, _ | error⟩
    · simp
    · simp

/-- **When no document is lost**: if each could be written by itself and the names of the routines
keep apart. -/
theorem keepsEveryDocument_iff (t : Files.Tree) (directory : Files.Path)
    (pairs : List Documented) :
    KeepsEveryDocument t directory pairs ↔
      CanWriteEach t directory pairs ∧ KeepApart (pairs.map (·.1.name)) := by
  have hplan : InDirectory directory (documents directory pairs .markdown) := by
    intro document hdocument
    obtain ⟨name, -, hpath, -⟩ := mem_documents directory pairs hdocument
    exact ⟨name ++ ".md", by rw [hpath, documentPath, LooseText.ofString_append]⟩
  rw [← nodup_paths_iff directory pairs]
  constructor
  · rintro ⟨written, hwritten, -, hnodup, -⟩
    obtain ⟨hfault, made, hmade, hall⟩ := (writeDocuments_eq_none_iff directory pairs).mp hwritten
    obtain ⟨parent, hparent⟩ :=
      Files.Tree.entry_eq_directory_iff.mp (Files.Tree.entry_of_makeDirectories hmade)
    have heach := (exists_writeAll_iff hplan hparent).mp ⟨written, hall⟩
    exact ⟨⟨hfault, made, hmade, heach⟩, hnodup⟩
  · rintro ⟨⟨hfault, made, hmade, heach⟩, hnodup⟩
    obtain ⟨parent, hparent⟩ :=
      Files.Tree.entry_eq_directory_iff.mp (Files.Tree.entry_of_makeDirectories hmade)
    obtain ⟨written, hall⟩ := (exists_writeAll_iff hplan hparent).mpr heach
    have hholds : ∀ document ∈ documents directory pairs .markdown, Holds written document := by
      intro document hdocument
      obtain ⟨before, after, hsplit⟩ := List.append_of_mem hdocument
      rw [hsplit] at hplan hall hnodup
      refine holds_of_writeAll hplan hparent hall fun later hlater hpath => ?_
      rw [List.map_append, List.map_cons, List.nodup_append, List.nodup_cons] at hnodup
      exact hnodup.2.1.1 (hpath ▸ List.mem_map_of_mem hlater)
    refine ⟨written, (writeDocuments_eq_none_iff directory pairs).mpr ⟨hfault, made, hmade, hall⟩,
      length_documents directory pairs, hnodup, hholds _ List.mem_cons_self, fun i pair hpair => ?_⟩
    obtain ⟨name, hname⟩ := getElem?_documents directory pairs hpair
    exact ⟨documentPath directory name, by rw [List.getElem?_map, hname]; rfl,
      hholds _ (List.mem_of_getElem? hname)⟩

/-- Two routines of one name, and one that is called like the page of the second of them. -/
def clashing : List Documented :=
  ["f", "f", "f_2"].map fun name => ({ name }, ⟨name, "", [], [], [], ""⟩)

/-- A tree with an empty output directory. -/
def emptyDocs : Files.Tree where
  entries := [([Text.Utf8.encode "docs"], .directory)]

theorem leadsTo_emptyDocs : emptyDocs.LeadsTo (.ofText "docs") [Text.Utf8.encode "docs"] :=
  ⟨by decide +kernel, by decide +kernel⟩

/-- Any whole text can be written to the empty directory, under a name that fits. -/
theorem exists_write_emptyDocs {name text : LooseText}
    (hfits : Files.Tree.FitsIn (.ofText "docs") name)
    (htext : Text.Utf8.unencodable? text = none) :
    ∃ written, write emptyDocs ⟨Files.Path.extend (.ofText "docs") [name], text⟩ =
      (written, none) := by
  have hencode : Text.Utf8.encode? text = .ok (Text.Utf8.encodeChars text.front) := by
    rw [Text.Utf8.encode?, htext]
  have hfree : emptyDocs.find? ([Text.Utf8.encode "docs"] ++ [name.bytes]) = none := by
    simp [emptyDocs, Files.Tree.find?, List.lookup]
  have hmay : emptyDocs.MayWrite [Text.Utf8.encode "docs"] name.bytes := by
    have hallowed : ∀ place right, emptyDocs.allows place right = true := fun _ _ => rfl
    rw [Files.Tree.MayWrite, hfree]
    exact ⟨hallowed _ _, hallowed _ _⟩
  exact (exists_write_iff leadsTo_emptyDocs).mpr ⟨⟨_, hencode⟩, hfits, hmay⟩

theorem canWriteEach_clashing : CanWriteEach {} (.ofText "docs") clashing := by
  refine ⟨by decide +kernel, emptyDocs, ?_, ?_⟩
  · have hmake : ({} : Files.Tree).makeDirectory (.ofText "docs") = .ok emptyDocs := by
      decide +kernel
    rw [Files.Tree.makeDirectories, hmake]
  · have hnames : ∀ name ∈ "README" :: pageNames clashing,
        Files.Tree.FitsIn (.ofText "docs") (name ++ ".md") := by
      simp only [Files.Tree.FitsIn]
      decide +kernel
    have hindex : Text.Utf8.unencodable? (Markdown.index clashing) = none := by
      decide +kernel
    have hpages : ∀ pair ∈ clashing, Text.Utf8.unencodable? (Markdown.page pair) = none := by
      decide +kernel
    rintro ⟨path, text⟩ hdocument
    obtain ⟨name, hname, hpath, htext⟩ := mem_documents _ _ hdocument
    obtain rfl : path = documentPath (.ofText "docs") name := hpath
    have hwhole : Text.Utf8.unencodable? text = none := by
      rcases htext with htext | ⟨pair, hpair, htext⟩
      · rw [show text = _ from htext, hindex]
      · rw [show text = _ from htext, hpages pair hpair]
    exact exists_write_emptyDocs (hnames name hname) hwhole

/-- Not every document is kept, although the names are identifiers and each document could be
written: the third routine's page takes the place of the second one's. -/
theorem not_keepsEveryDocument_of_repetition :
    ¬ ∀ (t : Files.Tree) (directory : Files.Path) (pairs : List Documented),
      (∀ pair ∈ pairs, Source.isIdentifier pair.1.name.toList = true) →
        CanWriteEach t directory pairs → KeepsEveryDocument t directory pairs := by
  intro h
  obtain ⟨written, -, -, hnodup, -⟩ :=
    h {} (.ofText "docs") clashing (by decide +kernel) canWriteEach_clashing
  revert hnodup
  decide +kernel

end Command

end Docwright
