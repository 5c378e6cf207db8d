import Mathlib
import Docwright.Proofs.Collection

/-!
# Accounting of a batch

What comes of a batch is said file by file: `Tree.batchOf` is the batch that some files have to
give, and to read one file more is one step from such a batch to the next (`add_batchOf`). So a
batch that comes back accounts for every file once, as read or as failed (`extractAll_accounts`).

Whether it comes back is decided before any file is read. A path that **cannot be read**
(`Tree.cannotRead`: it leads to no directory, and reading fails) is put on record and changes
nothing about the rest, unless it obstructs the batch (`recordsUnreadable_iff`).
-/

namespace Docwright

/-! ## Associations -/

namespace Association

variable {κ α : Type} [DecidableEq κ]

theorem ofPairs_concat (pairs : List (κ × α)) (pair : κ × α) :
    ofPairs (pairs ++ [pair]) = set pair.1 pair.2 (ofPairs pairs) := by
  rw [ofPairs, List.foldl_append]
  rfl

/-- The keys stand in the order in which they first came. -/
theorem map_fst_ofPairs [BEq κ] [LawfulBEq κ] (pairs : List (κ × α)) :
    (ofPairs pairs).map (·.1) = (pairs.map (·.1)).eraseDups := by
  induction pairs using List.reverseRecOn with
  | nil => rfl
  | append_singleton pairs pair ih =>
    rw [ofPairs_concat, map_fst_set, ih, List.map_append, List.eraseDups_append]
    by_cases h : pair.1 ∈ pairs.map (·.1)
    · simp [h, List.removeAll]
    · simp [h, List.removeAll, List.eraseDups_cons]

/-- The value under a key, if all pairs with this key agree on it. -/
theorem lookup_ofPairs_of_mem [BEq κ] [LawfulBEq κ] {pairs : List (κ × α)} {key : κ} {value : α}
    (hmem : (key, value) ∈ pairs) (hsame : ∀ pair ∈ pairs, pair.1 = key → pair.2 = value) :
    (ofPairs pairs).lookup key = some value := by
  induction pairs using List.reverseRecOn with
  | nil => cases hmem
  | append_singleton pairs last ih =>
    rw [ofPairs_concat, lookup_set]
    split_ifs with hkey
    · rw [hsame last (by simp) hkey.symm]
    · have hne : (key, value) ≠ last := fun h => hkey (congrArg Prod.fst h)
      refine ih (by simpa [hne] using hmem) fun pair hpair => hsame pair ?_
      exact List.mem_append_left _ hpair

end Association

/-! ## Workers -/

theorem checkWorkers_eq_ok_iff {workers : Option Int} :
    checkWorkers workers = .ok () ↔ ∀ n ∈ workers, 0 < n := by
  cases workers with
  | none => simp [checkWorkers]
  | some n => simp [checkWorkers]

namespace Files

namespace Tree

/-! ## Reading the files -/

/-- Can the file be read? -/
def isReadable (t : Tree) (p : Path) : Bool :=
  (t.readText p).isOk

/-- The routines of a file; none if it cannot be read. -/
def routinesOf (t : Tree) (base : Option Path) (p : Path) : List Routine :=
  match t.readText p with
  | .ok source => Source.extract source (p.label base)
  | .error _ => []

/-- The record of a file that cannot be read. -/
def failure? (t : Tree) (p : Path) : Option (LooseText × Unreadable) :=
  match t.readText p with
  | .ok _ => none
  | .error trouble => some (p.text, ⟨p.text, trouble⟩)

/-- The batch that some files have to give. -/
def batchOf (t : Tree) (base : Option Path) (files : List Path) : Batch where
  routines := files.flatMap (t.routinesOf base)
  files :=
    .ofPairs ((files.filter t.isReadable).map fun p => (p.text, (t.routinesOf base p).length))
  failed := .ofPairs (files.filterMap t.failure?)

variable {t : Tree} {base : Option Path} {workers : Option Int}

/-- **One step of the reading.** -/
theorem add_batchOf {p : Path} {outcome : Except Unreadable (List Routine)}
    (h : t.extract base p = .ok outcome) (files : List Path) :
    (t.batchOf base files).add p outcome = t.batchOf base (files ++ [p]) := by
  rw [extract] at h
  split at h
  · cases h
  cases hread : t.readText p with
  | error trouble =>
    rw [hread] at h
    cases h
    simp [Batch.add, batchOf, routinesOf, isReadable, failure?, hread, Except.toBool,
      Association.ofPairs_concat]
  | ok source =>
    rw [hread] at h
    cases h
    simp [Batch.add, batchOf, routinesOf, isReadable, failure?, hread, Except.toBool,
      Association.ofPairs_concat]

/-- A path without a fault is read, or there is a record of it. -/
theorem exists_extract_iff {p : Path} :
    (∃ outcome, t.extract base p = .ok outcome) ↔ p.fault? = none := by
  rw [extract]
  cases p.fault? with
  | some crash => simp
  | none => cases t.readText p <;> simp

/-- **A run of the reading.** -/
theorem addAll_batchOf {done files : List Path} {batch : Batch} :
    t.addAll base (t.batchOf base done) files = .ok batch ↔
      (∀ p ∈ files, p.fault? = none) ∧ batch = t.batchOf base (done ++ files) := by
  induction files generalizing done with
  | nil => simp [addAll, eq_comm]
  | cons p rest ih =>
    rw [addAll, List.forall_mem_cons, ← @exists_extract_iff t base p]
    cases houtcome : t.extract base p with
    | error crash => simp
    | ok outcome =>
      dsimp only
      rw [add_batchOf houtcome, ih, List.append_assoc, List.singleton_append]
      simp

/-- **When a batch comes back, and what it is.** -/
theorem extractAll_eq_ok_iff {paths : List Path} {batch : Batch} :
    t.extractAll paths base workers = .ok batch ↔
      ∃ files, t.collect paths = .ok files ∧ (∀ n ∈ workers, 0 < n) ∧
        (∀ p ∈ files, p.fault? = none) ∧ batch = t.batchOf base files := by
  rw [extractAll]
  cases hcollect : t.collect paths with
  | error crash => simp
  | ok files =>
    rw [← checkWorkers_eq_ok_iff]
    cases hworkers : checkWorkers workers with
    | error crash => simp
    | ok _ =>
      have hempty : ({} : Batch) = t.batchOf base [] := rfl
      dsimp only
      rw [hempty, addAll_batchOf]
      simp

/-! ## The parts of a batch -/

theorem routinesOf_of_readText {p : Path} {source : String} (h : t.readText p = .ok source) :
    t.routinesOf base p = Source.extract source (p.label base) := by
  rw [routinesOf, h]

theorem isReadable_of_readText {p : Path} {source : String} (h : t.readText p = .ok source) :
    t.isReadable p = true := by
  rw [isReadable, h]
  rfl

theorem failure?_eq_some_iff {p : Path} {record : LooseText × Unreadable} :
    t.failure? p = some record ↔
      ∃ trouble, t.readText p = .error trouble ∧ record = (p.text, ⟨p.text, trouble⟩) := by
  rw [failure?]
  cases t.readText p with
  | error trouble => simp [eq_comm]
  | ok source => simp

/-- A file that cannot be read has no routines in the batch. -/
theorem routinesOf_of_not_isReadable {p : Path} (h : t.isReadable p = false) :
    t.routinesOf base p = [] := by
  cases hread : t.readText p with
  | error trouble => rw [routinesOf, hread]
  | ok source => simp [isReadable_of_readText hread] at h

theorem routines_batchOf (files : List Path) :
    (t.batchOf base files).routines =
      (files.filter t.isReadable).flatMap (t.routinesOf base) := by
  change files.flatMap (t.routinesOf base) = _
  induction files with
  | nil => rfl
  | cons p files ih =>
    by_cases h : t.isReadable p = true
    · simp [h, ih]
    · simp [h, ih, routinesOf_of_not_isReadable (Bool.eq_false_iff.mpr h)]

theorem map_fst_files_batchOf (files : List Path) :
    (t.batchOf base files).files.map (·.1) =
      ((files.filter t.isReadable).map (·.text)).eraseDups := by
  rw [batchOf, Association.map_fst_ofPairs, List.map_map]
  rfl

theorem map_fst_failed_batchOf (files : List Path) :
    (t.batchOf base files).failed.map (·.1) =
      ((files.filter fun p => !t.isReadable p).map (·.text)).eraseDups := by
  rw [batchOf, Association.map_fst_ofPairs]
  congr 1
  induction files with
  | nil => rfl
  | cons p files ih =>
    cases hread : t.readText p with
    | error trouble => simp [failure?, isReadable, hread, Except.toBool, ih]
    | ok source => simp [failure?, isReadable, hread, Except.toBool, ih]

/-! ## Accounting -/

/-- **A batch accounts for its files.** Its routines are those of the files that can be read, in
order and with repetitions. The files that can be read are counted, the others have failed, each
under its path and at the place where it first came; and the number of workers makes no
difference. -/
theorem extractAll_accounts {texts : List LooseText} {batch : Batch} (hnames : t.ProperNames)
    (h : t.extractAll (texts.map .ofText) base workers = .ok batch) :
    ∃ files, t.collect (texts.map .ofText) = .ok files ∧
      batch.routines = (files.filter t.isReadable).flatMap (t.routinesOf base) ∧
      batch.files.map (·.1) = ((files.filter t.isReadable).map (·.text)).eraseDups ∧
      batch.failed.map (·.1) = ((files.filter fun p => !t.isReadable p).map (·.text)).eraseDups ∧
      (∀ key ∈ batch.files.map (·.1), key ∉ batch.failed.map (·.1)) ∧
      (∀ p ∈ files, ∀ q ∈ files, p.text = q.text → p = q) ∧
      (∀ p ∈ files, ∀ source, t.readText p = .ok source →
        batch.files.lookup p.text = some (Source.extract source (p.label base)).length) ∧
      (∀ p ∈ files, ∀ trouble, t.readText p = .error trouble →
        batch.failed.lookup p.text = some ⟨p.text, trouble⟩) ∧
      ∀ others : Option Int, (∀ n ∈ others, 0 < n) →
        t.extractAll (texts.map .ofText) base others = .ok batch := by
  obtain ⟨files, hcollect, -, hfaultless, rfl⟩ := extractAll_eq_ok_iff.mp h
  have hpaths : ∀ p ∈ texts.map Path.ofText, p.Proper := by
    intro p hp
    obtain ⟨text, -, rfl⟩ := List.mem_map.mp hp
    exact Path.proper_ofText text
  -- paths with one text are one path, so no two files share a record
  have hsame : ∀ p ∈ files, ∀ q ∈ files, p.text = q.text → p = q := fun p hp q hq htext =>
    Path.eq_of_text_eq (hnames.of_mem_collect hpaths hcollect hp)
      (hnames.of_mem_collect hpaths hcollect hq) htext
  refine ⟨files, hcollect, routines_batchOf files, map_fst_files_batchOf files,
    map_fst_failed_batchOf files, ?_, hsame, ?_, ?_, ?_⟩
  · intro key hread hfailed
    rw [map_fst_files_batchOf, List.mem_eraseDups] at hread
    rw [map_fst_failed_batchOf, List.mem_eraseDups] at hfailed
    obtain ⟨p, hp, rfl⟩ := List.mem_map.mp hread
    obtain ⟨q, hq, htext⟩ := List.mem_map.mp hfailed
    obtain ⟨hpfiles, hpread⟩ := List.mem_filter.mp hp
    obtain ⟨hqfiles, hqread⟩ := List.mem_filter.mp hq
    obtain rfl := hsame q hqfiles p hpfiles htext
    simp [hpread] at hqread
  · intro p hp source hread
    rw [← routinesOf_of_readText hread]
    refine Association.lookup_ofPairs_of_mem ?_ ?_
    · exact List.mem_map_of_mem (List.mem_filter.mpr ⟨hp, isReadable_of_readText hread⟩)
    · intro other hother htext
      obtain ⟨q, hq, rfl⟩ := List.mem_map.mp hother
      rw [hsame q (List.mem_filter.mp hq).1 p hp htext]
  · intro p hp trouble hread
    refine Association.lookup_ofPairs_of_mem ?_ ?_
    · exact List.mem_filterMap.mpr ⟨p, hp, failure?_eq_some_iff.mpr ⟨trouble, hread, rfl⟩⟩
    · intro other hother htext
      obtain ⟨q, hq, hfailure⟩ := List.mem_filterMap.mp hother
      obtain ⟨found, hfound, rfl⟩ := failure?_eq_some_iff.mp hfailure
      obtain rfl := hsame q hq p hp htext
      rw [Except.error.inj (hfound.symm.trans hread)]
  · intro others hothers
    exact extractAll_eq_ok_iff.mpr ⟨files, hcollect, hothers, hfaultless, rfl⟩

/-- A directory with a file that can be read and one that cannot. -/
def pairTree : Tree where
  entries :=
    [([Text.Utf8.encode "d"], .directory),
     ([Text.Utf8.encode "d", Text.Utf8.encode "a.py"],
       .file (Text.Utf8.encode "def f():\n    pass\n")),
     ([Text.Utf8.encode "d", Text.Utf8.encode "b.py"], .file [0xff])]

/-- The directory, one of its files once more, and something that is not there. -/
def pairTexts : List LooseText :=
  ["d", "d/a.py", "x"]

theorem expand_pairTree :
    pairTree.expand (.ofText "d") =
      .ok [⟨.working, ["d", "a.py"]⟩, ⟨.working, ["d", "b.py"]⟩] := by
  have hexpand : pairTree.expand (.ofText "d") = pairTree.sourcesBelow (.ofText "d") := by
    rw [expand, if_neg (by decide +kernel),
      show pairTree.isDirectory (.ofText "d") = .ok true by decide +kernel]
  have hvisits : ((pairTree.visitsBelow [Text.Utf8.encode "d"]).mergeSort Visit.before).findSome?
      (pairTree.obstacle? (.ofText "d") [Text.Utf8.encode "d"]) = none := by
    rw [List.mergeSort_of_pairwise (by decide +kernel)]
    decide +kernel
  have hfiles : (((pairTree.filesBelow [Text.Utf8.encode "d"]).filter isSourceWay).map
      wayText).mergeSort waysInOrder =
        [[LooseText.ofString "a.py"], [LooseText.ofString "b.py"]] := by
    rw [List.mergeSort_of_pairwise (by decide +kernel)]
    decide +kernel
  rw [hexpand, sourcesBelow,
    show pairTree.locate (.ofText "d") = .ok [Text.Utf8.encode "d"] by decide +kernel]
  dsimp only
  rw [hvisits, hfiles]
  decide +kernel

theorem collect_pairTree :
    pairTree.collect (pairTexts.map .ofText) =
      .ok [⟨.working, ["d", "a.py"]⟩, ⟨.working, ["d", "b.py"]⟩, ⟨.working, ["d", "a.py"]⟩,
        ⟨.working, ["x"]⟩] := by
  refine collect_cons_eq_ok_iff.mpr ⟨_, _, expand_pairTree, ?_, rfl⟩
  decide +kernel

/-- A file that is listed twice, in a directory with one that cannot be read. -/
theorem extractAll_accounts_pair :
    pairTree.ProperNames ∧ ∃ batch,
      pairTree.extractAll (pairTexts.map .ofText) none (some 2) = .ok batch ∧
      batch.routines.map (·.name) = ["f", "f"] ∧
      batch.files.map (·.1) = [LooseText.ofString "d/a.py"] ∧
      batch.failed.map (·.1) = [LooseText.ofString "d/b.py", LooseText.ofString "x"] ∧
      batch.files.lookup (LooseText.ofString "d/a.py") = some 1 ∧
      pairTree.extractAll (pairTexts.map .ofText) none none = .ok batch := by
  have hnames : pairTree.ProperNames := by decide +kernel
  have hbatch : pairTree.extractAll (pairTexts.map .ofText) none (some 2) =
      .ok (pairTree.batchOf none _) :=
    extractAll_eq_ok_iff.mpr ⟨_, collect_pairTree, by decide, by decide +kernel, rfl⟩
  obtain ⟨files, hcollect, hroutines, hread, hfailed, -, -, hcount, -, hworkers⟩ :=
    extractAll_accounts hnames hbatch
  obtain rfl := Except.ok.inj (collect_pairTree.symm.trans hcollect)
  refine ⟨hnames, _, hbatch, ?_, hread.trans (by decide +kernel), hfailed.trans (by decide +kernel),
    ?_, hworkers none (by simp)⟩
  · rw [hroutines]
    decide +kernel
  · exact (hcount ⟨.working, ["d", "a.py"]⟩ (by simp) "def f():\n    pass\n"
      (by decide +kernel)).trans (by decide +kernel)

/-! ## Paths that cannot be read -/

/-- Is there a directory under the path that can be listed? -/
def isListable (t : Tree) (p : Path) : Bool :=
  match t.locate p with
  | .error _ => false
  | .ok place => decide (t.find? place = some .directory) && t.allows place .read

/-- A path that cannot be read: it has a fault, or it leads neither to a directory that can be
listed nor to a file that can be read. -/
def cannotRead (t : Tree) (p : Path) : Bool :=
  p.fault?.isSome || !(t.isListable p || t.isReadable p)

theorem isListable_of_leadsTo {p : Path} {place : Place} (h : t.LeadsTo p place) :
    t.isListable p = t.allows place .read := by
  rw [isListable, h.locate]
  simp [h.directory]

/-- A directory is no file. -/
theorem isReadable_of_leadsTo {p : Path} {place : Place} (h : t.LeadsTo p place) :
    t.isReadable p = false := by
  have hbytes : ∃ refusal, t.bytes p = .error refusal := by
    rw [bytes, h.locate]
    dsimp only
    rw [h.directory]
    cases t.allows place .read <;> simp
  obtain ⟨refusal, hrefusal⟩ := hbytes
  rw [isReadable, readText, hrefusal]
  rfl

theorem cannotRead_of_passedOver {p : Path} (h : t.PassedOver p) : t.cannotRead p = true := by
  obtain ⟨place, hplace, hread⟩ := h
  rw [cannotRead, isListable_of_leadsTo hplace, hread, isReadable_of_leadsTo hplace]
  simp

theorem isReadable_of_cannotRead {p : Path} (hfault : p.fault? = none)
    (h : t.cannotRead p = true) : t.isReadable p = false := by
  rw [cannotRead, hfault] at h
  simpa using (Bool.or_eq_false_iff.mp (by simpa using h)).2

/-- A path that cannot be read is passed over, or it stands for itself. -/
theorem passedOver_or_expand {p : Path} {files : List Path} (hfault : p.fault? = none)
    (h : t.cannotRead p = true) (hexpand : t.expand p = .ok files) :
    t.PassedOver p ∨ files = [p] := by
  rcases expand_cases hexpand with hfiles | ⟨place, hplace, -⟩
  · exact .inr hfiles
  · rw [cannotRead, hfault, isListable_of_leadsTo hplace, isReadable_of_leadsTo hplace] at h
    exact .inl ⟨place, hplace, by simpa using h⟩

/-- Without the paths that cannot be read, the same files are read. -/
theorem exists_collect_filter {paths files : List Path} (hfault : ∀ p ∈ paths, p.fault? = none)
    (h : t.collect paths = .ok files) :
    ∃ rest, t.collect (paths.filter fun p => !t.cannotRead p) = .ok rest ∧
      rest.filter t.isReadable = files.filter t.isReadable := by
  induction paths generalizing files with
  | nil => exact ⟨files, h, rfl⟩
  | cons p paths ih =>
    obtain ⟨hp, hpaths⟩ := List.forall_mem_cons.mp hfault
    obtain ⟨found, more, hfound, hmore, rfl⟩ := collect_cons_eq_ok_iff.mp h
    obtain ⟨rest, hrest, hsame⟩ := ih hpaths hmore
    by_cases hcannot : t.cannotRead p = true
    · refine ⟨rest, by simpa [hcannot] using hrest, ?_⟩
      rcases passedOver_or_expand hp hcannot hfound with hover | rfl
      · obtain rfl := Except.ok.inj ((expand_of_passedOver hp hover).symm.trans hfound)
        exact hsame
      · simp [isReadable_of_cannotRead hp hcannot, hsame]
    · refine ⟨found ++ rest, ?_, by simp [hsame]⟩
      rw [List.filter_cons_of_pos (by simpa using hcannot)]
      exact collect_cons_eq_ok_iff.mpr ⟨found, rest, hfound, hrest, rfl⟩

/-- Paths that cannot be read do not stop the batch of some paths: it comes back, they have all
failed in it, as have the files in directories that cannot be read, and apart from that it is the
batch of the other paths. -/
def RecordsUnreadable (t : Tree) (paths : List Path) (base : Option Path) (workers : Option Int) :
    Prop :=
  ∃ batch files, t.extractAll paths base workers = .ok batch ∧ t.collect paths = .ok files ∧
    (∀ p ∈ paths, t.cannotRead p = true → p.text ∈ batch.failed.map (·.1)) ∧
    (∀ p ∈ files, t.isReadable p = false → p.text ∈ batch.failed.map (·.1)) ∧
    ∃ rest, t.extractAll (paths.filter fun p => !t.cannotRead p) base workers = .ok rest ∧
      batch.routines = rest.routines ∧ batch.files = rest.files

/-- The records of failure are about files that cannot be read. -/
theorem mem_failed_batchOf {files : List Path} {text : LooseText} :
    text ∈ (t.batchOf base files).failed.map (·.1) ↔
      ∃ p ∈ files, t.isReadable p = false ∧ p.text = text := by
  rw [map_fst_failed_batchOf, List.mem_eraseDups, List.mem_map]
  simp [and_assoc]

/-- A directory that is passed over is not among the files, whatever other path it may stand
below. -/
theorem not_mem_collect_of_passedOver {paths files : List Path}
    (hup : ∀ entry ∈ t.entries, upward ∉ entry.1) (hcollect : t.collect paths = .ok files)
    {p : Path} (hfault : p.fault? = none) (h : t.PassedOver p) : p ∉ files := by
  intro hmem
  obtain ⟨other, -, found, hfound, hp⟩ := (mem_collect_iff hcollect).mp hmem
  obtain ⟨last, hlast, -⟩ := id h
  rcases expand_cases hfound with rfl | ⟨place, hplace, hbelow⟩
  · -- then it would stand for itself
    obtain rfl := List.mem_singleton.mp hp
    rw [expand_of_passedOver hfault h] at hfound
    cases hfound
  · -- then there would be a file where it leads to
    obtain ⟨way, rfl, hfile, -, entry, hentry, hat⟩ := hbelow p hp
    have hwalk := (locate_eq_ok_iff.mp hlast.locate).2
    rw [way_extend, wayText, List.map_map] at hwalk
    obtain ⟨next, hnext, hmore⟩ := walk_append_eq_ok_iff.mp hwalk
    obtain rfl : next = place :=
      Except.ok.inj (hnext.symm.trans (locate_eq_ok_iff.mp hplace.locate).2)
    have hback : way.map (LooseText.bytes ∘ LooseText.ofBytes) = way :=
      List.map_id'' LooseText.bytes_ofBytes way
    rw [hback] at hmore
    have hways : upward ∉ way := fun hmem =>
      hup entry hentry (hat ▸ List.mem_append_right _ hmem)
    rw [eq_append_of_walk hways hmore] at hlast
    rw [isFile, hlast.directory] at hfile
    cases hfile

/-- **What stops a batch.** Paths that cannot be read do not, unless one of the paths is in the way
of finding the files; and they are all put on record, unless one of them is a directory that is
passed over. -/
theorem recordsUnreadable_iff {paths : List Path} (hnames : t.ProperNames)
    (hup : ∀ entry ∈ t.entries, upward ∉ entry.1) (hproper : ∀ p ∈ paths, p.Proper)
    (hnull : ∀ p ∈ paths, Glyph.char '\x00' ∉ p.text) (hworkers : ∀ n ∈ workers, 0 < n) :
    t.RecordsUnreadable paths base workers ↔
      ∀ p ∈ paths, ¬ t.Obstructs p ∧ ¬ t.PassedOver p := by
  constructor
  · rintro ⟨batch, files, hbatch, hcollect, hcannot, -⟩ p hp
    obtain ⟨other, hother, -, hfaultless, rfl⟩ := extractAll_eq_ok_iff.mp hbatch
    obtain rfl := Except.ok.inj (hcollect.symm.trans hother)
    obtain ⟨found, hfound⟩ := exists_collect_iff.mp ⟨files, hcollect⟩ p hp
    have hfault : p.fault? = none := by
      by_contra hsome
      rw [expand, if_pos (Option.isSome_iff_ne_none.mpr hsome)] at hfound
      obtain rfl := Except.ok.inj hfound
      refine hsome (hfaultless p ((mem_collect_iff hcollect).mpr ⟨p, hp, [p], ?_, by simp⟩))
      rw [expand, if_pos (Option.isSome_iff_ne_none.mpr hsome)]
    refine ⟨(exists_expand_iff hfault).mp ⟨found, hfound⟩, fun hover => ?_⟩
    obtain ⟨q, hq, -, htext⟩ :=
      mem_failed_batchOf.mp (hcannot p hp (cannotRead_of_passedOver hover))
    obtain rfl : q = p :=
      Path.eq_of_text_eq (hnames.of_mem_collect hproper hcollect hq) (hproper p hp) htext
    exact not_mem_collect_of_passedOver hup hcollect hfault hover hq
  · intro hclear
    have hfault : ∀ p ∈ paths, p.fault? = none := by
      intro p hp
      refine Path.fault?_eq_none_iff.mpr fun g hg => ⟨?_, fun hg' => hnull p hp (hg' ▸ hg)⟩
      by_contra hbytes
      exact (hclear p hp).1 (.byteless ⟨g, hg, eq_false_of_ne_true hbytes⟩)
    obtain ⟨files, hcollect⟩ := exists_collect_iff.mpr fun p hp =>
      (exists_expand_iff (hfault p hp)).mpr (hclear p hp).1
    obtain ⟨rest, hrest, hsame⟩ := exists_collect_filter hfault hcollect
    have hbatch : t.extractAll paths base workers = .ok (t.batchOf base files) :=
      extractAll_eq_ok_iff.mpr ⟨files, hcollect, hworkers,
        fun q hq => hnames.fault?_eq_none hfault hcollect hq, rfl⟩
    have hothers : t.extractAll (paths.filter fun p => !t.cannotRead p) base workers =
        .ok (t.batchOf base rest) :=
      extractAll_eq_ok_iff.mpr ⟨rest, hrest, hworkers,
        fun q hq => hnames.fault?_eq_none (fun p hp => hfault p (List.mem_of_mem_filter hp)) hrest
          hq, rfl⟩
    refine ⟨_, files, hbatch, hcollect, fun p hp hcannot => ?_, fun p hp hunreadable => ?_, _,
      hothers, ?_, ?_⟩
    · obtain ⟨found, hfound⟩ := exists_collect_iff.mp ⟨files, hcollect⟩ p hp
      obtain rfl := (passedOver_or_expand (hfault p hp) hcannot hfound).resolve_left (hclear p hp).2
      have hmem : p ∈ files := (mem_collect_iff hcollect).mpr ⟨p, hp, [p], hfound, by simp⟩
      exact mem_failed_batchOf.mpr ⟨p, hmem, isReadable_of_cannotRead (hfault p hp) hcannot, rfl⟩
    · exact mem_failed_batchOf.mpr ⟨p, hp, hunreadable, rfl⟩
    · rw [routines_batchOf, routines_batchOf, hsame]
    · rw [batchOf, batchOf, hsame]

/-- What cannot be read changes nothing about what can. -/
theorem recordsUnreadable_pair :
    pairTree.ProperNames ∧ (∀ entry ∈ pairTree.entries, upward ∉ entry.1) ∧
      (∀ p ∈ pairTexts.map Path.ofText, p.Proper ∧ Glyph.char '\x00' ∉ p.text) ∧
      (∀ n ∈ some (2 : Int), 0 < n) ∧ pairTree.cannotRead (.ofText "x") = true ∧
      pairTree.RecordsUnreadable (pairTexts.map .ofText) none (some 2) := by
  have hnames : pairTree.ProperNames := by decide +kernel
  have hup : ∀ entry ∈ pairTree.entries, upward ∉ entry.1 := by decide +kernel
  have hproper : ∀ p ∈ pairTexts.map Path.ofText, p.Proper :=
    List.forall_mem_map.mpr fun text _ => Path.proper_ofText text
  have hnull : ∀ p ∈ pairTexts.map Path.ofText, Glyph.char '\x00' ∉ p.text := by decide +kernel
  have hworkers : ∀ n ∈ some (2 : Int), 0 < n := by decide
  refine ⟨hnames, hup, fun p hp => ⟨hproper p hp, hnull p hp⟩, hworkers, by decide +kernel, ?_⟩
  refine (recordsUnreadable_iff hnames hup hproper hnull hworkers).mpr fun p hp => ⟨?_, ?_⟩
  · have hfault : ∀ p ∈ pairTexts.map Path.ofText, p.fault? = none := by decide +kernel
    exact (exists_expand_iff (hfault p hp)).mp (exists_collect_iff.mp ⟨_, collect_pairTree⟩ p hp)
  · rintro ⟨place, -, hread⟩
    have hallowed : pairTree.allows place .read = true := rfl
    rw [hallowed] at hread
    cases hread

/-- A name of some letters. -/
def letters (n : Nat) : LooseText :=
  List.replicate n (.char 'n')

theorem length_bytes_letters (n : Nat) : (letters n).bytes.length = n := by
  rw [letters, LooseText.bytes, List.flatMap_replicate]
  simp [Glyph.bytes, Char.utf8Size]

/-- Not every path that cannot be read is put on record: a name that is too long is not. -/
theorem not_recordsUnreadable_of_longName :
    ¬ ∀ (t : Tree) (paths : List Path) (base : Option Path) (workers : Option Int),
      t.ProperNames → (∀ entry ∈ t.entries, upward ∉ entry.1) → (∀ p ∈ paths, p.Proper) →
        (∀ p ∈ paths, Glyph.char '\x00' ∉ p.text) → (∀ n ∈ workers, 0 < n) →
          t.RecordsUnreadable paths base workers := by
  intro h
  have hfault : (Path.mk .working [letters 256]).fault? = none := by decide +kernel
  obtain ⟨batch, files, -, hcollect, -⟩ :=
    h pairTree [.ofText "d/a.py", ⟨.working, [letters 256]⟩] none none (by decide +kernel)
      (by decide +kernel) (by decide +kernel) (by decide +kernel) (by simp)
  have hexpand := exists_collect_iff.mp ⟨files, hcollect⟩ ⟨.working, [letters 256]⟩ (by simp)
  refine (exists_expand_iff hfault).mp hexpand (obstructs_of_long ⟨rfl, rfl⟩ ?_)
  rw [length_bytes_letters]
  decide

end Tree

end Files

end Docwright
