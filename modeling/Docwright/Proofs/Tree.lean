import Mathlib
import Docwright.Files.Tree

/-!
# Walking in a growing file tree

A walk only asks which places are directories and which places hold something. A tree **grows** if
it loses neither, so a walk that came to an end still comes to the same end in a tree that has grown
(`Grows.walk`), and a path that **leads to** a directory still leads there (`Grows.leadsTo`). A file
that is written, or a directory that is made, makes a tree grow.

The rest says what becomes of the entries in one directory: a directory that was made is there
(`entry_of_makeDirectories`), a file in a directory is written at the place behind the directory's
(`write_extend_eq_ok_iff`), and found there (`entry_extend`).
-/

namespace Docwright

namespace Files

namespace Tree

variable {t u : Tree} {p : Path} {place : Place}

/-! ## What stands under a path -/

/-- Something is found under a path if the path leads to its place. -/
theorem entry_eq_ok_iff {e : Entry} :
    t.entry p = .ok e ↔ ∃ place, t.locate p = .ok place ∧ t.find? place = some e := by
  rw [entry]
  cases t.locate p with
  | error refusal => simp
  | ok place =>
    cases hfind : t.find? place with
    | none => simp [hfind]
    | some other => simp [hfind]

/-- A path leads to the directory at a place. -/
structure LeadsTo (t : Tree) (p : Path) (place : Place) : Prop where
  /-- the path can be walked to its end -/
  locate : t.locate p = .ok place
  /-- there is a directory -/
  directory : t.find? place = some .directory

/-- A directory is found where a path leads to one. -/
theorem entry_eq_directory_iff : t.entry p = .ok .directory ↔ ∃ place, t.LeadsTo p place := by
  rw [entry_eq_ok_iff]
  exact exists_congr fun place => ⟨fun ⟨hlocate, hdirectory⟩ => ⟨hlocate, hdirectory⟩,
    fun h => ⟨h.locate, h.directory⟩⟩

theorem isDirectory_eq_ok_true_iff : t.isDirectory p = .ok true ↔ t.entry p = .ok .directory := by
  rw [isDirectory]
  split <;> simp_all

/-- **What cannot be answered**: whether there is a directory behind a name that is too long, or
behind a directory that lets nobody through. -/
theorem isDirectory_eq_error_iff {error : SystemError} :
    t.isDirectory p = .error error ↔
      ∃ refusal, t.entry p = .error refusal ∧ (refusal = .nameTooLong ∨ refusal = .denied) ∧
        error = ⟨refusal, p.text⟩ := by
  rw [isDirectory]
  cases t.entry p with
  | error refusal => cases refusal <;> simp [eq_comm]
  | ok entry => cases entry <;> simp

/-! ## Steps and walks -/

theorem checkDirectory_eq_ok_iff :
    t.checkDirectory place = .ok () ↔ t.find? place = some .directory := by
  rw [checkDirectory]
  split <;> simp_all

/-- There is a directory that lets everybody through. -/
def Opens (t : Tree) (place : Place) : Prop :=
  t.find? place = some .directory ∧ t.allows place .pass = true

theorem checkPassage_eq_ok_iff : t.checkPassage place = .ok () ↔ t.Opens place := by
  rw [checkPassage, Opens, ← checkDirectory_eq_ok_iff]
  cases t.checkDirectory place with
  | error refusal => simp
  | ok _ => simp

/-- **What a step can be**: from a directory to its parent, or to one of its entries. -/
theorem step_eq_ok_iff {name : Name} {next : Place} :
    t.step place name = .ok next ↔ t.Opens place ∧
      (name = upward ∧ next = place.dropLast ∨
        name ≠ upward ∧ name.length ≤ nameLimit ∧ (t.find? (place ++ [name])).isSome = true ∧
          next = place ++ [name]) := by
  rw [← checkPassage_eq_ok_iff, step]
  cases t.checkPassage place with
  | error refusal => simp
  | ok _ =>
    dsimp only
    split_ifs with hup hlong hfound
    · simp [hup, @eq_comm _ next]
    · simp [hup, hlong]
    · simp [hup, Nat.not_lt.mp hlong, hfound, @eq_comm _ next]
    · simp [hup, hfound]

/-- A walk is a step and a walk from there. -/
theorem walk_cons_eq_ok_iff {name : Name} {rest : List Name} {last : Place} :
    t.walk place (name :: rest) = .ok last ↔
      ∃ next, t.step place name = .ok next ∧ t.walk next rest = .ok last := by
  rw [walk]
  cases t.step place name with
  | error refusal => simp
  | ok next => simp

/-- A walk can be cut anywhere. -/
theorem walk_append_eq_ok_iff {names more : List Name} {last : Place} :
    t.walk place (names ++ more) = .ok last ↔
      ∃ next, t.walk place names = .ok next ∧ t.walk next more = .ok last := by
  induction names generalizing place with
  | nil => simp [walk]
  | cons name rest ih =>
    simp only [List.cons_append, walk_cons_eq_ok_iff, ih]
    constructor
    · rintro ⟨next, hstep, between, hrest, hmore⟩
      exact ⟨between, ⟨next, hstep, hrest⟩, hmore⟩
    · rintro ⟨between, ⟨next, hstep, hrest⟩, hmore⟩
      exact ⟨next, hstep, between, hrest, hmore⟩

/-- A walk that never turns back ends behind where it started. -/
theorem eq_append_of_walk {names : List Name} {last : Place} (h : upward ∉ names)
    (hwalk : t.walk place names = .ok last) : last = place ++ names := by
  induction names generalizing place with
  | nil =>
    obtain rfl := Except.ok.inj hwalk
    exact (List.append_nil place).symm
  | cons name rest ih =>
    obtain ⟨hname, hrest⟩ := not_or.mp (mt List.mem_cons.mpr h)
    obtain ⟨next, hstep, hmore⟩ := walk_cons_eq_ok_iff.mp hwalk
    rcases (step_eq_ok_iff.mp hstep).2 with ⟨hup, -⟩ | ⟨-, -, -, rfl⟩
    · exact absurd hup.symm hname
    · rw [ih hrest hmore, List.append_assoc, List.singleton_append]

/-- The last step of a walk, to an entry of a directory. -/
theorem walk_concat_eq_ok {start : Place} {names : List Name} {name : Name}
    (hwalk : t.walk start names = .ok place) (hopens : t.Opens place)
    (hname : name ≠ upward) (hfits : name.length ≤ nameLimit)
    (hfound : (t.find? (place ++ [name])).isSome = true) :
    t.walk start (names ++ [name]) = .ok (place ++ [name]) := by
  refine walk_append_eq_ok_iff.mpr ⟨place, hwalk, walk_cons_eq_ok_iff.mpr ⟨_, ?_, rfl⟩⟩
  exact step_eq_ok_iff.mpr ⟨hopens, .inr ⟨hname, hfits, hfound, rfl⟩⟩

/-- A path leads to a place if it is short enough and the walk along its names ends there. -/
theorem locate_eq_ok_iff :
    t.locate p = .ok place ↔
      isTooLong p = false ∧ t.walk (t.start p) p.way = .ok place := by
  rw [locate]
  split_ifs with h <;> simp [h]

/-! ## Growth -/

/-- The tree has grown: directories are still directories, and where something stood something
stands. -/
structure Grows (t u : Tree) : Prop where
  /-- nobody has moved -/
  working : u.working = t.working
  /-- directories stay -/
  directory : ∀ {place : Place}, t.find? place = some .directory → u.find? place = some .directory
  /-- entries stay, or others take their place -/
  isSome : ∀ {place : Place}, (t.find? place).isSome = true → (u.find? place).isSome = true
  /-- what was allowed stays so -/
  allows : ∀ {place : Place} {right : Right}, t.allows place right = true →
    u.allows place right = true

theorem Grows.refl (t : Tree) : t.Grows t :=
  ⟨rfl, id, id, id⟩

theorem Grows.trans {v : Tree} (htu : t.Grows u) (huv : u.Grows v) : t.Grows v :=
  ⟨huv.working.trans htu.working, fun h => huv.directory (htu.directory h),
    fun h => huv.isSome (htu.isSome h), fun h => huv.allows (htu.allows h)⟩

theorem Grows.opens (h : t.Grows u) (hplace : t.Opens place) : u.Opens place :=
  ⟨h.directory hplace.1, h.allows hplace.2⟩

/-- Steps can still be made when a tree has grown. -/
theorem Grows.step (h : t.Grows u) {name : Name} {next : Place}
    (hstep : t.step place name = .ok next) : u.step place name = .ok next := by
  obtain ⟨hopens, hnext⟩ := step_eq_ok_iff.mp hstep
  refine step_eq_ok_iff.mpr ⟨h.opens hopens, ?_⟩
  rcases hnext with hup | ⟨hname, hfits, hfound, hnext⟩
  · exact .inl hup
  · exact .inr ⟨hname, hfits, h.isSome hfound, hnext⟩

/-- **A walk keeps its end** when the tree grows. -/
theorem Grows.walk (h : t.Grows u) {names : List Name} {last : Place}
    (hwalk : t.walk place names = .ok last) : u.walk place names = .ok last := by
  induction names generalizing place with
  | nil => exact hwalk
  | cons name rest ih =>
    obtain ⟨next, hstep, hrest⟩ := walk_cons_eq_ok_iff.mp hwalk
    exact walk_cons_eq_ok_iff.mpr ⟨next, h.step hstep, ih hrest⟩

theorem Grows.start (h : t.Grows u) (p : Path) : u.start p = t.start p := by
  rw [Tree.start, Tree.start, h.working]

/-- Paths lead to the same places when a tree has grown. -/
theorem Grows.locate (h : t.Grows u) (hlocate : t.locate p = .ok place) :
    u.locate p = .ok place := by
  obtain ⟨hfits, hwalk⟩ := locate_eq_ok_iff.mp hlocate
  exact locate_eq_ok_iff.mpr ⟨hfits, h.start p ▸ h.walk hwalk⟩

theorem Grows.leadsTo (h : t.Grows u) (hp : t.LeadsTo p place) : u.LeadsTo p place :=
  ⟨h.locate hp.locate, h.directory hp.directory⟩

/-- **Rights after a `put`.** They stay as they were, but for a place that is new. -/
theorem allows_put (t : Tree) (place : Place) (entry : Entry) (other : Place) (right : Right) :
    (t.put place entry).allows other right =
      (t.allows other right || (!(t.find? place).isSome && decide (other = place))) := by
  by_cases hfound : (t.find? place).isSome = true
  · simp [allows, put, hfound]
  · by_cases hother : other = place
    · simp [allows, put, hfound, hother]
    · simp [allows, put, hfound, hother]

/-- A directory has to stay when something is put into the tree. -/
theorem grows_put (hplace : t.find? place ≠ some .directory) (entry : Entry) :
    t.Grows (t.put place entry) := by
  have hne : place ≠ [] := by
    rintro rfl
    exact hplace rfl
  refine ⟨rfl, ?_, ?_, fun hallowed => by rw [allows_put, hallowed, Bool.true_or]⟩
  · intro other hother
    rw [find?_put t hne, if_neg (by rintro rfl; exact hplace hother)]
    exact hother
  · intro other hother
    rw [find?_put t hne]
    split_ifs
    · rfl
    · exact hother

/-! ## Making directories -/

variable {directory : Path} {name : LooseText} {nameless : Refusal}

/-- A name that an entry of a directory may have: it does not lead back, and neither the name nor
the path with it is too long. -/
def FitsIn (directory : Path) (name : LooseText) : Prop :=
  name.bytes ≠ upward ∧ name.bytes.length ≤ nameLimit ∧
    isTooLong (directory.extend [name]) = false

theorem way_extend (directory : Path) (more : List LooseText) :
    (directory.extend more).way = directory.way ++ more.map LooseText.bytes :=
  List.map_append

/-- **Where something new may stand**: in a directory, under a name that fits. -/
theorem slot_extend_eq_ok_iff :
    t.slot (directory.extend [name]) nameless = .ok place ↔
      FitsIn directory name ∧ ∃ parent, t.walk (t.start directory) directory.way = .ok parent ∧
        t.Opens parent ∧ place = parent ++ [name.bytes] := by
  have hstart : t.start (directory.extend [name]) = t.start directory := rfl
  rw [slot, hstart, way_extend, List.map_singleton, List.getLast?_concat, List.dropLast_concat,
    FitsIn]
  by_cases hlong : isTooLong (directory.extend [name]) = true
  · simp [hlong]
  · simp only [hlong, ← checkPassage_eq_ok_iff]
    cases t.walk (t.start directory) directory.way with
    | error refusal => simp
    | ok parent =>
      cases hcheck : t.checkPassage parent with
      | error refusal => simp [hcheck]
      | ok _ =>
        by_cases hup : name.bytes = upward
        · simp [hup, hcheck]
        · by_cases hover : nameLimit < name.bytes.length
          · simp [hup, hover, hcheck]
          · simp [hup, hover, Nat.not_lt.mp hover, hcheck, @eq_comm _ place]

/-- What has a slot has a name in a directory. -/
theorem exists_extend_of_slot (h : t.slot p nameless = .ok place) :
    ∃ (directory : Path) (name : LooseText), p = directory.extend [name] := by
  rcases List.eq_nil_or_concat p.names with hnames | ⟨way, name, hnames⟩
  · rw [slot, Path.way, hnames] at h
    split_ifs at h
    cases h
  · exact ⟨⟨p.root, way⟩, name, by rw [Path.extend, ← List.concat_eq_append, ← hnames]⟩

/-- A directory that was made is there. -/
theorem entry_of_makeDirectory {made : Tree} (h : t.makeDirectory p = .ok made) :
    made.entry p = .ok .directory := by
  rw [makeDirectory] at h
  cases hslot : t.slot p .exists with
  | error refusal => simp [hslot] at h
  | ok place =>
    rw [hslot] at h
    dsimp only at h
    split_ifs at h with hfound
    cases h
    obtain ⟨directory, name, rfl⟩ := exists_extend_of_slot hslot
    obtain ⟨⟨hname, hshort, hfits⟩, parent, hwalk, hopens, rfl⟩ :=
      slot_extend_eq_ok_iff.mp hslot
    have hgrows : t.Grows (t.put (parent ++ [name.bytes]) .directory) :=
      grows_put (fun hplace => hfound (by rw [hplace]; rfl)) _
    have hplace : (t.put (parent ++ [name.bytes]) .directory).find? (parent ++ [name.bytes]) =
        some .directory := by
      rw [find?_put t (by simp), if_pos rfl]
    refine entry_eq_ok_iff.mpr ⟨_, locate_eq_ok_iff.mpr ⟨hfits, ?_⟩, hplace⟩
    rw [way_extend]
    exact walk_concat_eq_ok (hgrows.walk hwalk) (hgrows.opens hopens) hname hshort
      (by rw [hplace]; rfl)

/-- What is tolerated is a directory. -/
theorem entry_of_tolerate {refusal : Refusal} (h : t.tolerate p refusal = none) :
    t.entry p = .ok .directory := by
  rw [tolerate] at h
  rw [← isDirectory_eq_ok_true_iff]
  split at h
  · cases h
  · assumption
  · cases h

theorem entry_of_makeOne {made : Tree} (h : t.makeOne p = (made, none)) :
    made.entry p = .ok .directory := by
  rw [makeOne] at h
  split at h
  · cases h
    exact entry_of_makeDirectory ‹_›
  · cases h
  · obtain ⟨rfl, htolerate⟩ := Prod.mk.inj h
    exact entry_of_tolerate htolerate

/-- **A directory that was made is there.** -/
theorem entry_of_makeDirectories {made : Tree} (h : t.makeDirectories p = (made, none)) :
    made.entry p = .ok .directory := by
  rw [makeDirectories] at h
  split at h
  · cases h
    exact entry_of_makeDirectory ‹_›
  · split_ifs at h
    · cases h
    · split at h
      · cases h
      · exact entry_of_makeOne h
  · obtain ⟨rfl, htolerate⟩ := Prod.mk.inj h
    exact entry_of_tolerate htolerate

/-! ## Files in one directory -/

/-- A file may be written under a name in a directory: the directory lets it through, and what
stands there is a file that may be written, or nothing where something new may stand. -/
def MayWrite (t : Tree) (parent : Place) (name : Name) : Prop :=
  t.allows parent .pass = true ∧
    match t.find? (parent ++ [name]) with
    | some .directory => False
    | some (.file _) => t.allows (parent ++ [name]) .write = true
    | none => t.allows parent .write = true

/-- There is no directory where a file may be written. -/
theorem MayWrite.ne_directory {parent : Place} {name : Name} (h : t.MayWrite parent name) :
    t.find? (parent ++ [name]) ≠ some .directory := by
  intro hfind
  rw [MayWrite, hfind] at h
  exact h.2

/-- A file that was written changes nothing about what may be written beside it, or in its place. -/
theorem MayWrite.put_iff {parent : Place} {own : Name} (h : t.MayWrite parent own)
    {bytes : List UInt8} {name : Name} :
    (t.put (parent ++ [own]) (.file bytes)).MayWrite parent name ↔ t.MayWrite parent name := by
  have hself : (t.put (parent ++ [own]) (.file bytes)).allows parent = t.allows parent := by
    funext right
    simp [allows_put]
  rw [MayWrite, MayWrite, hself, find?_put t (by simp), allows_put]
  by_cases hname : name = own
  · subst hname
    obtain ⟨hpass, hmay⟩ := h
    rw [if_pos rfl]
    rcases hfind : t.find? (parent ++ [name]) with _ | _ | _
    · rw [hfind] at hmay
      simp [hmay]
    · simp
    · rw [hfind] at hmay
      exact hmay.elim
  · have hne : parent ++ [name] ≠ parent ++ [own] := by simpa using hname
    rw [if_neg hne]
    simp [hne]

/-- **Writing a file**: it goes to the place behind that of its directory, if the name fits and it
may be written there. -/
theorem write_extend_eq_ok_iff {bytes : List UInt8} {parent : Place}
    (hparent : t.LeadsTo directory parent) :
    t.write (directory.extend [name]) bytes = .ok u ↔
      FitsIn directory name ∧ t.MayWrite parent name.bytes ∧
        u = t.put (parent ++ [name.bytes]) (.file bytes) := by
  obtain ⟨-, hwalk⟩ := locate_eq_ok_iff.mp hparent.locate
  have hslot : t.slot (directory.extend [name]) .isDirectory = .ok (parent ++ [name.bytes]) ↔
      FitsIn directory name ∧ t.allows parent .pass = true := by
    rw [slot_extend_eq_ok_iff]
    refine and_congr_right fun _ => ⟨?_, fun hpass => ?_⟩
    · rintro ⟨other, hother, hopens, -⟩
      rw [hwalk] at hother
      exact Except.ok.inj hother ▸ hopens.2
    · exact ⟨parent, hwalk, ⟨hparent.directory, hpass⟩, rfl⟩
  rw [write, MayWrite]
  by_cases hcan : FitsIn directory name ∧ t.allows parent .pass = true
  · rw [hslot.mpr hcan, and_iff_right hcan.2, and_iff_right hcan.1]
    dsimp only
    rcases t.find? (parent ++ [name.bytes]) with _ | _ | _
    · rw [List.dropLast_concat]
      cases t.allows parent .write <;> simp [@eq_comm _ u]
    · cases t.allows (parent ++ [name.bytes]) .write <;> simp [@eq_comm _ u]
    · simp
  · cases hother : t.slot (directory.extend [name]) .isDirectory with
    | error refusal =>
      simp only [reduceCtorEq, false_iff]
      exact fun h => hcan ⟨h.1, h.2.1.1⟩
    | ok place =>
      obtain ⟨hfits, other, hwalk', hopens, -⟩ := slot_extend_eq_ok_iff.mp hother
      rw [hwalk] at hwalk'
      exact absurd ⟨hfits, Except.ok.inj hwalk' ▸ hopens.2⟩ hcan

/-- **Finding a file** from its directory. -/
theorem entry_extend {entry : Entry} {parent : Place} (hparent : t.LeadsTo directory parent)
    (hpass : t.allows parent .pass = true) (hfits : FitsIn directory name)
    (hentry : t.find? (parent ++ [name.bytes]) = some entry) :
    t.entry (directory.extend [name]) = .ok entry := by
  obtain ⟨hname, hshort, hpath⟩ := hfits
  have hwalk := walk_concat_eq_ok (locate_eq_ok_iff.mp hparent.locate).2
    ⟨hparent.directory, hpass⟩ hname hshort (by rw [hentry]; rfl)
  refine entry_eq_ok_iff.mpr ⟨_, locate_eq_ok_iff.mpr ⟨hpath, ?_⟩, hentry⟩
  rw [way_extend]
  exact hwalk

end Tree

end Files

end Docwright
