import Mathlib
import Docwright.Files.Batch
import Docwright.Proofs.Path
import Docwright.Proofs.Tree

/-!
# Expanding paths

Which files some paths stand for, and when that can be found out at all.

* `Tree.ProperNames` — the names in a tree are names that a file system takes. The files of a batch
  then have **proper** paths without faults, if the listed paths have
  (`ProperNames.of_mem_collect`, `ProperNames.fault?_eq_none`).
* `Tree.Obstructs` — a path **obstructs** its batch: it has no bytes, or to find out whether it is a
  directory, or to list the directory, something is looked at that has too long a path, stands too
  deep or is closed off. All other paths can be expanded (`exists_expand_iff`).
* `Tree.PassedOver` — a directory that cannot be listed is **passed over**: it is expanded to
  nothing (`expand_of_passedOver`).
-/

namespace Docwright

namespace Files

namespace Tree

variable {t : Tree}

/-! ## Obstructions -/

/-- A listing of the directory at a place comes to see what some names lead to. -/
def Sees (t : Tree) (place : Place) (way : List Name) : Prop :=
  (t.find? (place ++ way)).isSome = true ∧ t.shows place way = true

/-- A path that obstructs its batch. -/
inductive Obstructs (t : Tree) (p : Path) : Prop
  /-- a glyph of the path has no bytes -/
  | byteless (h : ∃ g ∈ p.text, g.hasBytes = false)
  /-- the path is too long to be asked about -/
  | tooLong (h : t.entry p = .error .nameTooLong)
  /-- a directory on the way lets nobody through to ask -/
  | denied (h : t.entry p = .error .denied)
  /-- in the directory, something has too long a path to be looked at -/
  | tooLongBelow {place : Place} {way : List Name} (hplace : t.LeadsTo p place)
      (hseen : t.Sees place way)
      (hvisited : t.find? (place ++ way) = some .directory ∨ isSourceWay way = true)
      (hlong : isTooLong (p.extend (wayText way)) = true)
  /-- in the directory, another one stands too deep to be listed -/
  | tooDeep {place : Place} {way : List Name} (hplace : t.LeadsTo p place)
      (hseen : t.Sees place way) (hdirectory : t.find? (place ++ way) = some .directory)
      (hdeep : maxNesting < way.length)
  /-- in the directory, something has the name of a source file and cannot be asked whether it is
  one -/
  | closed {place : Place} {way : List Name} (hplace : t.LeadsTo p place)
      (hseen : t.Sees place way) (hsource : isSourceWay way = true)
      (hclosed : t.allows (place ++ way.dropLast) .pass = false)

/-- A directory that is passed over, since it cannot be listed. -/
def PassedOver (t : Tree) (p : Path) : Prop :=
  ∃ place, t.LeadsTo p place ∧ t.allows place .read = false

theorem exists_mem_entries_iff {place : Place} (hne : place ≠ []) :
    (∃ entry, (place, entry) ∈ t.entries) ↔ (t.find? place).isSome = true := by
  rw [find?, if_neg (by simpa using hne), List.lookup_isSome_iff]
  constructor
  · rintro ⟨entry, hmem⟩
    exact ⟨_, hmem, by simp⟩
  · rintro ⟨⟨other, entry⟩, hmem, hsame⟩
    obtain rfl : place = other := by simpa using hsame
    exact ⟨entry, hmem⟩

/-- What a listing looks at, as long as it is not the directory itself. -/
theorem mem_visitsBelow {place : Place} {v : Visit} (hne : v.way ≠ []) :
    v ∈ t.visitsBelow place ↔ t.Sees place v.way ∧
      (t.find? (place ++ v.way) = some .directory ∨ isSourceWay v.way = true) ∧
      v.isDirectory = decide (t.find? (place ++ v.way) = some .directory) := by
  rw [visitsBelow, List.mem_filterMap, Sees, ← exists_mem_entries_iff (by simp [hne])]
  constructor
  · rintro ⟨⟨other, entry⟩, hmem, hvisit⟩
    dsimp only at hvisit
    split_ifs at hvisit with hcondition
    obtain ⟨hseen, hvisited⟩ := Bool.and_eq_true_iff.mp hcondition
    obtain ⟨hbegins, hshown⟩ := Bool.and_eq_true_iff.mp hseen
    obtain ⟨way, rfl⟩ := List.isPrefixOf_iff_prefix.mp hbegins
    obtain rfl := Option.some.inj hvisit
    rw [List.drop_left] at hshown hvisited ⊢
    exact ⟨⟨⟨entry, hmem⟩, hshown⟩, by simpa using hvisited, rfl⟩
  · rintro ⟨⟨⟨entry, hmem⟩, hshown⟩, hvisited, hdirectory⟩
    refine ⟨(place ++ v.way, entry), hmem, ?_⟩
    simp only [List.drop_left, hshown, ← hdirectory]
    rw [if_pos]
    simpa [hdirectory] using hvisited

theorem obstacle?_eq_none_iff {p : Path} {place : Place} {v : Visit} :
    t.obstacle? p place v = none ↔
      (v.isDirectory = true → v.way.length ≤ maxNesting) ∧
        isTooLong (p.extend (wayText v.way)) = false ∧
        (isSourceWay v.way = true → t.allows (place ++ v.way.dropLast) .pass = true) := by
  unfold obstacle?
  dsimp only
  split_ifs with hdeep hlong hclosed
  · simp_all
  · simp_all
  · simp_all
  · simp_all

/-- What can be in the way at something that a listing looks at. -/
def IsClear (t : Tree) (p : Path) (place : Place) (way : List Name) : Prop :=
  (t.find? (place ++ way) = some .directory → way.length ≤ maxNesting) ∧
    isTooLong (p.extend (wayText way)) = false ∧
    (isSourceWay way = true → t.allows (place ++ way.dropLast) .pass = true)

/-- **When a directory can be listed**: nothing that is looked at is in the way. -/
theorem exists_sourcesBelow_iff {p : Path} {place : Place} (hlocate : t.locate p = .ok place) :
    (∃ files, t.sourcesBelow p = .ok files) ↔ ∀ way, way ≠ [] → t.Sees place way →
      (t.find? (place ++ way) = some .directory ∨ isSourceWay way = true) →
        t.IsClear p place way := by
  have hvisits : (∃ files, t.sourcesBelow p = .ok files) ↔
      ∀ v ∈ t.visitsBelow place, t.obstacle? p place v = none := by
    rw [sourcesBelow, hlocate]
    dsimp only
    cases hfirst : ((t.visitsBelow place).mergeSort Visit.before).findSome?
        (t.obstacle? p place) with
    | some crash =>
      obtain ⟨v, hmem, hv⟩ := List.exists_of_findSome?_eq_some hfirst
      have hobstacle : ∃ v ∈ t.visitsBelow place, t.obstacle? p place v ≠ none :=
        ⟨v, List.mem_mergeSort.mp hmem, by simp [hv]⟩
      simpa using hobstacle
    | none =>
      rw [List.findSome?_eq_none_iff] at hfirst
      simpa using hfirst
  rw [hvisits]
  constructor
  · intro h way hne hseen hvisited
    have hclear := h ⟨way, decide (t.find? (place ++ way) = some .directory)⟩
      ((mem_visitsBelow hne).mpr ⟨hseen, hvisited, rfl⟩)
    rw [obstacle?_eq_none_iff] at hclear
    exact ⟨fun hdirectory => hclear.1 (decide_eq_true hdirectory), hclear.2⟩
  · rintro h ⟨way, isDirectory⟩ hv
    rw [obstacle?_eq_none_iff]
    by_cases hne : way = []
    · -- the directory itself, which the path leads to
      have hfits : isTooLong (p.extend []) = false := by
        rw [Path.extend, List.append_nil]
        exact (locate_eq_ok_iff.mp hlocate).1
      subst hne
      exact ⟨fun _ => Nat.zero_le _, hfits, fun hsource => by cases hsource⟩
    · obtain ⟨hseen, hvisited, hdirectory⟩ := (mem_visitsBelow hne).mp hv
      obtain ⟨hdeep, hrest⟩ := h way hne hseen hvisited
      exact ⟨fun h => hdeep (of_decide_eq_true (hdirectory ▸ h)), hrest⟩

/-- A directory can be listed if it does not obstruct. -/
theorem exists_sourcesBelow_iff_not_obstructs {p : Path} {place : Place}
    (hfault : p.fault? = none) (hplace : t.LeadsTo p place) :
    (∃ files, t.sourcesBelow p = .ok files) ↔ ¬ t.Obstructs p := by
  have hentry : t.entry p = .ok .directory := entry_eq_directory_iff.mpr ⟨_, hplace⟩
  have hsame : ∀ {other}, t.LeadsTo p other → other = place := fun hother =>
    Except.ok.inj (hother.locate.symm.trans hplace.locate)
  rw [exists_sourcesBelow_iff hplace.locate]
  constructor
  · intro hclear hobstructs
    cases hobstructs with
    | byteless h =>
      obtain ⟨g, hg, hbytes⟩ := h
      rw [(Path.fault?_eq_none_iff.mp hfault g hg).1] at hbytes
      cases hbytes
    | tooLong h =>
      rw [hentry] at h
      cases h
    | denied h =>
      rw [hentry] at h
      cases h
    | @tooLongBelow _ way hother hseen hvisited hlong =>
      obtain rfl := hsame hother
      have hne : way ≠ [] := by
        rintro rfl
        rw [wayText, List.map_nil, Path.extend, List.append_nil,
          (locate_eq_ok_iff.mp hplace.locate).1] at hlong
        cases hlong
      rw [(hclear way hne hseen hvisited).2.1] at hlong
      cases hlong
    | @tooDeep _ way hother hseen hdirectory hdeep =>
      obtain rfl := hsame hother
      have hne : way ≠ [] := List.ne_nil_of_length_pos (Nat.zero_lt_of_lt hdeep)
      exact absurd ((hclear way hne hseen (.inl hdirectory)).1 hdirectory) (Nat.not_le.mpr hdeep)
    | @closed _ way hother hseen hsource hclosed =>
      obtain rfl := hsame hother
      have hne : way ≠ [] := by
        rintro rfl
        cases hsource
      rw [(hclear way hne hseen (.inr hsource)).2.2 hsource] at hclosed
      cases hclosed
  · intro hclear way _ hseen hvisited
    refine ⟨fun hdirectory => ?_, ?_, fun hsource => ?_⟩
    · by_contra hdeep
      exact hclear (.tooDeep hplace hseen hdirectory (Nat.not_le.mp hdeep))
    · by_contra hlong
      exact hclear (.tooLongBelow hplace hseen hvisited (eq_true_of_ne_false hlong))
    · by_contra hclosed
      exact hclear (.closed hplace hseen hsource (eq_false_of_ne_true hclosed))

/-- **Which paths can be expanded.** -/
theorem exists_expand_iff {p : Path} (hfault : p.fault? = none) :
    (∃ files, t.expand p = .ok files) ↔ ¬ t.Obstructs p := by
  rw [expand, hfault, if_neg (by simp)]
  cases hanswer : t.isDirectory p with
  | error error =>
    obtain ⟨refusal, hentry, hrefusal, -⟩ := isDirectory_eq_error_iff.mp hanswer
    have hobstructs : t.Obstructs p := by
      rcases hrefusal with rfl | rfl
      · exact .tooLong hentry
      · exact .denied hentry
    simp [hobstructs]
  | ok answer =>
    cases answer with
    | false =>
      have hother : t.entry p ≠ .ok .directory := by
        intro h
        rw [isDirectory_eq_ok_true_iff.mpr h] at hanswer
        cases hanswer
      have hasked : ∀ refusal, refusal = .nameTooLong ∨ refusal = .denied →
          t.entry p ≠ .error refusal := by
        intro refusal hrefusal h
        rw [isDirectory_eq_error_iff.mpr ⟨refusal, h, hrefusal, rfl⟩] at hanswer
        cases hanswer
      refine iff_of_true ⟨_, rfl⟩ fun hobstructs => ?_
      cases hobstructs with
      | byteless h =>
        obtain ⟨g, hg, hbytes⟩ := h
        rw [(Path.fault?_eq_none_iff.mp hfault g hg).1] at hbytes
        cases hbytes
      | tooLong h => exact hasked _ (.inl rfl) h
      | denied h => exact hasked _ (.inr rfl) h
      | tooLongBelow hplace | tooDeep hplace | closed hplace =>
        exact hother (entry_eq_directory_iff.mpr ⟨_, hplace⟩)
    | true =>
      obtain ⟨place, hplace⟩ := entry_eq_directory_iff.mp (isDirectory_eq_ok_true_iff.mp hanswer)
      exact exists_sourcesBelow_iff_not_obstructs hfault hplace

/-- A name that is too long obstructs, also if there is nothing else on the path. -/
theorem obstructs_of_long {name : LooseText} (hworking : t.Opens t.working)
    (hname : nameLimit < name.bytes.length) : t.Obstructs ⟨.working, [name]⟩ := by
  have hup : name.bytes ≠ upward := by
    intro h
    rw [h] at hname
    exact absurd hname (by decide +kernel)
  have hwalk : t.walk t.working [name.bytes] = .error .nameTooLong := by
    rw [walk, step, checkPassage_eq_ok_iff.mpr hworking]
    simp [hup, hname]
  have hlocate : t.locate ⟨.working, [name]⟩ = .error .nameTooLong := by
    rw [locate]
    split_ifs
    · rfl
    · exact hwalk
  refine .tooLong ?_
  rw [entry, hlocate]

/-! ## What a path is expanded to -/

theorem mem_filesBelow {place : Place} {way : List Name} (h : way ∈ t.filesBelow place) :
    t.isFile (place ++ way) = true ∧ t.shows place way = true ∧
      ∃ entry ∈ t.entries, entry.1 = place ++ way := by
  obtain ⟨⟨other, entry⟩, hmem, hway⟩ := List.mem_filterMap.mp h
  dsimp only at hway
  split_ifs at hway with hcondition
  obtain ⟨hfile, hshown⟩ := Bool.and_eq_true_iff.mp hcondition
  obtain ⟨hbegins, hfile⟩ := Bool.and_eq_true_iff.mp hfile
  obtain ⟨more, rfl⟩ := List.isPrefixOf_iff_prefix.mp hbegins
  obtain rfl := Option.some.inj hway
  rw [List.drop_left] at hshown ⊢
  exact ⟨hfile, hshown, _, hmem, rfl⟩

/-- **What a path is expanded to**: itself, or, if it is a directory, paths of files in it. -/
theorem expand_cases {p : Path} {files : List Path} (h : t.expand p = .ok files) :
    files = [p] ∨ ∃ place, t.LeadsTo p place ∧ ∀ q ∈ files, ∃ way, q = p.extend (wayText way) ∧
      t.isFile (place ++ way) = true ∧ t.shows place way = true ∧
        ∃ entry ∈ t.entries, entry.1 = place ++ way := by
  rw [expand] at h
  split_ifs at h
  · cases h
    exact .inl rfl
  · cases hanswer : t.isDirectory p with
    | error error => simp [hanswer] at h
    | ok answer =>
      rw [hanswer] at h
      cases answer with
      | false =>
        cases h
        exact .inl rfl
      | true =>
        have hentry := isDirectory_eq_ok_true_iff.mp hanswer
        obtain ⟨place, hplace⟩ := entry_eq_directory_iff.mp hentry
        refine .inr ⟨place, hplace, fun q hq => ?_⟩
        dsimp only at h
        rw [sourcesBelow, hplace.locate] at h
        dsimp only at h
        split at h
        · cases h
        · cases h
          obtain ⟨names, hnames, rfl⟩ := List.mem_map.mp hq
          obtain ⟨way, hway, rfl⟩ := List.mem_map.mp (List.mem_mergeSort.mp hnames)
          exact ⟨way, rfl, mem_filesBelow (List.mem_filter.mp hway).1⟩

/-- A listing that is not allowed shows nothing below the directory. -/
theorem way_eq_nil_of_shows {place : Place} {way : List Name}
    (hread : t.allows place .read = false) (h : t.shows place way = true) : way = [] := by
  cases way with
  | nil => rfl
  | cons name rest =>
    cases rest with
    | nil => simp [shows, hread] at h
    | cons second rest => simp [shows, hread] at h

/-- **A directory that cannot be listed** stands for no files, and for nothing that has failed. -/
theorem expand_of_passedOver {p : Path} (hfault : p.fault? = none) (h : t.PassedOver p) :
    t.expand p = .ok [] := by
  obtain ⟨place, hplace, hread⟩ := h
  have hclear : ∀ way, way ≠ [] → t.Sees place way →
      (t.find? (place ++ way) = some .directory ∨ isSourceWay way = true) →
        t.IsClear p place way :=
    fun way hne hseen _ => absurd (way_eq_nil_of_shows hread hseen.2) hne
  have hempty : t.filesBelow place = [] := by
    refine List.eq_nil_iff_forall_not_mem.mpr fun way hway => ?_
    obtain ⟨hfile, hshown, -⟩ := mem_filesBelow hway
    rw [way_eq_nil_of_shows hread hshown, List.append_nil, isFile, hplace.directory] at hfile
    cases hfile
  obtain ⟨files, hfiles⟩ := (exists_sourcesBelow_iff hplace.locate).mpr hclear
  have hanswer := isDirectory_eq_ok_true_iff.mpr (entry_eq_directory_iff.mpr ⟨place, hplace⟩)
  rw [expand, hfault, if_neg (by simp), hanswer]
  dsimp only
  rw [hfiles]
  rw [sourcesBelow, hplace.locate] at hfiles
  dsimp only at hfiles
  split at hfiles
  · cases hfiles
  · rw [← hfiles, hempty]
    simp

theorem collect_cons_eq_ok_iff {p : Path} {rest files : List Path} :
    t.collect (p :: rest) = .ok files ↔ ∃ found more, t.expand p = .ok found ∧
      t.collect rest = .ok more ∧ files = found ++ more := by
  rw [collect]
  cases t.expand p with
  | error crash => simp
  | ok found =>
    cases t.collect rest with
    | error crash => simp
    | ok more => simp [eq_comm]

/-- Files are found if each path can be expanded. -/
theorem exists_collect_iff {paths : List Path} :
    (∃ files, t.collect paths = .ok files) ↔ ∀ p ∈ paths, ∃ files, t.expand p = .ok files := by
  induction paths with
  | nil => simp [collect]
  | cons p rest ih =>
    rw [List.forall_mem_cons, ← ih]
    constructor
    · rintro ⟨files, h⟩
      obtain ⟨found, more, hfound, hmore, -⟩ := collect_cons_eq_ok_iff.mp h
      exact ⟨⟨found, hfound⟩, more, hmore⟩
    · rintro ⟨⟨found, hfound⟩, more, hmore⟩
      exact ⟨_, collect_cons_eq_ok_iff.mpr ⟨found, more, hfound, hmore, rfl⟩⟩

theorem mem_collect_iff {paths files : List Path} {q : Path} (h : t.collect paths = .ok files) :
    q ∈ files ↔ ∃ p ∈ paths, ∃ found, t.expand p = .ok found ∧ q ∈ found := by
  induction paths generalizing files with
  | nil =>
    cases h
    simp
  | cons p rest ih =>
    obtain ⟨found, more, hfound, hmore, rfl⟩ := collect_cons_eq_ok_iff.mp h
    simp [ih hmore, hfound]

/-! ## Names of the files -/

/-- The names of all entries are names that a file system takes: neither empty nor a dot, and
without slashes and null bytes. -/
def ProperNames (t : Tree) : Prop :=
  ∀ entry ∈ t.entries, ∀ name ∈ entry.1, name ≠ [] ∧ name ≠ [0x2e] ∧ 0x2f ∉ name ∧ 0 ∉ name

instance (t : Tree) : Decidable t.ProperNames :=
  inferInstanceAs (Decidable (∀ entry ∈ t.entries, ∀ name ∈ entry.1, _ ∧ _))

theorem exists_extend_of_mem_collect {paths files : List Path} {q : Path}
    (h : t.collect paths = .ok files) (hq : q ∈ files) :
    ∃ p ∈ paths, ∃ way, q = p.extend (wayText way) ∧
      ∀ name ∈ way, ∃ entry ∈ t.entries, name ∈ entry.1 := by
  obtain ⟨p, hp, found, hfound, hmem⟩ := (mem_collect_iff h).mp hq
  rcases expand_cases hfound with rfl | ⟨place, -, hbelow⟩
  · exact ⟨p, hp, [], by simp [Path.extend, wayText, List.mem_singleton.mp hmem], by simp⟩
  · obtain ⟨way, hway, -, -, entry, hentry, hplace⟩ := hbelow q hmem
    refine ⟨p, hp, way, hway, fun name hname => ⟨entry, hentry, ?_⟩⟩
    rw [hplace]
    exact List.mem_append_right place hname

/-- **The files of a batch** have proper paths. -/
theorem ProperNames.of_mem_collect (hnames : t.ProperNames) {paths files : List Path}
    (hpaths : ∀ p ∈ paths, p.Proper) (h : t.collect paths = .ok files) {q : Path}
    (hq : q ∈ files) : q.Proper := by
  obtain ⟨p, hp, way, rfl, hway⟩ := exists_extend_of_mem_collect h hq
  refine (hpaths p hp).extend (List.forall_mem_map.mpr fun name hname => ?_)
  obtain ⟨entry, hentry, hmem⟩ := hway name hname
  obtain ⟨hne, hdot, hslash, -⟩ := hnames entry hentry name hmem
  exact properName_ofBytes hne hdot hslash

/-- The files of a batch have no faults, if the paths have none. -/
theorem ProperNames.fault?_eq_none (hnames : t.ProperNames) {paths files : List Path}
    (hpaths : ∀ p ∈ paths, p.fault? = none) (h : t.collect paths = .ok files) {q : Path}
    (hq : q ∈ files) : q.fault? = none := by
  obtain ⟨p, hp, way, rfl, hway⟩ := exists_extend_of_mem_collect h hq
  refine Path.fault?_extend (hpaths p hp) (List.forall_mem_map.mpr fun name hname g hg => ?_)
  obtain ⟨entry, hentry, hmem⟩ := hway name hname
  refine ⟨LooseText.hasBytes_of_mem_ofBytes hg, ?_⟩
  rintro rfl
  exact (hnames entry hentry name hmem).2.2.2
    (LooseText.encode_subset_of_mem_ofBytes hg (by decide))

end Tree

end Files

end Docwright
