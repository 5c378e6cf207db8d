import Mathlib
import Docwright.Files.Path
import Docwright.Proofs.Text

/-!
# Paths and their texts

The names of a path that is read from a text are **proper**: they are not empty, they are not a
single dot, and there is no slash in them. A path with proper names is the path that its own text
spells (`ofText_text`), so such paths can be told apart by their texts.

A name that comes from the disk is the text of its bytes. It is proper if the bytes are a name there
(`properName_ofBytes`), and every glyph of it has bytes (`hasBytes_of_mem_ofBytes`). So a path goes
on without a **fault** where it has none itself (`fault?_extend`).
-/

namespace Docwright

/-! ## Texts of bytes -/

/-- Nothing stands in the way of an encoding that takes every glyph. -/
theorem Text.Utf8.unencodableFrom?_eq_none_iff {takes : Glyph → Bool} {position : Nat}
    {s : LooseText} :
    unencodableFrom? takes position s = none ↔ ∀ g ∈ s, takes g = true := by
  induction s generalizing position with
  | nil => simp [unencodableFrom?]
  | cons g s ih =>
    rw [unencodableFrom?, List.forall_mem_cons]
    by_cases hg : takes g = true
    · rw [if_pos hg, ih, and_iff_right hg]
    · rw [if_neg hg]
      simp [hg]

/-- An ASCII byte is a character by itself. -/
theorem Text.Utf8.firstChar?_of_lt {b : UInt8} (h : b.toNat < 0x80) (rest : List UInt8) :
    ∃ c, firstChar? (b :: rest) = some c := by
  have hascii : ∀ n < 0x80, charOf? [UInt8.ofNat n] = some (Char.ofNat n) := by decide
  have hb := hascii b.toNat h
  rw [UInt8.ofNat_toNat] at hb
  refine ⟨Char.ofNat b.toNat, ?_⟩
  rw [firstChar?, List.findSome?_cons, List.take_succ_cons, List.take_zero, hb]

namespace LooseText

/-- **What is read from bytes has bytes**: characters, and carriers of bytes beyond ASCII. -/
theorem hasBytes_of_mem_ofBytes {bytes : List UInt8} {g : Glyph} (h : g ∈ ofBytes bytes) :
    g.hasBytes = true := by
  rw [ofBytes] at h
  generalize 0 = taken at h
  fun_induction ofBytesFrom taken bytes with
  | case1 => cases h
  | case2 taken b rest ih => exact ih h
  | case3 b rest c hc ih =>
    rcases List.mem_cons.mp h with rfl | h
    · rfl
    · exact ih h
  | case4 b rest hnone ih =>
    rcases List.mem_cons.mp h with rfl | h
    · -- an ASCII byte would have been read as a character
      have hb : 0x80 ≤ b.toNat := by
        by_contra hlow
        obtain ⟨c, hc⟩ := Text.Utf8.firstChar?_of_lt (Nat.not_le.mp hlow) rest
        rw [hnone] at hc
        cases hc
      have := b.toNat_lt
      simp only [Glyph.hasBytes, Glyph.carrier, Bool.and_eq_true, decide_eq_true_eq]
      omega
    · exact ih h

/-- A character that is read from bytes has its bytes among them. -/
theorem encode_subset_of_mem_ofBytes {bytes : List UInt8} {c : Char}
    (h : Glyph.char c ∈ ofBytes bytes) : String.utf8EncodeChar c ⊆ bytes := by
  intro b hb
  rw [← bytes_ofBytes bytes]
  exact List.mem_flatMap.mpr ⟨_, h, hb⟩

theorem ofBytes_injective : Function.Injective ofBytes := fun a b h => by
  rw [← bytes_ofBytes a, h, bytes_ofBytes]

/-- Strings are told apart by their bytes. -/
theorem bytes_ofString_injective : Function.Injective fun s : String => bytes s := by
  intro s t h
  have hbytes : ∀ s : String, s.toList.utf8Encode = (bytes s).toByteArray := fun s => by
    rw [bytes, ofString, ofChars, List.flatMap_map]
    rfl
  have hdecode : s.toList.toArray = t.toList.toArray := Option.some.inj (by
    rw [← List.utf8Decode?_utf8Encode, ← List.utf8Decode?_utf8Encode, hbytes s, hbytes t]
    exact congrArg (fun b : List UInt8 => b.toByteArray.utf8Decode?) h)
  exact String.toList_inj.mp (Array.toList_inj.mpr hdecode)

end LooseText

namespace Files

open LooseText

/-! ## Names -/

/-- A name that can stand between the slashes of a path. -/
def ProperName (name : LooseText) : Prop :=
  Path.isName name = true ∧ Glyph.char '/' ∉ name

instance (name : LooseText) : Decidable (ProperName name) :=
  inferInstanceAs (Decidable (_ ∧ _))

theorem ProperName.exists_cons {name : LooseText} (h : ProperName name) :
    ∃ g s, name = g :: s ∧ g ≠ .char '/' := by
  obtain ⟨hname, hslash⟩ := h
  cases name with
  | nil => simp [Path.isName] at hname
  | cons g s =>
    refine ⟨g, s, rfl, ?_⟩
    rintro rfl
    simp at hslash

/-- **Names on disk are proper** as long as they are names there: neither empty nor a dot, and
without a slash. -/
theorem properName_ofBytes {name : List UInt8} (hne : name ≠ []) (hdot : name ≠ [0x2e])
    (hslash : 0x2f ∉ name) : ProperName (ofBytes name) := by
  refine ⟨?_, fun h => hslash (encode_subset_of_mem_ofBytes h (by decide))⟩
  have hempty : ofBytes name ≠ [] := fun h => hne (ofBytes_injective h)
  have hsingle : ofBytes name ≠ [.char '.'] := fun h => hdot (by
    rw [← bytes_ofBytes name, h]
    decide)
  simp [Path.isName, hempty, hsingle]

namespace Path

/-- A path with proper names. -/
def Proper (p : Path) : Prop :=
  ∀ name ∈ p.names, ProperName name

instance (p : Path) : Decidable p.Proper :=
  inferInstanceAs (Decidable (∀ name ∈ p.names, ProperName name))

theorem Proper.extend {p : Path} (hp : p.Proper) {way : List LooseText}
    (hway : ∀ name ∈ way, ProperName name) : (p.extend way).Proper :=
  fun name hname => (List.mem_append.mp hname).elim (hp name) (hway name)

/-! ## Reading a path -/

theorem proper_ofText (text : LooseText) : (ofText text).Proper := by
  intro name hname
  obtain ⟨hsplit, hisName⟩ := List.mem_filter.mp hname
  exact ⟨hisName, Text.not_mem_of_mem_splitOn hsplit⟩

/-! ## Writing a path and reading it again -/

/-- The names of a path, with slashes between them. -/
def joinedNames (p : Path) : LooseText :=
  Text.join [.char '/'] p.names

theorem joinedNames_eq_nil_or {p : Path} (hp : p.Proper) :
    p.names = [] ∧ p.joinedNames = [] ∨
      p.names ≠ [] ∧ ∃ g s, p.joinedNames = g :: s ∧ g ≠ .char '/' := by
  cases hnames : p.names with
  | nil => exact .inl ⟨rfl, by simp [joinedNames, Text.join, hnames]⟩
  | cons name rest =>
    obtain ⟨g, s, hs, hg⟩ := (hp name (by simp [hnames])).exists_cons
    refine .inr ⟨List.cons_ne_nil _ _, g, ?_⟩
    cases rest with
    | nil => exact ⟨s, by simp [joinedNames, Text.join, hnames, hs], hg⟩
    | cons second rest => exact ⟨_, by simp [joinedNames, Text.join, hnames, hs]; rfl, hg⟩

theorem text_eq (p : Path) :
    p.text = if p.root.text ++ p.joinedNames = [] then [.char '.']
      else p.root.text ++ p.joinedNames := by
  rw [text, joinedNames]
  split_ifs <;> simp_all

/-- A glyph that is no part of the punctuation comes from a name. -/
theorem mem_text_iff {p : Path} {g : Glyph} (hslash : g ≠ .char '/') (hdot : g ≠ .char '.') :
    g ∈ p.text ↔ ∃ name ∈ p.names, g ∈ name := by
  have hroot : g ∉ p.root.text := by
    cases p.root <;> simp [Root.text, hslash]
  rw [text_eq]
  constructor
  · intro h
    split_ifs at h
    · exact absurd (List.mem_singleton.mp h) hdot
    · rcases Text.mem_join ((List.mem_append.mp h).resolve_left hroot) with h | ⟨name, hname, hg⟩
      · exact absurd (List.mem_singleton.mp h) hslash
      · exact ⟨name, hname, hg⟩
  · rintro ⟨name, hname, hg⟩
    have hmem : g ∈ p.joinedNames := Text.subset_join hname hg
    rw [if_neg (fun h => by simp [(List.append_eq_nil_iff.mp h).2] at hmem)]
    exact List.mem_append_right _ hmem

/-- The names that stand in the text of a path are its own. -/
theorem filter_splitOn_joinedNames {p : Path} (hp : p.Proper) :
    (p.joinedNames.splitOn (.char '/')).filter isName = p.names := by
  by_cases hnames : p.names = []
  · simp [joinedNames, Text.join, hnames, isName]
  · rw [joinedNames, Text.join, List.splitOn_intercalate _ (fun s hs => (hp s hs).2) hnames]
    exact List.filter_eq_self.mpr fun s hs => (hp s hs).1

theorem splitOn_slash_cons (s : LooseText) :
    ((.char '/' :: s : LooseText).splitOn (.char '/')).filter isName =
      (s.splitOn (.char '/')).filter isName := by
  simp [List.splitOn_cons_eq_if_modifyHead, isName]

/-- **A proper path is spelled by its text.** -/
theorem ofText_text {p : Path} (hp : p.Proper) : ofText p.text = p := by
  have hnames := filter_splitOn_joinedNames hp
  rw [ofText, text_eq]
  obtain ⟨root, names⟩ := p
  rcases joinedNames_eq_nil_or hp with ⟨hempty, hjoined⟩ | ⟨-, g, s, hjoined, hg⟩
  · obtain rfl : names = [] := hempty
    rw [hjoined]
    cases root <;> rfl
  · rw [hjoined] at hnames ⊢
    cases root with
    | working => simp [Root.text, rootOf, hg, hnames]
    | slash => simp [Root.text, rootOf, hg, splitOn_slash_cons, hnames]
    | doubleSlash => simp [Root.text, rootOf, hg, splitOn_slash_cons, hnames]

/-- Proper paths with one text are one path. -/
theorem eq_of_text_eq {p q : Path} (hp : p.Proper) (hq : q.Proper) (h : p.text = q.text) :
    p = q := by
  rw [← ofText_text hp, ← ofText_text hq, h]

/-! ## Faults -/

/-- What holds of the punctuation holds of a whole path if it holds of the names. -/
theorem forall_mem_text_iff {P : Glyph → Prop} (hslash : P (.char '/')) (hdot : P (.char '.'))
    {p : Path} : (∀ g ∈ p.text, P g) ↔ ∀ name ∈ p.names, ∀ g ∈ name, P g := by
  constructor
  · intro h name hname g hg
    by_cases hpunctuation : g = .char '/' ∨ g = .char '.'
    · rcases hpunctuation with rfl | rfl
      · exact hslash
      · exact hdot
    · obtain ⟨hslash, hdot⟩ := not_or.mp hpunctuation
      exact h g ((mem_text_iff hslash hdot).mpr ⟨name, hname, hg⟩)
  · intro h g hg
    by_cases hpunctuation : g = .char '/' ∨ g = .char '.'
    · rcases hpunctuation with rfl | rfl
      · exact hslash
      · exact hdot
    · obtain ⟨hslash, hdot⟩ := not_or.mp hpunctuation
      obtain ⟨name, hname, hmem⟩ := (mem_text_iff hslash hdot).mp hg
      exact h name hname g hmem

theorem byteless?_eq_none_iff {s : LooseText} :
    Text.Utf8.byteless? s = none ↔ ∀ g ∈ s, g.hasBytes = true :=
  Text.Utf8.unencodableFrom?_eq_none_iff

/-- A glyph that has bytes and is not the null character. -/
def IsPlain (g : Glyph) : Prop :=
  g.hasBytes = true ∧ g ≠ .char '\x00'

instance (g : Glyph) : Decidable (IsPlain g) :=
  inferInstanceAs (Decidable (_ ∧ _))

/-- **A path without a fault**: every glyph of its text, and so of its names, is plain. -/
theorem fault?_eq_none_iff {p : Path} : p.fault? = none ↔ ∀ g ∈ p.text, IsPlain g := by
  have hplain : (∀ g ∈ p.text, IsPlain g) ↔
      (∀ g ∈ p.text, g.hasBytes = true) ∧ Glyph.char '\x00' ∉ p.text :=
    ⟨fun h => ⟨fun g hg => (h g hg).1, fun hnull => (h _ hnull).2 rfl⟩,
      fun h g hg => ⟨h.1 g hg, fun hnull => h.2 (hnull ▸ hg)⟩⟩
  rw [hplain, ← byteless?_eq_none_iff, fault?]
  cases Text.Utf8.byteless? p.text with
  | some error => simp
  | none => simp

/-- The same, said of the names: the punctuation between them is plain. -/
theorem fault?_eq_none_iff_names {p : Path} :
    p.fault? = none ↔ ∀ name ∈ p.names, ∀ g ∈ name, IsPlain g := by
  have hpunctuation : IsPlain (.char '/') ∧ IsPlain (.char '.') := by decide
  rw [fault?_eq_none_iff, forall_mem_text_iff hpunctuation.1 hpunctuation.2]

/-- A way that is plain leads on from a path without a fault. -/
theorem fault?_extend {p : Path} (hp : p.fault? = none) {way : List LooseText}
    (hway : ∀ name ∈ way, ∀ g ∈ name, IsPlain g) : (p.extend way).fault? = none := by
  rw [fault?_eq_none_iff_names] at hp ⊢
  exact fun name hname => (List.mem_append.mp hname).elim (hp name) (hway name)

/-- The last name of a path without a fault has bytes. -/
theorem hasBytes_of_mem_name {p : Path} (hp : p.fault? = none) {g : Glyph} (h : g ∈ p.name) :
    g.hasBytes = true := by
  rw [name] at h
  cases hlast : p.names.getLast? with
  | none =>
    rw [hlast] at h
    cases h
  | some last =>
    rw [hlast] at h
    exact (fault?_eq_none_iff_names.mp hp last (List.mem_of_getLast? hlast) g h).1

end Path

end Files

end Docwright
