import Docwright.Proofs.LetterCase
import Docwright.Proofs.NumberValue
import Docwright.Settings

/-!
# Settings that can be used

Settings are **usable** (`Usable`) if the timeout is above zero, the temperature is in its range and
the log level is known. Settings that the environment asks for go through three checks, and each of
them has to answer for more than the texts it was written for:

* a log level is put in upper case before it is kept and once more before it is checked, which is
  the same thing where the result is ASCII (`upper_upper_of_ascii`);
* a temperature has to lie *within* its range, and the non-number lies in none;
* a timeout must not lie *at or below* zero, and the non-number does not (`check_eq_ok_iff`).

So the settings that are read are usable if the timeout has a value (`usable_of_ofEnvironment`), and
it has none exactly if the non-number is spelt out for it and nothing else is wrong
(`slipsThrough_iff`).
-/

namespace Docwright

namespace Settings

/-- Settings that can be used. -/
structure Usable (s : Settings) : Prop where
  /-- a request may take some time -/
  timeout : s.timeout.Above 0
  /-- the temperature is in its range -/
  temperature : s.temperature.Within 0 2
  /-- the log level is known -/
  logLevel : s.logLevel ∈ logLevels

/-- **The settings that pass the checks**. The timeout alone need not have a value. -/
theorem check_eq_ok_iff {s t : Settings} :
    check s = .ok t ↔ s = t ∧ (s.timeout = .binary .nan ∨ s.timeout.Above 0) ∧
      s.temperature.Within 0 2 ∧ upperText s.logLevel ∈ logLevels := by
  rw [← Number.atMost_eq_false_iff, Number.within_iff, check]
  split_ifs with htimeout htemperature hlevel
  · simp [htimeout]
  · simp only [Bool.not_eq_true', Bool.and_eq_false_iff] at htemperature
    rcases htemperature with h | h <;> simp [h]
  · simp only [Bool.not_eq_true', List.contains_eq_mem, decide_eq_false_iff_not] at hlevel
    simp [hlevel]
  · simp_all

theorem upperText_of_mem_logLevels {level : String} (h : level ∈ logLevels) :
    upperText level = level := by
  have hlevels : ∀ level ∈ logLevels, upperText level = level := by decide +kernel
  exact hlevels level h

/-- A text in upper case that is a log level in upper case is one already. -/
theorem mem_logLevels_of_upperText {s : String} (h : upperText (upperText s) ∈ logLevels) :
    upperText s ∈ logLevels := by
  have hlevels : ∀ level ∈ logLevels, level.toList.all (·.toNat < 0x80) = true := by decide +kernel
  -- the level that was found is ASCII, so the text was in upper case for good after the first time
  have hascii := hlevels _ h
  simp only [upperText, String.toList_ofList, List.all_eq_true, decide_eq_true_eq] at hascii
  have hsettled := Text.upper_upper_of_ascii hascii
  rw [upperText, upperText, String.toList_ofList, hsettled] at h
  exact h

/-- **A variable that reads as the non-number** is one that spells it. -/
theorem number_eq_nan_iff {env : Environment} {key : String} {default : Number}
    (hdefault : default ≠ .binary .nan) :
    number env key default = .ok (.binary .nan) ↔
      ∃ text, env.lookup key = some text ∧ Number.SpellsNan text.toList := by
  unfold number
  split
  next hnone => simp [hnone, hdefault]
  next text hsome =>
    simp only [hsome, Option.some.injEq, exists_eq_left']
    split_ifs with hblank
    · have hspelt : ¬ Number.SpellsNan text.toList := fun hspelt => by
        rw [Number.not_allBlank_of_spellsNan hspelt] at hblank
        cases hblank
      simp [hdefault, hspelt]
    · rw [← Number.binary?_eq_nan_iff]
      split
      next x hx => simp [hx]
      next hnone => simp [hnone]

/-- The settings that the environment asks for, with the numbers that were read. -/
def requested (env : Environment) (temperature timeout : Number) : Settings where
  remoteEnabled := switchedOn env "FUNCDOC_REMOTE"
  apiKey := (given? env "FUNCDOC_API_KEY").or (given? env "OPENAI_API_KEY")
  apiUrl := (given? env "FUNCDOC_API_URL").getD ({} : Settings).apiUrl
  model := (given? env "FUNCDOC_MODEL").getD ({} : Settings).model
  temperature := temperature
  timeout := timeout
  logLevel := upperText ((given? env "FUNCDOC_LOG_LEVEL").getD ({} : Settings).logLevel)

theorem ofEnvironment_eq_ok_iff {env : Environment} {s : Settings} :
    ofEnvironment env = .ok s ↔ ∃ temperature timeout,
      number env "FUNCDOC_TEMPERATURE" ({} : Settings).temperature = .ok temperature ∧
      number env "FUNCDOC_TIMEOUT" ({} : Settings).timeout = .ok timeout ∧
      check (requested env temperature timeout) = .ok s := by
  have hsteps : ofEnvironment env =
      (number env "FUNCDOC_TEMPERATURE" ({} : Settings).temperature).bind fun temperature =>
        (number env "FUNCDOC_TIMEOUT" ({} : Settings).timeout).bind fun timeout =>
          check (requested env temperature timeout) := rfl
  rw [hsteps]
  rcases number env "FUNCDOC_TEMPERATURE" ({} : Settings).temperature with stop | temperature
  · simp [Except.bind]
  · rcases number env "FUNCDOC_TIMEOUT" ({} : Settings).timeout with stop | timeout
    · simp [Except.bind]
    · simp [Except.bind]

/-- Reading settings from the environment fails with a settings error or gives settings that can be
used. -/
def ReadsUsable (env : Environment) : Prop :=
  (∃ error, ofEnvironment env = .error error) ∨ ∃ s, ofEnvironment env = .ok s ∧ s.Usable

/-- A timeout without a value slips through the checks. -/
structure SlipsThrough (env : Environment) : Prop where
  /-- the timeout is spelt as the non-number -/
  timeout : ∃ text, env.lookup "FUNCDOC_TIMEOUT" = some text ∧ Number.SpellsNan text.toList
  /-- the temperature is in its range -/
  temperature : ∃ x, number env "FUNCDOC_TEMPERATURE" ({} : Settings).temperature = .ok x ∧
    x.Within 0 2
  /-- the log level is known -/
  logLevel : upperText ((given? env "FUNCDOC_LOG_LEVEL").getD ({} : Settings).logLevel) ∈ logLevels

/-- Settings that are read are usable if the timeout has a value. -/
theorem usable_of_ofEnvironment {env : Environment} {s : Settings} (h : ofEnvironment env = .ok s)
    (hvalue : s.timeout ≠ .binary .nan) : s.Usable := by
  obtain ⟨temperature, timeout, -, -, hcheck⟩ := ofEnvironment_eq_ok_iff.mp h
  obtain ⟨rfl, htimeout, htemperature, hlevel⟩ := check_eq_ok_iff.mp hcheck
  exact ⟨htimeout.resolve_left hvalue, htemperature, mem_logLevels_of_upperText hlevel⟩

/-- A timeout without a value is read where it slips through, and nowhere else. -/
theorem slipsThrough_iff {env : Environment} :
    SlipsThrough env ↔ ∃ s, ofEnvironment env = .ok s ∧ s.timeout = .binary .nan := by
  have hdefault : ({} : Settings).timeout ≠ .binary .nan := by
    intro h
    exact Binary64.ofDecimal_ne_nan _ _ _ (Number.binary.inj h)
  constructor
  · rintro ⟨htimeout, ⟨temperature, htemperature, hwithin⟩, hlevel⟩
    have hread := (number_eq_nan_iff hdefault).mpr htimeout
    -- the level is in upper case when it is checked, and is put there once more
    have hupper := upperText_of_mem_logLevels hlevel
    refine ⟨requested env temperature (.binary .nan), ofEnvironment_eq_ok_iff.mpr
      ⟨temperature, _, htemperature, hread, check_eq_ok_iff.mpr ⟨rfl, .inl rfl, hwithin, ?_⟩⟩, rfl⟩
    rwa [← hupper] at hlevel
  · rintro ⟨s, hs, hnan⟩
    obtain ⟨temperature, timeout, htemperature, htimeout, hcheck⟩ := ofEnvironment_eq_ok_iff.mp hs
    obtain ⟨rfl, -, hwithin, hlevel⟩ := check_eq_ok_iff.mp hcheck
    obtain rfl : timeout = .binary .nan := hnan
    exact ⟨(number_eq_nan_iff hdefault).mp htimeout, ⟨temperature, htemperature, hwithin⟩,
      mem_logLevels_of_upperText hlevel⟩

/-- Settings without a value for the timeout are not usable. -/
theorem not_readsUsable {env : Environment} {s : Settings} (h : ofEnvironment env = .ok s)
    (hnan : s.timeout = .binary .nan) : ¬ ReadsUsable env := by
  rintro (⟨error, herror⟩ | ⟨t, ht, husable⟩)
  · rw [h] at herror
    cases herror
  · obtain rfl := Except.ok.inj (h.symm.trans ht)
    obtain ⟨v, hv, -⟩ := husable.timeout
    rw [hnan] at hv
    cases hv

/-- **Settings that are read are usable**, unless a timeout without a value slips through. -/
theorem readsUsable_iff (env : Environment) : ReadsUsable env ↔ ¬ SlipsThrough env := by
  rw [slipsThrough_iff]
  constructor
  · rintro husable ⟨s, hs, hnan⟩
    exact not_readsUsable hs hnan husable
  · intro hnone
    rcases hread : ofEnvironment env with error | s
    · exact .inl ⟨error, hread⟩
    · exact .inr ⟨s, hread, usable_of_ofEnvironment hread fun hnan => hnone ⟨s, hread, hnan⟩⟩

/-- Not all settings that are read are usable: the word for the non-number passes for a timeout. -/
theorem not_readsUsable_of_nan : ¬ ∀ env : Environment, ReadsUsable env := by
  intro h
  have hread : ofEnvironment [("FUNCDOC_TIMEOUT", "nan")] = .ok { timeout := .binary .nan } := by
    decide +kernel
  exact not_readsUsable hread rfl (h _)

end Settings

end Docwright
