import Mathlib
import PathHeader.Proofs.Decoding
import PathHeader.Proofs.Endings

/-! Lower case by the full Unicode rules, and levels. Outside ASCII only the Kelvin sign becomes a
letter of ASCII and nothing else. No level has a k in its name, so that all spellings are in ASCII.
-/
namespace PathHeader

namespace Text

variable {c : Char} {run : CaseRun} {t word : Text}

namespace CaseRun

def latin : CaseRun := ⟨0x41, 0x5a, 1, 32⟩

/-- The sign of the unit, whose small letter is the common k. -/
def kelvin : CaseRun := ⟨0x212a, 0x212a, 1, -8383⟩

/-- The run lies outside ASCII, and so do its small letters. -/
def Wide (run : CaseRun) : Prop :=
  0x80 ≤ run.first ∧ 0x80 ≤ run.first + run.shift ∧
    (run.last + run.shift < 0xd800 ∨
      0xdfff < run.first + run.shift ∧ run.last + run.shift < 0x110000)

instance (run : CaseRun) : Decidable run.Wide := inferInstanceAs (Decidable (_ ∧ _ ∧ _))

theorem mem_caseRuns : ∀ run ∈ caseRuns, run = latin ∨ run = kelvin ∨ run.Wide := by
  decide +kernel

theorem latin_mem_caseRuns : latin ∈ caseRuns := List.mem_cons_self

theorem of_find? {n : Nat}
    (found : caseRuns.find? (fun run => decide (run.Covers n)) = some run) :
    run.Covers n ∧ (run = latin ∨ run = kelvin ∨ run.Wide) :=
  ⟨by simpa using List.find?_some found, mem_caseRuns run (List.mem_of_find?_eq_some found)⟩

theorem Wide.toNat_small (wide : run.Wide) {n : Nat} (covers : run.Covers n) :
    0x80 ≤ (Char.ofNat (n + run.shift).toNat).toNat := by
  obtain ⟨first, small, valid⟩ := wide
  obtain ⟨above, below, _⟩ := covers
  rw [Utf8.toNat_ofNat (by omega)]
  omega

end CaseRun

theorem isUpper_iff_covers (c : Char) : c.isUpper = true ↔ CaseRun.latin.Covers c.toNat := by
  simp [Char.isUpper, UInt32.le_iff_toNat_le, CaseRun.Covers, CaseRun.latin, Nat.mod_one]

theorem toLower_of_wide (wide : 0x80 ≤ c.toNat) : c.toLower = c := by
  apply Char.toLower_eq_of_not_isUpper
  rw [isUpper_iff_covers]
  rintro ⟨_, below, _⟩
  exact absurd (Nat.le_trans wide below) (by decide)

/-- In ASCII only the capital letters have small ones. -/
theorem lowerChar_of_ascii (ascii : c.toNat < 0x80) : lowerChar c = [c.toLower] := by
  rw [lowerChar, if_neg (by omega)]
  cases found : caseRuns.find? fun run => decide (run.Covers c.toNat) with
  | none =>
    rw [List.find?_eq_none] at found
    have small := found _ CaseRun.latin_mem_caseRuns
    rw [decide_eq_true_eq, ← isUpper_iff_covers] at small
    rw [Char.toLower_eq_of_not_isUpper small]
  | some run =>
    obtain ⟨covers, rfl | rfl | wide⟩ := CaseRun.of_find? found
    · rw [Char.toLower_eq_of_isUpper ((isUpper_iff_covers c).mpr covers)]
      rfl
    · exact absurd (Nat.lt_of_le_of_lt covers.1 ascii) (by decide)
    · exact absurd (Nat.lt_of_le_of_lt (Nat.le_trans wide.1 covers.1) ascii) (Nat.lt_irrefl _)

/-- The lower case of a character outside ASCII has one outside ASCII in it, or is a k. -/
theorem exists_wide_of_lowerChar (wide : 0x80 ≤ c.toNat) :
    ∃ d ∈ lowerChar c, 0x80 ≤ d.toNat ∨ d = 'k' := by
  rw [lowerChar]
  split
  · exact ⟨'\u0307', by simp, .inl (by decide)⟩
  · split
    · next run found =>
      obtain ⟨covers, rfl | rfl | runs⟩ := CaseRun.of_find? found
      · exact absurd (Nat.le_trans wide covers.2.1) (by decide)
      · have kelvin : c.toNat = 0x212a := Nat.le_antisymm covers.2.1 covers.1
        exact ⟨'k', by rw [kelvin]; decide, .inr rfl⟩
      · exact ⟨_, List.mem_singleton_self _, .inl (runs.toNat_small covers)⟩
    · exact ⟨c, List.mem_singleton_self c, .inl wide⟩

theorem lowerAfter_of_ascii (ascii : ∀ c ∈ t, c.toNat < 0x80) (before : Text) :
    lowerAfter before t = t.map Char.toLower := by
  induction t generalizing before with
  | nil => rfl
  | cons c rest ih =>
    obtain ⟨first, others⟩ := List.forall_mem_cons.mp ascii
    have noSigma : c ≠ 'Σ' := by
      rintro rfl
      exact absurd first (by decide)
    simp only [lowerAfter, if_neg noSigma, lowerChar_of_ascii first, ih others, List.map_cons,
      List.singleton_append]

/-- A sigma at the end of a word is still none of ASCII. -/
theorem exists_wide_of_lowerAfter (inside : c ∈ t) (wide : 0x80 ≤ c.toNat) (before : Text) :
    ∃ d ∈ lowerAfter before t, 0x80 ≤ d.toNat ∨ d = 'k' := by
  induction t generalizing before with
  | nil => cases inside
  | cons first rest ih =>
    simp only [lowerAfter, List.mem_append]
    rcases List.mem_cons.mp inside with rfl | later
    · split_ifs with sigma final
      · exact ⟨'ς', .inl (List.mem_singleton_self _), .inl (by decide)⟩
      · exact ⟨'σ', .inl (List.mem_singleton_self _), .inl (by decide)⟩
      · obtain ⟨d, small, shown⟩ := exists_wide_of_lowerChar wide
        exact ⟨d, .inl small, shown⟩
    · obtain ⟨d, small, shown⟩ := ih later (first :: before)
      exact ⟨d, .inr small, shown⟩

theorem ascii_of_map_toLower (plain : ∀ c ∈ word, c.toNat < 0x80)
    (same : t.map Char.toLower = word) : ∀ c ∈ t, c.toNat < 0x80 := by
  intro c inside
  by_contra outside
  have wide := Nat.le_of_not_lt outside
  have kept : c ∈ word := same ▸ List.mem_map.mpr ⟨c, inside, toLower_of_wide wide⟩
  exact outside (plain c kept)

/-- A word of ASCII without a k is the lower case of its own spellings in ASCII, and of no other
text, whatever stands in that. -/
theorem lower_eq_iff (plain : ∀ c ∈ word, c.toNat < 0x80 ∧ c ≠ 'k') :
    lower t = word ↔ t.map Char.toLower = word := by
  by_cases ascii : ∀ c ∈ t, c.toNat < 0x80
  · rw [lower, lowerAfter_of_ascii ascii]
  · constructor
    · rintro rfl
      push Not at ascii
      obtain ⟨c, inside, wide⟩ := ascii
      obtain ⟨d, small, outside | rfl⟩ := exists_wide_of_lowerAfter inside wide []
      · exact absurd (plain d small).1 (Nat.not_lt.mpr outside)
      · exact absurd rfl (plain 'k' small).2
    · intro same
      exact absurd (ascii_of_map_toLower (fun c inside => (plain c inside).1) same) ascii

end Text

namespace Level

variable {t : Text} {level : Level}

/-- The text is the name of the level, in letters of either case. -/
def Spells (t : Text) (level : Level) : Prop := t.map Char.toLower = level.name.map Char.toLower

theorem ascii_name (level : Level) :
    ∀ c ∈ level.name.map Char.toLower, c.toNat < 0x80 ∧ c ≠ 'k' := by
  cases level <;> simp [name]

theorem Spells.ascii (spells : Spells t level) : ∀ c ∈ t, c.toNat < 0x80 :=
  Text.ascii_of_map_toLower (fun c inside => (ascii_name level c inside).1) spells

/-- Lower case by the full rules makes no further text the name of a level. -/
theorem spells_iff : Spells t level ↔ Text.lower t = level.name.map Char.toLower :=
  (Text.lower_eq_iff (ascii_name level)).symm

theorem parse_eq_ok_iff : Level.parse t = .ok level ↔ Spells t level := by
  rw [spells_iff, Level.parse]
  generalize Text.lower t = small
  constructor
  · intro read
    split_ifs at read with error warn info debug <;> cases read
    · exact error
    · exact warn
    · exact info
    · exact debug
  · rintro rfl
    cases level <;> rfl

theorem lower_mem_spellings_iff : Text.lower t ∈ spellings ↔ ∃ level, Spells t level := by
  rw [← exists_parse_iff]
  exact exists_congr fun level => parse_eq_ok_iff

end Level

theorem Config.problem?_logLevel_iff (config : Config) (t : Text) :
    ({ config with logLevel := t } : Config).problem? = none ↔
      ({ config with logLevel := Config.default.logLevel } : Config).problem? = none ∧
        ∃ level, Level.Spells t level := by
  have passes : Text.lower Config.default.logLevel ∈ Level.spellings := by decide
  rw [problem?_eq_none_iff, problem?_eq_none_iff, ← Level.lower_mem_spellings_iff]
  constructor
  · rintro ⟨marker, excludedDirs, logLevel⟩
    exact ⟨⟨marker, excludedDirs, passes⟩, logLevel⟩
  · rintro ⟨⟨marker, excludedDirs, _⟩, logLevel⟩
    exact ⟨marker, excludedDirs, logLevel⟩

/-- Setting up the log fails over its level exactly if the level cannot be read. -/
theorem Log.exists_badLevel_iff (call : Call) (fs : FileSystem) (config : Config) :
    (∃ small, Log.setUp call fs config = .error (.badLevel small)) ↔
      ¬ ∃ level, Level.Spells config.logLevel level := by
  simp only [← Level.parse_eq_ok_iff, Log.setUp]
  cases Level.parse config.logLevel with
  | error small => simp
  | ok level =>
    cases config.logFile with
    | none => simp
    | some path =>
      cases fs.resolve call.directory with
      | error cause => simp
      | ok directory =>
        dsimp only
        cases fs.hold directory path <;> simp

/-- Levels are checked twice, with the settings and when the log is set up, and both times the same
ones pass: the four names, in letters of ASCII and of either case. Settings that pass otherwise do
so with such a level and with no other, and setting up the log fails over every other level. No text
with a character outside ASCII is a level, whatever its lower case. -/
theorem Level.checked_alike (t : Text) :
    (∀ level, Level.parse t = .ok level ↔ Spells t level) ∧
    (∀ config : Config, ({ config with logLevel := t } : Config).problem? = none ↔
      ({ config with logLevel := Config.default.logLevel } : Config).problem? = none ∧
        ∃ level, Spells t level) ∧
    (∀ (call : Call) (fs : FileSystem) (config : Config),
      (∃ small, Log.setUp call fs { config with logLevel := t } = .error (.badLevel small)) ↔
        ¬ ∃ level, Spells t level) ∧
    ((∃ level, Spells t level) → ∀ c ∈ t, c.toNat < 0x80) := by
  refine ⟨fun level => parse_eq_ok_iff, fun config => config.problem?_logLevel_iff t, ?_, ?_⟩
  · intro call fs config
    exact Log.exists_badLevel_iff call fs { config with logLevel := t }
  · rintro ⟨level, spells⟩
    exact spells.ascii

/-- The small letters of the capital I with a dot begin with an i, and are no i. -/
example : Level.parse "WaRn".toList = .ok .warn ∧
    Level.parse "İnfo".toList = .error "i\u0307nfo".toList := by decide +kernel

end PathHeader
