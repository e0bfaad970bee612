import PathHeader.Proofs.Layering
import PathHeader.Proofs.Segments
import PathHeader.Proofs.Splitting

/-! Lists of names with commas. A list is read as the names that its items spell, where an item is a
name between blanks or all blank. What is read is trimmed and whole, so that only a separator of
paths can be wrong with it. -/
namespace PathHeader

namespace Text

variable {t front back : Text}

theorem trimStart_eq_self (solid : ∀ c ∈ t.head?, isBlank c = false) : trimStart t = t := by
  rw [trimStart, List.dropWhile_eq_self_iff]
  intro filled
  rw [solid _ (by rw [List.head?_eq_getElem?, List.getElem?_eq_getElem filled]; rfl)]
  exact Bool.false_ne_true

theorem head?_trimStart (t : Text) : ∀ c ∈ (trimStart t).head?, isBlank c = false := by
  intro c first
  have solid := List.head?_dropWhile_not isBlank t
  rwa [show (t.dropWhile isBlank).head? = some c from first] at solid

theorem head?_trim (t : Text) : ∀ c ∈ (trim t).head?, isBlank c = false := by
  intro c first
  refine head?_trimStart t c ?_
  obtain ⟨rest, split⟩ := trimEnd_prefix (trimStart t)
  rw [← split, List.head?_append, show (trimEnd (trimStart t)).head? = some c from first]
  rfl

/-- Trimming takes away nothing but blanks. -/
theorem exists_trim (t : Text) : ∃ front back, t = front ++ trim t ++ back ∧
    ∀ c ∈ front ++ back, isBlank c = true := by
  refine ⟨t.takeWhile isBlank, (trimStart t).rtakeWhile isBlank, ?_, ?_⟩
  · rw [trim, trimEnd_eq_rdropWhile, List.append_assoc, List.rdropWhile_append_rtakeWhile,
      trimStart, List.takeWhile_append_dropWhile]
  · intro c taken
    rcases List.mem_append.mp taken with before | after
    · exact List.mem_takeWhile_imp before
    · exact List.mem_rtakeWhile_imp after

theorem trim_padded (isBlanks : ∀ c ∈ front ++ back, isBlank c = true) (filled : t ≠ [])
    (begins : ∀ c ∈ t.head?, isBlank c = false) (ends : ∀ c ∈ t.getLast?, isBlank c = false) :
    trim (front ++ t ++ back) = t := by
  rw [List.forall_mem_append] at isBlanks
  obtain ⟨before, after⟩ := isBlanks
  have begun : ∀ c ∈ (t ++ back).head?, isBlank c = false := by
    rwa [List.head?_append_of_ne_nil t filled]
  rw [trim, List.append_assoc, trimStart, List.dropWhile_append_of_pos before, ← trimStart,
    trimStart_eq_self begun, trimEnd_append after, trimEnd_eq_self ends]

theorem trim_eq_nil_iff : trim t = [] ↔ ∀ c ∈ t, isBlank c = true := by
  constructor
  · intro empty
    obtain ⟨front, back, split, isBlanks⟩ := exists_trim t
    rw [split, empty, List.append_nil]
    exact isBlanks
  · intro isBlanks
    rw [trim, trimStart, List.dropWhile_eq_nil_iff.mpr isBlanks]
    rfl

end Text

namespace Layer

variable {list name : Text} {items listed : List Text}

/-- What a list can hold as one name. -/
structure Listable (name : Text) : Prop where
  filled : name ≠ []
  whole : ',' ∉ name
  begins : ∀ c ∈ name.head?, Text.isBlank c = false
  ends : ∀ c ∈ name.getLast?, Text.isBlank c = false

/-- Items as they are written, and the names in them. -/
inductive Spells : List Text → List Text → Prop
  | nil : Spells [] []
  | blank {item : Text} {items listed : List Text} :
      (∀ c ∈ item, Text.isBlank c = true) → Spells items listed → Spells (item :: items) listed
  | name {front name back : Text} {items listed : List Text} :
      (∀ c ∈ front ++ back, Text.isBlank c = true) → Listable name → Spells items listed →
      Spells ((front ++ name ++ back) :: items) (name :: listed)

theorem comma_notMem_of_isBlank {t : Text} (isBlanks : ∀ c ∈ t, Text.isBlank c = true) :
    ',' ∉ t := by
  intro inside
  exact absurd (isBlanks ',' inside) (by decide)

namespace Spells

theorem listable (spells : Spells items listed) : ∀ name ∈ listed, Listable name := by
  induction spells with
  | nil => nofun
  | blank _ _ ih => exact ih
  | name _ listable _ ih => exact List.forall_mem_cons.mpr ⟨listable, ih⟩

theorem whole (spells : Spells items listed) : ∀ item ∈ items, ',' ∉ item := by
  induction spells with
  | nil => nofun
  | blank isBlanks _ ih => exact List.forall_mem_cons.mpr ⟨comma_notMem_of_isBlank isBlanks, ih⟩
  | name isBlanks listable _ ih =>
    have noise := comma_notMem_of_isBlank isBlanks
    refine List.forall_mem_cons.mpr ⟨?_, ih⟩
    simp only [List.mem_append, not_or] at noise ⊢
    exact ⟨⟨noise.1, listable.whole⟩, noise.2⟩

/-- Names spell themselves. -/
theorem refl (listable : ∀ name ∈ listed, Listable name) : Spells listed listed := by
  induction listed with
  | nil => exact .nil
  | cons name rest ih =>
    obtain ⟨first, others⟩ := List.forall_mem_cons.mp listable
    have spelled : Spells (([] ++ name ++ []) :: rest) (name :: rest) :=
      .name nofun first (ih others)
    simpa using spelled

theorem filter_trim (spells : Spells items listed) :
    (items.map Text.trim).filter (· ≠ []) = listed := by
  induction spells with
  | nil => rfl
  | blank isBlanks _ ih =>
    rw [List.map_cons, Text.trim_eq_nil_iff.mpr isBlanks]
    exact ih
  | name isBlanks listable _ ih =>
    rw [List.map_cons, Text.trim_padded isBlanks listable.filled listable.begins listable.ends,
      List.filter_cons_of_pos (by simpa using listable.filled), ih]

end Spells

/-- Items without commas spell something, whatever they are. -/
theorem spells_filter_trim (whole : ∀ item ∈ items, ',' ∉ item) :
    Spells items ((items.map Text.trim).filter (· ≠ [])) := by
  induction items with
  | nil => exact .nil
  | cons item rest ih =>
    obtain ⟨first, others⟩ := List.forall_mem_cons.mp whole
    rw [List.map_cons]
    by_cases empty : Text.trim item = []
    · rw [List.filter_cons_of_neg (by simpa using empty)]
      exact .blank (Text.trim_eq_nil_iff.mp empty) (ih others)
    · rw [List.filter_cons_of_pos (by simpa using empty)]
      obtain ⟨front, back, split, isBlanks⟩ := Text.exists_trim item
      have listable : Listable (Text.trim item) := by
        refine ⟨empty, ?_, Text.head?_trim item, Text.getLast?_trimEnd _⟩
        rw [split] at first
        simp only [List.mem_append, not_or] at first
        exact first.1.2
      have spelled := Spells.name isBlanks listable (ih others)
      rwa [← split] at spelled

/-- Reading a list is the inverse of writing it. -/
theorem names_eq_iff : names list = listed ↔
    ∃ items, Spells items listed ∧ Text.joinWith [','] items = list := by
  constructor
  · rintro rfl
    exact ⟨Text.splitOn ',' list, spells_filter_trim fun _ => Text.notMem_of_mem_splitOn,
      Text.joinWith_splitOn ',' list⟩
  · rintro ⟨items, spells, rfl⟩
    by_cases given : items = []
    · subst given
      cases spells
      rfl
    · rw [names, Text.splitOn_joinWith given spells.whole, spells.filter_trim]

theorem listable_of_mem_names (found : name ∈ names list) : Listable name := by
  obtain ⟨items, spells, _⟩ := names_eq_iff.mp (rfl : names list = names list)
  exact spells.listable name found

end Layer

namespace Config

variable {lookup : Text → Option Text} {list : Text}

theorem excludedDirs_overlay (base : Config)
    (set : lookup Layer.excludedDirsVariable = some list) :
    (base.overlay (.ofEnvironment lookup)).excludedDirs = Layer.names list := by
  rw [overlay, Layer.ofEnvironment, set]
  rfl

/-- A variable with a list sets exactly the names that are written in it, in their order: names that
are joined by commas, with blanks around them and blank items among them as one likes. Whatever its
value, it sets nothing but trimmed names without commas, and the check has nothing against them but
the separators of paths. -/
theorem excludedDirs_of_variable (base : Config)
    (set : lookup Layer.excludedDirsVariable = some list) :
    let config := base.overlay (.ofEnvironment lookup)
    (∀ names, config.excludedDirs = names ↔
      ∃ items, Layer.Spells items names ∧ Text.joinWith [','] items = list) ∧
    (∀ names, (∀ name ∈ names, Layer.Listable name) → Text.joinWith [','] names = list →
      config.excludedDirs = names) ∧
    (∀ name ∈ config.excludedDirs, Layer.Listable name) ∧
    ((∀ name ∈ config.excludedDirs, isDirectoryName name = true) ↔
      ∀ name ∈ config.excludedDirs, '/' ∉ name ∧ '\\' ∉ name) ∧
    ∀ name, config.problem? = some (.notDirectoryName name) →
      name ∈ config.excludedDirs ∧ ('/' ∈ name ∨ '\\' ∈ name) := by
  intro config
  have read : config.excludedDirs = Layer.names list := excludedDirs_overlay base set
  have listable : ∀ name ∈ config.excludedDirs, Layer.Listable name := by
    rw [read]
    exact fun name => Layer.listable_of_mem_names
  refine ⟨?_, ?_, listable, ?_, ?_⟩
  · intro names
    rw [read]
    exact Layer.names_eq_iff
  · intro names each joined
    rw [read]
    exact Layer.names_eq_iff.mpr ⟨names, .refl each, joined⟩
  · refine forall₂_congr fun name found => ?_
    rw [isDirectoryName_iff]
    exact and_iff_right (listable name found).filled
  · intro name refused
    obtain ⟨found, wrong⟩ := blames_of_problem refused
    exact ⟨found, wrong.resolve_left (listable name found).filled⟩

/-- Blanks that are not ASCII count as well. -/
theorem two_names_listed :
    let lookup := fun name => if name = Layer.excludedDirsVariable
      then some " vendor,,\u00a0target build ,\u2003".toList else none
    lookup Layer.excludedDirsVariable = some " vendor,,\u00a0target build ,\u2003".toList ∧
    (default.overlay (.ofEnvironment lookup)).excludedDirs =
      ["vendor".toList, "target build".toList] := by
  intro lookup
  have set : lookup Layer.excludedDirsVariable =
      some " vendor,,\u00a0target build ,\u2003".toList := rfl
  refine ⟨set, ((excludedDirs_of_variable default set).1 _).mpr ?_⟩
  have vendor : Layer.Listable "vendor".toList :=
    ⟨by decide, by decide, by rintro _ ⟨⟩; rfl, by rintro _ ⟨⟩; rfl⟩
  have build : Layer.Listable "target build".toList :=
    ⟨by decide, by decide, by rintro _ ⟨⟩; rfl, by rintro _ ⟨⟩; rfl⟩
  have space : ∀ c ∈ [' '], Text.isBlank c = true := List.forall_mem_singleton.mpr rfl
  have last : Layer.Spells ["\u2003".toList] [] :=
    .blank (List.forall_mem_singleton.mpr rfl) .nil
  have second : Layer.Spells [['\u00a0'] ++ "target build".toList ++ [' '], "\u2003".toList]
      ["target build".toList] := .name (List.forall_mem_cons.mpr ⟨rfl, space⟩) build last
  have first : Layer.Spells [[' '] ++ "vendor".toList ++ [], [],
      ['\u00a0'] ++ "target build".toList ++ [' '], "\u2003".toList]
      ["vendor".toList, "target build".toList] := .name space vendor (.blank nofun second)
  exact ⟨_, first, by decide⟩

end Config

end PathHeader
