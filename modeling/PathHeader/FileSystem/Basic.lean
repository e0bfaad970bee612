import PathHeader.Text.Utf8

/-! A tree of files, directories and symbolic links. Every entry is kept under its place, so that
an operation says directly which places it changes. -/
namespace PathHeader

/-- The names from an entry up to the root, the entry's own name first. The root has none. -/
abbrev Place := List Text

inductive Entry
  | file (bytes : Bytes) (mode : Nat)
  | directory
  /-- A symbolic link and the path that it stands for. -/
  | link (target : Text)
  deriving Repr, DecidableEq

structure FileSystem where
  entries : List (Place × Entry)
  /-- The place of the file that is held open for writing, for as long as that file has one. -/
  held : Option Place := none
  deriving Repr, DecidableEq

namespace FileSystem

def empty : FileSystem := { entries := [] }

/-- The entry at a place, without following links. The root is always a directory. -/
def get? (fs : FileSystem) (place : Place) : Option Entry :=
  if place = [] then some .directory else fs.entries.lookup place

def erase (fs : FileSystem) (place : Place) : FileSystem :=
  { fs with entries := fs.entries.filter fun item => item.1 != place }

def set (fs : FileSystem) (place : Place) (entry : Entry) : FileSystem :=
  { fs with entries := (place, entry) :: (fs.erase place).entries }

theorem lookup_filter_ne (entries : List (Place × Entry)) (place other : Place) :
    (entries.filter fun item => item.1 != place).lookup other =
      if other = place then none else entries.lookup other := by
  induction entries with
  | nil => simp
  | cons item rest ih =>
    obtain ⟨key, entry⟩ := item
    by_cases same : key = place
    · subst same
      by_cases asked : other = key
      · subst asked
        rw [List.filter_cons_of_neg (by simp), ih]
        simp
      · have differs : (other == key) = false := by simpa using asked
        simp [ih, asked, List.lookup_cons, differs]
    · have kept : (key != place) = true := by simpa using same
      by_cases asked : other = key
      · subst asked; simp [kept, same]
      · have differs : (other == key) = false := by simpa using asked
        simp [kept, List.lookup_cons, differs, ih]

theorem get?_erase (fs : FileSystem) {place : Place} (inside : place ≠ []) (other : Place) :
    (fs.erase place).get? other = if other = place then none else fs.get? other := by
  by_cases root : other = []
  · subst root; simp [get?, inside.symm]
  · simp [get?, erase, root, lookup_filter_ne]

theorem get?_set (fs : FileSystem) {place : Place} (inside : place ≠ []) (entry : Entry)
    (other : Place) :
    (fs.set place entry).get? other = if other = place then some entry else fs.get? other := by
  by_cases root : other = []
  · subst root; simp [get?, inside.symm]
  · by_cases same : other = place
    · subst same; simp [get?, set, root]
    · have differs : (other == place) = false := by simpa using same
      simp [get?, set, erase, root, same, lookup_filter_ne, List.lookup_cons, differs]

/-- Two trees that no look at an entry tells apart. -/
def Same (left right : FileSystem) : Prop := ∀ place, left.get? place = right.get? place

end FileSystem

end PathHeader
