import Mathlib
import PathHeader.Toml.Document

/-! No key stands twice in a document. What a line or a header adds to the outermost table is under
a key that the table does not have; the table that a header began keeps its name free until it takes
its place. -/
namespace PathHeader.Toml

namespace Entries

variable {entries after : Entries} {key : Key} {item : Item}

/-- Every key stands once. -/
def Distinct (entries : Entries) : Prop := (entries.map fun entry => entry.1.text).Nodup

theorem get?_eq_none_iff : entries.get? key = none ↔
    key.text ∉ entries.map fun entry => entry.1.text := by
  simp [get?]

theorem Distinct.append (distinct : entries.Distinct) (free : entries.get? key = none) :
    Distinct (entries ++ [(key, item)]) := by
  rw [get?_eq_none_iff] at free
  rw [Distinct, List.map_append, List.map_singleton]
  exact List.nodup_append_comm.mp (List.nodup_cons.mpr ⟨free, distinct⟩)

theorem Distinct.replace (distinct : entries.Distinct) (key : Key) (item : Item) :
    (entries.replace key item).Distinct := by
  have keys : ((entries.replace key item).map fun entry => entry.1.text) =
      entries.map fun entry => entry.1.text := by
    rw [Entries.replace, List.map_map]
    apply List.map_congr_left
    intro entry _
    simp only [Function.comp_apply]
    split <;> rfl
  rw [Distinct, keys]
  exact distinct

theorem Distinct.erase (distinct : entries.Distinct) (key : Key) :
    (entries.erase key).Distinct :=
  distinct.sublist (List.filter_sublist.map _)

theorem get?_erase (entries : Entries) (key : Key) : (entries.erase key).get? key = none := by
  simp [get?, erase]

theorem Distinct.insertDotted (distinct : entries.Distinct) {parents : List Key}
    (inserted : entries.insertDotted parents key item = some after) : after.Distinct := by
  unfold Entries.insertDotted at inserted
  split at inserted
  · unfold insert? at inserted
    split at inserted
    · cases inserted
    · next free =>
      cases inserted
      exact distinct.append free
  · split at inserted
    · next free =>
      obtain ⟨inner, _, rfl⟩ := Option.map_eq_some_iff.mp inserted
      exact distinct.append free
    · split at inserted
      · cases inserted
      · split at inserted
        · cases inserted
        · obtain ⟨inner, _, rfl⟩ := Option.map_eq_some_iff.mp inserted
          exact distinct.replace _ _
    · split at inserted
      · cases inserted
      · cases inserted
      · obtain ⟨inner, _, rfl⟩ := Option.map_eq_some_iff.mp inserted
        exact distinct.replace _ _
    · cases inserted

/-- Acting on a table further in leaves the keys of the outermost one distinct. -/
theorem Distinct.within {Answer : Type} {act : Entries → Option (Answer × Entries)}
    {keys : List Key} {answer : Answer} (distinct : entries.Distinct)
    (acted : entries.within act keys = some (answer, after)) :
    (keys = [] ∧ act entries = some (answer, after)) ∨ keys ≠ [] ∧ after.Distinct := by
  cases keys with
  | nil => exact .inl ⟨rfl, acted⟩
  | cons first keys =>
    refine .inr ⟨List.cons_ne_nil first keys, ?_⟩
    simp only [Entries.within] at acted
    split at acted
    · next free =>
      obtain ⟨_, _, same⟩ := Option.map_eq_some_iff.mp acted
      cases same
      exact distinct.append free
    · split at acted
      · cases acted
      · obtain ⟨_, _, same⟩ := Option.map_eq_some_iff.mp acted
        cases same
        exact distinct.replace _ _
    · split at acted
      · cases acted
      · obtain ⟨_, _, same⟩ := Option.map_eq_some_iff.mp acted
        cases same
        exact distinct.replace _ _
    · cases acted

end Entries

namespace Section

variable {holder inner after : Entries} {key : Key} {s : Section}

theorem distinct_openTable (distinct : holder.Distinct)
    (opened : openTable key holder = some (inner, after)) :
    after.Distinct ∧ after.get? key = none := by
  unfold openTable at opened
  split at opened
  · next free =>
    cases opened
    exact ⟨distinct, free⟩
  · cases opened
    exact ⟨distinct.erase key, Entries.get?_erase holder key⟩
  · cases opened

theorem distinct_openElement (distinct : holder.Distinct)
    (opened : openElement key holder = some (inner, after)) : after.Distinct := by
  unfold openElement at opened
  split at opened
  · next free =>
    cases opened
    exact distinct.append free
  · cases opened
    exact distinct
  · cases opened

theorem distinct_close (distinct : holder.Distinct)
    (free : s.isElement = false → holder.get? s.key = none)
    (closed : s.close holder = some ((), after)) : after.Distinct := by
  unfold close at closed
  split at closed
  · split at closed
    · cases closed
      exact distinct.replace _ _
    · cases closed
  · next table =>
    cases closed
    exact distinct.append (free (Bool.eq_false_iff.mpr table))

end Section

namespace Assembly

variable {a b : Assembly} {t rest : Text}

/-- The outermost table has distinct keys, and not the name of a table of its own that is being
filled. -/
structure Sound (a : Assembly) : Prop where
  distinct : a.root.Distinct
  free : ∀ s, a.current = some s → s.parents = [] → s.isElement = false → a.root.get? s.key = none

theorem Sound.finish {entries : Entries} (sound : a.Sound) (finished : a.finish = some entries) :
    entries.Distinct := by
  unfold Assembly.finish at finished
  split at finished
  · cases finished
    exact sound.distinct
  · next s current =>
    obtain ⟨⟨⟨⟩, after⟩, closed, rfl⟩ := Option.map_eq_some_iff.mp finished
    rcases sound.distinct.within closed with ⟨outermost, closed⟩ | ⟨_, distinct⟩
    · exact Section.distinct_close sound.distinct (sound.free s current outermost) closed
    · exact distinct

theorem Sound.begin {isElement : Bool} {keys : List Key × Key} {span : Span} (sound : a.Sound)
    (begun : a.begin isElement keys span = some b) : b.Sound := by
  simp only [Assembly.begin, Option.bind_eq_bind, Option.bind_eq_some_iff] at begun
  obtain ⟨root, finished, ⟨inner, after⟩, opened, made⟩ := begun
  cases made
  have distinct := sound.finish finished
  rcases distinct.within opened with ⟨outermost, opened⟩ | ⟨inside, distinct⟩
  · cases isElement with
    | true =>
      refine ⟨Section.distinct_openElement distinct opened, ?_⟩
      rintro s ⟨⟩ _ table
      cases table
    | false =>
      obtain ⟨distinct, free⟩ := Section.distinct_openTable distinct opened
      refine ⟨distinct, ?_⟩
      rintro s ⟨⟩ _ _
      exact free
  · refine ⟨distinct, ?_⟩
    rintro s ⟨⟩ outermost
    exact absurd outermost inside

theorem Sound.header (sound : a.Sound) (read : a.header? t = some (b, rest)) : b.Sound := by
  unfold Assembly.header? at read
  split at read
  · simp only [Option.bind_eq_bind, Option.bind_eq_some_iff] at read
    obtain ⟨_, _, _, _, _, _, _, begun, same⟩ := read
    cases same
    exact sound.begin begun
  · simp only [Option.bind_eq_bind, Option.bind_eq_some_iff] at read
    obtain ⟨_, _, _, _, _, begun, same⟩ := read
    cases same
    exact sound.begin begun
  · cases read

theorem distinct_member {item? : Text → Option (Item × Text)} {entries after : Entries}
    (distinct : entries.Distinct) (read : member? item? entries t = some (after, rest)) :
    after.Distinct := by
  simp only [member?, Option.bind_eq_bind, Option.bind_eq_some_iff] at read
  obtain ⟨_, _, _, _, _, _, _, inserted, same⟩ := read
  cases same
  exact distinct.insertDotted inserted

theorem Sound.assign (sound : a.Sound) (read : a.assign? t = some (b, rest)) : b.Sound := by
  unfold Assembly.assign? at read
  split at read
  · obtain ⟨⟨after, _⟩, put, same⟩ := Option.map_eq_some_iff.mp read
    cases same
    exact ⟨distinct_member sound.distinct put, nofun⟩
  · next s current =>
    obtain ⟨_, _, same⟩ := Option.map_eq_some_iff.mp read
    cases same
    refine ⟨sound.distinct, ?_⟩
    rintro _ ⟨⟩
    exact sound.free s current

theorem Sound.lines {fuel : Nat} (sound : a.Sound) (read : lines? fuel a t = some b) :
    b.Sound := by
  induction fuel generalizing a t with
  | zero => cases read
  | succ fuel ih =>
    unfold lines? at read
    split at read
    · cases read
      exact sound
    · split at read
      · exact ih sound read
      · dsimp only at read
        split at read
        · simp only [Option.bind_eq_bind, Option.bind_eq_some_iff] at read
          obtain ⟨_, taken, _, _, read⟩ := read
          exact ih (sound.header taken) read
        · simp only [Option.bind_eq_bind, Option.bind_eq_some_iff] at read
          obtain ⟨_, taken, _, _, read⟩ := read
          exact ih (sound.assign taken) read

end Assembly

end PathHeader.Toml
