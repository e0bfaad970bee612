import PathHeader.Proofs.Drafts
import PathHeader.Proofs.LongPaths

/-! How far a replacement has come. A stage says what is true of the tree when only some of the
steps are left; one step leads from stage to stage, and whatever stops the steps before the last
one leaves a draft at most. -/
namespace PathHeader.Replacement
open FileSystem

variable {r : Replacement} {fs : FileSystem} {s next : State} {step : Step}
  {todo done rest : List Step} {respond : Step → Response} {response : Response} {cause : Cause}
  {path : Text} {bytes : Bytes} {mode : Nat}

theorem ofPath_eq_ok_iff : ofPath fs path bytes = .ok r ↔
    fs.canonicalize path = .ok r.target ∧ r.bytes = bytes ∧ r.mode = fs.mode r.target := by
  obtain ⟨directory, name, new, mode⟩ := r
  unfold ofPath
  cases fs.canonicalize path with
  | error cause => simp
  | ok place =>
    cases place with
    | nil => simp [target]
    | cons first above =>
      simp only [target]
      constructor
      · rintro ⟨⟩
        exact ⟨rfl, rfl, rfl⟩
      · rintro ⟨⟨⟩, rfl, rfl⟩
        rfl

theorem resolve_of_ofPath (begun : ofPath fs path bytes = .ok r) :
    fs.resolve path = .ok r.target :=
  (canonicalize_eq_ok_iff.mp (ofPath_eq_ok_iff.mp begun).1).1

theorem perform_append (carriedOut : r.perform respond done s = (next, none)) :
    r.perform respond (done ++ rest) s = r.perform respond rest next := by
  induction done generalizing s with
  | nil => cases carriedOut; rfl
  | cons step done ih =>
    rw [List.cons_append, perform]
    rw [perform] at carriedOut
    rcases attempted : r.attempt s step (respond step) with ⟨middle, _ | cause⟩
    · rw [attempted] at carriedOut
      exact ih carriedOut
    · rw [attempted] at carriedOut
      cases carriedOut

theorem perform_failed (failed : r.perform respond todo s = (next, some cause)) :
    ∃ done step rest middle, todo = done ++ step :: rest ∧
      r.perform respond done s = (middle, none) ∧
      r.attempt middle step (respond step) = (next, some cause) := by
  induction todo generalizing s with
  | nil => cases failed
  | cons step todo ih =>
    rw [perform] at failed
    rcases attempted : r.attempt s step (respond step) with ⟨middle, _ | cause⟩
    · rw [attempted] at failed
      obtain ⟨done, stopped, rest, last, rfl, carriedOut, stops⟩ := ih failed
      refine ⟨step :: done, stopped, rest, last, rfl, ?_, stops⟩
      rw [perform, attempted]
      exact carriedOut
    · rw [attempted] at failed
      cases failed
      exact ⟨[], step, todo, s, rfl, rfl, attempted⟩

/-- The draft that is open holds these bytes, and nothing else is other than it was. -/
structure Drafted (r : Replacement) (fs : FileSystem) (s : State) (bytes : Bytes) (mode : Nat) :
    Prop where
  created : ∃ emptied, fs.create r.directory (draftName r.name) = .ok (s.opened, emptied)
  held : s.fs.get? s.opened = some (.file bytes mode)
  others : ∀ other, other ≠ s.opened → s.fs.get? other = fs.get? other

/-- By the steps that are left. -/
inductive Stage (r : Replacement) (fs : FileSystem) : List Step → State → Prop where
  | start : Stage r fs steps ⟨fs, r.draft⟩
  | created {s : State} {mode : Nat} : Drafted r fs s [] mode →
      Stage r fs [.write, .setMode, .sync, .rename] s
  | written {s : State} {mode : Nat} : Drafted r fs s r.bytes mode →
      Stage r fs [.setMode, .sync, .rename] s
  | modeSet {s : State} : Drafted r fs s r.bytes r.mode → Stage r fs [.sync, .rename] s
  | synced {s : State} : Drafted r fs s r.bytes r.mode → Stage r fs [.rename] s
  | renamed {before s : State} : Drafted r fs before r.bytes r.mode →
      before.fs.rename r.draft r.target = .ok s.fs → Stage r fs [] s

/-- Nothing was moved: there is a draft at most. -/
def Unmoved (r : Replacement) (fs : FileSystem) (s : State) : Prop :=
  s.fs = fs ∨ ∃ bytes mode, r.Drafted fs s bytes mode

theorem Drafted.ne_nil (drafted : r.Drafted fs s bytes mode) : s.opened ≠ [] :=
  have ⟨_, created⟩ := drafted.created
  (create_emptied created).ne_nil

theorem Drafted.append (drafted : r.Drafted fs s bytes mode) (more : Bytes) :
    r.Drafted fs { s with fs := s.fs.append s.opened more } (bytes ++ more) mode where
  created := drafted.created
  held := (get?_append _ drafted.ne_nil drafted.held more _).trans (if_pos rfl)
  others other differs := by
    rw [get?_append _ drafted.ne_nil drafted.held more, if_neg differs]
    exact drafted.others other differs

theorem Drafted.setMode (drafted : r.Drafted fs s bytes mode) (new : Nat) :
    r.Drafted fs { s with fs := s.fs.setMode s.opened new } bytes new where
  created := drafted.created
  held := (get?_setMode _ drafted.ne_nil drafted.held new _).trans (if_pos rfl)
  others other differs := by
    rw [get?_setMode _ drafted.ne_nil drafted.held new, if_neg differs]
    exact drafted.others other differs

theorem take_create (taken : r.take s .create = .ok next) :
    s.fs.create r.directory (draftName r.name) = .ok (next.opened, next.fs) := by
  unfold Replacement.take at taken
  cases created : s.fs.create r.directory (draftName r.name) with
  | error cause => simp [created, Except.map] at taken
  | ok opened =>
    simp only [created, Except.map, Except.ok.injEq] at taken
    rw [← taken]

theorem take_rename (taken : r.take s .rename = .ok next) :
    s.fs.rename r.draft r.target = .ok next.fs := by
  unfold Replacement.take at taken
  cases renamed : s.fs.rename r.draft r.target with
  | error cause => simp [renamed, Except.map] at taken
  | ok after =>
    simp only [renamed, Except.map, Except.ok.injEq] at taken
    rw [← taken]

theorem Stage.unmoved (stage : r.Stage fs (step :: rest) s) : r.Unmoved fs s := by
  generalize left : step :: rest = todo at stage
  cases stage with
  | start => exact .inl rfl
  | created drafted | written drafted | modeSet drafted | synced drafted =>
    exact .inr ⟨_, _, drafted⟩
  | renamed => cases left

/-- A step leads to the next stage. -/
theorem Stage.take (stage : r.Stage fs (step :: rest) s) (taken : r.take s step = .ok next) :
    r.Stage fs rest next := by
  generalize left : step :: rest = todo at stage
  cases stage with
  | start =>
    cases left
    have created := take_create taken
    have emptied := create_emptied created
    obtain ⟨mode, empty⟩ := emptied.now
    exact .created ⟨⟨next.fs, created⟩, empty, emptied.others⟩
  | created drafted => cases left; cases taken; exact .written (drafted.append r.bytes)
  | written drafted => cases left; cases taken; exact .modeSet (drafted.setMode r.mode)
  | modeSet drafted => cases left; cases taken; exact .synced drafted
  | synced drafted => cases left; exact .renamed drafted (take_rename taken)
  | renamed => cases left

/-- A step that fails moves nothing. -/
theorem Stage.attempt_failed (stage : r.Stage fs (step :: rest) s)
    (failed : r.attempt s step response = (next, some cause)) : r.Unmoved fs next := by
  cases response with
  | carriedOut =>
    simp only [attempt] at failed
    split at failed <;> cases failed
    exact stage.unmoved
  | refused refusal written =>
    generalize left : step :: rest = todo at stage
    cases stage with
    | created drafted =>
      cases left
      cases failed
      exact .inr ⟨_, _, drafted.append (r.bytes.take written)⟩
    | start => cases left; cases failed; exact .inl rfl
    | written drafted | modeSet drafted | synced drafted =>
      cases left
      cases failed
      exact .inr ⟨_, _, drafted⟩
    | renamed => cases left

theorem Stage.attempt_ok (stage : r.Stage fs (step :: rest) s)
    (carriedOut : r.attempt s step response = (next, none)) : r.Stage fs rest next := by
  cases response with
  | carriedOut =>
    simp only [attempt] at carriedOut
    split at carriedOut
    · next taken =>
      cases carriedOut
      exact stage.take taken
    · cases carriedOut
  | refused refusal written =>
    simp only [attempt] at carriedOut
    split at carriedOut <;> cases carriedOut

/-- After any of the steps: either all of them were carried out and lead to a stage, or one of them
failed and nothing was moved. -/
theorem Stage.perform (stage : r.Stage fs (done ++ rest) s) (respond : Step → Response) :
    (∃ next, r.perform respond done s = (next, none) ∧ r.Stage fs rest next) ∨
      ∃ next cause, r.perform respond done s = (next, some cause) ∧ r.Unmoved fs next := by
  induction done generalizing s with
  | nil => exact .inl ⟨s, rfl, stage⟩
  | cons step done ih =>
    rw [Replacement.perform]
    rcases attempted : r.attempt s step (respond step) with ⟨next, _ | cause⟩
    · exact ih (stage.attempt_ok attempted)
    · exact .inr ⟨next, cause, rfl, stage.attempt_failed attempted⟩

/-- A run leads through all stages, or a step fails and what it left is cleaned up. -/
theorem run_cases (r : Replacement) (respond : Step → Response) (fs : FileSystem) :
    (∃ s, r.perform respond steps ⟨fs, r.draft⟩ = (s, none) ∧ r.run respond fs = (none, s.fs) ∧
      r.Stage fs [] s) ∨
    ∃ s cause, r.perform respond steps ⟨fs, r.draft⟩ = (s, some cause) ∧
      r.run respond fs = (some cause, r.cleanUp s.fs) ∧ r.Unmoved fs s := by
  have begun : r.Stage fs (steps ++ []) ⟨fs, r.draft⟩ := .start
  rcases begun.perform respond with
    ⟨s, performed, stage⟩ | ⟨s, cause, performed, unmoved⟩
  · exact .inl ⟨s, performed, by rw [run, performed], stage⟩
  · exact .inr ⟨s, cause, performed, by rw [run, performed], unmoved⟩

/-- With the file and the draft in place nothing stands in the way of the move. -/
theorem Drafted.rename (drafted : r.Drafted fs s bytes mode) (file : fs.FileAt r.target) :
    ∃ after, s.fs.rename r.draft r.target = .ok after := by
  obtain ⟨old, oldMode, file⟩ := file
  obtain ⟨emptied, created⟩ := drafted.created
  have draft : ∃ entry, s.fs.get? r.draft = some entry := by
    by_cases own : r.draft = s.opened
    · exact ⟨_, own ▸ drafted.held⟩
    · rcases create_place created with same | ⟨target, linked⟩
      · exact absurd same.symm own
      · exact ⟨_, (drafted.others _ own).trans linked⟩
  have target : ∃ bytes mode, s.fs.get? r.target = some (.file bytes mode) := by
    by_cases own : r.target = s.opened
    · exact ⟨_, _, own ▸ drafted.held⟩
    · exact ⟨_, _, (drafted.others _ own).trans file⟩
  obtain ⟨entry, draft⟩ := draft
  obtain ⟨bytes, mode, target⟩ := target
  simp [FileSystem.rename, draft, target]

/-- The move takes away whatever stood under the draft's name. -/
theorem Stage.get?_draft (stage : r.Stage fs [] s) : s.fs.get? r.draft = none := by
  generalize left : [] = todo at stage
  cases stage with
  | renamed _ moved =>
    rw [get?_rename r.draft_ne_nil r.target_ne_nil moved, if_neg r.draft_ne_target, if_pos rfl]
  | start | created | written | modeSet | synced => cases left

/-- The file has its new bytes and its old mode, the draft is gone, and that is all. -/
structure Replaced (r : Replacement) (fs after : FileSystem) : Prop where
  target : after.get? r.target = some (.file r.bytes r.mode)
  draft : after.get? r.draft = none
  others : ∀ other, other ≠ r.target → other ≠ r.draft → after.get? other = fs.get? other

variable (plain : ∀ target, fs.get? r.draft ≠ some (.link target))
include plain

theorem Drafted.opened (drafted : r.Drafted fs s bytes mode) : s.opened = r.draft := by
  obtain ⟨emptied, created⟩ := drafted.created
  rcases create_place created with own | ⟨target, linked⟩
  · exact own
  · exact absurd linked (plain target)

theorem Stage.replaced (stage : r.Stage fs [] s) : r.Replaced fs s.fs := by
  have gone := stage.get?_draft
  generalize left : [] = todo at stage
  cases stage with
  | @renamed before _ drafted moved =>
    have own := drafted.opened plain
    have look := get?_rename r.draft_ne_nil r.target_ne_nil moved
    refine ⟨?_, gone, fun other notTarget notDraft => ?_⟩
    · rw [look, if_pos rfl, ← own, drafted.held]
    · rw [look, if_neg notTarget, if_neg notDraft, drafted.others other (own ▸ notDraft)]
  | start | created | written | modeSet | synced => cases left

/-- A draft that is left changes nothing but its own place. -/
theorem Unmoved.others (unmoved : r.Unmoved fs s) {other : Place} (notDraft : other ≠ r.draft) :
    s.fs.get? other = fs.get? other := by
  rcases unmoved with same | ⟨bytes, mode, drafted⟩
  · rw [same]
  · exact drafted.others other (drafted.opened plain ▸ notDraft)

end PathHeader.Replacement
