import Mathlib
import PathHeader.Program
import PathHeader.Proofs.Layering
import PathHeader.Proofs.Runs

/-! How the program ends. Its code tells a set-up that failed from the verdict of a run, and a
set-up that failed has changed nothing. -/
namespace PathHeader

/-- A text is read as a level exactly if it is one of the spellings, in letters of either case. -/
theorem Level.exists_parse_iff {t : Text} :
    (∃ level, Level.parse t = .ok level) ↔ Text.lower t ∈ Level.spellings := by
  simp only [Level.parse, Level.spellings, List.map_cons, List.map_nil, List.mem_cons,
    List.not_mem_nil, or_false]
  split_ifs <;> simp_all

namespace FileSystem

variable {fs after : FileSystem} {directory : Place} {path : Text}

/-- The path leads to a file that may be written to, or to a free name in a directory. -/
def Appendable (fs : FileSystem) (directory : Place) (path : Text) : Prop :=
  ∃ reached, fs.walkPath true directory path = .ok reached ∧ ∀ place, reached = .entry place →
    ∃ bytes mode, fs.get? place = some (.file bytes mode) ∧ mayWrite mode = true

theorem exists_openReached_iff (keep : Bool) {reached : Reached} :
    (∃ opened, fs.openReached keep reached = .ok opened) ↔ ∀ place, reached = .entry place →
      ∃ bytes mode, fs.get? place = some (.file bytes mode) ∧ mayWrite mode = true := by
  cases reached with
  | vacant place => simp [openReached]
  | entry place =>
    constructor
    · rintro ⟨opened, done⟩ _ ⟨⟩
      simp only [openReached] at done
      split at done
      · next bytes mode file =>
        split at done
        · next writable => exact ⟨bytes, mode, file, writable⟩
        · cases done
      · cases done
    · intro writable
      obtain ⟨bytes, mode, file, writable⟩ := writable place rfl
      simp [openReached, file, writable]

theorem exists_hold_iff : (∃ after, fs.hold directory path = .ok after) ↔
    fs.Appendable directory path := by
  unfold hold Appendable
  cases fs.walkPath true directory path with
  | error cause => simp
  | ok reached =>
    simp only [Except.ok.injEq, exists_eq_left', ← exists_openReached_iff true]
    cases fs.openReached true reached <;> simp [Except.map]

end FileSystem

namespace Program
open FileSystem

variable {call : Call} {fs after : FileSystem} {directory : Place} {raws : List Text}
  {terminals : Terminals}

/-- What a set-up in the working directory can come to. -/
inductive SetUp (call : Call) (fs : FileSystem) (directory : Place) :
    Except SetupFailure (Config × Log × FileSystem) → Prop where
  | settings {failure : Failure} : Config.load fs call.directory call.lookup = .error failure →
      SetUp call fs directory (.error (.settings failure))
  | logFile {config : Config} {path : Text} {cause : Cause} :
      Config.load fs call.directory call.lookup = .ok config → config.logFile = some path →
      fs.hold directory path = .error cause →
      SetUp call fs directory (.error (.logFile cause))
  | shown {config : Config} {level : Level} :
      Config.load fs call.directory call.lookup = .ok config → config.logFile = none →
      SetUp call fs directory (.ok (config, .shown level, fs))
  | kept {config : Config} {level : Level} {path : Text} {after : FileSystem} :
      Config.load fs call.directory call.lookup = .ok config → config.logFile = some path →
      fs.hold directory path = .ok after →
      SetUp call fs directory (.ok (config, .kept ⟨level, call.now⟩, after))

theorem setUp_cases (inside : fs.resolve call.directory = .ok directory) :
    SetUp call fs directory (setUp call fs) := by
  unfold setUp
  cases loaded : Config.load fs call.directory call.lookup with
  | error failure => exact .settings loaded
  | ok config =>
    obtain ⟨level, parsed⟩ := Level.exists_parse_iff.mpr (Config.valid_of_load loaded).logLevel
    cases logFile : config.logFile with
    | none =>
      simp only [Log.setUp, parsed, logFile]
      exact .shown loaded logFile
    | some path =>
      simp only [Log.setUp, parsed, logFile, inside]
      cases held : fs.hold directory path with
      | error cause => exact .logFile loaded logFile held
      | ok after => exact .kept loaded logFile held

theorem SetUp.ne_badLevel {result : Except SetupFailure (Config × Log × FileSystem)}
    (setUp : SetUp call fs directory result) (level : Text) :
    result ≠ .error (.badLevel level) := by
  cases setUp <;> nofun

/-- The set-up stops on settings that cannot be loaded, and on a log file that cannot be opened. -/
def Stops (call : Call) (fs : FileSystem) (directory : Place) : Prop :=
  (∃ failure, Config.load fs call.directory call.lookup = .error failure) ∨
    ∃ config path, Config.load fs call.directory call.lookup = .ok config ∧
      config.logFile = some path ∧ ¬ fs.Appendable directory path

theorem SetUp.stops_iff {result : Except SetupFailure (Config × Log × FileSystem)}
    (setUp : SetUp call fs directory result) :
    Stops call fs directory ↔ ∃ failure, result = .error failure := by
  unfold Stops
  cases setUp with
  | settings failed => simp [failed]
  | @logFile _ path _ loaded set refused =>
    have closed : ¬ fs.Appendable directory path := by
      intro appendable
      obtain ⟨after, held⟩ := exists_hold_iff.mpr appendable
      cases refused.symm.trans held
    simp [loaded, set, closed]
  | shown loaded unset => simp [loaded, unset]
  | kept loaded set held =>
    have appendable := exists_hold_iff.mp ⟨_, held⟩
    simp [loaded, set, appendable]

theorem onFiles_of_error {failure : SetupFailure} (failed : setUp call fs = .error failure) :
    (onFiles call terminals raws fs).code = 2 ∧ (onFiles call terminals raws fs).stdout = [] ∧
      (onFiles call terminals raws fs).fs = fs := by
  simp [onFiles, failed]

theorem code_onFiles_of_ok {config : Config} {log : Log}
    (ready : setUp call fs = .ok (config, log, after)) :
    (onFiles call terminals raws fs).code = 0 ∨ (onFiles call terminals raws fs).code = 1 := by
  simp only [onFiles, ready, Summary.exitCode]
  split <;> simp

theorem code_onFiles_eq_two_iff :
    (onFiles call terminals raws fs).code = 2 ↔ ∃ failure, setUp call fs = .error failure := by
  constructor
  · intro two
    rcases ready : setUp call fs with failure | ⟨config, log, after⟩
    · exact ⟨failure, rfl⟩
    · rcases code_onFiles_of_ok ready with zero | one
      · cases two.symm.trans zero
      · cases two.symm.trans one
  · rintro ⟨failure, failed⟩
    exact (onFiles_of_error failed).1

theorem SetUp.shown_of_unset {result : Except SetupFailure (Config × Log × FileSystem)}
    {config : Config} (setUp : SetUp call fs directory result)
    (loaded : Config.load fs call.directory call.lookup = .ok config)
    (unset : config.logFile = none) : ∃ level, result = .ok (config, .shown level, fs) := by
  cases setUp with
  | settings failed => cases failed.symm.trans loaded
  | shown ready => cases ready.symm.trans loaded; exact ⟨_, rfl⟩
  | logFile ready set | kept ready set =>
    cases ready.symm.trans loaded
    cases set.symm.trans unset

theorem onFiles_of_shown {config : Config} {level : Level}
    (ready : setUp call fs = .ok (config, .shown level, fs)) :
    let run := Run.ofFiles (.ofConfig call.directory config) raws fs (call.writer terminals)
    (onFiles call terminals raws fs).code = run.summary.exitCode ∧
      (onFiles call terminals raws fs).stdout = run.writer.written ∧
      (onFiles call terminals raws fs).fs = run.fs := by
  simp only [onFiles, ready]
  exact ⟨rfl, rfl, rfl⟩

theorem run_of_files (given : Invocation.ofArguments call.arguments = .files raws) :
    run call fs terminals = onFiles call terminals raws fs := by
  rw [run, given]

/-- Two is the code of a set-up that stops, and of nothing else: no file was then looked at. Once
the settings are loaded, a log that goes to the standard error changes nothing about the run, whose
verdict is the code, whether or not a terminal reads along. A level that the settings let through
can always be read. -/
theorem code_eq_two_iff_stops (given : Invocation.ofArguments call.arguments = .files raws)
    (inside : fs.resolve call.directory = .ok directory) (terminals : Terminals) :
    let ending := run call fs terminals
    let loaded := Config.load fs call.directory call.lookup
    (ending.code = 2 ↔ (∃ failure, loaded = .error failure) ∨ ∃ config path,
      loaded = .ok config ∧ config.logFile = some path ∧ ¬ fs.Appendable directory path) ∧
    (ending.code = 2 → ending.stdout = [] ∧ ending.fs = fs) ∧
    (ending.code ≠ 2 → ending.code = 0 ∨ ending.code = 1) ∧
    (∀ config, loaded = .ok config → config.logFile = none →
      let run := Run.ofFiles (.ofConfig call.directory config) raws fs (call.writer terminals)
      ∃ summary, run.result? = some summary ∧ ending.code = summary.exitCode ∧
        ending.stdout = run.writer.written ∧ ending.fs = run.fs) ∧
    ∀ level, setUp call fs ≠ .error (.badLevel level) := by
  intro ending loaded
  have setUp := setUp_cases inside
  have ending_eq : ending = onFiles call terminals raws fs := run_of_files given
  have stops : Stops call fs directory ↔ ending.code = 2 := by
    rw [setUp.stops_iff, ending_eq, code_onFiles_eq_two_iff]
  refine ⟨stops.symm, ?_, ?_, ?_, setUp.ne_badLevel⟩
  · intro two
    obtain ⟨failure, failed⟩ := setUp.stops_iff.mp (stops.mpr two)
    rw [ending_eq]
    exact (onFiles_of_error failed).2
  · intro other
    rw [ending_eq] at other ⊢
    rcases ready : Program.setUp call fs with failure | ⟨config, log, after⟩
    · exact absurd (onFiles_of_error ready).1 other
    · exact code_onFiles_of_ok ready
  · intro config ready unset run
    obtain ⟨level, shown⟩ := setUp.shown_of_unset ready unset
    have counted : run.result? = _ := Run.ofFiles_result _ raws fs _ []
    have uncut := (Run.result?_eq_some_iff.mp counted).1
    rw [ending_eq]
    exact ⟨run.summary, Run.result?_eq_some_iff.mpr ⟨uncut, rfl⟩, onFiles_of_shown shown⟩

def lone : FileSystem where
  entries := [(["a.js".toList], .file (Utf8.encode "x\n".toList) 0o644)]

/-- A call on the file with one variable set. -/
def calledWith (variable_ : Text) (value : Bytes) : Call where
  arguments := [Utf8.encode "a.js".toList]
  environment name := if name = variable_ then some value else none
  directory := "/".toList
  now := []

def loud : Call := calledWith Layer.logLevelVariable (Utf8.encode "loud".toList)

def logged : Call := calledWith Layer.logFileVariable (Utf8.encode "logs/a".toList)

def garbled : Call := calledWith Layer.logLevelVariable [0xff]

/-- A level that is none stops the set-up, and so does a log in a directory that is missing. A value
that is not text counts as not set. -/
theorem two_on_bad_settings :
    ((run loud lone).code = 2 ∧ (run loud lone).stdout = [] ∧ (run loud lone).fs = lone) ∧
    ((run logged lone).code = 2 ∧ (run logged lone).stdout = [] ∧ (run logged lone).fs = lone) ∧
    (run garbled lone).code = 1 ∧ (run garbled lone).fs.get? ["a.js".toList] =
      some (.file (Utf8.encode "// a.js\n\nx\n".toList) 0o644) := by
  have given : ∀ call : Call, call.arguments = [Utf8.encode "a.js".toList] →
      Invocation.ofArguments call.arguments = .files ["a.js".toList] := by
    intro call same
    rw [same]
    cbv
  have inside : lone.resolve "/".toList = .ok [] := by cbv
  refine ⟨?_, ?_, ?_⟩
  · obtain ⟨stops, still, _⟩ := code_eq_two_iff_stops (given loud rfl) inside {}
    have refused : Config.load lone loud.directory loud.lookup =
        .error (.badSetting (.unknownLevel "loud".toList)) := by cbv
    have two := stops.mpr (.inl ⟨_, refused⟩)
    exact ⟨two, still two⟩
  · obtain ⟨stops, still, _⟩ := code_eq_two_iff_stops (given logged rfl) inside {}
    have loaded : Config.load lone logged.directory logged.lookup =
        .ok { Config.default with logFile := "logs/a".toList } := by cbv
    have missing : lone.walkPath true [] "logs/a".toList = .error .notFound := by cbv
    have closed : ¬ lone.Appendable [] "logs/a".toList := by
      rintro ⟨_, walked, _⟩
      cases missing.symm.trans walked
    have two := stops.mpr (.inr ⟨_, _, loaded, rfl, closed⟩)
    exact ⟨two, still two⟩
  · obtain ⟨_, _, _, verdict, _⟩ := code_eq_two_iff_stops (given garbled rfl) inside {}
    have loaded : Config.load lone garbled.directory garbled.lookup = .ok Config.default := by cbv
    obtain ⟨summary, counted, code, _, tree⟩ := verdict _ loaded rfl
    have processed : ((Checker.ofConfig garbled.directory .default).processAll lone
        ["a.js".toList]).1 = [("a.js".toList, .fixed [.missingHeader])] := by cbv
    have ran := Run.ofFiles_result (.ofConfig garbled.directory .default) ["a.js".toList] lone
      false []
    rw [processed] at ran
    cases ran.symm.trans counted
    refine ⟨code, ?_⟩
    have left := Run.ofFiles_fs (.ofConfig garbled.directory .default) ["a.js".toList] lone
      false []
    rw [tree.trans left]
    cbv

end Program

end PathHeader
