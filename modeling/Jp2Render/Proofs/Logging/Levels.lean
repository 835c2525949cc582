import Jp2Render.Proofs.Logging.Hierarchy

/-!
Uses of logging. Loggers are asked for and levels are set in any order. The loggers of the package that were
asked for, and the handler that they share, have the level of the package all along; what else there is in the
hierarchy keeps its own.
-/

namespace Jp2Render.Logging

def Settings.withShared (settings : Settings) : Settings :=
  if .shared ∈ settings.handlers then settings
  else { settings with handlers := settings.handlers ++ [.shared] }

theorem Settings.count_withShared {settings : Settings} (once : settings.handlers.count .shared ≤ 1) :
    settings.withShared.handlers.count .shared = 1 := by
  unfold withShared
  split
  · next shared => exact Nat.le_antisymm once (List.count_pos_iff.mpr shared)
  · next unshared =>
    rw [List.count_append, List.count_eq_zero.mpr unshared]
    rfl

theorem Settings.level_withShared (settings : Settings) : settings.withShared.level = settings.level := by
  unfold withShared
  split <;> rfl

namespace State

variable {state start : State} {name other : String} {calls done : List Call}

inductive Call where
  | getLogger (name : String)
  | setLevel (debugging : Bool)
  | setGlobalLevel (level : Int)
deriving DecidableEq, Repr

def after (state : State) : Call → State
  | .getLogger name => state.getLogger name
  | .setLevel debugging => state.setLevel debugging
  | .setGlobalLevel level => (state.setGlobalLevel level).1

def afterAll (state : State) (calls : List Call) : State := calls.foldl after state

def Call.level? : Call → Option Int
  | .setLevel debugging => some (if debugging then Severity.debug.rank else Severity.info.rank)
  | .getLogger _ | .setGlobalLevel _ => none

def lastLevel? (calls : List Call) : Option Int := (calls.filterMap Call.level?).getLast?

theorem lastLevel?_concat (calls : List Call) (call : Call) :
    lastLevel? (calls ++ [call]) = call.level?.or (lastLevel? calls) := by
  unfold lastLevel?
  rw [List.filterMap_append]
  cases sets : call.level? with
  | none => rw [List.filterMap_cons_none sets, List.filterMap_nil, List.append_nil, Option.none_or]
  | some level =>
      rw [List.filterMap_cons_some sets, List.filterMap_nil, List.getLast?_concat, Option.some_or]

/-- There may be loggers, but there is no handler yet that they could share. -/
structure IsFresh (state : State) : Prop where
  noHandler : state.handlerLevel = none
  unshared : ∀ name settings, state.hierarchy.settings? name = some settings →
    .shared ∉ settings.handlers

theorem isFresh_of_entries (noHandler : start.handlerLevel = none)
    (root : .shared ∉ start.hierarchy.root.handlers)
    (named : ∀ entry ∈ start.hierarchy.named, .shared ∉ entry.2.handlers) : start.IsFresh := by
  refine ⟨noHandler, ?_⟩
  intro name settings found
  cases isRoot : Hierarchy.isRoot name with
  | true =>
      rw [Hierarchy.settings?_of_isRoot isRoot] at found
      rw [← Option.some.inj found]
      exact root
  | false =>
      rw [Hierarchy.settings?_of_named isRoot, Option.map_eq_some_iff] at found
      obtain ⟨logger, held, rfl⟩ := found
      rw [List.lookup_eq_some_iff] at held
      obtain ⟨before, after, entries, -⟩ := held
      exact named (name, logger) (by rw [entries]; simp)

theorem isFresh_initial (severity : Severity) : (initial severity).IsFresh :=
  isFresh_of_entries rfl List.not_mem_nil nofun

theorem isRoot_of_isPackageName (package : isPackageName name = true) :
    Hierarchy.isRoot name = false := by
  rw [Bool.eq_false_iff]
  intro root
  rw [Hierarchy.isRoot, Bool.or_eq_true, String.isEmpty_iff, decide_eq_true_eq] at root
  rcases root with rfl | rfl <;> exact absurd package (by decide)

theorem settings_withShared (logger : Logger) :
    (withShared logger).settings = logger.settings.withShared := by
  unfold withShared Settings.withShared
  split
  · next shared => rw [if_pos (show .shared ∈ logger.settings.handlers from shared)]
  · next unshared =>
    rw [if_neg (show .shared ∉ logger.settings.handlers from unshared)]
    rfl

theorem settings?_getLogger (named : Hierarchy.isRoot other = false) :
    (state.getLogger name).hierarchy.settings? other =
      if other = name then
        some (((state.hierarchy.settings? other).getD {}).atLevel state.level).withShared
      else state.hierarchy.settings? other :=
  Hierarchy.settings?_set (fun settings => (settings.atLevel state.level).withShared)
    (fun logger => settings_withShared { logger with level := state.level }) (.inr named)

theorem settings?_setLevel (debugging : Bool) :
    (state.setLevel debugging).hierarchy.settings? other =
      if other ∈ state.hierarchy.names ∧ isPackageName other = true then
        some (((state.hierarchy.settings? other).getD {}).atLevel (state.setLevel debugging).level)
      else state.hierarchy.settings? other := by
  have named : ∀ name ∈ state.hierarchy.names.filter isPackageName, Hierarchy.isRoot name = false :=
    fun _ mem => isRoot_of_isPackageName (List.mem_filter.mp mem).2
  show ((state.hierarchy.names.filter isPackageName).foldl (setLoggerLevel (state.setLevel debugging).level)
    state.hierarchy).settings? other = _
  simp only [Hierarchy.settings?_setLoggerLevels named, List.mem_filter]

theorem settings?_setGlobalLevel (level : Int) (named : Hierarchy.isRoot other = false) :
    (state.setGlobalLevel level).1.hierarchy.settings? other = state.hierarchy.settings? other := by
  have different : other ≠ rootName := by
    rintro rfl
    cases named
  rw [setGlobalLevel, emit, Hierarchy.settings?_ensure, if_neg different, Option.or_none,
    Hierarchy.settings?_of_named named, Hierarchy.settings?_of_named named]

structure Follows (start : State) (calls : List Call) (state : State) : Prop where
  level : state.level = (lastLevel? calls).getD start.level
  handlerMade : state.handlerLevel.isSome ↔ ∃ name, .getLogger name ∈ calls
  handlerLevel : ∀ level ∈ state.handlerLevel, level = state.level
  shared : ∀ name, isPackageName name = true →
    ((state.hierarchy.settings? name).getD {}).handlers.count .shared =
      if .getLogger name ∈ calls then 1 else 0
  returned : ∀ name, isPackageName name = true → .getLogger name ∈ calls →
    ∃ settings, state.hierarchy.settings? name = some settings ∧ settings.level = state.level

namespace Follows

theorem refl (fresh : start.IsFresh) : Follows start [] start where
  level := rfl
  handlerMade := by
    rw [fresh.noHandler]
    simp
  handlerLevel := by
    rw [fresh.noHandler]
    exact nofun
  shared name _ := by
    cases found : start.hierarchy.settings? name with
    | none => rfl
    | some settings => exact List.count_eq_zero.mpr (fresh.unshared name settings found)
  returned _ _ mem := absurd mem List.not_mem_nil

variable (follows : Follows start done state)

include follows

theorem getLogger (name : String) :
    Follows start (done ++ [.getLogger name]) (state.getLogger name) where
  level := by
    rw [lastLevel?_concat]
    exact follows.level
  handlerMade := iff_of_true rfl ⟨name, List.mem_append_right done List.mem_cons_self⟩
  handlerLevel level found := by
    rw [← Option.some.inj found]
    cases made : state.handlerLevel with
    | none => rfl
    | some level => exact follows.handlerLevel level made
  shared other package := by
    have before := follows.shared other package
    rw [settings?_getLogger (isRoot_of_isPackageName package)]
    -- only the logger that is asked for is given the handler, and that once
    by_cases same : other = name
    · have once :
          (((state.hierarchy.settings? other).getD {}).atLevel state.level).handlers.count .shared ≤ 1 :=
        Nat.le_trans (Nat.le_of_eq before) (by split <;> decide)
      rw [if_pos same, Option.getD_some, Settings.count_withShared once, if_pos (by simp [same])]
    · rw [if_neg same, before]
      simp [same]
  returned other package mem := by
    rw [settings?_getLogger (isRoot_of_isPackageName package)]
    by_cases same : other = name
    · rw [if_pos same]
      exact ⟨_, rfl, Settings.level_withShared _⟩
    · rw [if_neg same]
      exact follows.returned other package (by simpa [same] using mem)

theorem setLevel (debugging : Bool) :
    Follows start (done ++ [.setLevel debugging]) (state.setLevel debugging) where
  level := by
    rw [lastLevel?_concat]
    rfl
  handlerMade := by simpa [State.setLevel] using follows.handlerMade
  handlerLevel level found := by
    obtain ⟨_, -, rfl⟩ := Option.map_eq_some_iff.mp found
    rfl
  shared other package := by
    have before : ((state.hierarchy.settings? other).getD {}).handlers.count .shared =
        if .getLogger other ∈ done ++ [.setLevel debugging] then 1 else 0 := by
      rw [follows.shared other package]
      simp
    rw [settings?_setLevel, ← before]
    split <;> rfl
  returned other package mem := by
    obtain ⟨settings, found, -⟩ := follows.returned other package (by simpa using mem)
    have known : other ∈ state.hierarchy.names :=
      Hierarchy.mem_names (isRoot_of_isPackageName package) (by rw [found]; exact nofun)
    rw [settings?_setLevel, if_pos ⟨known, package⟩]
    exact ⟨_, rfl, rfl⟩

theorem setGlobalLevel (level : Int) :
    Follows start (done ++ [.setGlobalLevel level]) (state.setGlobalLevel level).1 where
  level := by
    rw [lastLevel?_concat]
    exact follows.level
  handlerMade := by simpa [State.setGlobalLevel, State.emit] using follows.handlerMade
  handlerLevel := follows.handlerLevel
  shared other package := by
    rw [settings?_setGlobalLevel level (isRoot_of_isPackageName package), follows.shared other package]
    simp
  returned other package mem := by
    rw [settings?_setGlobalLevel level (isRoot_of_isPackageName package)]
    exact follows.returned other package (by simpa using mem)

theorem after (call : Call) : Follows start (done ++ [call]) (state.after call) := by
  cases call with
  | getLogger name => exact follows.getLogger name
  | setLevel debugging => exact follows.setLevel debugging
  | setGlobalLevel level => exact follows.setGlobalLevel level

theorem afterAll (calls : List Call) : Follows start (done ++ calls) (state.afterAll calls) := by
  induction calls generalizing done state with
  | nil =>
      rw [List.append_nil]
      exact follows
  | cons call rest ih =>
      rw [List.append_cons]
      exact ih (follows.after call)

end Follows

theorem logger?_of_settings? {settings : Settings} (found : state.hierarchy.settings? name = some settings) :
    ∃ logger, state.hierarchy.logger? name = some logger ∧ logger.settings = settings :=
  Option.map_eq_some_iff.mp found

theorem settings?_setLevel_outside (state : State) (debugging : Bool) (outside : isPackageName name = false) :
    (state.setLevel debugging).hierarchy.settings? name = state.hierarchy.settings? name := by
  rw [settings?_setLevel, if_neg]
  rintro ⟨-, package⟩
  rw [outside] at package
  cases package

/-- However loggers are asked for and levels are set, the package has the level that was set last, and so
has the shared handler as soon as any logger was asked for. All loggers of the package that were asked for
have that level too, and the shared handler once; loggers outside are of the level they were, whenever the
level of the package is set. -/
theorem package_loggers_follow (fresh : start.IsFresh) (calls : List Call) :
    (start.afterAll calls).level = (lastLevel? calls).getD start.level ∧
    ((start.afterAll calls).handlerLevel.isSome ↔ ∃ name, .getLogger name ∈ calls) ∧
    (∀ level ∈ (start.afterAll calls).handlerLevel, level = (start.afterAll calls).level) ∧
    (∀ name, isPackageName name = true → .getLogger name ∈ calls →
      ∃ logger, (start.afterAll calls).hierarchy.logger? name = some logger ∧
        logger.level = (start.afterAll calls).level ∧ logger.handlers.count .shared = 1) ∧
    ∀ debugging name, isPackageName name = false →
      (((start.afterAll calls).setLevel debugging).hierarchy.logger? name).map Logger.level =
        ((start.afterAll calls).hierarchy.logger? name).map Logger.level := by
  have follows : Follows start calls (start.afterAll calls) := (Follows.refl fresh).afterAll calls
  refine ⟨follows.level, follows.handlerMade, follows.handlerLevel, ?_, ?_⟩
  · intro name package mem
    obtain ⟨settings, found, level⟩ := follows.returned name package mem
    have shared := follows.shared name package
    rw [found, Option.getD_some, if_pos mem] at shared
    obtain ⟨logger, known, rfl⟩ := logger?_of_settings? found
    exact ⟨logger, known, level, shared⟩
  · intro debugging name outside
    have kept := settings?_setLevel_outside (start.afterAll calls) debugging outside
    have levels := congrArg (Option.map Settings.level) kept
    rw [Hierarchy.settings?, Hierarchy.settings?, Option.map_map, Option.map_map] at levels
    exact levels

/-- With the logger of a library there before, and the level of the package set between two loggers of it. -/
theorem package_loggers_follow_debugging :
    let start : State :=
      { level := Severity.info.rank
        hierarchy :=
          { root := { level := Severity.warning.rank }, named := [("PIL.Image", {})], mentioned := ["PIL"] } }
    let calls : List Call :=
      [.getLogger "kduproc.cli", .setLevel true, .getLogger "kduproc", .setGlobalLevel Severity.error.rank]
    start.IsFresh ∧ (start.afterAll calls).handlerLevel = some Severity.debug.rank ∧
      ∀ name ∈ ["kduproc.cli", "kduproc"], ∃ logger,
        (start.afterAll calls).hierarchy.logger? name = some logger ∧
          logger.level = Severity.debug.rank ∧ logger.handlers.count .shared = 1 := by
  intro start calls
  have fresh : start.IsFresh := isFresh_of_entries rfl List.not_mem_nil (by simp [start])
  obtain ⟨level, made, handlerLevel, loggers, -⟩ := package_loggers_follow fresh calls
  have debugging : (start.afterAll calls).level = Severity.debug.rank := level.trans rfl
  rw [debugging] at loggers handlerLevel
  refine ⟨fresh, ?_, ?_⟩
  · obtain ⟨shared, held⟩ := Option.isSome_iff_exists.mp (made.mpr ⟨"kduproc", by simp [calls]⟩)
    rw [held, handlerLevel shared held]
  · simp only [List.mem_cons, List.not_mem_nil, or_false]
    rintro name (rfl | rfl)
    · exact loggers "kduproc.cli" (by decide +kernel) (by simp [calls])
    · exact loggers "kduproc" (by decide) (by simp [calls])

end State

end Jp2Render.Logging
