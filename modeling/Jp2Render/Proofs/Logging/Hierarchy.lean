import Jp2Render.Logging.Basic

/-!
What loggers are set to. A hierarchy changes in two ways: a logger is made, or one that is there is set.
Making one may put it between others and what is above them, but they keep their levels and handlers.
-/

namespace Jp2Render.Logging

structure Settings where
  level : Int := 0
  handlers : List Handler := []
deriving DecidableEq, Repr

def Settings.atLevel (settings : Settings) (level : Int) : Settings := { settings with level }

@[simp] theorem Settings.atLevel_atLevel (settings : Settings) (first last : Int) :
    (settings.atLevel first).atLevel last = settings.atLevel last := rfl

def Logger.settings (logger : Logger) : Settings where
  level := logger.level
  handlers := logger.handlers

namespace Hierarchy

variable {hierarchy : Hierarchy} {name other : String}

def settings? (hierarchy : Hierarchy) (name : String) : Option Settings :=
  (hierarchy.logger? name).map Logger.settings

theorem settings?_of_isRoot (root : isRoot name = true) :
    hierarchy.settings? name = some hierarchy.root.settings := by
  rw [settings?, logger?, if_pos root]
  rfl

theorem settings?_of_named (named : isRoot name = false) :
    hierarchy.settings? name = (hierarchy.named.lookup name).map Logger.settings := by
  rw [settings?, logger?, if_neg (Bool.eq_false_iff.mp named)]

theorem lookup_map_entries {change : String × Logger → String × Logger}
    (nameKept : ∀ entry, (change entry).1 = entry.1) (entries : List (String × Logger)) :
    (entries.map change).lookup name =
      (entries.lookup name).map fun logger => (change (name, logger)).2 := by
  induction entries with
  | nil => rfl
  | cons first rest ih =>
      obtain ⟨here, logger⟩ := first
      have changed : change (here, logger) = (here, (change (here, logger)).2) :=
        Prod.ext (nameKept (here, logger)) rfl
      rw [List.map_cons, changed, List.lookup_cons, List.lookup_cons]
      by_cases found : name = here
      · rw [found, beq_self_eq_true]
        rfl
      · rw [beq_false_of_ne found]
        exact ih

theorem lower_name (entry : String × Logger) : (lower name entry).1 = entry.1 := by
  unfold lower
  dsimp only
  split <;> rfl

theorem settings_lower (entry : String × Logger) :
    (lower name entry).2.settings = entry.2.settings := by
  unfold lower
  dsimp only
  split <;> rfl

theorem mem_names (named : isRoot name = false) (known : hierarchy.settings? name ≠ none) :
    name ∈ hierarchy.names := by
  rw [settings?_of_named named, Ne, Option.map_eq_none_iff, List.lookup_eq_none_iff] at known
  obtain ⟨entry, mem, same⟩ : ∃ entry ∈ hierarchy.named, name = entry.1 := by
    simpa using known
  rw [names, List.mem_append, List.mem_map]
  exact .inl ⟨entry, mem, same.symm⟩

theorem settings?_ensure (hierarchy : Hierarchy) (name other : String) :
    (hierarchy.ensure name).settings? other =
      (hierarchy.settings? other).or (if other = name then some {} else none) := by
  unfold ensure
  split
  · next known =>
    split
    · next same =>
      subst same
      rw [settings?]
      obtain ⟨logger, found⟩ := Option.isSome_iff_exists.mp known
      rw [found]
      rfl
    · exact (Option.or_none).symm
  · next unknown =>
    have named : isRoot name = false := by
      rw [Bool.eq_false_iff]
      intro root
      rw [logger?, if_pos root] at unknown
      exact unknown rfl
    -- the root stands apart from the named loggers and is not touched
    cases root : isRoot other with
    | true =>
        rw [settings?_of_isRoot root, settings?_of_isRoot root]
        rfl
    | false =>
        rw [settings?_of_named root, settings?_of_named root, List.lookup_append,
          lookup_map_entries lower_name]
        cases found : hierarchy.named.lookup other with
        | some logger => exact congrArg some (settings_lower (other, logger))
        | none =>
            by_cases same : other = name
            · rw [if_pos same, same, List.lookup_cons, beq_self_eq_true]
              rfl
            · rw [if_neg same, List.lookup_cons, beq_false_of_ne same]
              rfl

theorem logger?_modify {change : Logger → Logger} (apart : isRoot name = false ∨ isRoot other = false) :
    (hierarchy.modify name change).logger? other =
      if other = name then (hierarchy.logger? other).map change else hierarchy.logger? other := by
  have named : other = name → isRoot name = false := by
    rintro rfl
    exact apart.elim id id
  cases rootName : isRoot name with
  | true =>
      have root : isRoot other = false := apart.resolve_left (by rw [rootName]; exact nofun)
      rw [if_neg fun same => absurd (named same) (by rw [rootName]; exact nofun), modify,
        if_pos rootName, logger?, logger?, if_neg (Bool.eq_false_iff.mp root),
        if_neg (Bool.eq_false_iff.mp root)]
  | false =>
      rw [modify, if_neg (Bool.eq_false_iff.mp rootName), logger?, logger?]
      cases root : isRoot other with
      | true =>
          have different : other ≠ name := by
            rintro rfl
            rw [root] at rootName
            cases rootName
          rw [if_neg different]
          rfl
      | false =>
          -- a change keeps the name that an entry is looked up by
          have kept (entry : String × Logger) :
              (if entry.1 = name then (name, change entry.2) else entry).1 = entry.1 := by
            split
            · next same => exact same.symm
            · rfl
          simp only [Bool.false_eq_true, if_false, lookup_map_entries kept]
          by_cases same : other = name
          · simp only [same, if_true]
          · simp only [same, if_false, Option.map_id']

theorem settings?_set {change : Logger → Logger} (set : Settings → Settings)
    (sets : ∀ logger, (change logger).settings = set logger.settings)
    (apart : isRoot name = false ∨ isRoot other = false) :
    ((hierarchy.ensure name).modify name change).settings? other =
      if other = name then some (set ((hierarchy.settings? other).getD {}))
      else hierarchy.settings? other := by
  have made := settings?_ensure hierarchy name other
  rw [settings?, logger?_modify apart]
  by_cases same : other = name
  · have commutes : Logger.settings ∘ change = set ∘ Logger.settings := funext sets
    rw [if_pos same] at made
    rw [if_pos same, if_pos same, Option.map_map, commutes, ← Option.map_map, ← settings?, made]
    cases hierarchy.settings? other <;> rfl
  · rw [if_neg same, Option.or_none] at made
    rw [if_neg same, if_neg same]
    exact made

theorem settings?_setLoggerLevels {level : Int} {names : List String}
    (named : ∀ name ∈ names, isRoot name = false) :
    (names.foldl (State.setLoggerLevel level) hierarchy).settings? other =
      if other ∈ names then some (((hierarchy.settings? other).getD {}).atLevel level)
      else hierarchy.settings? other := by
  -- a name that comes twice is set twice to the same level
  induction names generalizing hierarchy with
  | nil => rfl
  | cons first rest ih =>
      have changed : (State.setLoggerLevel level hierarchy first).settings? other =
          if other = first then some (((hierarchy.settings? other).getD {}).atLevel level)
          else hierarchy.settings? other :=
        settings?_set (·.atLevel level) (fun _ => rfl) (.inl (named first List.mem_cons_self))
      rw [List.foldl_cons, ih fun name mem => named name (List.mem_cons_of_mem first mem), changed]
      by_cases same : other = first
      · simp [same]
      · simp [same]

end Hierarchy

end Jp2Render.Logging
