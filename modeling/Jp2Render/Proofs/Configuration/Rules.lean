import Jp2Render.Proofs.Configuration.Loading
import Jp2Render.Proofs.Configuration.Merging

/-!
Keeping the rules. There is one problem for each rule; those that are reported are the ones that
arise, each once and in the order of the rules, whatever else is wrong.
-/

namespace Jp2Render.Configuration

open Toml

variable {table : Table}

def setting? (table : Table) (area : Area) (name : String) : Option Value :=
  (areaTable? table area).bind (·.lookup name)

theorem areaTable?_eq_some_iff {area : Area} {entries : Table} :
    areaTable? table area = some entries ↔ table.lookup area.name = some (.table entries) := by
  unfold areaTable?
  split
  · next inside found => rw [found, Option.some.injEq, Option.some.injEq, Value.table.injEq]
  · next apart => exact iff_of_false nofun fun found => apart _ found

theorem setting?_of_inside {area : Area} {entries : Table}
    (inside : table.lookup area.name = some (.table entries)) (name : String) :
    setting? table area name = entries.lookup name := by
  rw [setting?, areaTable?_eq_some_iff.mpr inside]
  rfl

theorem setting?_congr {other : Table} {area : Area}
    (same : table.lookup area.name = other.lookup area.name) (name : String) :
    setting? table area name = setting? other area name := by
  unfold setting? areaTable?
  rw [same]

namespace Problem

def ofTypes (area : Area) : List Problem :=
  .noTable area :: area.entries.map fun entry => .wrongType area entry.1 entry.2

def all : List Problem :=
  Area.all.flatMap ofTypes ++ [.unknownBackend, .reductionOutOfRange, .qualityOutOfRange]

example : all.length = 15 ∧ all.Nodup := by decide

/-- When a rule is broken. All rules but those of areas are about what is in a table. -/
def Arises (table : Table) : Problem → Prop
  | .noTable area => areaTable? table area = none
  | .wrongType area name expected => ∃ entries, areaTable? table area = some entries ∧
      ¬ ∃ value, entries.lookup name = some value ∧ expected.accepts value = true
  | .unknownBackend => ∃ entries, areaTable? table .decoding = some entries ∧
      ¬ ∃ kind : BackendKind, entries.lookup "post_processor" = some (.text kind.name)
  | .reductionOutOfRange => ∃ n, counted? (setting? table .decoding "max_reduction_factor") = some n ∧
      ¬ (0 ≤ n ∧ n ≤ 5)
  | .qualityOutOfRange => ∃ n, counted? (setting? table .encoding "jpg_quality") = some n ∧
      ¬ (1 ≤ n ∧ n ≤ 100)

theorem hasType_eq_true {expected : EntryType} {entry : Option Value} : hasType expected entry = true ↔
    ∃ value, entry = some value ∧ expected.accepts value = true := by
  cases entry <;> simp [hasType]

theorem namesBackend_eq_true {entry : Option Value} : namesBackend entry = true ↔
    ∃ kind : BackendKind, entry = some (.text kind.name) := by
  unfold namesBackend
  split
  · next name =>
    simp only [List.any_eq_true, decide_eq_true_eq, Option.some.injEq, Value.text.injEq]
    constructor
    · rintro ⟨kind, -, same⟩
      exact ⟨kind, same.symm⟩
    · rintro ⟨kind, same⟩
      refine ⟨kind, ?_, same.symm⟩
      cases kind <;> decide
  · next other =>
    refine iff_of_false Bool.false_ne_true ?_
    rintro ⟨kind, named⟩
    exact other _ named

theorem isOutside_eq_true {least most : Int} {entry : Option Value} :
    isOutside least most entry = true ↔
      ∃ n, counted? entry = some n ∧ ¬ (least ≤ n ∧ n ≤ most) := by
  unfold isOutside
  cases counted? entry with
  | none => simp
  | some n => simp; omega

def isFound (table : Table) : Problem → Bool
  | .noTable area => (areaTable? table area).isNone
  | .wrongType area name expected =>
    (areaTable? table area).any fun entries => !hasType expected (entries.lookup name)
  | .unknownBackend =>
    (areaTable? table .decoding).any fun entries => !namesBackend (entries.lookup "post_processor")
  | .reductionOutOfRange => isOutside 0 5 (setting? table .decoding "max_reduction_factor")
  | .qualityOutOfRange => isOutside 1 100 (setting? table .encoding "jpg_quality")

theorem isFound_iff {problem : Problem} : problem.isFound table = true ↔ problem.Arises table := by
  cases problem with
  | noTable area => exact Option.isNone_iff_eq_none
  | wrongType area name expected =>
      simp only [isFound, Arises, Option.any_eq_true, Bool.not_eq_true', ← hasType_eq_true,
        Bool.not_eq_true]
  | unknownBackend =>
      simp only [isFound, Arises, Option.any_eq_true, Bool.not_eq_true', ← namesBackend_eq_true,
        Bool.not_eq_true]
  | reductionOutOfRange => exact isOutside_eq_true
  | qualityOutOfRange => exact isOutside_eq_true

instance (table : Table) (problem : Problem) : Decidable (problem.Arises table) :=
  decidable_of_iff _ isFound_iff

end Problem

theorem typeProblems_eq (table : Table) (area : Area) :
    typeProblems table area = (Problem.ofTypes area).filter (·.isFound table) := by
  unfold typeProblems Problem.ofTypes
  cases held : areaTable? table area with
  | none =>
      -- Only the first problem of the area can arise, as there are no entries to have a type.
      have untyped : (area.entries.map fun entry => Problem.wrongType area entry.1 entry.2).filter
          (·.isFound table) = [] := by
        rw [List.filter_eq_nil_iff]
        intro problem one
        obtain ⟨entry, -, rfl⟩ := List.mem_map.mp one
        rw [Problem.isFound, held]
        exact Bool.false_ne_true
      rw [List.filter_cons_of_pos, untyped]
      rw [Problem.isFound, held]
      rfl
  | some entries =>
      rw [List.filter_cons_of_neg]
      · dsimp only
        induction area.entries with
        | nil => rfl
        | cons entry rest ih =>
            have found : (Problem.wrongType area entry.1 entry.2).isFound table =
                !hasType entry.2 (entries.lookup entry.1) := by
              rw [Problem.isFound, held]
              rfl
            rw [List.map_cons, List.filterMap_cons, List.filter_cons, found, ← ih]
            cases hasType entry.2 (entries.lookup entry.1) <;> rfl
      · rw [Problem.isFound, held]
        exact Bool.false_ne_true

theorem decodingProblems_eq {held : Value} (present : table.lookup Area.decoding.name = some held) :
    decodingProblems table =
      [Problem.unknownBackend, .reductionOutOfRange].filter (·.isFound table) := by
  rw [List.filter_cons, List.filter_cons, List.filter_nil]
  unfold decodingProblems
  rw [present]
  by_cases flat : ∃ entries, held = .table entries
  · obtain ⟨entries, rfl⟩ := flat
    have inside := areaTable?_eq_some_iff.mpr present
    simp only [Problem.isFound, setting?, inside, Option.any_some, Option.bind_some,
      Bool.not_eq_true']
    cases namesBackend (entries.lookup "post_processor") <;> rfl
  -- What is there but no table is not looked into, and neither rule of its entries is broken.
  · have outside : areaTable? table .decoding = none := by
      unfold areaTable?
      rw [present]
      split
      · next entries same => exact absurd ⟨entries, Option.some.inj same⟩ flat
      · rfl
    simp only [Problem.isFound, setting?, outside]
    split
    · next absent => cases absent
    · next entries same => exact absurd ⟨entries, Option.some.inj same⟩ flat
    · rfl

theorem encodingProblems_eq (table : Table) :
    encodingProblems table = [Problem.qualityOutOfRange].filter (·.isFound table) := by
  rw [List.filter_cons, List.filter_nil, encodingProblems, Problem.isFound, setting?]
  cases areaTable? table .encoding <;> rfl

theorem problems_eq {held : Value} (present : table.lookup Area.decoding.name = some held) :
    problems table = Problem.all.filter (·.Arises table) := by
  have checked : (fun problem => decide (Problem.Arises table problem)) =
      fun problem => problem.isFound table :=
    funext fun problem => Bool.eq_iff_iff.mpr (decide_eq_true_iff.trans Problem.isFound_iff.symm)
  have types : Area.all.flatMap (typeProblems table) =
      (Area.all.flatMap Problem.ofTypes).filter (·.isFound table) := by
    rw [List.filter_flatMap]
    exact congrArg (List.flatMap · Area.all) (funext (typeProblems_eq table))
  rw [checked, problems, types, decodingProblems_eq present, encodingProblems_eq, Problem.all,
    List.filter_append, List.append_assoc, ← List.filter_append]
  rfl

/-- What the rules come to: three tables, nine entries of their types, a known backend, and two
numbers within their bounds. -/
structure KeepsRules (table : Table) : Prop where
  areas : ∀ area : Area, ∃ entries, table.lookup area.name = some (.table entries)
  types : ∀ (area : Area) (name : String) (expected : EntryType), (name, expected) ∈ area.entries →
    ∃ value, setting? table area name = some value ∧ expected.accepts value = true
  backend : ∃ kind : BackendKind, setting? table .decoding "post_processor" = some (.text kind.name)
  reduction : ∃ n, setting? table .decoding "max_reduction_factor" = some (.integer n) ∧
    0 ≤ n ∧ n ≤ 5
  quality : ∃ n, setting? table .encoding "jpg_quality" = some (.integer n) ∧ 1 ≤ n ∧ n ≤ 100

theorem EntryType.accepts_whole {value : Value} (whole : EntryType.whole.accepts value = true) :
    ∃ n, value = .integer n := by
  cases value with
  | integer n => exact ⟨n, rfl⟩
  | _ => cases whole

theorem Problem.noTable_mem_all (area : Area) : Problem.noTable area ∈ all := by
  cases area <;> decide

theorem Problem.wrongType_mem_all {area : Area} {name : String} {expected : EntryType} :
    Problem.wrongType area name expected ∈ all ↔ (name, expected) ∈ area.entries := by
  cases area <;> simp [all, ofTypes, Area.all, Area.entries]

theorem within_of_not_outside {area : Area} {name : String} {least most : Int}
    (typed : ∃ value, setting? table area name = some value ∧ EntryType.whole.accepts value = true)
    (inside : ¬ ∃ n, counted? (setting? table area name) = some n ∧ ¬ (least ≤ n ∧ n ≤ most)) :
    ∃ n, setting? table area name = some (.integer n) ∧ least ≤ n ∧ n ≤ most := by
  obtain ⟨value, there, whole⟩ := typed
  obtain ⟨n, rfl⟩ := EntryType.accepts_whole whole
  refine ⟨n, there, Decidable.byContradiction fun outside => inside ⟨n, ?_, outside⟩⟩
  rw [there, counted?]

theorem KeepsRules.not_arises (keeps : KeepsRules table) {problem : Problem}
    (listed : problem ∈ Problem.all) : ¬ problem.Arises table := by
  intro arises
  -- one rule stands against each problem
  cases problem with
  | noTable area =>
      obtain ⟨entries, inside⟩ := keeps.areas area
      rw [Problem.Arises, areaTable?_eq_some_iff.mpr inside] at arises
      cases arises
  | wrongType area name expected =>
      obtain ⟨entries, inside, wrong⟩ := arises
      have typed := keeps.types area name expected (Problem.wrongType_mem_all.mp listed)
      rw [setting?_of_inside (areaTable?_eq_some_iff.mp inside)] at typed
      exact wrong typed
  | unknownBackend =>
      obtain ⟨entries, inside, unknown⟩ := arises
      have known := keeps.backend
      rw [setting?_of_inside (areaTable?_eq_some_iff.mp inside)] at known
      exact unknown known
  | reductionOutOfRange =>
      obtain ⟨n, counted, outside⟩ := arises
      obtain ⟨m, there, within⟩ := keeps.reduction
      rw [there] at counted
      cases counted
      exact outside within
  | qualityOutOfRange =>
      obtain ⟨n, counted, outside⟩ := arises
      obtain ⟨m, there, within⟩ := keeps.quality
      rw [there] at counted
      cases counted
      exact outside within

theorem keepsRules_of_clean (clean : ∀ problem ∈ Problem.all, ¬ problem.Arises table) :
    KeepsRules table := by
  have areas (area : Area) : ∃ entries, table.lookup area.name = some (.table entries) := by
    have there : areaTable? table area ≠ none := clean _ (Problem.noTable_mem_all area)
    obtain ⟨entries, inside⟩ := Option.ne_none_iff_exists'.mp there
    exact ⟨entries, areaTable?_eq_some_iff.mp inside⟩
  have types (area : Area) (name : String) (expected : EntryType)
      (listed : (name, expected) ∈ area.entries) :
      ∃ value, setting? table area name = some value ∧ expected.accepts value = true := by
    obtain ⟨entries, inside⟩ := areas area
    rw [setting?_of_inside inside]
    refine Classical.byContradiction fun wrong => ?_
    exact clean _ (Problem.wrongType_mem_all.mpr listed)
      ⟨entries, areaTable?_eq_some_iff.mpr inside, wrong⟩
  constructor
  · exact areas
  · exact types
  · obtain ⟨entries, inside⟩ := areas .decoding
    rw [setting?_of_inside inside]
    refine Classical.byContradiction fun unknown => ?_
    exact clean .unknownBackend (by decide) ⟨entries, areaTable?_eq_some_iff.mpr inside, unknown⟩
  · exact within_of_not_outside (types .decoding _ .whole (by decide))
      (clean .reductionOutOfRange (by decide))
  · exact within_of_not_outside (types .encoding _ .whole (by decide))
      (clean .qualityOutOfRange (by decide))

theorem problems_eq_nil_iff {held : Value} (present : table.lookup Area.decoding.name = some held) :
    problems table = [] ↔ KeepsRules table := by
  rw [problems_eq present, List.filter_eq_nil_iff]
  simp only [decide_eq_true_iff]
  constructor
  · exact keepsRules_of_clean
  · intro keeps problem listed
    exact keeps.not_arises listed

theorem defaults_area (directory : Path) (area : Area) :
    ∃ entries, (defaults directory).lookup area.name = some (.table entries) := by
  cases area <;> exact ⟨_, rfl⟩

theorem IsMerged.setting?_eq {defaults document : Table} {area : Area} {below both : Table}
    (made : IsMerged defaults document table)
    (default : defaults.lookup area.name = some (.table below))
    (inside : table.lookup area.name = some (.table both)) (name : String) :
    setting? table area name = (setting? document area name).or (setting? defaults area name) := by
  rw [setting?_of_inside default]
  cases found : document.lookup area.name with
  | none =>
      have absent : setting? document area name = none := by
        rw [setting?, areaTable?, found]
        rfl
      rw [absent, setting?_congr (made.kept _ found), setting?_of_inside default]
      rfl
  | some value =>
      by_cases laid : ∃ above, value = .table above
      · obtain ⟨above, rfl⟩ := laid
        obtain ⟨laid, there, entries⟩ := made.laid _ _ _ default found
        rw [setting?_of_inside there, setting?_of_inside found, entries]
      · have there := made.given _ _ found fun _ above _ same => laid ⟨above, same⟩
        rw [there] at inside
        cases inside
        exact absurd ⟨both, rfl⟩ laid

theorem exists_lookup_merged {defaults document : Table} {name : String} {held : Value}
    (proper : document.IsProper) (default : defaults.lookup name = some held) :
    ∃ value, (merged defaults document).lookup name = some value := by
  rw [lookup_merged proper.distinct, default]
  cases document.lookup name with
  | none => exact ⟨held, rfl⟩
  | some value => exact ⟨laidOver (some held) value, rfl⟩

/-- With a document that can be read, the configuration is the defaults with the document laid over
them, just if that keeps the rules; what the document does not set is then as by default. Otherwise
each rule that is broken is told of once, in the order of the rules. The types of an area's entries
are rules for where the area is a table at all. -/
theorem load_document (directory path : Path) (bytes : Bytes) (document : Table)
    (read : readDocument path bytes = .ok document) :
    let table := merged (defaults directory) document
    let loaded := load (defaults directory) path (some bytes)
    IsMerged (defaults directory) document table ∧
    ((∃ configuration, loaded = .ok configuration) ↔ KeepsRules table) ∧
    (∀ configuration, loaded = .ok configuration → configuration.table = table ∧
      ∀ area name, setting? document area name = none →
        setting? configuration.table area name = setting? (defaults directory) area name) ∧
    (¬ KeepsRules table → ∃ fault, loaded = .error fault ∧
      fault.shown = .ofMessage "ConfigurationError" ("Invalid configuration: " ++
        String.intercalate "; " ((Problem.all.filter (·.Arises table)).map Problem.text))) := by
  intro table loaded
  have proper := isProper_of_read read
  have made : IsMerged (defaults directory) document table := isMerged_merged proper
  obtain ⟨below, default⟩ := defaults_area directory .decoding
  obtain ⟨held, present⟩ := exists_lookup_merged proper default
  have sound : problems table = [] ↔ KeepsRules table := problems_eq_nil_iff present
  -- from here on only the merged table counts
  have outcome : loaded = ofTable table := by
    show load (defaults directory) path (some bytes) = _
    rw [load_some, read]
    rfl
  rw [outcome]
  by_cases accepted : problems table = []
  · have keeps := sound.mp accepted
    rw [ofTable, dif_pos accepted]
    refine ⟨made, iff_of_true ⟨_, rfl⟩ keeps, ?_, fun broken => absurd keeps broken⟩
    intro configuration done
    cases done
    refine ⟨rfl, ?_⟩
    intro area name unset
    obtain ⟨below, default⟩ := defaults_area directory area
    obtain ⟨both, inside⟩ := keeps.areas area
    rw [made.setting?_eq default inside, unset]
    rfl
  · have broken := mt sound.mpr accepted
    rw [ofTable, dif_neg accepted, problems_eq present]
    refine ⟨made, iff_of_false ?_ broken, ?_, fun _ => ⟨_, rfl, rfl⟩⟩
    · rintro ⟨configuration, impossible⟩
      cases impossible
    · intro configuration impossible
      cases impossible

/-- An area that is no table and a number out of its bounds are told of; the types of the entries that
the area has not are not. -/
theorem load_two_problems : ∃ (bytes : Bytes) (document : Table) (fault : ConfigurationFault),
    readDocument (.ofText "/config.toml") bytes = .ok document ∧
    load (defaults (.ofText "/home")) (.ofText "/config.toml") (some bytes) = .error fault ∧
    fault.shown.message = "Invalid configuration: section 'kakadu' must be a table; " ++
      "'encoding.jpg_quality' must be between 1 and 100" := by
  have parses : (Toml.ofText "kakadu = true\nencoding.jpg_quality = 0\n").toOption.map
      (fun document => problems (merged (defaults (.ofText "/home")) document)) =
      some [.noTable .decoding, .qualityOutOfRange] := by decide +kernel
  obtain ⟨document, parsed, found⟩ := Option.map_eq_some_iff.mp parses
  have read : readDocument (.ofText "/config.toml") (Bytes.ofText _) = .ok document :=
    readDocument_eq_ok_iff.mpr
      ⟨_, Text.Utf8.strict_eq_ok_iff.mpr rfl, toOption_eq_some_iff.mp parsed⟩
  obtain ⟨below, default⟩ := defaults_area (.ofText "/home") .decoding
  obtain ⟨held, present⟩ := exists_lookup_merged (isProper_of_read read) default
  obtain ⟨-, -, -, rejected⟩ :=
    load_document (.ofText "/home") (.ofText "/config.toml") _ document read
  have broken : ¬ KeepsRules (merged (defaults (.ofText "/home")) document) := by
    rw [← problems_eq_nil_iff present, found]
    exact List.cons_ne_nil _ _
  obtain ⟨fault, failed, shown⟩ := rejected broken
  rw [← problems_eq present, found] at shown
  exact ⟨_, document, fault, read, failed, congrArg FaultText.message shown⟩

end Jp2Render.Configuration
