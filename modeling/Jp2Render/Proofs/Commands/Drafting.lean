import Jp2Render.Command

/-!
Putting a command together. A draft is used for as long as its owner likes: its parts are set in any order
and again and again, its arguments are asked for in between, and a call that is refused leaves it in use.
What it has become is then told by the last value that each part was given, whatever came in between.
-/

namespace Jp2Render

abbrev Drafting (α : Type) := ExceptT CommandFault (StateM CommandDraft) α

namespace CommandDraft

/-- What the owner of a draft can do with it: set its parts, and build the arguments. -/
inductive Call where
  | input (workingDirectory source : String)
  | region (region : Option String)
  | reduction (reduction : Int)
  | output (destination : String)
  | build
deriving DecidableEq, Repr

def perform : Call → Drafting (Option (List String))
  | .input workingDirectory source => do
    modify (·.withInput (.ofText workingDirectory) (.ofText source))
    return none
  | .region region => do
    modify (·.withRegion region)
    return none
  | .reduction reduction => do
    set (← MonadExcept.ofExcept ((← get).withReduction reduction))
    return none
  | .output destination => do
    modify (·.withOutput destination)
    return none
  | .build => do
    return some (← MonadExcept.ofExcept (← get).arguments)

abbrev Answer := Except CommandFault (Option (List String))

def answer (draft : CommandDraft) (call : Call) : Answer := ((perform call).run.run draft).1

def after (draft : CommandDraft) (call : Call) : CommandDraft := ((perform call).run.run draft).2

/-- The draft after calls, each of them made whatever became of those before it. -/
def afterAll (draft : CommandDraft) (calls : List Call) : CommandDraft := calls.foldl after draft

def answers (draft : CommandDraft) : List Call → List Answer
  | [] => []
  | call :: rest => draft.answer call :: (draft.after call).answers rest

namespace Call

def input? : Call → Option Path
  | .input workingDirectory source => some ((Path.ofText workingDirectory).within (.ofText source))
  | _ => none

def region? : Call → Option (Option String)
  | .region given => some given
  | _ => none

def reduction? : Call → Option Nat
  | .reduction given => if 0 ≤ given ∧ given ≤ 5 then some given.toNat else none
  | _ => none

def output? : Call → Option String
  | .output destination => some destination
  | _ => none

def last? {α : Type} (set? : Call → Option α) (calls : List Call) : Option α :=
  (calls.filterMap set?).getLast?

theorem last?_cons {α : Type} (set? : Call → Option α) (call : Call) (rest : List Call) :
    last? set? (call :: rest) = (last? set? rest).or (set? call) := by
  unfold last?
  cases given : set? call with
  | none => rw [List.filterMap_cons_none given, Option.or_none]
  | some value =>
      rw [List.filterMap_cons_some given, List.getLast?_cons]
      cases (rest.filterMap set?).getLast? <;> rfl

end Call

structure Accepted where
  input : Option Path
  region : Option (Option String)
  reduction : Option Nat
  output : Option String
deriving DecidableEq, Repr

def accepted (calls : List Call) : Accepted where
  input := Call.last? Call.input? calls
  region := Call.last? Call.region? calls
  reduction := Call.last? Call.reduction? calls
  output := Call.last? Call.output? calls

def overwritten (draft : CommandDraft) (values : Accepted) : CommandDraft where
  binary := draft.binary
  input := values.input.or draft.input
  region := values.region.getD draft.region
  reduction := values.reduction.getD draft.reduction
  output := values.output.or draft.output

theorem perform_reduction (draft : CommandDraft) (reduction : Int) :
    (perform (.reduction reduction)).run.run draft =
      if 0 ≤ reduction ∧ reduction ≤ 5 then (.ok none, { draft with reduction := reduction.toNat })
      else (.error (.reductionOutOfRange reduction), draft) := by
  -- the draft is set after the reduction was judged, so a refusal finds it as it was
  show (do set (← MonadExcept.ofExcept (draft.withReduction reduction)); return none :
    Drafting (Option (List String))).run.run draft = _
  by_cases known : 0 ≤ reduction ∧ reduction ≤ 5
  · have taken : draft.withReduction reduction = .ok { draft with reduction := reduction.toNat } :=
      if_pos known
    rw [if_pos known, taken]
    rfl
  · have refused : draft.withReduction reduction = .error (.reductionOutOfRange reduction) :=
      if_neg known
    rw [if_neg known, refused]
    rfl

theorem perform_build (draft : CommandDraft) :
    (perform .build).run.run draft = (draft.arguments.map some, draft) := by
  show (do return some (← MonadExcept.ofExcept draft.arguments) :
    Drafting (Option (List String))).run.run draft = _
  cases draft.arguments <;> rfl

theorem overwritten_cons (draft : CommandDraft) (call : Call) (rest : List Call) :
    draft.overwritten (accepted (call :: rest)) =
      (draft.overwritten (accepted [call])).overwritten (accepted rest) := by
  simp only [overwritten, accepted, Call.last?_cons _ call rest, Call.last?_cons _ call [],
    Option.or_assoc, Option.getD_or]
  rfl

theorem accepted_reduction (reduction : Int) :
    accepted [.reduction reduction] =
      { input := none, region := none, output := none
        reduction := if 0 ≤ reduction ∧ reduction ≤ 5 then some reduction.toNat else none } := by
  unfold accepted
  simp only [Call.last?_cons]
  rfl

theorem after_eq (draft : CommandDraft) (call : Call) :
    draft.after call = draft.overwritten (accepted [call]) := by
  cases call with
  | input workingDirectory source => rfl
  | region region => rfl
  | reduction reduction =>
      rw [after, perform_reduction, accepted_reduction]
      by_cases known : 0 ≤ reduction ∧ reduction ≤ 5
      · rw [if_pos known, if_pos known]
        rfl
      · rw [if_neg known, if_neg known]
        rfl
  | output destination => rfl
  | build =>
      rw [after, perform_build]
      rfl

/-- Whatever draft the calls begin with, values that are set later stand over those that are set earlier. -/
theorem afterAll_eq (draft : CommandDraft) (calls : List Call) :
    draft.afterAll calls = draft.overwritten (accepted calls) := by
  induction calls generalizing draft with
  | nil => rfl
  | cons call rest ih =>
      calc draft.afterAll (call :: rest)
          = (draft.after call).afterAll rest := rfl
        _ = (draft.overwritten (accepted [call])).overwritten (accepted rest) := by rw [ih, after_eq]
        _ = draft.overwritten (accepted (call :: rest)) := (overwritten_cons draft call rest).symm

theorem afterAll_inDirectory (binDirectory : Option String) (calls : List Call) :
    (inDirectory binDirectory).afterAll calls =
      { binary := Tool.inDirectory Tool.decoder binDirectory
        input := (accepted calls).input
        region := (accepted calls).region.join
        reduction := (accepted calls).reduction.getD 0
        output := (accepted calls).output } := by
  rw [afterAll_eq]
  simp only [overwritten, inDirectory, Option.or_none]
  cases (accepted calls).region <;> rfl

theorem answers_append (draft : CommandDraft) (earlier : List Call) (call : Call) (later : List Call) :
    (draft.answers (earlier ++ call :: later))[earlier.length]? =
      some ((draft.afterAll earlier).answer call) := by
  induction earlier generalizing draft with
  | nil => rfl
  | cons first rest ih => exact ih (draft.after first)

theorem destination?_eq_some_iff {draft : CommandDraft} {destination : String} :
    draft.destination? = some destination ↔ draft.output = some destination ∧ destination ≠ "" := by
  simp [destination?, Option.filter_eq_some_iff]

theorem destination?_eq_none_iff {draft : CommandDraft} :
    draft.destination? = none ↔ draft.output.getD "" = "" := by
  cases given : draft.output <;> simp [destination?, given]

theorem arguments_eq_ok_iff {draft : CommandDraft} {arguments : List String} :
    draft.arguments = .ok arguments ↔ ∃ input destination,
      draft.input = some input ∧ draft.output = some destination ∧ destination ≠ "" ∧
      arguments = [draft.binary, "-quiet", "-no_alpha", "-i", input.text] ++
        regionArguments draft.region ++ reductionArguments draft.reduction ++
        ["-o", quotedPath destination] := by
  constructor
  · intro built
    unfold CommandDraft.arguments at built
    split at built
    · cases built
    · cases built
    · next input destination given led =>
      obtain ⟨output, written⟩ := destination?_eq_some_iff.mp led
      exact ⟨input, destination, given, output, written, (Except.ok.inj built).symm⟩
  · rintro ⟨input, destination, given, output, written, rfl⟩
    unfold CommandDraft.arguments
    rw [given, destination?_eq_some_iff.mpr ⟨output, written⟩]

theorem arguments_eq_noInput_iff {draft : CommandDraft} :
    draft.arguments = .error .noInput ↔ draft.input = none := by
  unfold CommandDraft.arguments
  cases draft.input <;> cases draft.destination? <;> simp

theorem arguments_eq_noOutput_iff {draft : CommandDraft} :
    draft.arguments = .error .noOutput ↔ draft.input ≠ none ∧ draft.output.getD "" = "" := by
  rw [← destination?_eq_none_iff]
  unfold CommandDraft.arguments
  cases draft.input <;> cases draft.destination? <;> simp

theorem arguments_eq_error_iff {draft : CommandDraft} :
    (∃ fault, draft.arguments = .error fault) ↔ draft.input = none ∨ draft.output.getD "" = "" := by
  rw [← destination?_eq_none_iff]
  unfold CommandDraft.arguments
  cases draft.input <;> cases draft.destination? <;> simp

theorem answer_build (draft : CommandDraft) : draft.answer .build = draft.arguments.map some := by
  rw [answer, perform_build]

theorem answer_build_eq_error_iff {draft : CommandDraft} {fault : CommandFault} :
    draft.answer .build = .error fault ↔ draft.arguments = .error fault := by
  rw [answer_build]
  cases draft.arguments <;> simp [Except.map]

/-- Wherever it stands among the calls, what is built is told by the last values that were accepted before
it. It is a fault if no source was given or the last destination is missing or empty; otherwise the
arguments come in one order, with the region if there is one and the reduction if it is positive. A
reduction that the decoder does not know is refused and changes nothing, and building changes nothing. -/
theorem built_by_last_accepted (binDirectory : Option String) :
    (∀ (draft : CommandDraft) (reduction : Int), ¬(0 ≤ reduction ∧ reduction ≤ 5) →
      draft.answer (.reduction reduction) = .error (.reductionOutOfRange reduction) ∧
      draft.after (.reduction reduction) = draft) ∧
    (∀ draft : CommandDraft, draft.after .build = draft) ∧
    ∀ earlier later : List Call, ∃ built,
      ((inDirectory binDirectory).answers (earlier ++ .build :: later))[earlier.length]? = some built ∧
      (∀ earlier' later' : List Call, accepted earlier' = accepted earlier →
        ((inDirectory binDirectory).answers (earlier' ++ .build :: later'))[earlier'.length]? =
          some built) ∧
      ((∃ fault, built = .error fault) ↔
        (accepted earlier).input = none ∨ (accepted earlier).output.getD "" = "") ∧
      (built = .error .noInput ↔ (accepted earlier).input = none) ∧
      (built = .error .noOutput ↔
        (accepted earlier).input ≠ none ∧ (accepted earlier).output.getD "" = "") ∧
      ∀ input destination, (accepted earlier).input = some input →
        (accepted earlier).output = some destination → destination ≠ "" →
        built = .ok (some (
          [Tool.inDirectory Tool.decoder binDirectory, "-quiet", "-no_alpha", "-i", input.text] ++
          ((accepted earlier).region.join.elim [] fun region => ["-region", region]) ++
          (if 0 < (accepted earlier).reduction.getD 0 then
            ["-reduce", Nat.repr ((accepted earlier).reduction.getD 0)] else []) ++
          ["-o", quotedPath destination])) := by
  refine ⟨fun draft reduction unknown => ?_, fun draft => ?_, fun earlier later => ?_⟩
  · rw [answer, after, perform_reduction, if_neg unknown]
    exact ⟨rfl, rfl⟩
  · rw [after, perform_build]
  · refine ⟨_, answers_append _ earlier .build later, fun earlier' later' same => ?_, ?_, ?_, ?_, ?_⟩
    · -- the draft depends on the calls by what was accepted of them
      rw [answers_append, afterAll_inDirectory, afterAll_inDirectory, same]
    · simp only [answer_build_eq_error_iff, arguments_eq_error_iff, afterAll_inDirectory]
    · rw [answer_build_eq_error_iff, arguments_eq_noInput_iff, afterAll_inDirectory]
    · rw [answer_build_eq_error_iff, arguments_eq_noOutput_iff, afterAll_inDirectory]
    · intro input destination given led written
      rw [answer_build, afterAll_inDirectory,
        arguments_eq_ok_iff.mpr ⟨input, destination, given, led, written, rfl⟩]
      cases (accepted earlier).region.join <;> rfl

/-- What was set before, what was refused and what was built in between leave no trace. -/
theorem built_after_other_calls :
    ((inDirectory (some "/opt/")).answers [.region (some "-o"), .input "/data" "./maps//a.jp2",
      .reduction 2, .output "", .build, .region none, .output "/my dir/o.ppm", .reduction 6, .build])[8]? =
    some (.ok (some ["/opt/kdu_expand", "-quiet", "-no_alpha", "-i", "/data/maps/a.jp2", "-reduce", "2",
      "-o", "\"/my dir/o.ppm\""])) := by
  obtain ⟨built, answered, -, -, -, -, complete⟩ := (built_by_last_accepted (some "/opt/")).2.2
    [.region (some "-o"), .input "/data" "./maps//a.jp2", .reduction 2, .output "", .build, .region none,
      .output "/my dir/o.ppm", .reduction 6] []
  refine answered.trans ?_
  rw [complete ⟨.slash, ["data", "maps", "a.jp2"]⟩ "/my dir/o.ppm" (by decide) (by decide) (by decide)]
  rfl

end CommandDraft

end Jp2Render
