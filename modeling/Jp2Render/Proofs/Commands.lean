import Jp2Render.Proofs.Escapes.Plan
import Jp2Render.Proofs.Serving

/-!
Which commands are started for a request. Every step of serving adds to the commands or leaves them
as they are: the header tool is asked once, the decoder at most once after it, and nothing is started
a second time when something fails.
-/

namespace Jp2Render

def inputOf? (command : List String) : Option String :=
  (command.tail.dropWhile (· ≠ "-i"))[1]?

theorem inputOf?_headerCommand (binDirectory : Option String) (workingDirectory source : Path) :
    inputOf? (headerCommand binDirectory workingDirectory source) =
      some (workingDirectory.within source).text := rfl

theorem length_headerCommand (binDirectory : Option String) (workingDirectory source : Path) :
    (headerCommand binDirectory workingDirectory source).length = 3 := rfl

namespace Decoder

variable {decoder : Decoder} {workingDirectory : Path} {source : Source} {region : Option String}
  {reduction : Int} {command : List String}

theorem command_words
    (made : decoder.command workingDirectory source region reduction = .ok command) :
    ∃ options, command = [Tool.inDirectory Tool.decoder decoder.binDirectory, "-quiet", "-no_alpha",
      "-i", (workingDirectory.within source.path).text] ++ options := by
  obtain ⟨draft, reduced, made⟩ := bind_eq_ok_iff.mp made
  unfold CommandDraft.withReduction at reduced
  split at reduced
  · have drafted := Except.ok.inj reduced
    rw [← drafted] at made
    unfold CommandDraft.arguments at made
    -- a draft always has its input here, and may lack its destination
    split at made
    · cases made
    · cases made
    · next input _ given _ =>
      have same : workingDirectory.within source.path = input := Option.some.inj given
      rw [← Except.ok.inj made, ← same, List.append_assoc, List.append_assoc]
      exact ⟨_, rfl⟩
  · cases reduced

theorem inputOf?_command
    (made : decoder.command workingDirectory source region reduction = .ok command) :
    inputOf? command = some (workingDirectory.within source.path).text := by
  obtain ⟨options, rfl⟩ := command_words made
  rfl

theorem command_ne_headerCommand
    (made : decoder.command workingDirectory source region reduction = .ok command)
    (binDirectory : Option String) :
    command ≠ headerCommand binDirectory workingDirectory source.path := by
  intro same
  have words := congrArg List.length same
  obtain ⟨options, rfl⟩ := command_words made
  rw [length_headerCommand, List.length_append] at words
  simp only [List.length_cons, List.length_nil] at words
  omega

end Decoder

namespace Serving

variable {α β : Type}

def KeepsCalls (step : Serving α) : Prop := ∀ activity, (step.left activity).calls = activity.calls

theorem keepsCalls_pure (value : α) : KeepsCalls (pure value : Serving α) := fun _ => rfl

theorem keepsCalls_throw (failure : Failure) : KeepsCalls (throw failure : Serving α) := fun _ => rfl

theorem keepsCalls_note (journal : Journal) : KeepsCalls (note journal) := fun _ => rfl

theorem keepsCalls_settle {ε : Type} (fail : ε → Failure) (outcome : Except ε α) :
    KeepsCalls (settle fail outcome) := by
  intro activity
  rw [left_settle]

theorem calls_bind {next : α → Serving β} (rest : ∀ value, KeepsCalls (next value)) (step : Serving α)
    (activity : Activity) : ((step >>= next).left activity).calls = (step.left activity).calls := by
  rw [left_bind]
  cases step.result activity with
  | error failure => rfl
  | ok value => exact rest value _

theorem KeepsCalls.bind {step : Serving α} {next : α → Serving β} (keeps : KeepsCalls step)
    (rest : ∀ value, KeepsCalls (next value)) : KeepsCalls (step >>= next) := by
  intro activity
  rw [calls_bind rest, keeps]

theorem calls_tryCatch {handle : Failure → Serving α} (keeps : ∀ failure, KeepsCalls (handle failure))
    (step : Serving α) (activity : Activity) :
    ((tryCatch step handle).left activity).calls = (step.left activity).calls := by
  rw [left_tryCatch]
  cases step.result activity with
  | ok value => rfl
  | error failure => exact keeps failure _

variable (surroundings : Surroundings) (probe : Probe) (decoder : Decoder) (request : Request)
  (source : Source) (activity : Activity)

theorem calls_askSize : ((askSize surroundings probe source).left activity).calls =
    activity.calls ++
      [headerCommand probe.binDirectory surroundings.workingDirectory source.path] := by
  simp only [askSize, left_bind, result_modify, result_note, left_settle]
  rfl

theorem keepsCalls_planDecoding (full : Dimensions) :
    KeepsCalls (planDecoding surroundings decoder request full source) := by
  apply (keepsCalls_settle _ _).bind
  intro plan
  exact (keepsCalls_note _).bind fun _ => keepsCalls_pure plan

theorem keepsCalls_ensureDestination : KeepsCalls (ensureDestination decoder) := by
  intro activity
  unfold ensureDestination
  split
  · simp only [left_bind, result_get, left_get, result_modify, result_note]
    cases (activity.tree.ensureStdoutLink (Path.ofText decoder.destination)).error <;> rfl
  · rfl

theorem calls_runDecoder (command : List String) :
    ((runDecoder surroundings decoder command).left activity).calls =
      activity.calls ++ [command] := by
  simp only [runDecoder, left_bind, result_modify, result_note, left_settle]
  rfl

theorem calls_decode {region : Option String} {reduction : Int} {command : List String}
    (offered : source.format.outputs.isEmpty = false)
    (made : decoder.command surroundings.workingDirectory source region reduction = .ok command) :
    ((decode surroundings decoder source region reduction).left activity).calls =
      activity.calls ++ if (decoder.destinationError activity.tree).isSome then [] else [command] := by
  have linked := keepsCalls_ensureDestination decoder activity
  unfold decode
  rw [if_neg (Bool.not_eq_true _ ▸ offered), left_bind, result_ensureDestination]
  cases decoder.destinationError activity.tree with
  | some error =>
      rw [Option.isSome_some, if_pos rfl, List.append_nil]
      exact linked
  | none =>
      rw [Option.isSome_none, if_neg Bool.false_ne_true, left_bind, result_settle, left_settle, made,
        mapError_ok]
      simp only
      -- what follows the run keeps records only, whether the output is a raster or not
      rw [calls_bind, calls_runDecoder, linked]
      intro outcome
      apply (keepsCalls_note _).bind
      intro _
      apply (keepsCalls_settle _ _).bind
      intro raster
      exact (keepsCalls_note _).bind fun _ => keepsCalls_pure raster

end Serving

namespace Service

variable (service : Service) (surroundings : Surroundings) (request : Request) (source : Source)

/-- The plan that the decoder is started for, over a tree of files. There is none where the size is
not told, nothing can be planned, or the decoder's destination cannot be made. -/
def decoding? (tree : FileTree) : Option DecodePlan :=
  match (service.probe.ask surroundings.workingDirectory source surroundings.headerTool).result with
  | .error _ => none
  | .ok full =>
    match service.decoder.plan surroundings.workingDirectory request full source with
    | .error _ => none
    | .ok plan => if (service.decoder.destinationError tree).isSome then none else some plan

variable {service surroundings request source} in
theorem decoding?_eq_some_iff {tree : FileTree} {plan : DecodePlan} :
    service.decoding? surroundings request source tree = some plan ↔ ∃ full,
      (service.probe.ask surroundings.workingDirectory source surroundings.headerTool).result =
        .ok full ∧
      service.decoder.plan surroundings.workingDirectory request full source = .ok plan ∧
      service.decoder.destinationError tree = none := by
  unfold decoding?
  constructor
  · intro decodes
    split at decodes
    · cases decodes
    · next full asked =>
      split at decodes
      · cases decodes
      · next planned =>
        split at decodes
        · cases decodes
        · next linked =>
          rw [Option.some.injEq] at decodes
          exact ⟨full, asked, decodes ▸ planned, Option.not_isSome_iff_eq_none.mp linked⟩
  · rintro ⟨full, asked, planned, linked⟩
    simp only [asked, planned, linked]
    rfl

def commands (tree : FileTree) : List (List String) :=
  headerCommand service.probe.binDirectory surroundings.workingDirectory source.path ::
    (service.decoding? surroundings request source tree).toList.map (·.command)

theorem calls_make (offered : source.format.outputs.isEmpty = false) (activity : Activity) :
    ((service.make surroundings request source).left activity).calls =
      activity.calls ++ service.commands surroundings request source activity.tree := by
  have header := Serving.calls_askSize surroundings service.probe source activity
  unfold make commands decoding?
  rw [Serving.left_bind, Serving.result_askSize]
  cases asked : (service.probe.ask surroundings.workingDirectory source
    surroundings.headerTool).result with
  | error fault => exact header
  | ok full =>
      have kept := Serving.keepsCalls_planDecoding surroundings service.decoder request source full
        ((Serving.askSize surroundings service.probe source).left activity)
      rw [header] at kept
      simp only [mapError_ok, Serving.left_bind (Serving.planDecoding _ _ _ _ _),
        Serving.result_planDecoding]
      cases planned : service.decoder.plan surroundings.workingDirectory request full source with
      | error failure => exact kept
      | ok plan =>
          obtain ⟨-, -, made⟩ := Decoder.plan_eq_ok_iff.mp planned
          simp only
          rw [Serving.calls_bind, Serving.calls_decode _ _ _ _ offered made, kept,
            Serving.tree_planDecoding, Serving.tree_askSize, List.append_assoc]
          · split <;> rfl
          · intro raster
            exact (Serving.keepsCalls_note _).bind fun _ => Serving.keepsCalls_settle _ _

theorem calls_render (activity : Activity) :
    ((service.render surroundings request source).left activity).calls = activity.calls ++
      if request.format ∈ source.format.outputs then
        service.commands surroundings request source activity.tree
      else [] := by
  unfold render
  rw [Serving.left_bind, Serving.result_settle, Serving.left_settle]
  by_cases offered : request.format ∈ source.format.outputs
  · have decodable : source.format.outputs.isEmpty = false :=
      List.isEmpty_eq_false_iff_exists_mem.mpr ⟨_, offered⟩
    rw [if_pos offered, checkFormats_eq_ok_iff.mpr offered, mapError_ok]
    simp only
    rw [Serving.calls_tryCatch, calls_make _ _ _ _ decodable]
    intro failure
    exact (Serving.keepsCalls_note _).bind fun _ => Serving.keepsCalls_throw _
  · rw [if_neg offered, checkFormats_refused offered, List.append_nil]
    rfl

/-- Whatever the tools do, the commands that are started for a request are the header tool's and then
the decoder's, as far as it gets: none if a format is refused, the source's own before the one that is
asked for; the header tool's exactly once otherwise; and the decoder's where the size was told, a plan
was made and the destination is there. The decoder's is the command of the plan, and both are given
the same path. -/
theorem render_commands (activity : Activity) :
    let header := headerCommand service.probe.binDirectory surroundings.workingDirectory source.path
    let path := surroundings.workingDirectory.within source.path
    let served := service.render surroundings request source
    ∃ started decoding, (served.left activity).calls = activity.calls ++ started ∧
      started <+: [header, decoding] ∧
      (started = [] ↔ request.format ∉ source.format.outputs) ∧
      (request.format ∉ source.format.outputs → served.result activity =
        .error (if source.format.outputs = [] then .unsupportedSource source.format
          else .unsupportedOutput request.format)) ∧
      (request.format ∈ source.format.outputs → started.count header = 1) ∧
      (decoding ∈ started ↔ request.format ∈ source.format.outputs ∧ ∃ full plan,
        (service.probe.ask surroundings.workingDirectory source surroundings.headerTool).result =
          .ok full ∧
        service.decoder.plan surroundings.workingDirectory request full source = .ok plan ∧
        service.decoder.destinationError activity.tree = none ∧ decoding = plan.command) ∧
      (∀ full plan, request.format ∈ source.format.outputs →
        (service.probe.ask surroundings.workingDirectory source surroundings.headerTool).result =
          .ok full →
        service.decoder.plan surroundings.workingDirectory request full source = .ok plan →
        service.decoder.destinationError activity.tree = none → started = [header, plan.command]) ∧
      (∀ command ∈ started, inputOf? command = some path.text) ∧
      (surroundings.workingDirectory.isAbsolute = true → path.isAbsolute = true) := by
  intro header path served
  have calls := service.calls_render surroundings request source activity
  by_cases offered : request.format ∈ source.format.outputs
  · rw [if_pos offered, commands] at calls
    cases decodes : service.decoding? surroundings request source activity.tree with
    | none =>
        rw [decodes] at calls
        have unplanned {full : Dimensions} {plan : DecodePlan} (asked : (service.probe.ask
            surroundings.workingDirectory source surroundings.headerTool).result = .ok full)
            (planned : service.decoder.plan surroundings.workingDirectory request full source =
              .ok plan) (linked : service.decoder.destinationError activity.tree = none) : False := by
          rw [decoding?_eq_some_iff.mpr ⟨full, asked, planned, linked⟩] at decodes
          cases decodes
        refine ⟨[header], [], calls, ⟨[[]], rfl⟩, ?_, fun refused => absurd offered refused, ?_, ?_, ?_,
          ?_, Path.within_absolute _ _⟩
        · exact iff_of_false (List.cons_ne_nil _ _) (not_not_intro offered)
        · intro _
          exact List.count_singleton_self
        · refine iff_of_false (mt List.mem_singleton.mp (List.cons_ne_nil _ _).symm) ?_
          rintro ⟨-, full, plan, asked, planned, linked, -⟩
          exact unplanned asked planned linked
        · intro full plan _ asked planned linked
          exact (unplanned asked planned linked).elim
        · intro command started
          rw [List.mem_singleton.mp started]
          exact inputOf?_headerCommand _ _ _
    | some plan =>
        rw [decodes] at calls
        obtain ⟨full, asked, planned, linked⟩ := decoding?_eq_some_iff.mp decodes
        obtain ⟨-, -, made⟩ := Decoder.plan_eq_ok_iff.mp planned
        have other : plan.command ≠ header := Decoder.command_ne_headerCommand made _
        refine ⟨[header, plan.command], plan.command, calls, List.prefix_rfl, ?_,
          fun refused => absurd offered refused, ?_, ?_, ?_, ?_, Path.within_absolute _ _⟩
        · exact iff_of_false (List.cons_ne_nil _ _) (not_not_intro offered)
        · intro _
          rw [List.count_cons_self, List.count_eq_zero.mpr (mt List.mem_singleton.mp other.symm)]
        · exact iff_of_true (List.mem_cons_of_mem _ List.mem_cons_self)
            ⟨offered, full, plan, asked, planned, linked, rfl⟩
        · intro other plan' _ asked' planned' linked'
          have same := decoding?_eq_some_iff.mpr ⟨other, asked', planned', linked'⟩
          rw [Option.some.inj (decodes.symm.trans same)]
        · intro command started
          rcases List.mem_cons.mp started with first | second
          · rw [first]
            exact inputOf?_headerCommand _ _ _
          · rw [List.mem_singleton.mp second]
            exact Decoder.inputOf?_command made
  · rw [if_neg offered] at calls
    refine ⟨[], [], calls, List.nil_prefix, iff_of_true rfl offered, ?_, fun accepted =>
      absurd accepted offered, ?_, fun _ _ accepted => absurd accepted offered,
      fun command started => absurd started List.not_mem_nil, Path.within_absolute _ _⟩
    · intro _
      rw [result_render, checkFormats_refused offered]
      rfl
    · exact iff_of_false List.not_mem_nil fun decodes => offered decodes.1

/-- Both tools are started for a part of an image, and are given the path of a source that is named
from the working directory. -/
theorem render_commands_both :
    let service : Service := { probe := {}, decoder := {}, postProcessor := { kind := .raster } }
    let document := "<x><codestream><width>16</width><height>16</height></codestream></x>"
    let surroundings : Surroundings :=
      { workingDirectory := .ofText "/data"
        headerTool := { output := Bytes.ofText document }
        decoderTool := {} }
    let request : Request := { format := .png, region := .pixels ⟨0, 0, 8, 4⟩ }
    let activity : Activity := { tree := ⟨[], []⟩ }
    ((service.render surroundings request ⟨.ofText "a.jp2", .jp2⟩).left activity).calls =
      [["kdu_jp2info", "-i", "/data/a.jp2"],
       ["kdu_expand", "-quiet", "-no_alpha", "-i", "/data/a.jp2",
        "-region", "{0.0000000,0.0000000},{0.2500000,0.5000000}", "-o", "/dev/stdout"]] := by
  intro service document surroundings request activity
  let plan : DecodePlan :=
    ⟨some "{0.0000000,0.0000000},{0.2500000,0.5000000}", 0,
      ["kdu_expand", "-quiet", "-no_alpha", "-i", "/data/a.jp2",
        "-region", "{0.0000000,0.0000000},{0.2500000,0.5000000}", "-o", "/dev/stdout"]⟩
  have planned : (service.decoder.plan surroundings.workingDirectory request ⟨16, 16⟩
      ⟨.ofText "a.jp2", .jp2⟩).toOption = some plan := by decide +kernel
  have asked : (service.probe.ask surroundings.workingDirectory ⟨.ofText "a.jp2", .jp2⟩
      surroundings.headerTool).result.toOption = some ⟨16, 16⟩ := by decide +kernel
  obtain ⟨started, -, calls, -, -, -, -, -, both, -⟩ :=
    service.render_commands surroundings request ⟨.ofText "a.jp2", .jp2⟩ activity
  rw [calls, both _ plan (by decide) (toOption_eq_some_iff.mp asked)
    (toOption_eq_some_iff.mp planned) rfl]
  decide +kernel

end Service

end Jp2Render
