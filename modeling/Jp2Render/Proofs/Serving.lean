import Jp2Render.Proofs.Sequencing
import Jp2Render.Service

/-!
What serving comes to. The steps of serving keep records, commands and processes along the way, but
none of these is looked at again. The result of serving is therefore a function of the request, the
two tools, and the tree of files that it starts from.
-/

namespace Jp2Render

namespace Serving

variable {α β : Type}

/-- What a step gives, or the failure that it ends with. -/
def result (step : Serving α) (activity : Activity) : Except Failure α := (step.run.run activity).1

def left (step : Serving α) (activity : Activity) : Activity := (step.run.run activity).2

theorem run_bind (first : Serving α) (next : α → Serving β) (activity : Activity) :
    (first >>= next).run.run activity =
      match first.result activity with
      | .ok value => (next value).run.run (first.left activity)
      | .error failure => (.error failure, first.left activity) := by
  rw [ExceptT.run_bind, StateT.run_bind]
  unfold result left
  rcases first.run.run activity with ⟨_ | value, activity⟩ <;> rfl

theorem result_bind (first : Serving α) (next : α → Serving β) (activity : Activity) :
    (first >>= next).result activity =
      (first.result activity >>= fun value => (next value).result (first.left activity)) := by
  rw [result, run_bind]
  cases first.result activity <;> rfl

theorem left_bind (first : Serving α) (next : α → Serving β) (activity : Activity) :
    (first >>= next).left activity =
      match first.result activity with
      | .ok value => (next value).left (first.left activity)
      | .error _ => first.left activity := by
  rw [left, run_bind]
  cases first.result activity <;> rfl

theorem result_settle {ε : Type} (fail : ε → Failure) (outcome : Except ε α) (activity : Activity) :
    (settle fail outcome).result activity = outcome.mapError fail := by
  cases outcome <;> rfl

theorem left_settle {ε : Type} (fail : ε → Failure) (outcome : Except ε α) (activity : Activity) :
    (settle fail outcome).left activity = activity := by
  cases outcome <;> rfl

theorem run_tryCatch (step : Serving α) (handle : Failure → Serving α) (activity : Activity) :
    (tryCatch step handle).run.run activity =
      match step.result activity with
      | .ok value => (.ok value, step.left activity)
      | .error failure => (handle failure).run.run (step.left activity) := by
  rw [ExceptT.run_tryCatch, StateT.run_bind]
  unfold result left
  rcases step.run.run activity with ⟨_ | value, activity⟩ <;> rfl

theorem result_tryCatch (step : Serving α) (handle : Failure → Serving α) (activity : Activity) :
    (tryCatch step handle).result activity =
      match step.result activity with
      | .ok value => .ok value
      | .error failure => (handle failure).result (step.left activity) := by
  rw [result, run_tryCatch]
  cases step.result activity <;> rfl

theorem left_tryCatch (step : Serving α) (handle : Failure → Serving α) (activity : Activity) :
    (tryCatch step handle).left activity =
      match step.result activity with
      | .ok _ => step.left activity
      | .error failure => (handle failure).left (step.left activity) := by
  rw [left, run_tryCatch]
  cases step.result activity <;> rfl

theorem result_modify (change : Activity → Activity) (activity : Activity) :
    (modify change : Serving Unit).result activity = .ok () := rfl

theorem result_get (activity : Activity) : (get : Serving Activity).result activity = .ok activity :=
  rfl

theorem left_get (activity : Activity) : (get : Serving Activity).left activity = activity := rfl

theorem result_note (journal : Journal) (activity : Activity) :
    (note journal).result activity = .ok () := rfl

section Keeps

variable {γ : Type} {view : Activity → γ}

def Keeps (view : Activity → γ) (step : Serving α) : Prop :=
  ∀ activity, view (step.left activity) = view activity

theorem keeps_pure (value : α) : Keeps view (pure value : Serving α) := fun _ => rfl

theorem keeps_throw (failure : Failure) : Keeps view (throw failure : Serving α) := fun _ => rfl

theorem keeps_modify {change : Activity → Activity}
    (same : ∀ activity, view (change activity) = view activity) :
    Keeps view (modify change : Serving Unit) := same

theorem keeps_settle {ε : Type} (fail : ε → Failure) (outcome : Except ε α) :
    Keeps view (settle fail outcome) := by
  intro activity
  rw [left_settle]

theorem Keeps.bind {step : Serving α} {next : α → Serving β} (keeps : Keeps view step)
    (rest : ∀ value, Keeps view (next value)) : Keeps view (step >>= next) := by
  intro activity
  rw [left_bind]
  cases step.result activity with
  | error failure => exact keeps activity
  | ok value => exact (rest value _).trans (keeps activity)

theorem Keeps.tryCatch {step : Serving α} {handle : Failure → Serving α} (keeps : Keeps view step)
    (handled : ∀ failure, Keeps view (handle failure)) : Keeps view (tryCatch step handle) := by
  intro activity
  rw [left_tryCatch]
  cases step.result activity with
  | ok value => exact keeps activity
  | error failure => exact (handled failure _).trans (keeps activity)

end Keeps

variable (surroundings : Surroundings) (probe : Probe) (decoder : Decoder) (request : Request)
  (source : Source) (activity : Activity)

theorem result_askSize : (askSize surroundings probe source).result activity =
    (probe.ask surroundings.workingDirectory source surroundings.headerTool).result.mapError
      .header := by
  simp only [askSize, result_bind, result_modify, result_note, result_settle]
  rfl

theorem tree_askSize : ((askSize surroundings probe source).left activity).tree = activity.tree := by
  simp only [askSize, left_bind, result_modify, result_note, left_settle]
  rfl

theorem result_planDecoding (full : Dimensions) :
    (planDecoding surroundings decoder request full source).result activity =
      decoder.plan surroundings.workingDirectory request full source := by
  simp only [planDecoding, result_bind, result_settle, result_note]
  cases decoder.plan surroundings.workingDirectory request full source <;> rfl

theorem tree_planDecoding (full : Dimensions) :
    ((planDecoding surroundings decoder request full source).left activity).tree =
      activity.tree := by
  simp only [planDecoding, left_bind, result_settle, left_settle]
  cases decoder.plan surroundings.workingDirectory request full source <;> rfl

end Serving

/-- The error with which making sure of the decoder's destination fails, if it does. -/
def Decoder.destinationError (decoder : Decoder) (tree : FileTree) : Option FileTree.TreeFault :=
  if decoder.destination ≠ stdoutDevice then
    (tree.ensureStdoutLink (Path.ofText decoder.destination)).error
  else none

/-- The raster that decoding gives, over a tree of files. -/
def Decoder.decoded (decoder : Decoder) (surroundings : Surroundings) (source : Source)
    (region : Option String) (reduction : Int) (tree : FileTree) : Except Failure Raster := do
  if source.format.outputs.isEmpty then throw (.unsupportedSource source.format)
  match decoder.destinationError tree with
  | some fault => throw (.tree fault)
  | none =>
    let command ← (decoder.command surroundings.workingDirectory source region reduction).mapError
      .command
    let invocation := decoder.invocation (command.headD "") command.tail
    let outcome ← (RunReport.ofInvocation invocation surroundings.decoderTool).result.mapError .run
    decoder.rasterOf source command reduction outcome surroundings.libraries

namespace Serving

variable (surroundings : Surroundings) (decoder : Decoder) (source : Source) (activity : Activity)

theorem result_ensureDestination : (ensureDestination decoder).result activity =
    match decoder.destinationError activity.tree with
    | some fault => .error (.tree fault)
    | none => .ok () := by
  unfold ensureDestination Decoder.destinationError
  split
  · simp only [result_bind, result_get, left_get, result_modify, result_note]
    rw [ok_bind, ok_bind, ok_bind]
    cases (activity.tree.ensureStdoutLink (Path.ofText decoder.destination)).error <;> rfl
  · rfl

theorem result_runDecoder (command : List String) :
    (runDecoder surroundings decoder command).result activity =
      (RunReport.ofInvocation (decoder.invocation (command.headD "") command.tail)
        surroundings.decoderTool).result.mapError .run := by
  simp only [runDecoder, result_bind, result_modify, result_note, result_settle]
  rfl

theorem result_decode (region : Option String) (reduction : Int) :
    (decode surroundings decoder source region reduction).result activity =
      decoder.decoded surroundings source region reduction activity.tree := by
  unfold decode Decoder.decoded
  split
  · rfl
  · simp only [result_bind, result_ensureDestination, result_settle, result_runDecoder, result_note]
    cases decoder.destinationError activity.tree with
    | some error => rfl
    | none =>
        cases decoder.command surroundings.workingDirectory source region reduction with
        | error fault => rfl
        | ok command =>
            simp only [mapError_ok, ok_bind]
            cases (RunReport.ofInvocation (decoder.invocation (command.headD "") command.tail)
              surroundings.decoderTool).result with
            | error fault => rfl
            | ok outcome =>
                simp only [mapError_ok, ok_bind]
                cases decoder.rasterOf source command reduction outcome surroundings.libraries <;> rfl

end Serving

namespace Service

variable (service : Service) (surroundings : Surroundings) (request : Request) (source : Source)

theorem checkFormats_eq_ok_iff {request : Request} {source : Source} : checkFormats request source =
    .ok () ↔ request.format ∈ source.format.outputs := by
  unfold checkFormats
  split
  · next none =>
    rw [List.isEmpty_iff.mp none]
    exact iff_of_false (by rintro ⟨⟩) List.not_mem_nil
  · split
    · next offered => exact iff_of_true rfl offered
    · next refused => exact iff_of_false (by rintro ⟨⟩) refused

theorem checkFormats_refused {request : Request} {source : Source}
    (refused : request.format ∉ source.format.outputs) : checkFormats request source =
      .error (if source.format.outputs = [] then .unsupportedSource source.format
        else .unsupportedOutput request.format) := by
  unfold checkFormats
  by_cases none : source.format.outputs = []
  · rw [if_pos (List.isEmpty_iff.mpr none), if_pos none]
  · rw [if_neg (mt List.isEmpty_iff.mp none), if_neg refused, if_neg none]

/-- The picture that a request comes to once its formats are accepted, over a tree of files. -/
def made (tree : FileTree) : Except Failure EncodedPicture := do
  let full ← (service.probe.ask surroundings.workingDirectory source
    surroundings.headerTool).result.mapError .header
  let plan ← service.decoder.plan surroundings.workingDirectory request full source
  let raster ← service.decoder.decoded surroundings source plan.region plan.reduction tree
  (service.postProcessor.process raster request surroundings.libraries).result.mapError .processing

theorem result_make (activity : Activity) :
    (service.make surroundings request source).result activity =
      service.made surroundings request source activity.tree := by
  unfold make made postProcess
  simp only [Serving.result_bind, Serving.result_askSize, Serving.result_planDecoding,
    Serving.result_decode, Serving.tree_planDecoding, Serving.tree_askSize, Serving.result_note,
    Serving.result_settle]
  rfl

theorem result_render (activity : Activity) :
    (service.render surroundings request source).result activity =
      (checkFormats request source >>= fun _ =>
        (service.made surroundings request source activity.tree).mapError Failure.ofRequest) := by
  unfold render
  rw [Serving.result_bind, Serving.result_settle]
  cases checkFormats request source with
  | error failure => rfl
  | ok _ =>
      rw [mapError_ok, ok_bind, ok_bind, Serving.result_tryCatch, result_make, Serving.left_settle]
      cases service.made surroundings request source activity.tree with
      | ok picture => rfl
      | error failure => rfl

end Service

end Jp2Render
