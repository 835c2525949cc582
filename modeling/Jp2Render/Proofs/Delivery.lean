import Jp2Render.Proofs.Escapes.Faults
import Jp2Render.Proofs.Serving

/-!
What reaches the output. The output is handed the finished picture and nothing before it: no step of
making a picture writes to it or tells of a delivery, however the step goes.
-/

namespace Jp2Render

def Record.tellsDelivery (record : Record) : Bool :=
  record.channel = .processor && record.severity = .info

namespace Journal

def deliveries (journal : Journal) : Journal := journal.filter Record.tellsDelivery

def IsSilent (journal : Journal) : Prop := ∀ record ∈ journal, record.tellsDelivery = false

@[simp] theorem isSilent_nil : IsSilent [] := nofun

@[simp] theorem isSilent_cons {record : Record} {journal : Journal} :
    IsSilent (record :: journal) ↔ record.tellsDelivery = false ∧ journal.IsSilent :=
  List.forall_mem_cons

@[simp] theorem isSilent_append {first second : Journal} :
    IsSilent (first ++ second) ↔ first.IsSilent ∧ second.IsSilent :=
  List.forall_mem_append

theorem deliveries_append_silent {journal : Journal} (before : Journal) (silent : journal.IsSilent) :
    deliveries (before ++ journal) = deliveries before := by
  have none : journal.filter Record.tellsDelivery = [] :=
    List.filter_eq_nil_iff.mpr fun record kept => Bool.eq_false_iff.mp (silent record kept)
  rw [deliveries, List.filter_append, none, List.append_nil, deliveries]

end Journal

@[simp] theorem Probe.silent_record (severity : Severity) (message : String) :
    (Probe.record severity message).tellsDelivery = false := rfl

@[simp] theorem RunReport.silent_record (severity : Severity) (message : String) :
    (RunReport.record severity message).tellsDelivery = false := rfl

@[simp] theorem Decoder.silent_record (severity : Severity) (message : String) :
    (Decoder.record severity message).tellsDelivery = false := rfl

@[simp] theorem Backend.silent_record (severity : Severity) (message : String) :
    (Backend.record severity message).tellsDelivery = false := rfl

theorem Probe.isSilent_ask (probe : Probe) (workingDirectory : Path) (source : Source)
    (tool : HeaderToolBehaviour) : (probe.ask workingDirectory source tool).journal.IsSilent := by
  simp only [ask, Journal.isSilent_cons, silent_record, Journal.isSilent_append, true_and]
  constructor
  · unfold runRecords
    split
    · simp
    · simp
    · simp
    · split <;> simp
  · unfold sizeRecords
    split <;> simp

namespace RunState

variable {state : RunState} {inv : Invocation} {behaviour : ToolBehaviour}

theorem isSilent_note {journal : Journal} (before : state.journal.IsSilent)
    (silent : journal.IsSilent) : (state.note journal).journal.IsSilent :=
  Journal.isSilent_append.mpr ⟨before, silent⟩

theorem journal_wait (state : RunState) (behaviour : ToolBehaviour) (limit : Option Binary64) :
    (state.wait behaviour limit).2.journal = state.journal := by
  unfold wait
  split <;> rfl

theorem journal_killAndWait : (state.killAndWait behaviour).journal = state.journal :=
  journal_wait (state.act .kill) behaviour none

theorem isSilent_close (pipe : Pipe) (before : state.journal.IsSilent) :
    (state.close behaviour pipe).journal.IsSilent := by
  unfold close
  split
  · exact isSilent_note before (by simp)
  · exact before

theorem isSilent_closeAll (busy : List Reader) (pipes : List Pipe) (before : state.journal.IsSilent) :
    (closeAll behaviour busy pipes state).journal.IsSilent := by
  induction pipes generalizing state with
  | nil => exact before
  | cons pipe pipes ih =>
      rw [closeAll]
      apply ih
      split
      · exact before
      · exact isSilent_close pipe before

theorem isSilent_release (before : state.journal.IsSilent) :
    (state.release inv behaviour).journal.IsSilent := by
  apply isSilent_closeAll
  apply isSilent_note
  · unfold killIfRunning
    split
    · rw [journal_killAndWait]
      exact isSilent_note before (by simp)
    · exact before
  · intro record kept
    obtain ⟨reader, -, rfl⟩ := List.mem_map.mp kept
    exact RunReport.silent_record _ _

theorem isSilent_awaitExit (inv : Invocation) (behaviour : ToolBehaviour)
    (before : state.journal.IsSilent) : (state.awaitExit inv behaviour).2.journal.IsSilent := by
  have waited := journal_wait state behaviour inv.timeout
  unfold awaitExit
  split
  · next after => rw [after] at waited; exact waited ▸ before
  · next after => rw [after] at waited; exact waited ▸ before
  · next after =>
    rw [after] at waited
    rw [journal_killAndWait]
    exact isSilent_note (waited ▸ before) (by simp)

theorem isSilent_join (readers : List Reader) (before : state.journal.IsSilent) :
    (join inv readers state).2.journal.IsSilent := by
  induction readers with
  | nil => exact before
  | cons reader readers ih =>
      rw [join]
      split
      · exact isSilent_note before (by simp)
      · exact ih

theorem isSilent_attend (before : state.journal.IsSilent) :
    (state.attend inv behaviour).2.journal.IsSilent := by
  have waited := isSilent_awaitExit inv behaviour before
  unfold attend
  split
  · next after => rw [after] at waited; exact waited
  · next after =>
    rw [after] at waited
    exact isSilent_join _ waited

theorem isSilent_supervise (before : state.journal.IsSilent) :
    (state.supervise inv behaviour).2.journal.IsSilent := by
  have closed : (state.close behaviour .stdin).journal.IsSilent := isSilent_close .stdin before
  apply isSilent_note (isSilent_release (isSilent_attend closed))
  unfold finishedRecords
  split <;> simp

end RunState

theorem RunReport.isSilent_ofInvocation (inv : Invocation) (behaviour : ToolBehaviour) :
    (RunReport.ofInvocation inv behaviour).journal.IsSilent := by
  rw [ofInvocation, Journal.isSilent_cons]
  refine ⟨silent_record _ _, ?_⟩
  split
  · exact Journal.isSilent_nil
  · cases behaviour.starting with
    | some code => simp [ofNotStarted]
    | none => exact RunState.isSilent_supervise Journal.isSilent_nil

theorem Outcome.isSilent_checkRecords (outcome : Outcome) (tool : String) (toleratesSilence : Bool) :
    (outcome.checkRecords tool toleratesSilence).IsSilent := by
  unfold checkRecords
  split
  · simp
  · split
    · simp
    · split <;> simp

namespace Backend

theorem isSilent_encodePicture (libraries : Libraries) (picture : Picture) (format : OutputFormat)
    (quality : Int) : (encodePicture libraries picture format quality).journal.IsSilent := by
  rw [encodePicture]
  split
  · exact Journal.isSilent_cons.mpr ⟨rfl, Journal.isSilent_nil⟩
  · exact Journal.isSilent_nil

variable {Handle : Type} {backend : Backend Handle}

theorem isSilent_process
    (encoding : ∀ source format quality handle,
      (backend.encode source format quality handle).journal.IsSilent)
    (raster : Raster) (request : Request) (quality : Int) :
    (backend.process raster request quality).journal.IsSilent := by
  unfold process
  split
  · exact Journal.isSilent_nil
  · next target _ =>
    refine Journal.isSilent_append.mpr ⟨Journal.isSilent_cons.mpr ⟨rfl, ?_⟩, ?_⟩
    · unfold afterOpening
      split
      · exact Journal.isSilent_nil
      · unfold finish
        split
        · exact Journal.isSilent_nil
        · exact encoding _ _ _ _
    · unfold faultRecords
      split <;> simp

end Backend

variable (libraries : Libraries)

theorem RasterBackend.isSilent_encode (source : HeldPicture) (format : OutputFormat) (quality : Int)
    (handle : HeldPicture) : (encode libraries source format quality handle).journal.IsSilent := by
  unfold encode
  split
  · exact Backend.isSilent_encodePicture _ _ _ _
  · exact Journal.isSilent_nil

namespace RenderGraph

theorem isSilent_runNodes (array : RenderArray) (nodes : List RenderNode) :
    (runNodes libraries array nodes).journal.IsSilent := by
  induction nodes generalizing array with
  | nil => exact Journal.isSilent_nil
  | cons node nodes ih =>
      unfold runNodes
      split
      · exact Journal.isSilent_cons.mpr ⟨rfl, Journal.isSilent_nil⟩
      · exact Journal.isSilent_cons.mpr ⟨rfl, ih _⟩

theorem isSilent_encode (source : HeldPicture) (format : OutputFormat) (quality : Int)
    (graph : RenderGraph) : (encode libraries source format quality graph).journal.IsSilent := by
  have rendering : (graph.render source libraries).journal.IsSilent := by
    unfold render
    split
    · exact Journal.isSilent_nil
    · exact isSilent_runNodes _ _ _
  rw [encode]
  split
  · exact Journal.isSilent_cons.mpr ⟨rfl, rendering⟩
  · refine Journal.isSilent_append.mpr ⟨Journal.isSilent_cons.mpr ⟨rfl, rendering⟩, ?_⟩
    unfold encodeArray
    split
    · exact Journal.isSilent_nil
    · exact Backend.isSilent_encodePicture _ _ _ _

end RenderGraph

theorem PostProcessor.isSilent_process (processor : PostProcessor) (raster : Raster)
    (request : Request) : (processor.process raster request libraries).journal.IsSilent := by
  unfold process BackendKind.process
  cases processor.kind with
  | raster => exact Backend.isSilent_process (RasterBackend.isSilent_encode libraries) _ _ _
  | graph => exact Backend.isSilent_process (RenderGraph.isSilent_encode libraries) _ _ _

def Activity.delivery (activity : Activity) : List EncodedPicture × Journal :=
  (activity.writes, activity.journal.deliveries)

namespace Serving

theorem keeps_note {journal : Journal} (silent : journal.IsSilent) :
    Keeps Activity.delivery (note journal) := by
  intro activity
  rw [Activity.delivery, Activity.delivery]
  exact congrArg (Prod.mk _) (Journal.deliveries_append_silent _ silent)

variable (surroundings : Surroundings) (decoder : Decoder) (source : Source)

theorem keeps_askSize (probe : Probe) :
    Keeps Activity.delivery (askSize surroundings probe source) := by
  refine Keeps.bind (keeps_modify ?_) fun _ => ?_
  · intro activity
    rfl
  exact (keeps_note (probe.isSilent_ask _ _ _)).bind fun _ => keeps_settle _ _

theorem keeps_planDecoding (request : Request) (full : Dimensions) :
    Keeps Activity.delivery (planDecoding surroundings decoder request full source) := by
  apply (keeps_settle _ _).bind
  intro plan
  have silent : Journal.IsSilent [Decoder.planRecord plan] := by simp [Decoder.planRecord]
  exact (keeps_note silent).bind fun _ => keeps_pure plan

theorem keeps_ensureDestination : Keeps Activity.delivery (ensureDestination decoder) := by
  unfold ensureDestination
  split
  · apply Keeps.bind (fun _ => rfl)
    intro activity
    refine Keeps.bind (keeps_modify ?_) fun _ => ?_
    · intro other
      rfl
    have silent (link : Path) : (activity.tree.linkRecords link).IsSilent := by
      unfold FileTree.linkRecords
      split <;> simp
    apply (keeps_note (silent _)).bind
    intro _
    cases (activity.tree.ensureStdoutLink (Path.ofText decoder.destination)).error with
    | some error => exact keeps_throw _
    | none => exact keeps_pure _
  · exact keeps_pure _

theorem keeps_runDecoder (command : List String) :
    Keeps Activity.delivery (runDecoder surroundings decoder command) := by
  refine Keeps.bind (keeps_modify ?_) fun _ => ?_
  · intro activity
    rfl
  exact (keeps_note (RunReport.isSilent_ofInvocation _ _)).bind fun _ => keeps_settle _ _

theorem keeps_decode (region : Option String) (reduction : Int) :
    Keeps Activity.delivery (decode surroundings decoder source region reduction) := by
  unfold decode
  split
  · exact keeps_throw _
  · apply (keeps_ensureDestination decoder).bind
    intro _
    apply (keeps_settle _ _).bind
    intro command
    apply (keeps_runDecoder surroundings decoder command).bind
    intro outcome
    apply (keeps_note (outcome.isSilent_checkRecords _ _)).bind
    intro _
    apply (keeps_settle _ _).bind
    intro raster
    have silent : Journal.IsSilent [Decoder.decodedRecord source raster] := by
      simp [Decoder.decodedRecord]
    exact (keeps_note silent).bind fun _ => keeps_pure raster

end Serving

namespace Service

variable (service : Service) (surroundings : Surroundings) (request : Request) (source : Source)

theorem keeps_make : Serving.Keeps Activity.delivery (service.make surroundings request source) := by
  apply (Serving.keeps_askSize surroundings source service.probe).bind
  intro full
  apply (Serving.keeps_planDecoding surroundings service.decoder source request full).bind
  intro plan
  apply (Serving.keeps_decode surroundings service.decoder source plan.region plan.reduction).bind
  intro raster
  exact (Serving.keeps_note (PostProcessor.isSilent_process _ service.postProcessor raster request)).bind
    fun _ => Serving.keeps_settle _ _

theorem isSilent_failureRecords (failure : Failure) : (failureRecords source failure).IsSilent := by
  unfold failureRecords
  split
  · exact Journal.isSilent_cons.mpr ⟨rfl, Journal.isSilent_nil⟩
  · exact Journal.isSilent_nil

theorem keeps_render :
    Serving.Keeps Activity.delivery (service.render surroundings request source) := by
  apply (Serving.keeps_settle _ _).bind
  intro _
  apply (service.keeps_make surroundings request source).tryCatch
  intro failure
  have silent := isSilent_failureRecords source failure.ofRequest
  exact (Serving.keeps_note silent).bind fun _ => Serving.keeps_throw _

variable (stream : OutputStream) {service surroundings request source}

theorem serveTo_failed {activity : Activity} {failure : Failure}
    (failed : (service.render surroundings request source).result activity = .error failure) :
    (service.serveTo stream surroundings request source).result activity = .error failure ∧
      (service.serveTo stream surroundings request source).left activity =
        (service.render surroundings request source).left activity := by
  unfold serveTo
  rw [Serving.result_bind, Serving.left_bind, failed]
  exact ⟨rfl, rfl⟩

theorem serveTo_refused {activity : Activity} {picture : EncodedPicture} {fault : WriteFault}
    (made : (service.render surroundings request source).result activity = .ok picture)
    (refused : stream.refusal? picture = some fault) :
    let rendered := (service.render surroundings request source).left activity
    (service.serveTo stream surroundings request source).result activity = .error fault.failure ∧
      (service.serveTo stream surroundings request source).left activity =
        { rendered with writes := rendered.writes ++ [picture] } := by
  unfold serveTo Serving.write
  simp only [Serving.result_bind, Serving.left_bind, made, refused, Serving.result_modify, ok_bind]
  exact ⟨rfl, rfl⟩

theorem serveTo_taken {activity : Activity} {picture : EncodedPicture}
    (made : (service.render surroundings request source).result activity = .ok picture)
    (taken : stream.refusal? picture = none) :
    let rendered := (service.render surroundings request source).left activity
    (service.serveTo stream surroundings request source).result activity = .ok picture ∧
      (service.serveTo stream surroundings request source).left activity =
        { rendered with
          writes := rendered.writes ++ [picture]
          journal := rendered.journal ++ [writtenRecord request source] } := by
  unfold serveTo Serving.write
  simp only [Serving.result_bind, Serving.left_bind, made, taken, Serving.result_modify,
    Serving.result_note, ok_bind]
  exact ⟨rfl, rfl⟩

theorem writes_serveTo (activity : Activity) :
    ((service.serveTo stream surroundings request source).left activity).writes =
      activity.writes ++
        ((service.render surroundings request source).result activity).toOption.toList := by
  have kept := congrArg Prod.fst (service.keeps_render surroundings request source activity)
  cases made : (service.render surroundings request source).result activity with
  | error failure =>
      obtain ⟨-, left⟩ := serveTo_failed stream made
      rw [left]
      exact kept.trans (List.append_nil _).symm
  | ok picture =>
      have handed := congrArg (· ++ [picture]) kept
      cases refusal : stream.refusal? picture with
      | some fault =>
          obtain ⟨-, left⟩ := serveTo_refused stream made refusal
          rw [left]
          exact handed
      | none =>
          obtain ⟨-, left⟩ := serveTo_taken stream made refusal
          rw [left]
          exact handed

theorem deliveries_serveTo (activity : Activity) :
    ((service.serveTo stream surroundings request source).left activity).journal.deliveries =
      activity.journal.deliveries ++
        if ((service.serveTo stream surroundings request source).result activity).isOk then
          [writtenRecord request source]
        else [] := by
  have kept := congrArg Prod.snd (service.keeps_render surroundings request source activity)
  cases made : (service.render surroundings request source).result activity with
  | error failure =>
      obtain ⟨failed, left⟩ := serveTo_failed stream made
      rw [failed, left]
      exact kept.trans (List.append_nil _).symm
  | ok picture =>
      cases refusal : stream.refusal? picture with
      | some fault =>
          obtain ⟨failed, left⟩ := serveTo_refused stream made refusal
          rw [failed, left]
          exact kept.trans (List.append_nil _).symm
      | none =>
          obtain ⟨done, left⟩ := serveTo_taken stream made refusal
          have told : [writtenRecord request source].filter Record.tellsDelivery =
            [writtenRecord request source] := rfl
          rw [done, left, Journal.deliveries, List.filter_append, told]
          exact congrArg (· ++ [writtenRecord request source]) kept

/-- The output is handed what rendering comes to, once, and nothing if rendering fails; the failure is
then that of rendering. If the system refuses the output, this is told as a failure of the stream with
the refusal as its cause. A delivery is told of just where the picture has been taken. -/
theorem serveTo_writes (service : Service) (surroundings : Surroundings) (request : Request)
    (source : Source) (stream : OutputStream) (activity : Activity) :
    let rendering := service.render surroundings request source
    let serving := service.serveTo stream surroundings request source
    (serving.left activity).writes =
        activity.writes ++ (rendering.result activity).toOption.toList ∧
      (∀ failure, rendering.result activity = .error failure →
        serving.result activity = .error failure ∧ serving.left activity = rendering.left activity) ∧
      (∀ picture error, rendering.result activity = .ok picture →
        stream.refusal? picture = some (.system error) →
        ∃ failure, serving.result activity = .error failure ∧ failure.kind? = some .streamIO ∧
          failure.cause? = some error.shown) ∧
      (∀ picture fault, rendering.result activity = .ok picture →
        stream.refusal? picture = some (.foreign fault) →
        serving.result activity = .error (.foreign fault)) ∧
      (∀ picture, rendering.result activity = .ok picture → stream.refusal? picture = none →
        serving.result activity = .ok picture) ∧
      (serving.left activity).journal.deliveries = activity.journal.deliveries ++
        if (serving.result activity).isOk then [writtenRecord request source] else [] := by
  refine ⟨writes_serveTo stream activity, ?_, ?_, ?_, ?_, deliveries_serveTo stream activity⟩
  · intro failure failed
    exact serveTo_failed stream failed
  · intro picture error made refused
    obtain ⟨failed, -⟩ := serveTo_refused stream made refused
    exact ⟨.output error, failed, FailureKind.ofName?_name .streamIO, rfl⟩
  · intro picture fault made refused
    exact (serveTo_refused stream made refused).1
  · intro picture made taken
    exact (serveTo_taken stream made taken).1

end Service

end Jp2Render
