import Jp2Render.Proofs.Commands
import Jp2Render.Proofs.Escapes.Raster

/-!
What is made of a finished run of the decoder. Its exit code and its error stream decide whether the
run has failed; only then is its output looked at. The error stream is judged as text, which comes to
the same as judging its bytes, since reading with replacement never loses them all. Output that is no
picture is reported, as far as the library that reads pictures tells that it is unreadable.
-/

namespace Jp2Render

namespace Text.Utf8

theorem length_le_piecesOnto (before : List Piece) (bytes : Bytes) :
    before.length ≤ (piecesOnto before bytes).length := by
  -- pieces are only ever added to those before them
  fun_induction piecesOnto before bytes with
  | case1 before => exact Nat.le_refl _
  | case2 before first rest piece ih => exact (Nat.le_succ _).trans ih

theorem replacing_isEmpty_iff (bytes : Bytes) : (replacing bytes).isEmpty = true ↔ bytes = [] := by
  rw [replacing, String.isEmpty_iff, String.ofList_eq_empty_iff, List.map_eq_nil_iff, pieces,
    List.reverse_eq_nil_iff]
  cases bytes with
  | nil => exact iff_of_true (by rw [piecesOnto]) rfl
  | cons first rest =>
      refine iff_of_false ?_ (List.cons_ne_nil _ _)
      intro none
      have shown := length_le_piecesOnto [pieceAt first rest]
        (rest.drop ((pieceAt first rest).length - 1))
      rw [piecesOnto] at none
      rw [none] at shown
      exact absurd shown (Nat.not_succ_le_zero 0)

end Text.Utf8

/-- Runs whose output counts: with exit code zero, or with another one and nothing said about it where
that is tolerated. -/
def Outcome.Accepted (outcome : Outcome) (toleratesSilence : Bool) : Prop :=
  outcome.exitCode = 0 ∨ outcome.stderr = [] ∧ toleratesSilence = true

namespace Outcome

variable {outcome : Outcome} {tool : String} {toleratesSilence : Bool}

theorem failure?_accepted (accepted : outcome.Accepted toleratesSilence) :
    outcome.failure? tool toleratesSilence = none := by
  unfold failure? errorText
  rcases accepted with fine | ⟨silent, tolerated⟩
  · rw [if_pos fine]
  · have unsaid := (Text.Utf8.replacing_isEmpty_iff outcome.stderr).mpr silent
    by_cases fine : outcome.exitCode = 0
    · rw [if_pos fine]
    · rw [if_neg fine, unsaid, if_neg (by decide), if_pos tolerated]

theorem failure?_rejected (rejected : ¬ outcome.Accepted toleratesSilence) :
    outcome.failure? tool toleratesSilence = some ⟨tool, outcome.exitCode,
      if outcome.stderr = [] then none else some outcome.errorText⟩ := by
  obtain ⟨failed, loud⟩ := not_or.mp rejected
  have unsaid := Text.Utf8.replacing_isEmpty_iff outcome.stderr
  unfold failure? errorText
  by_cases silent : outcome.stderr = []
  · rw [if_neg failed, unsaid.mpr silent, if_neg (by decide), if_pos silent,
      if_neg fun tolerated => loud ⟨silent, tolerated⟩]
  · rw [if_neg failed, Bool.eq_false_of_not_eq_true (mt unsaid.mp silent), if_pos (by decide),
      if_neg silent]

end Outcome

theorem Failure.kind?_raster (fault : RasterFault) :
    (Failure.raster fault).kind? = if fault.isReported then some .streamIO else none := by
  have named := FailureKind.ofName?_name .streamIO
  cases fault with
  | empty => exact named
  | unread length fault =>
      rw [kind?, shown, RasterFault.shown, RasterFault.isReported]
      cases fault.isUnreadable with
      | true => exact named
      | false => exact fault.foreign
  | unconverted fault => exact fault.foreign

theorem Failure.kind?_tool (failure : ToolFailure) :
    (Failure.tool failure).kind? = some .processFailed :=
  FailureKind.ofName?_name .processFailed

theorem ToolFailure.message_of_text {failure : ToolFailure} {text : String}
    (said : failure.errorText = some text) (some : text.isEmpty = false) :
    failure.message = failure.summary ++ ": " ++ text := by
  rw [message, said]
  simp only [some]
  rfl

namespace Decoder

variable {decoder : Decoder} {source : Source} {command : List String} {reduction : Int}
  {outcome : Outcome} {libraries : Libraries}

theorem rasterOf_rejected (rejected : ¬ outcome.Accepted decoder.toleratesSilence) :
    decoder.rasterOf source command reduction outcome libraries = .error (.tool ⟨Tool.decoder,
      outcome.exitCode, if outcome.stderr = [] then none else some outcome.errorText⟩) := by
  rw [rasterOf, Outcome.failure?_rejected rejected]

theorem rasterOf_accepted (accepted : outcome.Accepted decoder.toleratesSilence) :
    decoder.rasterOf source command reduction outcome libraries =
      ((Raster.ofBytes outcome.stdout reduction libraries).mapError Failure.raster >>= fun raster =>
        pure { raster with origin := some ⟨source.path, command⟩ }) := by
  rw [rasterOf, Outcome.failure?_accepted accepted]

theorem rejected_iff : ¬ outcome.Accepted decoder.toleratesSilence ↔
    ∃ failure,
      decoder.rasterOf source command reduction outcome libraries = .error (.tool failure) := by
  constructor
  · intro rejected
    exact ⟨_, rasterOf_rejected rejected⟩
  · rintro ⟨failure, failed⟩ accepted
    rw [rasterOf_accepted accepted] at failed
    cases read : Raster.ofBytes outcome.stdout reduction libraries with
    | error fault =>
        rw [read] at failed
        cases failed
    | ok raster =>
        rw [read] at failed
        cases failed

theorem tool_of_rasterOf {failure : ToolFailure}
    (failed :
      decoder.rasterOf source command reduction outcome libraries = .error (.tool failure)) :
    failure.exitCode = outcome.exitCode ∧
      (outcome.stderr ≠ [] → failure.errorText = some outcome.errorText ∧
        failure.message = failure.summary ++ ": " ++ outcome.errorText) := by
  rw [rasterOf_rejected (rejected_iff.mpr ⟨failure, failed⟩)] at failed
  cases failed
  refine ⟨rfl, ?_⟩
  intro said
  rw [if_neg said]
  refine ⟨rfl, ToolFailure.message_of_text rfl ?_⟩
  exact Bool.eq_false_of_not_eq_true (mt (Text.Utf8.replacing_isEmpty_iff outcome.stderr).mp said)

theorem rasterOf_eq_ok_iff {raster : Raster} (accepted : outcome.Accepted decoder.toleratesSilence) :
    decoder.rasterOf source command reduction outcome libraries = .ok raster ↔
      ∃ picture, Raster.Reads libraries outcome.stdout picture ∧
        raster = ⟨Raster.standardized picture, reduction, some ⟨source.path, command⟩⟩ := by
  rw [rasterOf_accepted accepted]
  constructor
  · intro done
    obtain ⟨bare, read, done⟩ := bind_eq_ok_iff.mp done
    obtain ⟨picture, reads, rfl⟩ := Raster.ofBytes_eq_ok_iff.mp (mapError_eq_ok_iff.mp read)
    exact ⟨picture, reads, (pure_eq_ok_iff.mp done).symm⟩
  · rintro ⟨picture, reads, rfl⟩
    rw [Raster.ofBytes_eq_ok_iff.mpr ⟨picture, reads, rfl⟩, mapError_ok, ok_bind]
    rfl

theorem rasterOf_unread (accepted : outcome.Accepted decoder.toleratesSilence)
    (unread : ¬ ∃ picture, Raster.Reads libraries outcome.stdout picture) :
    ∃ failure, decoder.rasterOf source command reduction outcome libraries = .error failure ∧
      (failure.kind? = some .streamIO ↔ outcome.stdout = [] ∨ ∃ fault,
        libraries.reader.read outcome.stdout = .error fault ∧ fault.isUnreadable = true) := by
  rw [rasterOf_accepted accepted]
  cases made : Raster.ofBytes outcome.stdout reduction libraries with
  | ok raster =>
      obtain ⟨picture, reads, -⟩ := Raster.ofBytes_eq_ok_iff.mp made
      exact absurd ⟨picture, reads⟩ unread
  | error fault =>
      refine ⟨.raster fault, rfl, ?_⟩
      rw [Failure.kind?_raster, ← Raster.isReported_ofBytes made]
      cases fault.isReported <;> decide

end Decoder

namespace Serving

variable {surroundings : Surroundings} {decoder : Decoder} {source : Source}
  {region : Option String} {reduction : Int} {activity : Activity} {command : List String}
  {outcome : Outcome}

theorem decode_ran (decodable : source.format = .jp2)
    (linked : decoder.destinationError activity.tree = none)
    (made : decoder.command surroundings.workingDirectory source region reduction = .ok command)
    (ran : (RunReport.ofInvocation (decoder.invocation (command.headD "") command.tail)
      surroundings.decoderTool).result = .ok outcome) :
    ((decode surroundings decoder source region reduction).left activity).calls =
        activity.calls ++ [command] ∧
      (decode surroundings decoder source region reduction).result activity =
        decoder.rasterOf source command reduction outcome surroundings.libraries := by
  have offered : source.format.outputs.isEmpty = false := by
    rw [decodable]
    rfl
  constructor
  · rw [calls_decode _ _ _ _ offered made, linked]
    rfl
  · rw [result_decode, Decoder.decoded_linked offered linked made, Decoder.ran, ran, mapError_ok]
    rfl

/-- A finished run of the decoder is judged by its exit code and its error stream. What is rejected
fails with both. What is accepted is a raster as soon as its output is read as a picture, whatever the
formats are that the reader knows, with the reduction that was asked for and the command that was run.
Output that is not is reported as a failure of the stream where there is none, or where the reader
refuses it as unreadable; what the reader fails for otherwise is let out. -/
theorem decode_judged (activity : Activity) (decodable : source.format = .jp2)
    (linked : decoder.destinationError activity.tree = none)
    (made : decoder.command surroundings.workingDirectory source region reduction = .ok command)
    (ran : (RunReport.ofInvocation (decoder.invocation (command.headD "") command.tail)
      surroundings.decoderTool).result = .ok outcome) :
    let decoding := decode surroundings decoder source region reduction
    let accepted := outcome.exitCode = 0 ∨ outcome.stderr = [] ∧ decoder.toleratesSilence = true
    (decoding.left activity).calls = activity.calls ++ [command] ∧
      (¬ accepted ↔ ∃ failure, decoding.result activity = .error (.tool failure)) ∧
      (∀ failure, decoding.result activity = .error (.tool failure) →
        (Failure.tool failure).kind? = some .processFailed ∧
        failure.exitCode = outcome.exitCode ∧
        (outcome.stderr ≠ [] → failure.errorText = some outcome.errorText ∧
          (Failure.tool failure).message = failure.summary ++ ": " ++ outcome.errorText)) ∧
      (accepted → ((∃ raster, decoding.result activity = .ok raster) ↔
        ∃ picture, Raster.Reads surroundings.libraries outcome.stdout picture)) ∧
      (∀ raster, decoding.result activity = .ok raster →
        raster.reduction = reduction ∧ raster.origin = some ⟨source.path, command⟩ ∧
        ∃ picture, Raster.Reads surroundings.libraries outcome.stdout picture ∧
          raster.picture = Raster.standardized picture) ∧
      (accepted → (¬ ∃ picture, Raster.Reads surroundings.libraries outcome.stdout picture) →
        ∃ failure, decoding.result activity = .error failure ∧
          (failure.kind? = some .streamIO ↔ outcome.stdout = [] ∨ ∃ fault,
            surroundings.libraries.reader.read outcome.stdout = .error fault ∧
              fault.isUnreadable = true)) := by
  intro decoding accepted
  obtain ⟨calls, same⟩ : (decoding.left activity).calls = activity.calls ++ [command] ∧
      decoding.result activity =
        decoder.rasterOf source command reduction outcome surroundings.libraries :=
    decode_ran decodable linked made ran
  rw [same]
  refine ⟨calls, Decoder.rejected_iff, ?_, ?_, ?_, Decoder.rasterOf_unread⟩
  · intro failure failed
    exact ⟨Failure.kind?_tool failure, Decoder.tool_of_rasterOf failed⟩
  · intro judged
    constructor
    · rintro ⟨raster, done⟩
      obtain ⟨picture, reads, -⟩ := (Decoder.rasterOf_eq_ok_iff judged).mp done
      exact ⟨picture, reads⟩
    · rintro ⟨picture, reads⟩
      exact ⟨_, (Decoder.rasterOf_eq_ok_iff judged).mpr ⟨picture, reads, rfl⟩⟩
  · intro raster done
    have judged : outcome.Accepted decoder.toleratesSilence := by
      by_contra rejected
      obtain ⟨failure, failed⟩ := Decoder.rejected_iff.mp rejected
      rw [failed] at done
      cases done
    obtain ⟨picture, reads, rfl⟩ := (Decoder.rasterOf_eq_ok_iff judged).mp done
    exact ⟨rfl, rfl, picture, reads, rfl⟩

/-- A decoder that fails and writes nothing but a blank and a byte that is no character. -/
theorem decode_judged_blank :
    ∃ (surroundings : Surroundings) (activity : Activity) (failure : ToolFailure),
      surroundings.decoderTool.stderr.bytes = [0x20, 0xFF] ∧
      (decode surroundings {} ⟨.ofText "/data/a.jp2", .jp2⟩ none 0).result activity =
        .error (.tool failure) ∧
      failure.exitCode = 3 ∧ failure.errorText = some " \ufffd" := by
  let surroundings : Surroundings :=
    { workingDirectory := .ofText "/", headerTool := {}
      decoderTool := { exitCode := 3, stderr := { bytes := [0x20, 0xFF] } } }
  let activity : Activity := { tree := ⟨[], []⟩ }
  let command :=
    ["kdu_expand", "-quiet", "-no_alpha", "-i", "/data/a.jp2", "-o", "/dev/stdout"]
  let outcome : Outcome := ⟨3, [], [0x20, 0xFF]⟩
  have made : ({} : Decoder).command surroundings.workingDirectory ⟨.ofText "/data/a.jp2", .jp2⟩ none
      0 = .ok command := by decide +kernel
  have ran : (RunReport.ofInvocation (({} : Decoder).invocation (command.headD "") command.tail)
      surroundings.decoderTool).result = .ok outcome := by decide +kernel
  have text : outcome.errorText = " \ufffd" := by decide +kernel
  obtain ⟨-, rejected, carries, -⟩ :=
    decode_judged activity rfl rfl made ran
  obtain ⟨failure, failed⟩ := rejected.mp (by decide)
  obtain ⟨-, code, said⟩ := carries failure failed
  exact ⟨surroundings, activity, failure, rfl, failed, code, text ▸ (said (by decide)).1⟩

/-- The header of a picture too wide to be held ends decoding, and is not reported. -/
theorem decode_oversized_header :
    ¬ ∀ (surroundings : Surroundings) (decoder : Decoder) (source : Source) (region : Option String)
      (reduction : Nat) (activity : Activity) (command : List String) (outcome : Outcome),
      surroundings.libraries = .willing →
      source.format = .jp2 → (reduction : Int) ≤ Reduction.limit →
      decoder.destinationError activity.tree = none →
      decoder.command surroundings.workingDirectory source region reduction = .ok command →
      (RunReport.ofInvocation (decoder.invocation (command.headD "") command.tail)
        surroundings.decoderTool).result = .ok outcome →
      outcome.exitCode = 0 → (¬ ∃ picture, Netpbm.read outcome.stdout = .ok picture) →
      ∃ failure, (decode surroundings decoder source region reduction).result activity =
        .error failure ∧ failure.kind? = some .streamIO := by
  intro reported
  let stdout := Bytes.ofText "P5 2147483648 1 255 a"
  let surroundings : Surroundings :=
    { workingDirectory := .ofText "/", headerTool := {}, decoderTool := { stdout := { bytes := stdout } } }
  let source : Source := ⟨.ofText "/data/a.jp2", .jp2⟩
  let activity : Activity := { tree := ⟨[], []⟩ }
  have unreported : ¬ FailsWith (fun failure => failure.kind? = some .streamIO)
      ((decode surroundings {} source none 0).result activity) := by decide +kernel
  have unread : (Netpbm.read stdout).toOption.isNone = true := by decide +kernel
  apply unreported
  apply reported surroundings {} source none 0 activity
    ["kdu_expand", "-quiet", "-no_alpha", "-i", "/data/a.jp2", "-o", "/dev/stdout"] ⟨0, stdout, []⟩
    rfl rfl (by decide) rfl (by decide +kernel) (by decide +kernel) rfl
  rintro ⟨picture, read⟩
  rw [read] at unread
  cases unread

end Serving

end Jp2Render
