import Jp2Render.Proofs.Sequencing
import Jp2Render.Proofs.Serving

/-!
Faults that users would be told of as faults of the configuration. Nothing that goes wrong while a
picture is made is one of them: every fault has a kind of its own, and those of the libraries have
none that the program knows.
-/

namespace Jp2Render

theorem FailureKind.ofName?_eq_configuration {name : String} :
    ofName? name = some .configuration ↔ name = FailureKind.configuration.name := by
  constructor
  · intro found
    have named := List.find?_some found
    exact (of_decide_eq_true named).symm
  · rintro rfl
    decide +kernel

def FaultText.BlamesConfiguration (text : FaultText) : Prop :=
  text.kind = FailureKind.configuration.name

theorem Failure.kind?_eq_configuration {failure : Failure} :
    failure.kind? = some .configuration ↔ failure.shown.BlamesConfiguration :=
  FailureKind.ofName?_eq_configuration

@[simp] theorem FaultText.not_blames_value (message : String) :
    ¬ (FaultText.value message).BlamesConfiguration := by
  simp [value, ofMessage, BlamesConfiguration, FailureKind.name]

@[simp] theorem FaultText.blames_ofMessage {kind message : String} :
    (FaultText.ofMessage kind message).BlamesConfiguration ↔
      kind = FailureKind.configuration.name := Iff.rfl

@[simp] theorem FaultText.blames_ofBareMessage {kind message : String} :
    (FaultText.ofBareMessage kind message).BlamesConfiguration ↔
      kind = FailureKind.configuration.name := by
  unfold ofBareMessage
  split <;> rfl

@[simp] theorem SystemError.not_blames (error : SystemError) : ¬ error.shown.BlamesConfiguration := by
  have named : ∀ entry ∈ ErrorCode.kinds, entry.1 ≠ FailureKind.configuration.name := by
    simp [ErrorCode.kinds, FailureKind.name]
  show ¬ error.code.kind = _
  unfold ErrorCode.kind
  split
  · next found => exact named _ (List.mem_of_find?_eq_some found)
  · simp [FailureKind.name]

@[simp] theorem ArithmeticFault.not_blames (fault : ArithmeticFault) :
    ¬ fault.shown.BlamesConfiguration := by
  cases fault <;> simp [shown, kind, FailureKind.name]

@[simp] theorem CommandFault.not_blames (fault : CommandFault) :
    ¬ fault.shown.BlamesConfiguration := FaultText.not_blames_value _

theorem HeaderTextFault.kind_ne_configuration (fault : HeaderTextFault) :
    fault.kind ≠ FailureKind.configuration.name := by
  unfold kind
  split
  · next cause => cases cause <;> simp [Xml.EncodingFault.kind, FailureKind.name]
  · next cause => exact cause.not_blames
  · simp [FailureKind.name]

@[simp] theorem FaultText.not_blames_nullByte : ¬ FaultText.nullByte.BlamesConfiguration :=
  FaultText.not_blames_value _

@[simp] theorem HeaderFault.not_blames (fault : HeaderFault) : ¬ fault.shown.BlamesConfiguration := by
  cases fault with
  | nullByte => exact FaultText.not_blames_nullByte
  | text fault command => exact fault.kind_ne_configuration
  | _ => simp [shown, kind, FailureKind.name]

@[simp] theorem RunFault.not_blames (fault : RunFault) : ¬ fault.shown.BlamesConfiguration := by
  cases fault with
  | nullByte => exact FaultText.not_blames_nullByte
  | waitFailed error => exact error.not_blames
  | _ => simp [shown, kind?, FailureKind.name]

@[simp] theorem LibraryFault.not_blames (fault : LibraryFault) :
    ¬ fault.text.BlamesConfiguration := by
  intro blames
  have named := FailureKind.ofName?_eq_configuration.mpr blames
  rw [fault.foreign] at named
  cases named

@[simp] theorem RasterFault.not_blames (fault : RasterFault) : ¬ fault.shown.BlamesConfiguration := by
  cases fault with
  | empty => simp [shown, FailureKind.name]
  | unread length fault =>
      rw [shown]
      split
      · simp [FailureKind.name]
      · exact fault.not_blames
  | unconverted fault => exact fault.not_blames

@[simp] theorem FileTree.TreeFault.not_blames (fault : FileTree.TreeFault) :
    ¬ fault.shown.BlamesConfiguration := by
  cases fault with
  | system error => exact error.not_blames
  | nullByte => exact FaultText.not_blames_nullByte

@[simp] theorem PictureFault.not_blames (fault : PictureFault) : ¬ fault.shown.BlamesConfiguration := by
  cases fault with
  | arithmetic fault => exact fault.not_blames
  | library fault => exact fault.not_blames
  | _ => simp [shown, FailureKind.name]

@[simp] theorem ProcessingFault.not_blames (fault : ProcessingFault) :
    ¬ fault.shown.BlamesConfiguration := by
  cases fault with
  | target fault => exact fault.not_blames
  | failed backend stage fault => simp [shown, FailureKind.name]
  | escaped fault => exact fault.not_blames

def Failure.BlamesConfiguration (failure : Failure) : Prop := failure.shown.BlamesConfiguration

namespace Service

variable {service : Service} {surroundings : Surroundings} {request : Request} {source : Source}

theorem not_blames_checkFormats :
    ¬ FailsWith Failure.BlamesConfiguration (checkFormats request source) := by
  unfold checkFormats
  split
  · simp [Failure.BlamesConfiguration, Failure.shown, FailureKind.name]
  · split <;> simp [Failure.BlamesConfiguration, Failure.shown, FailureKind.name]

theorem not_blames_plan {decoder : Decoder} {workingDirectory : Path} {full : Dimensions} :
    ¬ FailsWith Failure.BlamesConfiguration
      (decoder.plan workingDirectory request full source) := by
  have arithmetic {α : Type} (outcome : Except ArithmeticFault α) :
      ¬ FailsWith Failure.BlamesConfiguration (outcome.mapError .arithmetic) :=
    mt failsWith_mapError.mp (not_failsWith ArithmeticFault.not_blames outcome)
  unfold Decoder.plan
  apply not_failsWith_bind (arithmetic _)
  intro region
  apply not_failsWith_bind (arithmetic _)
  intro reduction
  apply not_failsWith_bind
  · exact mt failsWith_mapError.mp (not_failsWith CommandFault.not_blames _)
  · intro command
    exact not_failsWith_pure _

theorem not_blames_rasterOf {decoder : Decoder} {command : List String} {reduction : Int}
    {outcome : Outcome} {libraries : Libraries} :
    ¬ FailsWith Failure.BlamesConfiguration
      (decoder.rasterOf source command reduction outcome libraries) := by
  unfold Decoder.rasterOf
  split
  · simp [Failure.BlamesConfiguration, Failure.shown, FailureKind.name]
  · apply not_failsWith_bind
    · exact mt failsWith_mapError.mp (not_failsWith RasterFault.not_blames _)
    · intro raster
      exact not_failsWith_pure _

theorem not_blames_decoded {decoder : Decoder} {region : Option String} {reduction : Int}
    {tree : FileTree} :
    ¬ FailsWith Failure.BlamesConfiguration
      (decoder.decoded surroundings source region reduction tree) := by
  have unsupported : ¬ (Failure.unsupportedSource source.format).BlamesConfiguration := by
    simp [Failure.BlamesConfiguration, Failure.shown, FailureKind.name]
  unfold Decoder.decoded
  -- the check of the format goes through both ways of the link
  cases source.format.outputs.isEmpty with
  | true => split <;> exact not_failsWith_throw_bind unsupported _
  | false =>
      split
      · next error _ => exact not_failsWith_error error.not_blames
      · apply not_failsWith_bind
        · exact mt failsWith_mapError.mp (not_failsWith CommandFault.not_blames _)
        intro command
        apply not_failsWith_bind
        · exact mt failsWith_mapError.mp (not_failsWith RunFault.not_blames _)
        intro outcome
        exact not_blames_rasterOf

theorem not_blames_made {tree : FileTree} :
    ¬ FailsWith Failure.BlamesConfiguration (service.made surroundings request source tree) := by
  unfold made
  apply not_failsWith_bind
  · exact mt failsWith_mapError.mp (not_failsWith HeaderFault.not_blames _)
  intro full
  apply not_failsWith_bind not_blames_plan
  intro plan
  apply not_failsWith_bind not_blames_decoded
  intro raster
  exact mt failsWith_mapError.mp (not_failsWith ProcessingFault.not_blames _)

theorem kind_render_ne_configuration {activity : Activity} {failure : Failure}
    (failed : (service.render surroundings request source).result activity = .error failure) :
    failure.kind? ≠ some .configuration := by
  rw [Ne, Failure.kind?_eq_configuration]
  have fine : ¬ FailsWith Failure.BlamesConfiguration
      ((service.render surroundings request source).result activity) := by
    rw [result_render]
    apply not_failsWith_bind not_blames_checkFormats
    intro _ failed
    obtain ⟨cause, failed, blames⟩ := failsWith_mapError.mp failed
    refine not_blames_made ⟨cause, failed, ?_⟩
    unfold Failure.ofRequest at blames
    split at blames
    · simp [Failure.BlamesConfiguration, Failure.shown, FailureKind.name] at blames
    · exact blames
  exact fun blames => fine ⟨failure, failed, blames⟩

end Service

end Jp2Render
