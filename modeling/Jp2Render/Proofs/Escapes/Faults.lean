import Jp2Render.Failure
import Jp2Render.Proofs.Sequencing

/-!
Failures that escape. A failure that is none of the request ends whatever was going on; which ones
those are depends on their kinds alone. Failed operations of the system never escape, since they
become failures of the request.
-/

namespace Jp2Render

theorem FailureKind.ofName?_name (kind : FailureKind) : ofName? kind.name = some kind := by
  cases kind <;> decide +kernel

namespace Failure

/-- Whether a failure inside a request is let out as something else than a failure of the request. -/
def Escapes (failure : Failure) : Prop := failure.ofRequest.isRequestFailure = false

instance (failure : Failure) : Decidable failure.Escapes := inferInstanceAs (Decidable (_ = false))

theorem not_escapes_of_kind {failure : Failure} (kind : FailureKind)
    (named : failure.ofRequest.shown.kind = kind.name) (reported : kind.isRequestFailure = true) :
    ¬ failure.Escapes := by
  intro escapes
  rw [Escapes, isRequestFailure, kind?, named, FailureKind.ofName?_name] at escapes
  simp only [reported] at escapes
  cases escapes

theorem escapes_of_kind {failure : Failure} (kind : String)
    (named : failure.ofRequest.shown.kind = kind) (foreign : FailureKind.ofName? kind = none) :
    failure.Escapes := by
  rw [Escapes, isRequestFailure, kind?, named, foreign]

def foreignKinds : List String :=
  ["ZeroDivisionError", "OverflowError", "ValueError", "LookupError", "UnicodeError",
    "UnicodeDecodeError"]

theorem ofName?_foreign {kind : String} (foreign : kind ∈ foreignKinds) :
    FailureKind.ofName? kind = none := by
  have unknown : ∀ kind ∈ foreignKinds, FailureKind.ofName? kind = none := by decide +kernel
  exact unknown kind foreign

theorem ofName?_arithmetic (fault : ArithmeticFault) : FailureKind.ofName? fault.kind = none := by
  apply ofName?_foreign
  cases fault <;> simp [foreignKinds, ArithmeticFault.kind]

theorem ofName?_encoding (fault : Xml.EncodingFault) : FailureKind.ofName? fault.kind = none := by
  apply ofName?_foreign
  cases fault <;> simp [foreignKinds, Xml.EncodingFault.kind]

theorem ofName?_value (message : String) :
    FailureKind.ofName? (FaultText.value message).kind = none := by
  apply ofName?_foreign
  simp [foreignKinds, FaultText.value, FaultText.ofMessage]

theorem ofName?_nullByte : FailureKind.ofName? FaultText.nullByte.kind = none := ofName?_value _

@[simp] theorem not_escapes_unsupportedSource (format : SourceFormat) :
    ¬ (unsupportedSource format).Escapes :=
  not_escapes_of_kind .unsupportedSource rfl (by decide)

@[simp] theorem not_escapes_unsupportedOutput (format : OutputFormat) :
    ¬ (unsupportedOutput format).Escapes :=
  not_escapes_of_kind .unsupportedOutput rfl (by decide)

@[simp] theorem not_escapes_timedOut (command : List String) (timeout : Option Binary64) :
    ¬ (header (.timedOut command timeout)).Escapes :=
  not_escapes_of_kind .headerTool rfl (by decide)

@[simp] theorem not_escapes_notStarted (error : SystemError) :
    ¬ (header (.notStarted error)).Escapes :=
  not_escapes_of_kind .headerTool rfl (by decide)

@[simp] theorem escapes_header_nullByte : (header .nullByte).Escapes :=
  escapes_of_kind _ rfl ofName?_nullByte

@[simp] theorem not_escapes_silent (exitCode : Int) : ¬ (header (.silent exitCode)).Escapes :=
  not_escapes_of_kind .headerTool rfl (by decide)

theorem kind_of_isMalformed {fault : HeaderTextFault} (malformed : fault.isMalformed = true) :
    fault.kind = FailureKind.malformedHeader.name := by
  unfold HeaderTextFault.isMalformed at malformed
  unfold HeaderTextFault.kind
  split at malformed
  · cases malformed
  · cases malformed
  · rfl

theorem ofName?_of_not_malformed {fault : HeaderTextFault} (foreign : fault.isMalformed = false) :
    FailureKind.ofName? fault.kind = none := by
  unfold HeaderTextFault.isMalformed at foreign
  split at foreign
  · exact ofName?_encoding _
  · exact ofName?_arithmetic _
  · cases foreign

@[simp] theorem escapes_text (fault : HeaderTextFault) (command : List String) :
    (header (.text fault command)).Escapes ↔ fault.isMalformed = false := by
  cases malformed : fault.isMalformed with
  | true =>
      have named := kind_of_isMalformed malformed
      exact iff_of_false (not_escapes_of_kind .malformedHeader named (by decide)) Bool.noConfusion
  | false => exact iff_of_true (escapes_of_kind _ rfl (ofName?_of_not_malformed malformed)) rfl

@[simp] theorem escapes_run (fault : RunFault) : (run fault).Escapes ↔ fault = .nullByte := by
  cases fault with
  | nullByte => exact iff_of_true (escapes_of_kind _ rfl ofName?_nullByte) rfl
  | notStarted tool error => exact iff_of_false (not_escapes_of_kind .processStart rfl (by decide)) nofun
  | timedOut tool command limit =>
      exact iff_of_false (not_escapes_of_kind .decodeTimeout rfl (by decide)) nofun
  | waitFailed error => exact iff_of_false (not_escapes_of_kind .streamIO rfl (by decide)) nofun
  | stillOpen stream tool limit =>
      exact iff_of_false (not_escapes_of_kind .streamIO rfl (by decide)) nofun
  | unreadable stream fault =>
      exact iff_of_false (not_escapes_of_kind .streamIO rfl (by decide)) nofun
  | overflow stream limit => exact iff_of_false (not_escapes_of_kind .streamIO rfl (by decide)) nofun

@[simp] theorem not_escapes_tool (failure : ToolFailure) : ¬ (tool failure).Escapes :=
  not_escapes_of_kind .processFailed rfl (by decide)

@[simp] theorem escapes_tree (fault : FileTree.TreeFault) :
    (tree fault).Escapes ↔ fault = .nullByte := by
  cases fault with
  | nullByte => exact iff_of_true (escapes_of_kind _ rfl ofName?_nullByte) rfl
  | system error => exact iff_of_false (not_escapes_of_kind .streamIO rfl (by decide)) nofun

@[simp] theorem escapes_arithmetic (fault : ArithmeticFault) : (arithmetic fault).Escapes :=
  escapes_of_kind _ rfl (ofName?_arithmetic fault)

end Failure

/-- Faults of a raster that are not told as such: the output is not to blame, or, where it has been
read already, the system is not. -/
def RasterFault.IsLoose : RasterFault → Prop
  | .empty => False
  | .unread _ fault => fault.isUnreadable = false
  | .unconverted fault => fault.faultClass ≠ .system

namespace Failure

@[simp] theorem escapes_raster (fault : RasterFault) : (raster fault).Escapes ↔ fault.IsLoose := by
  cases fault with
  | empty => exact iff_of_false (not_escapes_of_kind .streamIO rfl (by decide)) id
  | unread length fault =>
      cases unreadable : fault.isUnreadable with
      | true =>
          have named : (raster (.unread length fault)).shown.kind = FailureKind.streamIO.name := by
            rw [shown, RasterFault.shown, if_pos unreadable]
            rfl
          refine iff_of_false (not_escapes_of_kind .streamIO named (by decide)) fun loose => ?_
          exact Bool.noConfusion (loose.symm.trans unreadable)
      | false =>
          refine iff_of_true (escapes_of_kind fault.text.kind ?_ fault.foreign) unreadable
          show (RasterFault.unread length fault).shown.kind = fault.text.kind
          rw [RasterFault.shown, unreadable]
          rfl
  | unconverted fault =>
      by_cases system : fault.faultClass = .system
      · refine iff_of_false (not_escapes_of_kind .streamIO ?_ (by decide)) fun loose => loose system
        rw [ofRequest, systemFault?, if_pos system]
        rfl
      · refine iff_of_true (escapes_of_kind fault.text.kind ?_ fault.foreign) system
        rw [ofRequest, systemFault?, if_neg system]
        rfl

end Failure

/-!
A fault of a stage escapes if no stage handles it: all that are handled become failures of the stage,
and no other has a kind of the program's own.
-/

namespace PictureFault

def IsLoose (fault : PictureFault) : Prop := fault.faultClass = .other

instance (fault : PictureFault) : Decidable fault.IsLoose := inferInstanceAs (Decidable (_ = _))

theorem failsStage_eq_false_iff {fault : PictureFault} : fault.failsStage = false ↔ fault.IsLoose := by
  rw [failsStage, decide_eq_false_iff_not, Decidable.not_not, IsLoose]

theorem ofName?_of_isLoose {fault : PictureFault} (loose : fault.IsLoose) :
    FailureKind.ofName? fault.shown.kind = none := by
  have overflow : FailureKind.ofName? "OverflowError" = none :=
    Failure.ofName?_foreign (by simp [Failure.foreignKinds])
  cases fault with
  | sideTooLong side => exact overflow
  | fieldTooSmall => exact overflow
  | arithmetic fault => exact Failure.ofName?_arithmetic fault
  | library fault => exact fault.foreign
  | _ => cases loose

def Spills (fault : PictureFault) : Prop := fault.IsLoose ∧ ∀ cause, fault ≠ .library cause

@[simp] theorem not_spills_library (fault : LibraryFault) : ¬ (library fault).Spills :=
  fun spills => spills.2 fault rfl

@[simp] theorem not_spills_closed : ¬ closed.Spills := by simp [Spills, IsLoose, faultClass]
@[simp] theorem not_spills_noArea : ¬ noArea.Spills := by simp [Spills, IsLoose, faultClass]
@[simp] theorem spills_sideTooLong (side : Int) : (sideTooLong side).Spills := ⟨rfl, nofun⟩
@[simp] theorem not_spills_wrongMode : ¬ wrongMode.Spills := by simp [Spills, IsLoose, faultClass]
@[simp] theorem not_spills_brokenStream : ¬ brokenStream.Spills := by
  simp [Spills, IsLoose, faultClass]
@[simp] theorem spills_fieldTooSmall : fieldTooSmall.Spills := ⟨rfl, nofun⟩
@[simp] theorem not_spills_tooLargeForWebp : ¬ tooLargeForWebp.Spills := by
  simp [Spills, IsLoose, faultClass]
@[simp] theorem not_spills_bilevelInterpolation : ¬ bilevelInterpolation.Spills := by
  simp [Spills, IsLoose, faultClass]
@[simp] theorem not_spills_bilevelSmoothing : ¬ bilevelSmoothing.Spills := by
  simp [Spills, IsLoose, faultClass]

@[simp] theorem spills_arithmetic (fault : ArithmeticFault) :
    (arithmetic fault).Spills ↔ fault ≠ .notANumberHasNoInteger := by
  cases fault <;> simp [Spills, IsLoose, faultClass]

theorem isLoose_iff {fault : PictureFault} : fault.IsLoose ↔
    fault.Spills ∨ ∃ cause, fault = .library cause ∧ cause.faultClass = .other := by
  constructor
  · intro loose
    cases fault with
    | library cause => exact .inr ⟨cause, rfl, loose⟩
    | _ => exact .inl ⟨loose, nofun⟩
  · rintro (spills | ⟨cause, rfl, other⟩)
    · exact spills.1
    · exact other

end PictureFault

namespace Failure

@[simp] theorem escapes_target (fault : ArithmeticFault) :
    (processing (.target fault)).Escapes :=
  escapes_of_kind _ rfl (ofName?_arithmetic fault)

theorem escapes_escaped {fault : PictureFault} (loose : fault.failsStage = false) :
    (processing (.escaped fault)).Escapes :=
  escapes_of_kind _ rfl (PictureFault.ofName?_of_isLoose (PictureFault.failsStage_eq_false_iff.mp loose))

@[simp] theorem escapes_faultOf {Handle : Type} (backend : Backend Handle)
    (failure : Stage × PictureFault) :
    (processing (backend.faultOf failure)).Escapes ↔ failure.2.IsLoose := by
  obtain ⟨stage, fault⟩ := failure
  simp only [Backend.faultOf, ← PictureFault.failsStage_eq_false_iff]
  split
  · next handled =>
    refine iff_of_false (not_escapes_of_kind .postProcessing rfl (by decide)) fun loose => ?_
    rw [handled] at loose
    cases loose
  · next loose =>
    have loose := eq_false_of_ne_true loose
    exact iff_of_true (escapes_escaped loose) loose

end Failure

end Jp2Render
