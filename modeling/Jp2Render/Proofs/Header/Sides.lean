import Jp2Render.Proofs.Escapes.Header
import Jp2Render.Proofs.Reduction.Plan

/-!
Sides that cannot be used. A header is meant to state two sides of at least one pixel, or else to be
malformed. What slips through are numbers that were read as such and are not looked at again: those
that round to less than one are taken for sides, and those that no integer is near to fail with a
fault of arithmetic. Besides, an encoding that cannot be read is told as a fault of its own.
-/

namespace Jp2Render

open Binary64 Arithmetic

/-- Numbers of pixels: finite, and nearer to one than to zero. -/
structure Binary64.IsSide (x : Binary64) : Prop where
  finite : x.isFinite = true
  large : Reduction.half < x

theorem Arithmetic.one_le_nearest_iff {x : Binary64} {z : Int} (rounded : nearest x = .ok z) :
    1 ≤ z ↔ Reduction.half < x := by
  cases x with
  | finite negative units =>
      rw [Reduction.half_lt_finite, ← one_le_roundQuotient_iff unitsPerOne_pos]
      have whole : signedUnits negative (roundQuotient units unitsPerOne) = z :=
        Except.ok.inj rounded
      rw [← whole]
      cases negative with
      | false =>
          rw [signedUnits_false, eq_self, true_and]
          omega
      | true =>
          refine iff_of_false ?_ fun positive => Bool.noConfusion positive.1
          show ¬ 1 ≤ -((roundQuotient units unitsPerOne : Nat) : Int)
          omega
  | infinite negative => cases rounded
  | nan => cases rounded

namespace Header

variable {root : Xml.Element} {width height : Binary64} {d : Dimensions}

/-- What a header is meant to come to: sides of at least one pixel, or a malformed header. -/
def Judged (outcome : Except HeaderTextFault Dimensions) : Prop :=
  Yields (fun fault => fault.kind = FailureKind.malformedHeader.name) Dimensions.IsPositive outcome

theorem kind_eq_iff {fault : HeaderTextFault} :
    fault.kind = FailureKind.malformedHeader.name ↔ fault.isMalformed = true := by
  constructor
  · intro named
    by_contra foreign
    have unknown := Failure.ofName?_of_not_malformed (Bool.eq_false_of_not_eq_true foreign)
    rw [named, FailureKind.ofName?_name] at unknown
    cases unknown
  · exact Failure.kind_of_isMalformed

theorem judged_iff {outcome : Except HeaderTextFault Dimensions} :
    Judged outcome ↔ ¬ FailsWith (fun fault => fault.isMalformed = false) outcome ∧
      ∀ d, outcome = .ok d → d.IsPositive := by
  cases outcome with
  | error fault =>
      rw [failsWith_error, Bool.not_eq_false]
      exact kind_eq_iff.trans (and_iff_left nofun).symm
  | ok d =>
      constructor
      · rintro positive
        refine ⟨not_failsWith_ok d, ?_⟩
        rintro _ ⟨⟩
        exact positive
      · rintro ⟨-, positive⟩
        exact positive d rfl

theorem rounded_eq_ok_iff : rounded width height = .ok d ↔
    Arithmetic.nearest width = .ok d.width ∧ Arithmetic.nearest height = .ok d.height := by
  rw [rounded, bind_eq_ok_iff]
  constructor
  · rintro ⟨wide, first, rest⟩
    obtain ⟨high, second, done⟩ := bind_eq_ok_iff.mp rest
    rw [← pure_eq_ok_iff.mp done]
    exact ⟨mapError_eq_ok_iff.mp first, mapError_eq_ok_iff.mp second⟩
  · rintro ⟨first, second⟩
    exact ⟨_, mapError_eq_ok_iff.mpr first, bind_eq_ok_iff.mpr ⟨_, mapError_eq_ok_iff.mpr second, rfl⟩⟩

theorem size_eq_ok_iff : size root = .ok d ↔
    ∃ width height, firstNumber "width" (codestreams root) = .ok (some width) ∧
      firstNumber "height" (codestreams root) = .ok (some height) ∧
      rounded width height = .ok d := by
  unfold size
  constructor
  · intro done
    obtain ⟨width, wide, done⟩ := bind_eq_ok_iff.mp done
    obtain ⟨height, high, done⟩ := bind_eq_ok_iff.mp done
    split at done
    · cases done
    · cases done
    · exact ⟨_, _, wide, high, done⟩
  · rintro ⟨width, height, wide, high, done⟩
    exact bind_eq_ok_iff.mpr ⟨_, wide, bind_eq_ok_iff.mpr ⟨_, high, done⟩⟩

theorem isPositive_rounded (done : rounded width height = .ok d) :
    d.IsPositive ↔ width.IsSide ∧ height.IsSide := by
  obtain ⟨wide, high⟩ := rounded_eq_ok_iff.mp done
  have finite := (Arithmetic.nearest_eq_ok_iff width).mp ⟨_, wide⟩
  have finite' := (Arithmetic.nearest_eq_ok_iff height).mp ⟨_, high⟩
  rw [Dimensions.IsPositive, one_le_nearest_iff wide, one_le_nearest_iff high]
  exact ⟨fun large => ⟨⟨finite, large.1⟩, finite', large.2⟩,
    fun sides => ⟨sides.1.large, sides.2.large⟩⟩

theorem judged_size : Judged (size root) ↔
    ¬ ∃ width height, firstNumber "width" (codestreams root) = .ok (some width) ∧
      firstNumber "height" (codestreams root) = .ok (some height) ∧
      ¬ (width.IsSide ∧ height.IsSide) := by
  rw [judged_iff, failsWith_size]
  constructor
  · rintro ⟨sound, positive⟩ ⟨width, height, wide, high, useless⟩
    -- both numbers are finite, or else the header would be neither malformed nor of a size
    have finite : ¬ (width.isFinite = false ∨ height.isFinite = false) :=
      fun infinite => sound ⟨width, height, wide, high, infinite⟩
    rw [not_or, Bool.not_eq_false, Bool.not_eq_false] at finite
    obtain ⟨columns, first⟩ := (Arithmetic.nearest_eq_ok_iff width).mpr finite.1
    obtain ⟨rows, second⟩ := (Arithmetic.nearest_eq_ok_iff height).mpr finite.2
    have done : rounded width height = .ok ⟨columns, rows⟩ := rounded_eq_ok_iff.mpr ⟨first, second⟩
    have large := positive _ (size_eq_ok_iff.mpr ⟨width, height, wide, high, done⟩)
    exact useless ((isPositive_rounded done).mp large)
  · intro usable
    refine ⟨?_, fun d done => ?_⟩
    · rintro ⟨width, height, wide, high, infinite⟩
      refine usable ⟨width, height, wide, high, fun sides => ?_⟩
      rcases infinite with infinite | infinite
      · rw [sides.1.finite] at infinite
        cases infinite
      · rw [sides.2.finite] at infinite
        cases infinite
    · obtain ⟨width, height, wide, high, done⟩ := size_eq_ok_iff.mp done
      rw [isPositive_rounded done]
      by_contra useless
      exact usable ⟨width, height, wide, high, useless⟩

/-- Documents, or what is wrong with them, that come neither to a usable size nor to a malformed
header. -/
inductive Slips (document : Except (Xml.Refusal Xml.Place) Xml.Element) : Prop
  | encoding (fault : Xml.EncodingFault) (refused : document = .error (.encoding fault))
  | side (root : Xml.Element) (width height : Binary64) (read : document = .ok root)
      (wide : firstNumber "width" (codestreams root) = .ok (some width))
      (high : firstNumber "height" (codestreams root) = .ok (some height))
      (useless : ¬ (width.IsSide ∧ height.IsSide))

theorem judged_document (document : Except (Xml.Refusal Xml.Place) Xml.Element) :
    Judged (document.mapError .refused >>= size) ↔ ¬ Slips document := by
  cases document with
  | error refusal =>
      rw [mapError_error, error_bind, judged_iff, failsWith_error, and_iff_left nofun, not_iff_not]
      constructor
      · intro foreign
        cases refusal with
        | encoding fault => exact .encoding fault rfl
        | _ => cases foreign
      · rintro (⟨fault, ⟨⟩⟩ | ⟨_, _, _, ⟨⟩⟩)
        rfl
  | ok root =>
      rw [mapError_ok, ok_bind, judged_size, not_iff_not]
      constructor
      · rintro ⟨width, height, wide, high, useless⟩
        exact .side root width height rfl wide high useless
      · rintro (⟨_, ⟨⟩⟩ | ⟨_, width, height, ⟨⟩, wide, high, useless⟩)
        exact ⟨width, height, wide, high, useless⟩

/-- A document, be it bytes or text, comes to a usable size or to a malformed header, except where it
slips through: it is in an encoding that cannot be read, or the first two numbers in its code streams
are not both finite and larger than a half. -/
theorem judged_unless_slips (bytes : Bytes) (text : String) :
    (Judged (sizeOfBytes bytes) ↔ ¬ Slips (Xml.readBytes true bytes)) ∧
      (Judged (sizeOfText text) ↔ ¬ Slips (Xml.readText text)) :=
  ⟨judged_document (Xml.readBytes true bytes), judged_document (Xml.readText text)⟩

/-- A number that is not a number is read as one, and then has no nearest integer. -/
theorem not_judged_notANumber : ¬ ∀ text, Judged (sizeOfText text) := by
  intro judged
  have sized : sizeOfText "<codestream><width>nan</width><height>600</height></codestream>" =
      .error (.notAnInteger .notANumberHasNoInteger) := by
    decide +kernel
  have told := judged "<codestream><width>nan</width><height>600</height></codestream>"
  rw [sized, judged_iff, failsWith_error] at told
  exact told.1 rfl

end Header

end Jp2Render
