import Jp2Render.Proofs.Arithmetic
import Jp2Render.Proofs.Binary64.Range
import Jp2Render.Proofs.Escapes.Faults

/-!
Headers that let a failure escape. Most of what can be wrong with a header makes it malformed; what
does not is an encoding that cannot be read, and a side that is stated as a number without a nearest
integer.
-/

namespace Jp2Render

namespace Header

/-- The code streams of a document. -/
def codestreams (root : Xml.Element) : List Xml.Element := root.all.filter (·.isNamed "codestream")

/-- Headers that are not malformed, and still state no size. -/
inductive Unmeasurable (bytes : Bytes) : Prop
  | encoding (fault : Xml.EncodingFault)
      (refused : Xml.readBytes true bytes = .error (.encoding fault))
  | endless (root : Xml.Element) (width height : Binary64)
      (read : Xml.readBytes true bytes = .ok root)
      (wide : firstNumber "width" (codestreams root) = .ok (some width))
      (high : firstNumber "height" (codestreams root) = .ok (some height))
      (infinite : width.isFinite = false ∨ height.isFinite = false)

theorem firstNumber_malformed (side : String) (elements : List Xml.Element) :
    ¬ FailsWith (fun fault => fault.isMalformed = false) (firstNumber side elements) := by
  induction elements with
  | nil => exact not_failsWith_ok none
  | cons element elements ih =>
      rw [firstNumber]
      split
      · exact ih
      · simp only
        split
        · exact not_failsWith_ok _
        · rw [failsWith_error]
          exact Bool.noConfusion

theorem firstNumber_inRange {side : String} {elements : List Xml.Element} {x : Binary64}
    (found : firstNumber side elements = .ok (some x)) : x.InRange := by
  -- an element without a number is passed over, and one with a number ends the search
  induction elements with
  | nil => cases found
  | cons element elements ih =>
      rw [firstNumber] at found
      split at found
      · exact ih found
      · simp only at found
        split at found
        · next number read =>
          cases found
          exact (Text.rounded_readReal read).inRange
        · cases found

theorem fails_nearest {x : Binary64} :
    FailsWith (fun fault => fault.isMalformed = false) (nearest x) ↔ x.isFinite = false := by
  rw [nearest, failsWith_mapError, ← Arithmetic.fails_nearest]
  exact failsWith_congr fun _ => iff_of_true rfl trivial

def rounded (width height : Binary64) : Except HeaderTextFault Dimensions := do
  return ⟨← nearest width, ← nearest height⟩

theorem failsWith_rounded {width height : Binary64} :
    FailsWith (fun fault => fault.isMalformed = false) (rounded width height) ↔
      width.isFinite = false ∨ height.isFinite = false := by
  rw [rounded, failsWith_bind, fails_nearest]
  constructor
  · rintro (infinite | ⟨wide, -, failed⟩)
    · exact .inl infinite
    · rw [failsWith_bind, fails_nearest] at failed
      rcases failed with infinite | ⟨high, -, failed⟩
      · exact .inr infinite
      · exact absurd failed (not_failsWith_pure _)
  · rintro (infinite | infinite)
    · exact .inl infinite
    · cases finite : width.isFinite with
      | false => exact .inl rfl
      | true =>
          -- the height is rounded only if the width could be
          obtain ⟨wide, done⟩ := (Arithmetic.nearest_eq_ok_iff width).mpr finite
          refine .inr ⟨wide, mapError_eq_ok_iff.mpr done, ?_⟩
          rw [failsWith_bind, fails_nearest]
          exact .inl infinite

theorem failsWith_size (root : Xml.Element) :
    FailsWith (fun fault => fault.isMalformed = false) (size root) ↔
      ∃ width height, firstNumber "width" (codestreams root) = .ok (some width) ∧
        firstNumber "height" (codestreams root) = .ok (some height) ∧
        (width.isFinite = false ∨ height.isFinite = false) := by
  unfold size
  constructor
  · intro failed
    rcases failsWith_bind.mp failed with failed | ⟨width, wide, failed⟩
    · exact absurd failed (firstNumber_malformed _ _)
    · rcases failsWith_bind.mp failed with failed | ⟨height, high, failed⟩
      · exact absurd failed (firstNumber_malformed _ _)
      · cases width with
        | none => cases failsWith_throw.mp failed
        | some width =>
            cases height with
            | none => cases failsWith_throw.mp failed
            | some height => exact ⟨width, height, wide, high, failsWith_rounded.mp failed⟩
  · rintro ⟨width, height, wide, high, infinite⟩
    exact failsWith_bind.mpr (.inr ⟨_, wide, failsWith_bind.mpr (.inr ⟨_, high,
      failsWith_rounded.mpr infinite⟩)⟩)

theorem failsWith_sizeOfBytes (bytes : Bytes) :
    FailsWith (fun fault => fault.isMalformed = false) (sizeOfBytes bytes) ↔
      Unmeasurable bytes := by
  unfold sizeOfBytes
  constructor
  · intro failed
    rcases failsWith_bind.mp failed with failed | ⟨root, read, failed⟩
    · -- of all refusals only the one for an encoding is not told as a malformed header
      obtain ⟨refusal, refused, foreign⟩ := failsWith_mapError.mp failed
      cases refusal with
      | encoding fault => exact .encoding fault refused
      | _ => cases foreign
    · obtain ⟨width, height, wide, high, infinite⟩ := (failsWith_size root).mp failed
      exact .endless root width height (mapError_eq_ok_iff.mp read) wide high infinite
  · rintro (⟨fault, refused⟩ | ⟨root, width, height, read, wide, high, infinite⟩)
    · exact failsWith_bind.mpr (.inl (failsWith_mapError.mpr ⟨_, refused, rfl⟩))
    · exact failsWith_bind.mpr (.inr ⟨root, mapError_eq_ok_iff.mpr read,
        (failsWith_size root).mpr ⟨width, height, wide, high, infinite⟩⟩)

end Header

namespace Header

theorem not_unmeasurable_nil : ¬ Unmeasurable [] := by
  have refused : sizeOfBytes [] = .error (.refused (.malformed .noElement ⟨1, 0⟩)) := by
    decide +kernel
  rw [← failsWith_sizeOfBytes, refused, failsWith_error]
  exact Bool.noConfusion

end Header

/-- The tool is started and ends in time, and its output is read to its end. -/
structure HeaderToolBehaviour.Answers (tool : HeaderToolBehaviour) : Prop where
  started : tool.starting = none
  ended : tool.waiting = .ends
  read : tool.ending = .ends
  closed : tool.closing = none

namespace Probe

variable {probe : Probe} {workingDirectory : Path} {source : Source} {tool : HeaderToolBehaviour}
  {command : List String}

theorem result_ask : (probe.ask workingDirectory source tool).result = (do
    let (exitCode, output) ←
      run probe (headerCommand probe.binDirectory workingDirectory source.path) tool
    read (headerCommand probe.binDirectory workingDirectory source.path) exitCode output) := rfl

theorem await_eq_ok_iff {answer : Int × Bytes} : await probe command tool = .ok answer ↔
    tool.waiting = .ends ∧ tool.ending = .ends ∧ tool.closing = none ∧
      answer = (tool.exitCode, tool.output) := by
  unfold await
  cases tool.closing with
  | some error => simp
  | none =>
      cases tool.ending with
      | ends => cases tool.waiting <;> simp [eq_comm]
      | _ => simp

theorem await_reported :
    ¬ FailsWith (fun fault => (Failure.header fault).Escapes) (await probe command tool) := by
  unfold await
  cases tool.closing with
  | some error => simp
  | none =>
      cases tool.ending with
      | ends => cases tool.waiting <;> simp
      | _ => simp

theorem run_eq_ok_iff {answer : Int × Bytes} : run probe command tool = .ok answer ↔
    command.any Text.holdsNull = false ∧ tool.Answers ∧ answer = (tool.exitCode, tool.output) := by
  unfold run
  split
  · next null => simp [null]
  · next sound =>
    have sound := eq_false_of_ne_true sound
    split
    · next code failed =>
      refine iff_of_false nofun fun answered => ?_
      have started := answered.2.1.started
      rw [failed] at started
      cases started
    · next started =>
      rw [await_eq_ok_iff]
      constructor
      · rintro ⟨ended, read, closed, same⟩
        exact ⟨sound, ⟨started, ended, read, closed⟩, same⟩
      · rintro ⟨-, answers, same⟩
        exact ⟨answers.ended, answers.read, answers.closed, same⟩

theorem failsWith_run : FailsWith (fun fault => (Failure.header fault).Escapes)
    (run probe command tool) ↔ command.any Text.holdsNull = true := by
  unfold run
  split
  · next null => exact iff_of_true (failsWith_error.mpr Failure.escapes_header_nullByte) null
  · next sound =>
    refine iff_of_false ?_ sound
    split
    · exact not_failsWith_error (Failure.not_escapes_notStarted _)
    · exact await_reported

theorem failsWith_read {exitCode : Int} {output : Bytes} :
    FailsWith (fun fault => (Failure.header fault).Escapes) (read command exitCode output) ↔
      Header.Unmeasurable output := by
  unfold read
  split
  · next empty =>
    rw [List.isEmpty_iff.mp empty, failsWith_error]
    exact iff_of_false (Failure.not_escapes_silent exitCode) Header.not_unmeasurable_nil
  · rw [failsWith_mapError, ← Header.failsWith_sizeOfBytes]
    exact failsWith_congr fun fault => Failure.escapes_text fault command

theorem failsWith_ask :
    FailsWith (fun fault => (Failure.header fault).Escapes)
        (probe.ask workingDirectory source tool).result ↔
      (headerCommand probe.binDirectory workingDirectory source.path).any Text.holdsNull = true ∨
        tool.Answers ∧ Header.Unmeasurable tool.output := by
  rw [result_ask, failsWith_bind, failsWith_run]
  constructor
  · rintro (null | ⟨answer, answered, failed⟩)
    · exact .inl null
    · obtain ⟨-, answers, rfl⟩ := run_eq_ok_iff.mp answered
      exact .inr ⟨answers, failsWith_read.mp failed⟩
  · rintro (null | ⟨answers, unmeasurable⟩)
    · exact .inl null
    · cases null : (headerCommand probe.binDirectory workingDirectory source.path).any
        Text.holdsNull with
      | true => exact .inl rfl
      | false =>
          exact .inr ⟨_, run_eq_ok_iff.mpr ⟨null, answers, rfl⟩, failsWith_read.mpr unmeasurable⟩

end Probe

def Dimensions.InRange (d : Dimensions) : Prop :=
  d.width.natAbs < Arithmetic.integerRange ∧ d.height.natAbs < Arithmetic.integerRange

namespace Header

theorem inRange_sizeOfBytes {bytes : Bytes} {full : Dimensions}
    (measured : sizeOfBytes bytes = .ok full) : full.InRange := by
  rw [sizeOfBytes, bind_eq_ok_iff] at measured
  obtain ⟨root, -, measured⟩ := measured
  rw [size, bind_eq_ok_iff] at measured
  obtain ⟨width, wide, measured⟩ := measured
  obtain ⟨height, high, measured⟩ := bind_eq_ok_iff.mp measured
  split at measured
  · cases measured
  · cases measured
  · obtain ⟨_, first, measured⟩ := bind_eq_ok_iff.mp measured
    obtain ⟨_, second, measured⟩ := bind_eq_ok_iff.mp measured
    rw [← pure_eq_ok_iff.mp measured]
    exact ⟨Arithmetic.nearest_lt_integerRange (firstNumber_inRange wide)
        (mapError_eq_ok_iff.mp first),
      Arithmetic.nearest_lt_integerRange (firstNumber_inRange high) (mapError_eq_ok_iff.mp second)⟩

end Header

theorem Probe.inRange_ask {probe : Probe} {workingDirectory : Path} {source : Source}
    {tool : HeaderToolBehaviour} {full : Dimensions}
    (measured : (probe.ask workingDirectory source tool).result = .ok full) :
    full.InRange := by
  rw [result_ask, bind_eq_ok_iff] at measured
  obtain ⟨⟨exitCode, output⟩, -, measured⟩ := measured
  simp only [read] at measured
  split at measured
  · cases measured
  · exact Header.inRange_sizeOfBytes (mapError_eq_ok_iff.mp measured)

end Jp2Render
