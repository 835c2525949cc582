import Jp2Render.Proofs.Backend.Raster
import Jp2Render.Proofs.Commands
import Jp2Render.Proofs.FileTree.Linking
import Jp2Render.Proofs.Supervision

/-!
Rasters that let a failure escape. What is wrong with the decoder's output is reported if the library
that reads it tells a fault of the kinds that are looked for, and escapes otherwise. Of the Netpbm formats
every fault is told but one: a header may ask for a picture that no machine can hold, and that is found
out before a single sample is read.
-/

namespace Jp2Render

theorem NetpbmFault.isUnreadable_toLibrary {fault : NetpbmFault} :
    fault.toLibrary.isUnreadable = false ↔ fault = .sideTooLong ∨ fault = .outOfMemory := by
  cases fault <;> simp [toLibrary, faultClass, LibraryFault.isUnreadable]

namespace Netpbm

/-- Bytes that begin with the header of a picture too large to be held. -/
def Oversized (bytes : Bytes) : Prop :=
  ∃ shape rest, header bytes = .ok (shape, rest) ∧
    (sideLimit < shape.width ∨ sideLimit < shape.height ∨ rowLimit < shape.width)

abbrev Bursts {α : Type} (outcome : Except NetpbmFault α) : Prop :=
  FailsWith (fun fault => fault = .sideTooLong ∨ fault = .outOfMemory) outcome

theorem token_readable (bytes : Bytes) : ¬ Bursts (token bytes) := by
  unfold token
  simp only
  split
  · simp
  · split <;> simp

theorem integerOf_readable (word : Bytes) : ¬ Bursts (integerOf word) := by
  unfold integerOf
  split <;> simp

theorem realOf_readable (word : Bytes) : ¬ Bursts (realOf word) := by
  unfold realOf
  split <;> simp

theorem integerToken_readable (bytes : Bytes) : ¬ Bursts (integerToken bytes) :=
  not_failsWith_bind (token_readable bytes) fun _ =>
    not_failsWith_bind (integerOf_readable _) fun _ => not_failsWith_pure _

theorem realToken_readable (bytes : Bytes) : ¬ Bursts (realToken bytes) :=
  not_failsWith_bind (token_readable bytes) fun _ =>
    not_failsWith_bind (realOf_readable _) fun _ => not_failsWith_pure _

theorem maxvalToken_readable (bytes : Bytes) : ¬ Bursts (maxvalToken bytes) := by
  refine not_failsWith_bind (integerToken_readable bytes) fun value => ?_
  split
  split <;> simp

theorem measure_readable (mode : PictureMode) (plain : Bool) (bytes : Bytes) :
    ¬ Bursts (measure mode plain bytes) := by
  unfold measure
  split
  · exact not_failsWith_ok _
  · refine not_failsWith_bind (realToken_readable bytes) fun value => ?_
    split
    split <;> simp
  · exact not_failsWith_bind (maxvalToken_readable bytes) fun _ => not_failsWith_pure _

theorem header_readable (bytes : Bytes) : ¬ Bursts (header bytes) := by
  unfold header
  simp only
  split
  · simp
  · -- every part of a header reports its own faults, and so does the check of its sides
    refine not_failsWith_bind (integerToken_readable _) fun width => ?_
    refine not_failsWith_bind (integerToken_readable _) fun height => ?_
    refine not_failsWith_bind (measure_readable _ _ _) fun measured => ?_
    split
    · exact not_failsWith_throw_bind (by simp) _
    · exact not_failsWith_pure _

theorem rowsOf_readable (rowBytes rows : Nat) (bytes : Bytes) :
    ¬ Bursts (rowsOf rowBytes rows bytes) := by
  unfold rowsOf
  simp only
  split <;> simp

theorem enough_readable (count : Nat) (bytes : Bytes) : ¬ Bursts (enough count bytes) := by
  unfold enough
  simp only
  split <;> simp

theorem plainBits_readable (count : Nat) (bytes : Bytes) : ¬ Bursts (plainBits count bytes) := by
  unfold plainBits
  simp only
  split
  · simp
  · split
    · exact not_failsWith_throw_bind (by simp) _
    · exact not_failsWith_pure _

theorem plainSample_readable (range maxval : Nat) (word : Bytes) :
    ¬ Bursts (plainSample range maxval word) := by
  unfold plainSample
  simp only
  split
  · exact not_failsWith_throw_bind (by simp [tooLong]) _
  · refine not_failsWith_bind (integerOf_readable word) fun value => ?_
    split
    · exact not_failsWith_throw_bind (by simp) _
    · split
      · exact not_failsWith_throw_bind (by simp) _
      · exact not_failsWith_pure _

theorem plainSamples_readable (range maxval count : Nat) (words : List Bytes) :
    ¬ Bursts (plainSamples range maxval count words) := by
  -- one sample at a time; the words left over are those that the rest reads
  induction count generalizing words with
  | zero => exact not_failsWith_ok _
  | succ count ih =>
      cases words with
      | nil => simp [plainSamples]
      | cons word words =>
          exact not_failsWith_bind (plainSample_readable range maxval word) fun _ =>
            not_failsWith_bind (ih words) fun _ => not_failsWith_pure _

theorem checkLastWord_readable (bytes : Bytes) : ¬ Bursts (checkLastWord bytes) := by
  unfold checkLastWord
  simp only
  split <;> simp [tooLong]

theorem samples_readable (mode : PictureMode) (coding : SampleCoding) (width height : Nat)
    (bytes : Bytes) : ¬ Bursts (samples mode coding width height bytes) := by
  unfold samples
  cases coding with
  | plainBits => exact plainBits_readable _ _
  | plain maxval =>
      exact not_failsWith_bind (checkLastWord_readable _) fun _ => plainSamples_readable _ _ _ _
  | scaled maxval =>
      simp only
      split
      · exact not_failsWith_bind (enough_readable _ _) fun _ => not_failsWith_pure _
      · exact not_failsWith_bind (enough_readable _ _) fun _ => not_failsWith_pure _
  | _ => exact not_failsWith_bind (rowsOf_readable _ _ _) fun _ => not_failsWith_pure _

theorem bursts_read (bytes : Bytes) : Bursts (read bytes) ↔ Oversized bytes := by
  unfold read
  simp only
  constructor
  · intro failed
    rcases failsWith_bind.mp failed with failed | ⟨⟨shape, rest⟩, shaped, failed⟩
    · exact absurd failed (header_readable bytes)
    · refine ⟨shape, rest, shaped, ?_⟩
      -- past both limits only samples are read, and those never fail for want of room
      by_contra fits
      push Not at fits
      obtain ⟨narrow, low, short⟩ := fits
      simp only at failed
      rw [if_neg (by omega), if_neg (by omega)] at failed
      exact not_failsWith_bind (samples_readable _ _ _ _ _) (fun _ => not_failsWith_pure _) failed
  · rintro ⟨shape, rest, shaped, large⟩
    refine failsWith_bind.mpr (.inr ⟨_, shaped, ?_⟩)
    simp only
    split
    · exact failsWith_error.mpr (.inl rfl)
    · next fits =>
      rw [if_pos (by omega)]
      exact failsWith_error.mpr (.inr rfl)

theorem not_oversized_nil : ¬ Oversized [] := by
  rintro ⟨shape, rest, shaped, -⟩
  cases shaped

end Netpbm

namespace Raster

theorem isStandard_iff {picture : Picture} :
    isStandard picture = true ↔ picture.mode = .rgb ∨ picture.mode = .gray := by
  simp only [isStandard, Bool.or_eq_true, decide_eq_true_eq]

theorem dimensions_standardized (picture : Picture) :
    (standardized picture).dimensions = picture.dimensions := by
  unfold standardized
  split
  · rfl
  · exact Picture.dimensions_toRgb picture

theorem mode_standardized (picture : Picture) :
    (standardized picture).mode = .rgb ∨ (standardized picture).mode = .gray := by
  unfold standardized
  split
  · next standard => exact isStandard_iff.mp standard
  · left
    unfold Picture.toRgb
    split
    · assumption
    · rfl

variable {libraries : Libraries} {bytes : Bytes} {reduction : Int}

structure Reads (libraries : Libraries) (bytes : Bytes) (picture : Picture) : Prop where
  present : bytes ≠ []
  read : libraries.reader.read bytes = .ok picture
  converts : isStandard picture = true ∨ libraries.pictures.refusal? .toRgb picture = none

inductive Overwhelms (libraries : Libraries) (bytes : Bytes) : Prop
  | reading (fault : LibraryFault) (present : bytes ≠ [])
      (failed : libraries.reader.read bytes = .error fault) (foreign : fault.isUnreadable = false)
  | converting (picture : Picture) (fault : LibraryFault) (present : bytes ≠ [])
      (read : libraries.reader.read bytes = .ok picture) (other : isStandard picture = false)
      (refused : libraries.pictures.refusal? .toRgb picture = some fault)
      (foreign : fault.faultClass ≠ .system)

theorem standardize_eq_ok_iff {picture standard : Picture} :
    standardize libraries picture = .ok standard ↔
      (isStandard picture = true ∨ libraries.pictures.refusal? .toRgb picture = none) ∧
        standard = standardized picture := by
  unfold standardize standardized
  cases isStandard picture with
  | true => simp [eq_comm]
  | false => cases libraries.pictures.refusal? .toRgb picture <;> simp [eq_comm]

theorem failsWith_standardize {picture : Picture} :
    FailsWith RasterFault.IsLoose (standardize libraries picture) ↔
      isStandard picture = false ∧ ∃ fault,
        libraries.pictures.refusal? .toRgb picture = some fault ∧ fault.faultClass ≠ .system := by
  unfold standardize
  cases isStandard picture with
  | true => simp
  | false =>
      cases libraries.pictures.refusal? .toRgb picture with
      | none => simp
      | some fault => simp [RasterFault.IsLoose]

theorem ofBytes_present (present : bytes ≠ []) : ofBytes bytes reduction libraries =
    ((libraries.reader.read bytes).mapError (.unread bytes.length) >>= fun picture =>
      standardize libraries picture >>= fun standard =>
        pure { picture := standard, reduction }) := by
  rw [ofBytes, if_neg (mt List.isEmpty_iff.mp present)]

theorem ofBytes_nil : ofBytes [] reduction libraries = .error .empty := rfl

theorem ofBytes_eq_ok_iff {raster : Raster} : ofBytes bytes reduction libraries = .ok raster ↔
    ∃ picture, Reads libraries bytes picture ∧
      raster = { picture := standardized picture, reduction } := by
  by_cases present : bytes = []
  · rw [present, ofBytes_nil]
    exact iff_of_false nofun fun ⟨_, reads, _⟩ => reads.present rfl
  · rw [ofBytes_present present]
    constructor
    · intro done
      obtain ⟨picture, read, done⟩ := bind_eq_ok_iff.mp done
      obtain ⟨standard, made, done⟩ := bind_eq_ok_iff.mp done
      obtain ⟨converts, rfl⟩ := standardize_eq_ok_iff.mp made
      exact ⟨picture, ⟨present, mapError_eq_ok_iff.mp read, converts⟩, (pure_eq_ok_iff.mp done).symm⟩
    · rintro ⟨picture, ⟨-, read, converts⟩, rfl⟩
      rw [read, mapError_ok, ok_bind, standardize_eq_ok_iff.mpr ⟨converts, rfl⟩]
      rfl

theorem failsWith_ofBytes :
    FailsWith RasterFault.IsLoose (ofBytes bytes reduction libraries) ↔
      Overwhelms libraries bytes := by
  by_cases present : bytes = []
  · rw [present, ofBytes_nil, failsWith_error]
    refine iff_of_false id ?_
    rintro (⟨_, present, -⟩ | ⟨_, _, present, -⟩)
    · exact present rfl
    · exact present rfl
  · rw [ofBytes_present present]
    constructor
    · intro failed
      rcases failsWith_bind.mp failed with failed | ⟨picture, read, failed⟩
      · obtain ⟨fault, failed, foreign⟩ := failsWith_mapError.mp failed
        exact .reading fault present failed foreign
      have read := mapError_eq_ok_iff.mp read
      rw [failsWith_bind_left fun _ => not_failsWith_pure _] at failed
      obtain ⟨other, fault, refused, foreign⟩ := failsWith_standardize.mp failed
      exact .converting picture fault present read other refused foreign
    · rintro (⟨fault, -, failed, foreign⟩ | ⟨picture, fault, -, read, other, refused, foreign⟩)
      · exact failsWith_bind.mpr (.inl (failsWith_mapError.mpr ⟨fault, failed, foreign⟩))
      · refine failsWith_bind.mpr (.inr ⟨picture, mapError_eq_ok_iff.mpr read, ?_⟩)
        exact failsWith_bind.mpr (.inl (failsWith_standardize.mpr ⟨other, fault, refused, foreign⟩))

theorem isReported_ofBytes {fault : RasterFault}
    (failed : ofBytes bytes reduction libraries = .error fault) :
    fault.isReported = true ↔ bytes = [] ∨ ∃ cause,
      libraries.reader.read bytes = .error cause ∧ cause.isUnreadable = true := by
  by_cases present : bytes = []
  · rw [present, ofBytes_nil] at failed
    cases failed
    exact iff_of_true rfl (.inl present)
  · rw [ofBytes_present present] at failed
    simp only [present, false_or]
    rcases bind_eq_error_iff.mp failed with failed | ⟨picture, read, failed⟩
    · obtain ⟨cause, unread, rfl⟩ := mapError_eq_error_iff.mp failed
      simp [unread, RasterFault.isReported]
    · -- a picture has been read, so that nothing is wrong with the bytes
      rw [mapError_eq_ok_iff.mp read]
      rcases bind_eq_error_iff.mp failed with failed | ⟨_, -, ⟨⟩⟩
      unfold standardize at failed
      split at failed
      · cases failed
      · split at failed
        · cases failed
          exact iff_of_false Bool.noConfusion nofun
        · cases failed

/-- What can be decoded has one of two modes, and sides that can be counted. -/
structure IsDecoded (raster : Raster) : Prop where
  counted : raster.dimensions.IsCounted
  mode : raster.picture.mode = .rgb ∨ raster.picture.mode = .gray

theorem isDecoded_ofBytes {raster : Raster}
    (done : ofBytes bytes reduction libraries = .ok raster) :
    raster.IsDecoded ∧ raster.reduction = reduction := by
  obtain ⟨picture, reads, rfl⟩ := ofBytes_eq_ok_iff.mp done
  refine ⟨⟨?_, mode_standardized picture⟩, rfl⟩
  rw [dimensions, dimensions_standardized]
  exact libraries.reader.counted reads.read

theorem reads_willing {picture : Picture} :
    Reads .willing bytes picture ↔ Netpbm.read bytes = .ok picture := by
  constructor
  · intro reads
    exact mapError_eq_ok_iff.mp reads.read
  · intro read
    refine ⟨?_, mapError_eq_ok_iff.mpr read, .inr rfl⟩
    rintro rfl
    cases read

theorem isReported_willing {fault : RasterFault} (failed : ofBytes bytes reduction = .error fault) :
    fault.isReported = true ↔ ¬ Netpbm.Oversized bytes := by
  rw [isReported_ofBytes failed, ← Netpbm.bursts_read]
  constructor
  · rintro (rfl | ⟨cause, refused, unreadable⟩) ⟨fault, unread, large⟩
    · exact Netpbm.not_oversized_nil ((Netpbm.bursts_read []).mp ⟨fault, unread, large⟩)
    · obtain ⟨other, unread', rfl⟩ := mapError_eq_error_iff.mp refused
      obtain rfl := Except.error.inj (unread.symm.trans unread')
      rw [NetpbmFault.isUnreadable_toLibrary.mpr large] at unreadable
      cases unreadable
  · intro fits
    by_cases present : bytes = []
    · exact .inl present
    right
    rw [ofBytes_present present] at failed
    rcases bind_eq_error_iff.mp failed with failed | ⟨picture, -, failed⟩
    · obtain ⟨cause, refused, rfl⟩ := mapError_eq_error_iff.mp failed
      obtain ⟨fault, unread, rfl⟩ := mapError_eq_error_iff.mp refused
      refine ⟨_, refused, ?_⟩
      by_contra foreign
      have large := NetpbmFault.isUnreadable_toLibrary.mp (Bool.eq_false_of_not_eq_true foreign)
      exact fits ⟨fault, unread, large⟩
    · -- nothing is refused, so that every picture can be brought into one of the modes
      have converts : standardize .willing picture = .ok (standardized picture) :=
        standardize_eq_ok_iff.mpr ⟨.inr rfl, rfl⟩
      rw [converts] at failed
      cases failed

end Raster

namespace Decoder

variable {decoder : Decoder} {source : Source} {command : List String} {reduction : Int}
  {surroundings : Surroundings} {region : Option String} {tree : FileTree} {outcome : Outcome}
  {libraries : Libraries} {raster : Raster}

theorem failsWith_rasterOf :
    FailsWith Failure.Escapes (decoder.rasterOf source command reduction outcome libraries) ↔
      outcome.failure? Tool.decoder decoder.toleratesSilence = none ∧
        Raster.Overwhelms libraries outcome.stdout := by
  unfold rasterOf
  split
  · next failure reported =>
    simp [reported]
  · next accepted =>
    rw [failsWith_bind_left fun _ => not_failsWith_pure _, failsWith_mapError,
      failsWith_congr Failure.escapes_raster, Raster.failsWith_ofBytes]
    exact (and_iff_right accepted).symm

theorem isDecoded_rasterOf
    (done : decoder.rasterOf source command reduction outcome libraries = .ok raster) :
    raster.IsDecoded ∧ raster.reduction = reduction := by
  unfold rasterOf at done
  split at done
  · cases done
  · obtain ⟨bare, read, done⟩ := bind_eq_ok_iff.mp done
    obtain ⟨isDecoded, reduced⟩ := Raster.isDecoded_ofBytes (mapError_eq_ok_iff.mp read)
    rw [← pure_eq_ok_iff.mp done]
    exact ⟨⟨isDecoded.counted, isDecoded.mode⟩, reduced⟩

/-- What comes of running the decoder's command. -/
def ran (decoder : Decoder) (surroundings : Surroundings) (command : List String) :
    Except RunFault Outcome :=
  (RunReport.ofInvocation (decoder.invocation (command.headD "") command.tail)
    surroundings.decoderTool).result

/-- The ways in which decoding lets a failure escape: a null in the path of the missing link, or in a word
of the command, or a library that is overwhelmed by the output of an accepted run. -/
inductive Overwhelmed (decoder : Decoder) (surroundings : Surroundings) (command : List String)
    (tree : FileTree) : Prop
  | link (away : decoder.destination ≠ stdoutDevice) (link : Path)
      (named : .ofText decoder.destination = link) (missing : tree.entry? link = none)
      (null : Text.holdsNull link.text = true)
      (above : Text.holdsNull link.parent.text = true ∨
        (tree.makeDirectories link.parent).error = none)
  | command (linked : decoder.destinationError tree = none)
      (null : command.any Text.holdsNull = true)
  | output (outcome : Outcome) (linked : decoder.destinationError tree = none)
      (run : decoder.ran surroundings command = .ok outcome)
      (accepted : outcome.failure? Tool.decoder decoder.toleratesSilence = none)
      (overwhelms : Raster.Overwhelms surroundings.libraries outcome.stdout)

theorem destinationError_nullByte : decoder.destinationError tree = some .nullByte ↔
    decoder.destination ≠ stdoutDevice ∧
      (tree.ensureStdoutLink (.ofText decoder.destination)).error = some .nullByte := by
  unfold destinationError
  split
  · next away => exact (and_iff_right away).symm
  · next same => exact iff_of_false nofun fun refused => same refused.1

theorem ran_nullByte
    (made : decoder.command surroundings.workingDirectory source region reduction = .ok command) :
    decoder.ran surroundings command = .error .nullByte ↔ command.any Text.holdsNull = true := by
  have words : (decoder.invocation (command.headD "") command.tail).command = command := by
    obtain ⟨options, rfl⟩ := command_words made
    rfl
  rw [ran, RunReport.result_nullByte_iff, Invocation.IsSound, words, Bool.not_eq_false]

theorem decoded_linked (decodable : source.format.outputs.isEmpty = false)
    (linked : decoder.destinationError tree = none)
    (made : decoder.command surroundings.workingDirectory source region reduction = .ok command) :
    decoder.decoded surroundings source region reduction tree =
      ((decoder.ran surroundings command).mapError Failure.run >>= fun outcome =>
        decoder.rasterOf source command reduction outcome surroundings.libraries) := by
  unfold decoded
  simp only [decodable, linked, made, mapError_ok]
  rfl

theorem decoded_unlinked {fault : FileTree.TreeFault}
    (decodable : source.format.outputs.isEmpty = false)
    (failed : decoder.destinationError tree = some fault) :
    decoder.decoded surroundings source region reduction tree = .error (.tree fault) := by
  unfold decoded
  simp only [decodable, failed]
  rfl

theorem failsWith_decoded (decodable : source.format.outputs.isEmpty = false)
    (made : decoder.command surroundings.workingDirectory source region reduction = .ok command) :
    FailsWith Failure.Escapes (decoder.decoded surroundings source region reduction tree) ↔
      decoder.Overwhelmed surroundings command tree := by
  cases linked : decoder.destinationError tree with
  | some fault =>
      rw [decoded_unlinked decodable linked, failsWith_error, Failure.escapes_tree]
      constructor
      · rintro rfl
        obtain ⟨away, refused⟩ := destinationError_nullByte.mp linked
        obtain ⟨missing, null, above⟩ := FileTree.ensureStdoutLink_nullByte.mp refused
        exact .link away _ rfl missing null above
      · rintro (⟨away, _, rfl, missing, null, above⟩ | ⟨unlinked, -⟩ | ⟨_, unlinked, -⟩)
        · have refused := FileTree.ensureStdoutLink_nullByte.mpr ⟨missing, null, above⟩
          exact Option.some.inj (linked.symm.trans (destinationError_nullByte.mpr ⟨away, refused⟩))
        · cases linked.symm.trans unlinked
        · cases linked.symm.trans unlinked
  | none =>
      rw [decoded_linked decodable linked made, failsWith_bind, failsWith_mapError]
      constructor
      · rintro (⟨fault, failed, null⟩ | ⟨outcome, run, failed⟩)
        · rw [(Failure.escapes_run fault).mp null] at failed
          exact .command linked ((ran_nullByte made).mp failed)
        · obtain ⟨accepted, overwhelms⟩ := failsWith_rasterOf.mp failed
          exact .output outcome linked (mapError_eq_ok_iff.mp run) accepted overwhelms
      · rintro (⟨away, _, rfl, missing, null, above⟩ | ⟨-, null⟩ | ⟨outcome, -, run, accepted, large⟩)
        · have refused := FileTree.ensureStdoutLink_nullByte.mpr ⟨missing, null, above⟩
          cases linked.symm.trans (destinationError_nullByte.mpr ⟨away, refused⟩)
        · exact .inl ⟨.nullByte, (ran_nullByte made).mpr null, (Failure.escapes_run _).mpr rfl⟩
        · exact .inr ⟨outcome, mapError_eq_ok_iff.mpr run,
            failsWith_rasterOf.mpr ⟨accepted, large⟩⟩

theorem isDecoded_decoded (decodable : source.format.outputs.isEmpty = false)
    (made : decoder.command surroundings.workingDirectory source region reduction = .ok command)
    (done : decoder.decoded surroundings source region reduction tree = .ok raster) :
    raster.IsDecoded ∧ raster.reduction = reduction := by
  cases linked : decoder.destinationError tree with
  | some fault =>
      rw [decoded_unlinked decodable linked] at done
      cases done
  | none =>
      rw [decoded_linked decodable linked made] at done
      obtain ⟨outcome, -, done⟩ := bind_eq_ok_iff.mp done
      exact isDecoded_rasterOf done

end Decoder

end Jp2Render
