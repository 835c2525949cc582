import Jp2Render.Logging.Basic
import Jp2Render.Proofs.Endings
import Jp2Render.Proofs.Text.Utf8
import Jp2Render.Proofs.Toml.Reading

/-!
Loading a configuration. Whatever is wrong with a document that can be read at all is told as a fault
of the configuration; bytes that are no text, and integers of too many digits, are not.
-/

namespace Jp2Render

namespace Configuration

/-- The bytes are those of a text, and no integer of too many digits comes up in it. -/
def Readable (bytes : Bytes) : Prop :=
  ∃ text, bytes = Bytes.ofText text ∧ ∀ count, Toml.ofText text ≠ .error (.tooManyDigits count)

variable {defaults : Toml.Table} {path : Path} {bytes : Bytes} {document : Option Bytes}

theorem not_readable_of_undecodable {fault : Text.Utf8.Fault}
    (undecodable : Text.Utf8.strict bytes = .error fault) : ¬ Readable bytes := by
  rintro ⟨text, written, -⟩
  rw [Text.Utf8.strict_eq_ok_iff.mpr written] at undecodable
  cases undecodable

theorem readable_iff {text : String} (decoded : Text.Utf8.strict bytes = .ok text) :
    Readable bytes ↔ ∀ count, Toml.ofText text ≠ .error (.tooManyDigits count) := by
  constructor
  · rintro ⟨other, written, short⟩
    rw [Text.Utf8.strict_eq_ok_iff.mpr written] at decoded
    cases decoded
    exact short
  · intro short
    exact ⟨text, Text.Utf8.strict_eq_ok_iff.mp decoded, short⟩

theorem readDocument_undecodable {fault : Text.Utf8.Fault}
    (undecodable : Text.Utf8.strict bytes = .error fault) :
    readDocument path bytes = .error (.undecodable fault) := by
  rw [readDocument, undecodable]

theorem isProper_of_read {table : Toml.Table}
    (read : readDocument path bytes = .ok table) : table.IsProper := by
  obtain ⟨text, -, parsed⟩ := readDocument_eq_ok_iff.mp read
  exact Toml.isProper_ofText parsed

theorem failsWith_readDocument :
    FailsWith (·.isReported = false) (readDocument path bytes) ↔ ¬ Readable bytes := by
  cases decoded : Text.Utf8.strict bytes with
  | error fault =>
      rw [readDocument_undecodable decoded]
      exact iff_of_true (failsWith_error.mpr rfl) (not_readable_of_undecodable decoded)
  | ok text =>
      rw [readable_iff decoded, readDocument, decoded]
      dsimp only
      cases Toml.ofText text with
      | ok table => exact iff_of_false (not_failsWith_ok _) (not_not_intro (by simp))
      | error refusal =>
          cases refusal with
          | malformed message =>
              exact iff_of_false (not_failsWith_error Bool.noConfusion) (not_not_intro (by simp))
          | tooManyDigits count =>
              exact iff_of_true (failsWith_error.mpr rfl) fun short => short count rfl

theorem load_none : load defaults path none = ofTable (merged defaults []) := rfl

theorem load_some : load defaults path (some bytes) =
    (readDocument path bytes >>= fun table => ofTable (merged defaults table)) := rfl

theorem reported_ofTable (table : Toml.Table) :
    ¬ FailsWith (·.isReported = false) (ofTable table) := by
  unfold ofTable
  split
  · exact not_failsWith_ok _
  · exact not_failsWith_error Bool.noConfusion

theorem failsWith_load : FailsWith (·.isReported = false) (load defaults path document) ↔
    ¬ ∀ bytes, document = some bytes → Readable bytes := by
  cases document with
  | none =>
      rw [load_none]
      exact iff_of_false (reported_ofTable _) (not_not_intro nofun)
  | some bytes =>
      rw [load_some, failsWith_bind_left fun _ => reported_ofTable _, failsWith_readDocument]
      simp

theorem unreported_cases {fault : ConfigurationFault}
    (failed : load defaults path document = .error fault) (loose : fault.isReported = false) :
    ∃ bytes, document = some bytes ∧
      ((fault.shown.kind = "UnicodeDecodeError" ∧ ∀ text, bytes ≠ Bytes.ofText text) ∨
        (fault.shown.kind = "ValueError" ∧ ∃ text count, bytes = Bytes.ofText text ∧
          Toml.ofText text = .error (.tooManyDigits count) ∧ Text.integerDigitLimit < count)) := by
  cases document with
  | none => exact absurd ⟨fault, failed, loose⟩ (reported_ofTable _)
  | some bytes =>
      refine ⟨bytes, rfl, ?_⟩
      rw [load_some] at failed
      -- rejecting a table is always told, so the document itself could not be read
      rcases bind_eq_error_iff.mp failed with failed | ⟨table, -, failed⟩
      · cases decoded : Text.Utf8.strict bytes with
        | error cause =>
            rw [readDocument_undecodable decoded] at failed
            cases failed
            refine .inl ⟨rfl, ?_⟩
            intro text written
            rw [Text.Utf8.strict_eq_ok_iff.mpr written] at decoded
            cases decoded
        | ok text =>
            rw [readDocument, decoded] at failed
            dsimp only at failed
            split at failed
            · cases failed
            · cases failed
              cases loose
            · next count refused =>
              cases failed
              exact .inr ⟨rfl, text, count, Text.Utf8.strict_eq_ok_iff.mp decoded, refused,
                Toml.long_of_tooManyDigits refused⟩
      · exact absurd ⟨fault, failed, loose⟩ (reported_ofTable _)

end Configuration

theorem Logging.configuredLevel_eq_ok_iff {loaded : Except ConfigurationFault Configuration} :
    (∃ severity, configuredLevel loaded = .ok severity) ↔
      ¬ FailsWith (·.isReported = false) loaded := by
  cases loaded with
  | ok configuration => exact iff_of_true ⟨_, rfl⟩ (not_failsWith_ok _)
  | error fault =>
      rw [failsWith_error, Bool.not_eq_false, configuredLevel]
      split
      · next reported => exact iff_of_true ⟨_, rfl⟩ reported
      · next loose => exact iff_of_false nofun loose

theorem CommandLine.ending_unloaded {setting : Setting} {tree : FileTree} {arguments : List String}
    {line : CommandLine} {fault : ConfigurationFault} (parsed : parse arguments = .ok line)
    (failed : setting.configuration = .error fault) : (run setting tree arguments).ending =
      if fault.isReported then .exit 2 else .fault fault.shown := by
  have unset : serviceOf setting line = .error (.configuration fault) := by
    rw [serviceOf, failed]
    rfl
  rw [run_unserved parsed unset]
  dsimp only
  unfold setupReport
  show (if fault.isReported = true then _ else _ : RunReport).ending = _
  split <;> rfl

namespace Configuration

/-- Loading comes to a configuration that keeps all rules, or to a fault that users are told of as
one of the configuration, just if there is no document or a readable one. Where the document is not
readable, loading lets out what decoding it or counting digits came to; so does then the program, and
no level of logging can be had. Values may be nested as deep as they like here: that a reader which
calls itself runs out of calls (RecursionError, from some 500 brackets inside one another on) is a
limit of the machine that reads, and no part of the reading. -/
theorem load_reported_iff (defaults : Toml.Table) (path : Path) (document : Option Bytes) :
    let loaded := load defaults path document
    let readable := ∀ bytes, document = some bytes → Readable bytes
    ((∀ fault, loaded = .error fault → fault.shown.kind = FailureKind.configuration.name) ↔
      readable) ∧
    (∀ fault, loaded = .error fault → fault.shown.kind ≠ FailureKind.configuration.name →
      ∃ bytes, document = some bytes ∧
        ((fault.shown.kind = "UnicodeDecodeError" ∧ ∀ text, bytes ≠ Bytes.ofText text) ∨
          (fault.shown.kind = "ValueError" ∧ ∃ text count, bytes = Bytes.ofText text ∧
            Toml.ofText text = .error (.tooManyDigits count) ∧ Text.integerDigitLimit < count))) ∧
    ((∃ severity, Logging.configuredLevel loaded = .ok severity) ↔ readable) ∧
    (∀ homes surroundings outputFault tree arguments line fault,
      CommandLine.parse arguments = .ok line → loaded = .error fault →
      (CommandLine.run { homes, configuration := loaded, surroundings, outputFault } tree
        arguments).ending =
          if fault.shown.kind = FailureKind.configuration.name then .exit 2
          else .fault fault.shown) := by
  intro loaded readable
  have unread : FailsWith (·.isReported = false) loaded ↔ ¬ readable := failsWith_load
  have blamed (fault : ConfigurationFault) :
      fault.isReported = true ↔ fault.shown.kind = FailureKind.configuration.name :=
    fault.isReported_iff
  -- all four clauses are about the one property of being reported
  refine ⟨?_, ?_, ?_, ?_⟩
  · have told : (∀ fault, loaded = .error fault → fault.shown.kind = FailureKind.configuration.name) ↔
        ¬ FailsWith (·.isReported = false) loaded := by
      rw [FailsWith]
      simp only [not_exists, not_and, Bool.not_eq_false, blamed]
    rw [told, unread, Classical.not_not]
  · intro fault failed other
    rw [Ne, ← blamed, Bool.not_eq_true] at other
    exact unreported_cases failed other
  · rw [Logging.configuredLevel_eq_ok_iff, unread, Classical.not_not]
  · intro homes surroundings outputFault tree arguments line fault parsed failed
    rw [CommandLine.ending_unloaded parsed failed]
    simp only [blamed]

/-- A single stray byte is no text. -/
theorem load_stray_byte : ¬ ∀ (directory path : Path) (document : Option Bytes)
    (fault : ConfigurationFault), load (defaults directory) path document = .error fault →
    fault.shown.kind = FailureKind.configuration.name := by
  intro reported
  have stray : Text.Utf8.strict [0xFF] = .error ⟨.startByte, 0, 1, 0xFF⟩ := by
    rw [Text.Utf8.strict, Text.Utf8.pieces_cons]
    rfl
  have failed : load (defaults (.ofText "/home")) (.ofText "/config.toml") (some [0xFF]) =
      .error (.undecodable ⟨.startByte, 0, 1, 0xFF⟩) := by
    rw [load_some, readDocument_undecodable stray]
    rfl
  have told := reported _ _ _ _ failed
  exact absurd told (by decide +kernel)

end Configuration

end Jp2Render
