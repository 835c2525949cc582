import Jp2Render.CommandLine.Run
import Jp2Render.Proofs.Blame
import Jp2Render.Proofs.FileTree.Growth
import Jp2Render.Proofs.Text.Utf8

/-!
How the program ends. A run stops at its command line, at the setup of the service, at the rendering,
or at the writing of its output. Up to the writing, the tree of files gains the decoder's link and
directories above it, but no file.
-/

namespace Jp2Render

namespace Serving

variable {α β : Type} {paths : Path → Prop} {step : Serving α}

def Grows (paths : Path → Prop) (step : Serving α) : Prop :=
  ∀ activity, FileTree.Grown paths activity.tree (step.left activity).tree

theorem Keeps.grows (keeps : Keeps Activity.tree step) : Grows paths step := by
  intro activity
  rw [keeps activity]
  exact .unchanged

theorem Grows.bind {next : α → Serving β} (grows : Grows paths step)
    (rest : ∀ value, Grows paths (next value)) : Grows paths (step >>= next) := by
  intro activity
  rw [left_bind]
  cases step.result activity with
  | error failure => exact grows activity
  | ok value => exact (grows activity).trans (rest value _)

theorem Grows.tryCatch {handle : Failure → Serving α} (grows : Grows paths step)
    (handled : ∀ failure, Grows paths (handle failure)) : Grows paths (tryCatch step handle) := by
  intro activity
  rw [left_tryCatch]
  cases step.result activity with
  | ok value => exact grows activity
  | error failure => exact (grows activity).trans (handled failure _)

theorem grows_pure (value : α) : Grows paths (pure value : Serving α) := (keeps_pure value).grows

theorem grows_throw (failure : Failure) : Grows paths (throw failure : Serving α) :=
  (keeps_throw failure).grows

theorem grows_settle {ε : Type} (fail : ε → Failure) (outcome : Except ε α) :
    Grows paths (settle fail outcome) := (keeps_settle fail outcome).grows

theorem grows_note (journal : Journal) : Grows paths (note journal) := by
  apply Keeps.grows
  intro activity
  rfl

variable (surroundings : Surroundings) (decoder : Decoder) (source : Source)

theorem grows_askSize (probe : Probe) : Grows paths (askSize surroundings probe source) :=
  Keeps.grows (tree_askSize surroundings probe source)

theorem grows_planDecoding (request : Request) (full : Dimensions) :
    Grows paths (planDecoding surroundings decoder request full source) := by
  apply Keeps.grows
  intro activity
  exact tree_planDecoding surroundings decoder request source activity full

theorem grows_ensureDestination :
    Grows (·.IsOnWayTo (.ofText decoder.destination)) (ensureDestination decoder) := by
  intro activity
  unfold ensureDestination
  split
  · have grown := activity.tree.grown_ensureStdoutLink (.ofText decoder.destination)
    simp only [left_bind, result_get, left_get, result_modify, result_note]
    cases (activity.tree.ensureStdoutLink (.ofText decoder.destination)).error <;> exact grown
  · exact .unchanged

theorem grows_runDecoder (command : List String) :
    Grows paths (runDecoder surroundings decoder command) := by
  refine Grows.bind (Keeps.grows (keeps_modify ?_)) fun _ => ?_
  · intro activity
    rfl
  exact (grows_note _).bind fun _ => grows_settle _ _

theorem grows_decode (region : Option String) (reduction : Int) :
    Grows (·.IsOnWayTo (.ofText decoder.destination))
      (decode surroundings decoder source region reduction) := by
  unfold decode
  split
  · exact grows_throw _
  · apply (grows_ensureDestination decoder).bind
    intro _
    apply (grows_settle _ _).bind
    intro command
    apply (grows_runDecoder surroundings decoder command).bind
    intro outcome
    apply (grows_note _).bind
    intro _
    apply (grows_settle _ _).bind
    intro raster
    exact (grows_note _).bind fun _ => grows_pure raster

end Serving

namespace Service

variable (service : Service) (surroundings : Surroundings) (request : Request) (source : Source)

theorem grows_make : Serving.Grows (·.IsOnWayTo (.ofText service.decoder.destination))
    (service.make surroundings request source) := by
  apply (Serving.grows_askSize surroundings source service.probe).bind
  intro full
  apply (Serving.grows_planDecoding surroundings service.decoder source request full).bind
  intro plan
  apply (Serving.grows_decode surroundings service.decoder source plan.region plan.reduction).bind
  intro raster
  exact (Serving.grows_note _).bind fun _ => Serving.grows_settle _ _

theorem grows_render : Serving.Grows (·.IsOnWayTo (.ofText service.decoder.destination))
    (service.render surroundings request source) := by
  apply (Serving.grows_settle _ _).bind
  intro _
  apply (service.grows_make surroundings request source).tryCatch
  intro failure
  exact (Serving.grows_note _).bind fun _ => Serving.grows_throw _

end Service

theorem ConfigurationFault.isReported_iff (fault : ConfigurationFault) :
    fault.isReported = true ↔ fault.shown.BlamesConfiguration := by
  cases fault <;> simp [isReported, shown, FailureKind.name]

namespace Configuration

variable {path : Path}

theorem readDocument_eq_ok_iff {bytes : Bytes} {table : Toml.Table} :
    readDocument path bytes = .ok table ↔
      ∃ text, Text.Utf8.strict bytes = .ok text ∧ Toml.ofText text = .ok table := by
  unfold readDocument
  cases Text.Utf8.strict bytes with
  | error fault => simp
  | ok text =>
      cases parsed : Toml.ofText text with
      | ok other => simp [parsed]
      | error refusal => cases refusal <;> simp [parsed]

theorem load_ofText {defaults document : Toml.Table} {text : String} {configuration : Configuration}
    (parsed : Toml.ofText text = .ok document)
    (accepted : ofTable (merged defaults document) = .ok configuration) :
    load defaults path (some (Bytes.ofText text)) = .ok configuration := by
  have decoded : Text.Utf8.strict (Bytes.ofText text) = .ok text := Text.Utf8.strict_eq_ok_iff.mpr rfl
  have read : readDocument path (Bytes.ofText text) = .ok document :=
    readDocument_eq_ok_iff.mpr ⟨text, decoded, parsed⟩
  exact bind_eq_ok_iff.mpr ⟨document, read, accepted⟩

end Configuration

namespace CommandLine

variable {setting : Setting} {tree : FileTree} {arguments : List String} {line : CommandLine}
  {service : Service}

def Setting.SetsUp (setting : Setting) (line : CommandLine) (service : Service) : Prop :=
  ∃ configuration settings, setting.configuration = .ok configuration ∧
    configuration.settings setting.homes = .ok settings ∧
    Service.ofSettings { settings with
      backend := line.postProcessor.getD settings.backend } = .ok service

inductive Setting.Misconfigured (setting : Setting) (line : CommandLine) : Prop
  | loading (fault : ConfigurationFault) (failed : setting.configuration = .error fault)
      (blamed : fault.shown.kind = FailureKind.configuration.name)
  | backend (configuration : Configuration) (settings : ServiceSettings) (fault : UnknownBackend)
      (loaded : setting.configuration = .ok configuration)
      (set : configuration.settings setting.homes = .ok settings)
      (unknown : Service.ofSettings { settings with
        backend := line.postProcessor.getD settings.backend } = .error fault)

theorem serviceOf_eq_ok_iff : serviceOf setting line = .ok service ↔ setting.SetsUp line service := by
  unfold serviceOf Setting.SetsUp
  rw [bind_eq_ok_iff]
  refine exists_congr fun configuration => ?_
  rw [mapError_eq_ok_iff, bind_eq_ok_iff, ← exists_and_left]
  refine exists_congr fun settings => ?_
  rw [mapError_eq_ok_iff, mapError_eq_ok_iff]

theorem misconfigured_iff : setting.Misconfigured line ↔
    ∃ fault, serviceOf setting line = .error fault ∧ fault.isReported = true := by
  unfold serviceOf
  constructor
  · rintro (⟨fault, failed, blamed⟩ | ⟨configuration, settings, fault, loaded, set, unknown⟩)
    · exact ⟨.configuration fault, by rw [failed]; rfl, fault.isReported_iff.mpr blamed⟩
    · refine ⟨.backend fault, ?_, rfl⟩
      rw [loaded, mapError_ok, ok_bind, set, mapError_ok, ok_bind, unknown]
      rfl
  · rintro ⟨fault, failed, reported⟩
    rcases bind_eq_error_iff.mp failed with failed | ⟨configuration, loaded, failed⟩
    · obtain ⟨cause, unloaded, rfl⟩ := mapError_eq_error_iff.mp failed
      exact .loading cause unloaded (cause.isReported_iff.mp reported)
    rcases bind_eq_error_iff.mp failed with failed | ⟨settings, set, failed⟩
    · obtain ⟨cause, -, rfl⟩ := mapError_eq_error_iff.mp failed
      cases reported
    · obtain ⟨cause, unknown, rfl⟩ := mapError_eq_error_iff.mp failed
      exact .backend configuration settings cause (mapError_eq_ok_iff.mp loaded)
        (mapError_eq_ok_iff.mp set) unknown

def start (service : Service) (tree : FileTree) : Activity :=
  { tree, journal := [service.postProcessor.chosenRecord] }

/-- The picture that is asked for, made by a service. -/
def rendering (setting : Setting) (line : CommandLine) (service : Service) : Serving EncodedPicture :=
  service.render setting.surroundings line.request (.ofPath line.source none)

inductive Course (setting : Setting) (tree : FileTree) (arguments : List String) : Prop
  | stopped (stop : Stop) (parsed : parse arguments = .error stop)
  | unserved (line : CommandLine) (fault : SetupFault) (parsed : parse arguments = .ok line)
      (unset : serviceOf setting line = .error fault)
  | failed (line : CommandLine) (service : Service) (failure : Failure)
      (parsed : parse arguments = .ok line) (setUp : serviceOf setting line = .ok service)
      (failed : (rendering setting line service).result (start service tree) = .error failure)
  | made (line : CommandLine) (service : Service) (picture : EncodedPicture)
      (parsed : parse arguments = .ok line) (setUp : serviceOf setting line = .ok service)
      (made : (rendering setting line service).result (start service tree) = .ok picture)

theorem course (setting : Setting) (tree : FileTree) (arguments : List String) :
    Course setting tree arguments := by
  cases parsed : parse arguments with
  | error stop => exact .stopped stop parsed
  | ok line =>
      cases setUp : serviceOf setting line with
      | error fault => exact .unserved line fault parsed setUp
      | ok service =>
          cases rendered : (rendering setting line service).result (start service tree) with
          | error failure => exact .failed line service failure parsed setUp rendered
          | ok picture => exact .made line service picture parsed setUp rendered

theorem run_stopped {stop : Stop} (parsed : parse arguments = .error stop) :
    run setting tree arguments = { ending := stop.ending, activity := { tree } } := by
  rw [run, parsed]

def threshold (line : CommandLine) : Severity := if line.debug then .debug else .info

theorem run_unserved {fault : SetupFault} (parsed : parse arguments = .ok line)
    (unset : serviceOf setting line = .error fault) : run setting tree arguments =
      { setupReport { tree } fault with threshold := threshold line } := by
  rw [run, parsed]
  simp only [perform, unset]
  rfl

theorem run_failed {failure : Failure} (parsed : parse arguments = .ok line)
    (setUp : serviceOf setting line = .ok service)
    (failed : (rendering setting line service).result (start service tree) = .error failure) :
    run setting tree arguments =
      { failureReport ((rendering setting line service).left (start service tree)) failure with
        threshold := threshold line } := by
  have ran : (rendering setting line service).run.run (start service tree) =
      (.error failure, (rendering setting line service).left (start service tree)) :=
    Prod.ext failed rfl
  rw [rendering, start] at ran
  rw [run, parsed]
  simp only [perform, setUp, ran]
  rfl

theorem run_made {picture : EncodedPicture} (parsed : parse arguments = .ok line)
    (setUp : serviceOf setting line = .ok service)
    (made : (rendering setting line service).result (start service tree) = .ok picture) :
    run setting tree arguments =
      { writeReport setting ((rendering setting line service).left (start service tree)) line
          picture with threshold := threshold line } := by
  have ran : (rendering setting line service).run.run (start service tree) =
      (.ok picture, (rendering setting line service).left (start service tree)) :=
    Prod.ext made rfl
  rw [rendering, start] at ran
  rw [run, parsed]
  simp only [perform, setUp, ran]
  rfl

section Reports

variable {activity : Activity} {fault : SetupFault} {failure : Failure} {picture : EncodedPicture}
  {code : Int}

theorem exit_setupReport : (setupReport activity fault).ending = .exit code ↔
    fault.isReported = true ∧ code = 2 := by
  unfold setupReport
  split
  · next reported => simp [configurationReport, reported, eq_comm]
  · next loose => simp [loose]

theorem setupReport_keeps (activity : Activity) (fault : SetupFault) :
    (setupReport activity fault).written = none ∧
    (setupReport activity fault).activity.tree = activity.tree ∧
    (setupReport activity fault).activity.calls = activity.calls := by
  unfold setupReport
  split <;> exact ⟨rfl, rfl, rfl⟩

theorem exit_failureReport (own : failure.kind? ≠ some .configuration) :
    (failureReport activity failure).ending = .exit code ↔
      failure.isRequestFailure = true ∧ code = 1 := by
  rw [failureReport, if_neg own]
  split
  · next told => simp [told, eq_comm]
  · next loose => simp [loose]

theorem failureReport_keeps (activity : Activity) (failure : Failure) :
    (failureReport activity failure).written = none ∧
    (failureReport activity failure).activity.tree = activity.tree := by
  unfold failureReport
  split
  · exact ⟨rfl, rfl⟩
  · split <;> exact ⟨rfl, rfl⟩

theorem writeOutput_done {output : Path}
    (done : (writeOutput setting tree output picture).error = none) :
    writeOutput setting tree output picture = tree.writeFile output (.picture picture) := by
  unfold writeOutput at done ⊢
  dsimp only at done ⊢
  split at done
  · cases done
  · rfl

theorem writeOutput_new {output : Path} {place : Location} (unhindered : setting.outputFault = none)
    (sound : Text.holdsNull output.text = false) (located : tree.locate true output = .ok place)
    (free : tree.lookup place = none) : (writeOutput setting tree output picture).error = none := by
  have written : (tree.writeFile output (.picture picture)).error = none := by
    simp only [FileTree.writeFile, sound, located, free, Bool.false_eq_true, if_false]
  simp only [writeOutput, written, unhindered]

theorem writeOutput_failed {output : Path}
    (failed : (writeOutput setting tree output picture).error ≠ none) :
    (writeOutput setting tree output picture).tree = tree := by
  unfold writeOutput at failed ⊢
  dsimp only at failed ⊢
  split at failed
  · rfl
  · exact FileTree.writeFile_failed failed

/-- How a run ends whose picture is made, by how writing it goes. -/
def endingOf : Option FileTree.TreeFault → Ending
  | none => .exit 0
  | some (.system _) => .exit 1
  | some .nullByte => .fault .nullByte

theorem ending_writeReport : (writeReport setting activity line picture).ending =
    endingOf (writeOutput setting activity.tree line.output picture).error := by
  unfold writeReport
  dsimp only
  split
  · next taken => rw [taken]; rfl
  · next refused => rw [refused]; rfl
  · next refused => rw [refused]; rfl

theorem written_writeReport : (writeReport setting activity line picture).written =
    if (writeOutput setting activity.tree line.output picture).error.isSome then none
    else some picture := by
  unfold writeReport
  dsimp only
  split
  · next taken => rw [taken]; rfl
  · next refused => rw [refused]; rfl
  · next refused => rw [refused]; rfl

theorem tree_writeReport : (writeReport setting activity line picture).activity.tree =
    (writeOutput setting activity.tree line.output picture).tree := by
  unfold writeReport
  dsimp only
  split <;> rfl

theorem exit_zero_iff_taken {fault : Option FileTree.TreeFault} :
    endingOf fault = .exit 0 ↔ fault = none := by
  unfold endingOf
  split <;> simp

theorem exit_one_iff_refused {fault : Option FileTree.TreeFault} :
    endingOf fault = .exit 1 ↔ ∃ error, fault = some (.system error) := by
  unfold endingOf
  split <;> simp

theorem endingOf_ne_two (fault : Option FileTree.TreeFault) : endingOf fault ≠ .exit 2 := by
  unfold endingOf
  split <;> simp

end Reports

section Codes

variable {code : Int}

theorem exit_unserved {fault : SetupFault} (parsed : parse arguments = .ok line)
    (unset : serviceOf setting line = .error fault) :
    (run setting tree arguments).ending = .exit code ↔ fault.isReported = true ∧ code = 2 := by
  rw [run_unserved parsed unset]
  exact exit_setupReport

theorem exit_failed {failure : Failure} (parsed : parse arguments = .ok line)
    (setUp : serviceOf setting line = .ok service)
    (failed : (rendering setting line service).result (start service tree) = .error failure) :
    (run setting tree arguments).ending = .exit code ↔
      failure.isRequestFailure = true ∧ code = 1 := by
  rw [run_failed parsed setUp failed]
  exact exit_failureReport (Service.kind_render_ne_configuration failed)

theorem ending_made {picture : EncodedPicture} (parsed : parse arguments = .ok line)
    (setUp : serviceOf setting line = .ok service)
    (made : (rendering setting line service).result (start service tree) = .ok picture) :
    (run setting tree arguments).ending = endingOf (writeOutput setting
      ((rendering setting line service).left (start service tree)).tree line.output
        picture).error := by
  rw [run_made parsed setUp made]
  exact ending_writeReport

end Codes

def Setting.OnWayToLink (setting : Setting) (arguments : List String) (path : Path) : Prop :=
  ∃ line service, parse arguments = .ok line ∧ setting.SetsUp line service ∧
    path.IsOnWayTo (.ofText service.decoder.destination)

theorem grown_rendering (parsed : parse arguments = .ok line)
    (setUp : serviceOf setting line = .ok service) :
    FileTree.Grown (setting.OnWayToLink arguments) tree
      ((rendering setting line service).left (start service tree)).tree := by
  refine (service.grows_render _ _ _ (start service tree)).mono ?_
  intro path onWay
  exact ⟨line, service, parsed, serviceOf_eq_ok_iff.mp setUp, onWay⟩

theorem run_undone (undone : (run setting tree arguments).ending ≠ .exit 0) :
    (run setting tree arguments).written = none ∧ FileTree.Grown (setting.OnWayToLink arguments) tree
      (run setting tree arguments).activity.tree := by
  cases course setting tree arguments with
  | stopped stop parsed =>
      rw [run_stopped parsed]
      exact ⟨rfl, .unchanged⟩
  | unserved line fault parsed unset =>
      obtain ⟨unwritten, kept, -⟩ := setupReport_keeps { tree } fault
      rw [run_unserved parsed unset]
      refine ⟨unwritten, ?_⟩
      dsimp only
      rw [kept]
      exact .unchanged
  | failed line service failure parsed setUp failed =>
      obtain ⟨unwritten, kept⟩ := failureReport_keeps
        ((rendering setting line service).left (start service tree)) failure
      rw [run_failed parsed setUp failed]
      refine ⟨unwritten, ?_⟩
      dsimp only
      rw [kept]
      exact grown_rendering parsed setUp
  | made line service picture parsed setUp made =>
      rw [ending_made parsed setUp made] at undone
      rw [run_made parsed setUp made]
      dsimp only
      have refused := mt exit_zero_iff_taken.mpr undone
      rw [written_writeReport, tree_writeReport, if_pos (Option.isSome_iff_ne_none.mpr refused),
        writeOutput_failed refused]
      exact ⟨rfl, grown_rendering parsed setUp⟩

theorem run_done (done : (run setting tree arguments).ending = .exit 0) :
    ∃ line service picture place, parse arguments = .ok line ∧ setting.SetsUp line service ∧
      (rendering setting line service).result (start service tree) = .ok picture ∧
      (run setting tree arguments).written = some picture ∧
      (run setting tree arguments).activity.tree.locate true line.output = .ok place ∧
      (run setting tree arguments).activity.tree.lookup place = some (.file (.picture picture)) ∧
      ∀ other content, other ≠ place →
        ((run setting tree arguments).activity.tree.lookup other = some (.file content) ↔
          tree.lookup other = some (.file content)) := by
  cases course setting tree arguments with
  | stopped stop parsed =>
      rw [run_stopped parsed] at done
      cases stop <;> cases done
  | unserved line fault parsed unset =>
      obtain ⟨-, ⟨⟩⟩ := (exit_unserved parsed unset).mp done
  -- Rendering blames nothing on the configuration, so its failures are told with 1 or not at all.
  | failed line service failure parsed setUp failed =>
      obtain ⟨-, ⟨⟩⟩ := (exit_failed parsed setUp failed).mp done
  | made line service picture parsed setUp made =>
      rw [ending_made parsed setUp made] at done
      rw [run_made parsed setUp made]
      dsimp only
      have accepted := exit_zero_iff_taken.mp done
      rw [written_writeReport, tree_writeReport,
        if_neg (Option.not_isSome_iff_eq_none.mpr accepted)]
      have writing := writeOutput_done accepted
      rw [writing] at accepted
      rw [writing]
      obtain ⟨place, -, leads, changed⟩ := FileTree.writeFile_done accepted
      refine ⟨line, service, picture, place, parsed, serviceOf_eq_ok_iff.mp setUp, made, rfl, leads,
        ?_, ?_⟩
      · rw [changed, if_pos rfl]
      · intro other content apart
        rw [changed, if_neg apart]
        exact (grown_rendering parsed setUp).file_iff

theorem exit_two_iff : (run setting tree arguments).ending = .exit 2 ↔
    ∃ line, parse arguments = .ok line ∧ setting.Misconfigured line := by
  simp only [misconfigured_iff]
  constructor
  · intro ended
    cases course setting tree arguments with
    | stopped stop parsed =>
        rw [run_stopped parsed] at ended
        cases stop <;> cases ended
    | unserved line fault parsed unset =>
        exact ⟨line, parsed, fault, unset, ((exit_unserved parsed unset).mp ended).1⟩
    | failed line service failure parsed setUp failed =>
        obtain ⟨-, ⟨⟩⟩ := (exit_failed parsed setUp failed).mp ended
    | made line service picture parsed setUp made =>
        rw [ending_made parsed setUp made] at ended
        exact absurd ended (endingOf_ne_two _)
  · rintro ⟨line, parsed, fault, unset, reported⟩
    exact (exit_unserved parsed unset).mpr ⟨reported, rfl⟩

theorem calls_of_exit_two (ended : (run setting tree arguments).ending = .exit 2) :
    (run setting tree arguments).activity.calls = [] := by
  obtain ⟨line, parsed, misconfigured⟩ := exit_two_iff.mp ended
  obtain ⟨fault, unset, -⟩ := misconfigured_iff.mp misconfigured
  rw [run_unserved parsed unset]
  exact (setupReport_keeps { tree } fault).2.2

theorem exit_one_iff : (run setting tree arguments).ending = .exit 1 ↔
    ∃ line service, parse arguments = .ok line ∧ setting.SetsUp line service ∧
      ((∃ failure, (rendering setting line service).result (start service tree) = .error failure ∧
          failure.isRequestFailure = true) ∨
        ∃ picture error,
          (rendering setting line service).result (start service tree) = .ok picture ∧
          (writeOutput setting ((rendering setting line service).left (start service tree)).tree
            line.output picture).error = some (.system error)) := by
  constructor
  · intro ended
    cases course setting tree arguments with
    | stopped stop parsed =>
        rw [run_stopped parsed] at ended
        cases stop <;> cases ended
    | unserved line fault parsed unset =>
        obtain ⟨-, ⟨⟩⟩ := (exit_unserved parsed unset).mp ended
    | failed line service failure parsed setUp failed =>
        have told := ((exit_failed parsed setUp failed).mp ended).1
        exact ⟨line, service, parsed, serviceOf_eq_ok_iff.mp setUp, .inl ⟨failure, failed, told⟩⟩
    | made line service picture parsed setUp made =>
        rw [ending_made parsed setUp made] at ended
        obtain ⟨error, refused⟩ := exit_one_iff_refused.mp ended
        exact ⟨line, service, parsed, serviceOf_eq_ok_iff.mp setUp,
          .inr ⟨picture, error, made, refused⟩⟩
  · rintro ⟨line, service, parsed, setsUp, ⟨failure, failed, told⟩ | ⟨picture, error, made, refused⟩⟩
    · exact (exit_failed parsed (serviceOf_eq_ok_iff.mpr setsUp) failed).mpr ⟨told, rfl⟩
    · rw [ending_made parsed (serviceOf_eq_ok_iff.mpr setsUp) made, refused]
      rfl

/-- A run ends with 0 only where the output holds the picture that rendering gave, under the configured
settings and with the backend that the command line names. However else it ends, nothing has been
written: every file is what it was, and nothing has come to be but on the way to the decoder's link.
It ends with 2 just where the configuration is wrong, before any tool is started, and with 1 just
where rendering fails as requests do or the output cannot be written. -/
theorem run_endings (homes : Path.Homes) (directory path : Path) (document : Option Bytes)
    (surroundings : Surroundings) (outputFault : Option SystemError) (tree : FileTree)
    (arguments : List String) :
    let configuration := Configuration.load (Configuration.defaults directory) path document
    let setting : Setting := { homes, configuration, surroundings, outputFault }
    let report := run setting tree arguments
    let after := report.activity.tree
    (report.ending = .exit 0 → ∃ line service picture place,
      parse arguments = .ok line ∧ setting.SetsUp line service ∧
      (rendering setting line service).result (start service tree) = .ok picture ∧
      report.written = some picture ∧ after.locate true line.output = .ok place ∧
      after.lookup place = some (.file (.picture picture)) ∧
      ∀ other content, other ≠ place →
        (after.lookup other = some (.file content) ↔ tree.lookup other = some (.file content))) ∧
    (report.ending ≠ .exit 0 → report.written = none ∧
      (∀ place content,
        after.lookup place = some (.file content) ↔ tree.lookup place = some (.file content)) ∧
      ∀ place, (∀ path, setting.OnWayToLink arguments path → after.locate false path ≠ .ok place) →
        after.lookup place = tree.lookup place) ∧
    (report.ending = .exit 2 ↔ ∃ line, parse arguments = .ok line ∧ setting.Misconfigured line) ∧
    (report.ending = .exit 2 → report.activity.calls = []) ∧
    (report.ending = .exit 1 ↔ ∃ line service,
      parse arguments = .ok line ∧ setting.SetsUp line service ∧
      let rendered := rendering setting line service
      ((∃ failure, rendered.result (start service tree) = .error failure ∧
          failure.isRequestFailure = true) ∨
        ∃ picture error, rendered.result (start service tree) = .ok picture ∧
          (writeOutput setting (rendered.left (start service tree)).tree line.output picture).error =
            some (.system error))) := by
  intro configuration setting report after
  refine ⟨run_done, ?_, exit_two_iff, calls_of_exit_two, exit_one_iff⟩
  intro undone
  obtain ⟨unwritten, grown⟩ := run_undone undone
  exact ⟨unwritten, fun place content => grown.file_iff, fun place => grown.lookup_eq⟩

/-- A run whose decoder writes to the standard output itself, as the document says. -/
theorem run_endings_written :
    ∃ (homes : Path.Homes) (document : Bytes) (surroundings : Surroundings) (tree : FileTree)
      (place : Location) (picture : EncodedPicture),
      let setting : Setting :=
        { homes, surroundings
          configuration := Configuration.load (Configuration.defaults (.ofText "/home"))
            (.ofText "/home/config.toml") (some document) }
      let report := run setting tree ["/a.jp2", "/b.png"]
      report.ending = .exit 0 ∧ report.written = some picture ∧
        report.activity.tree.locate true (.ofText "/b.png") = .ok place ∧
        report.activity.tree.lookup place = some (.file (.picture picture)) := by
  let homes : Path.Homes := ⟨"/home", fun _ => none⟩
  let text := "kakadu.path_to_stdout_symlink = '/dev/stdout'\n"
  let header := "<codestream><width>1</width><height>1</height></codestream>"
  let surroundings : Surroundings :=
    { workingDirectory := .ofText "/", headerTool := { output := Bytes.ofText header }
      decoderTool := { stdout := { bytes := Bytes.ofText "P5 1 1 255 a" } } }
  let tree : FileTree := ⟨[], [(["a.jp2"], .file)]⟩
  let arguments := ["/a.jp2", "/b.png"]
  let setting : Setting :=
    { homes, surroundings
      configuration := Configuration.load (Configuration.defaults (.ofText "/home"))
        (.ofText "/home/config.toml") (some (Bytes.ofText text)) }
  have runs : (do
      let document ← (Toml.ofText text).mapError fun _ => ()
      let configuration ← (Configuration.ofTable (Configuration.merged
        (Configuration.defaults (.ofText "/home")) document)).mapError fun _ => ()
      let settings ← (configuration.settings homes).mapError fun _ => ()
      let line ← (parse arguments).mapError fun _ => ()
      let service ← (Service.ofSettings { settings with
        backend := line.postProcessor.getD settings.backend }).mapError fun _ => ()
      let picture ← ((rendering setting line service).result (start service tree)).mapError fun _ => ()
      if ((rendering setting line service).left (start service tree)).tree = tree ∧
        line.output = .ofText "/b.png" then pure () else throw () : Except Unit Unit).isOk = true := by
    decide +kernel
  obtain ⟨_, runs⟩ := exists_eq_ok runs
  obtain ⟨document, parsed, runs⟩ := bind_eq_ok_iff.mp runs
  obtain ⟨configuration, accepted, runs⟩ := bind_eq_ok_iff.mp runs
  obtain ⟨settings, set, runs⟩ := bind_eq_ok_iff.mp runs
  obtain ⟨line, stated, runs⟩ := bind_eq_ok_iff.mp runs
  obtain ⟨service, offered, runs⟩ := bind_eq_ok_iff.mp runs
  obtain ⟨picture, made, runs⟩ := bind_eq_ok_iff.mp runs
  have stated := mapError_eq_ok_iff.mp stated
  have made := mapError_eq_ok_iff.mp made
  obtain ⟨kept, named⟩ : ((rendering setting line service).left (start service tree)).tree = tree ∧
      line.output = .ofText "/b.png" := by
    split at runs
    · assumption
    · cases runs
  have loaded : setting.configuration = .ok configuration :=
    Configuration.load_ofText (mapError_eq_ok_iff.mp parsed) (mapError_eq_ok_iff.mp accepted)
  have setUp : serviceOf setting line = .ok service :=
    serviceOf_eq_ok_iff.mpr ⟨configuration, settings, loaded, mapError_eq_ok_iff.mp set,
      mapError_eq_ok_iff.mp offered⟩
  have located : tree.locate true (.ofText "/b.png") = .ok ["b.png"] := by
    have path : Path.ofText "/b.png" = ⟨.slash, ["b.png"]⟩ := by decide +kernel
    rw [path]
    exact FileTree.walk_eq_ok_iff.mpr (.last (by decide) (by decide +kernel) trivial)
  have taken : (writeOutput setting tree (.ofText "/b.png") picture).error = none :=
    writeOutput_new rfl (by decide +kernel) located rfl
  have done : (run setting tree arguments).ending = .exit 0 := by
    rw [ending_made stated setUp made, kept, named, taken]
    rfl
  obtain ⟨written, -⟩ := run_endings homes (.ofText "/home") (.ofText "/home/config.toml")
    (some (Bytes.ofText text)) surroundings none tree arguments
  obtain ⟨line', _, picture, place, stated', -, -, told, leads, holds, -⟩ := written done
  obtain rfl := Except.ok.inj (stated.symm.trans stated')
  exact ⟨homes, Bytes.ofText text, surroundings, tree, place, picture, done, told, named ▸ leads, holds⟩

end CommandLine

end Jp2Render
