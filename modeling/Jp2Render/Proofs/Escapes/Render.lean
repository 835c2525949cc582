import Jp2Render.CommandLine.Parse
import Jp2Render.Proofs.Escapes.Reporting

/-!
Requests that let a failure escape. Every failure of a request is meant to be told as one; this holds
but for the ways of derailing that are listed here, each of them after all the steps before it have
succeeded.
-/

namespace Jp2Render

namespace Service

variable (service : Service) (surroundings : Surroundings) (request : Request) (source : Source)
  (tree : FileTree)

def Measures (full : Dimensions) : Prop :=
  (service.probe.ask surroundings.workingDirectory source surroundings.headerTool).result = .ok full

def Plans (full : Dimensions) (plan : DecodePlan) : Prop :=
  service.Measures surroundings source full ∧
    service.decoder.plan surroundings.workingDirectory request full source = .ok plan

def Decodes (plan : DecodePlan) (raster : Raster) : Prop :=
  (∃ full, service.Plans surroundings request source full plan) ∧
    service.decoder.decoded surroundings source plan.region plan.reduction tree = .ok raster

/-- The ways in which serving a request derails. -/
inductive Derails : Prop
  | command (null : (headerCommand service.probe.binDirectory surroundings.workingDirectory
      source.path).any Text.holdsNull = true)
  | header (answers : surroundings.headerTool.Answers)
      (unmeasurable : Header.Unmeasurable surroundings.headerTool.output)
  | plan (full : Dimensions) (measured : service.Measures surroundings source full)
      (unplannable : request.Unplannable full)
  | raster (full : Dimensions) (plan : DecodePlan)
      (planned : service.Plans surroundings request source full plan)
      (overwhelmed : service.decoder.Overwhelmed surroundings plan.command tree)
  | target (plan : DecodePlan) (raster : Raster)
      (decoded : service.Decodes surroundings request source tree plan raster)
      (missing : request.size.scaling.HasNoTarget raster.dimensions plan.reduction)
  | stages (plan : DecodePlan) (raster : Raster) (target : Dimensions)
      (decoded : service.Decodes surroundings request source tree plan raster)
      (found : request.size.scaling.target raster.dimensions plan.reduction = .ok target)
      (overruns : service.postProcessor.kind.Overruns surroundings.libraries raster target request
        service.postProcessor.quality)

variable {service surroundings request source tree}

theorem made_of_measures {full : Dimensions} (measured : service.Measures surroundings source full) :
    service.made surroundings request source tree =
      (service.decoder.plan surroundings.workingDirectory request full source >>= fun plan =>
        service.decoder.decoded surroundings source plan.region plan.reduction tree >>= fun raster =>
          (service.postProcessor.process raster request surroundings.libraries).result.mapError .processing) := by
  rw [made, measured, mapError_ok, ok_bind]

theorem made_of_plans {full : Dimensions} {plan : DecodePlan}
    (planned : service.Plans surroundings request source full plan) :
    service.made surroundings request source tree =
      (service.decoder.decoded surroundings source plan.region plan.reduction tree >>= fun raster =>
        (service.postProcessor.process raster request surroundings.libraries).result.mapError .processing) := by
  rw [made_of_measures planned.1, planned.2, ok_bind]

theorem made_of_decodes {plan : DecodePlan} {raster : Raster}
    (decoded : service.Decodes surroundings request source tree plan raster) :
    service.made surroundings request source tree =
      (service.postProcessor.process raster request surroundings.libraries).result.mapError .processing := by
  obtain ⟨⟨full, planned⟩, decoded⟩ := decoded
  rw [made_of_plans planned, decoded, ok_bind]

theorem Decodes.known (isSet : service.decoder.IsSet)
    (decodable : source.format.outputs.isEmpty = false) {plan : DecodePlan} {raster : Raster}
    (decoded : service.Decodes surroundings request source tree plan raster) :
    raster.IsDecoded ∧ raster.reduction = plan.reduction ∧
      (plan.reduction : Int) ≤ Reduction.limit := by
  obtain ⟨⟨full, -, planned⟩, decoded⟩ := decoded
  have known := Decoder.plan_known isSet planned
  obtain ⟨-, -, made⟩ := Decoder.plan_eq_ok_iff.mp planned
  obtain ⟨isDecoded, reduced⟩ := Decoder.isDecoded_decoded decodable made decoded
  exact ⟨isDecoded, reduced, known⟩

theorem failsWith_processed (isSet : service.decoder.IsSet)
    (decodable : source.format.outputs.isEmpty = false) {plan : DecodePlan} {raster : Raster}
    (decoded : service.Decodes surroundings request source tree plan raster) :
    FailsWith Failure.Escapes
        ((service.postProcessor.process raster request surroundings.libraries).result.mapError .processing) ↔
      request.size.scaling.HasNoTarget raster.dimensions plan.reduction ∨
      ∃ target, request.size.scaling.target raster.dimensions plan.reduction = .ok target ∧
        service.postProcessor.kind.Overruns surroundings.libraries raster target request
          service.postProcessor.quality := by
  obtain ⟨isDecoded, reduced, known⟩ := decoded.known isSet decodable
  exact failsWith_mapError.trans (BackendKind.failsWith_process isDecoded reduced known)

theorem failsWith_made (isSet : service.decoder.IsSet)
    (decodable : source.format.outputs.isEmpty = false) :
    FailsWith Failure.Escapes (service.made surroundings request source tree) ↔
      service.Derails surroundings request source tree := by
  -- one bind is taken apart after the other; the values before it are what the next way is about
  constructor
  · intro failed
    rcases failsWith_bind.mp failed with failed | ⟨full, measured, failed⟩
    · rcases Probe.failsWith_ask.mp (failsWith_mapError.mp failed) with
        null | ⟨answers, unmeasurable⟩
      · exact .command null
      · exact .header answers unmeasurable
    have measured := mapError_eq_ok_iff.mp measured
    rcases failsWith_bind.mp failed with failed | ⟨plan, planned, failed⟩
    · have inRange := Probe.inRange_ask measured
      exact .plan full measured ((Decoder.failsWith_plan isSet inRange).mp failed)
    rcases failsWith_bind.mp failed with failed | ⟨raster, decoded, failed⟩
    · obtain ⟨-, -, made⟩ := Decoder.plan_eq_ok_iff.mp planned
      exact .raster full plan ⟨measured, planned⟩
        ((Decoder.failsWith_decoded decodable made).mp failed)
    have decoded : service.Decodes surroundings request source tree plan raster :=
      ⟨⟨full, measured, planned⟩, decoded⟩
    rcases (failsWith_processed isSet decodable decoded).mp failed with
      missing | ⟨target, found, overruns⟩
    · exact .target plan raster decoded missing
    · exact .stages plan raster target decoded found overruns
  · intro derails
    cases derails with
    | command null =>
        exact failsWith_bind.mpr (.inl (failsWith_mapError.mpr
          (Probe.failsWith_ask.mpr (.inl null))))
    | header answers unmeasurable =>
        exact failsWith_bind.mpr (.inl (failsWith_mapError.mpr
          (Probe.failsWith_ask.mpr (.inr ⟨answers, unmeasurable⟩))))
    | plan full measured unplannable =>
        rw [made_of_measures measured]
        have inRange := Probe.inRange_ask measured
        exact failsWith_bind.mpr (.inl ((Decoder.failsWith_plan isSet inRange).mpr unplannable))
    | raster full plan planned overwhelmed =>
        rw [made_of_plans planned]
        obtain ⟨-, -, made⟩ := Decoder.plan_eq_ok_iff.mp planned.2
        exact failsWith_bind.mpr (.inl ((Decoder.failsWith_decoded decodable made).mpr overwhelmed))
    | target plan raster decoded missing =>
        rw [made_of_decodes decoded]
        exact (failsWith_processed isSet decodable decoded).mpr (.inl missing)
    | stages plan raster target decoded found overruns =>
        rw [made_of_decodes decoded]
        exact (failsWith_processed isSet decodable decoded).mpr (.inr ⟨target, found, overruns⟩)

theorem checkFormats_reported :
    ¬ FailsWith (fun failure => failure.isRequestFailure = false) (checkFormats request source) := by
  intro failed
  unfold checkFormats at failed
  split at failed
  · have escaped := failsWith_error.mp failed
    exact Failure.not_escapes_unsupportedSource _ escaped
  · split at failed
    · exact not_failsWith_ok _ failed
    · have escaped := failsWith_error.mp failed
      exact Failure.not_escapes_unsupportedOutput _ escaped

theorem failsWith_ofRequest {α : Type} {outcome : Except Failure α} :
    FailsWith (fun failure => failure.isRequestFailure = false)
        (outcome.mapError Failure.ofRequest) ↔
      FailsWith Failure.Escapes outcome := failsWith_mapError

theorem failsWith_render {activity : Activity} (isSet : service.decoder.IsSet) :
    FailsWith (fun failure => failure.isRequestFailure = false)
        ((service.render surroundings request source).result activity) ↔
      request.format ∈ source.format.outputs ∧
        service.Derails surroundings request source activity.tree := by
  -- a format that is not offered is refused before a tool is run, and that is always told
  rw [result_render, failsWith_bind, ← checkFormats_eq_ok_iff]
  constructor
  · rintro (failed | ⟨_, offered, failed⟩)
    · exact absurd failed checkFormats_reported
    · have decodable : source.format.outputs.isEmpty = false :=
        List.isEmpty_eq_false_iff_exists_mem.mpr ⟨_, checkFormats_eq_ok_iff.mp offered⟩
      exact ⟨offered, (failsWith_made isSet decodable).mp (failsWith_ofRequest.mp failed)⟩
  · rintro ⟨offered, derails⟩
    have decodable : source.format.outputs.isEmpty = false :=
      List.isEmpty_eq_false_iff_exists_mem.mpr ⟨_, checkFormats_eq_ok_iff.mp offered⟩
    exact .inr ⟨(), offered, failsWith_ofRequest.mpr ((failsWith_made isSet decodable).mpr derails)⟩

/-- Whatever a configuration sets, and whatever the tools do: serving a request comes to a picture or
to a failure of the request, except where it derails. -/
theorem render_reported_iff {homes : Path.Homes} {configuration : Configuration}
    {settings : ServiceSettings} {service : Service}
    (configured : configuration.settings homes = .ok settings)
    (offered : ofSettings settings = .ok service) (surroundings : Surroundings) (request : Request)
    (source : Source) (activity : Activity) :
    (∀ failure, (service.render surroundings request source).result activity = .error failure →
        failure.isRequestFailure = true) ↔
      (request.format ∈ source.format.outputs →
        ¬ service.Derails surroundings request source activity.tree) := by
  have isSet := Configuration.isSet_decoder configured offered
  rw [← not_and, ← failsWith_render isSet, FailsWith]
  simp only [not_exists, not_and, Bool.not_eq_false]

def headerStating (side : String) : Bytes :=
  Bytes.ofText ("<x><codestream><width>" ++ side ++ "</width><height>" ++ side ++
    "</height></codestream></x>")

/-- A header tool that states both sides, and a decoder that delivers one gray pixel. -/
def toolsStating (side : String) : Surroundings where
  workingDirectory := .ofText "/"
  headerTool := { output := headerStating side }
  decoderTool := { stdout := { bytes := Bytes.ofText "P5 1 1 255 a" } }

/-- Serving a part of an image derails at a header that states sides of zero, and does not where sides
of sixteen are stated. -/
theorem render_reported_sixteen :
    ∃ (homes : Path.Homes) (configuration : Configuration) (settings : ServiceSettings)
      (service : Service) (request : Request) (source : Source) (tree : FileTree),
      configuration.settings homes = .ok settings ∧ ofSettings settings = .ok service ∧
      service.Derails (toolsStating "0") request source tree ∧
      ¬ service.Derails (toolsStating "16") request source tree := by
  let homes : Path.Homes := ⟨"/home", fun _ => none⟩
  let piped : Toml.Table :=
    [(Configuration.Area.decoding.name, .table [("path_to_stdout_symlink", .text stdoutDevice)])]
  let configuration : Configuration :=
    ⟨Configuration.merged (Configuration.defaults (.ofText "/home")) piped, by decide +kernel⟩
  let request : Request := { format := .png, region := .pixels ⟨0, 0, 10, 10⟩ }
  let source : Source := ⟨.ofText "/data/a.jp2", .jp2⟩
  let activity : Activity := { tree := ⟨[], []⟩ }
  have runs : (do
      let settings ← (configuration.settings homes).mapError fun _ => ()
      let service ← (ofSettings settings).mapError fun _ => ()
      let escapes (side : String) : Prop :=
        FailsWith (fun failure => failure.isRequestFailure = false)
          ((service.render (toolsStating side) request source).result activity)
      if escapes "0" ∧ ¬ escapes "16" then pure () else throw () : Except Unit Unit).isOk = true := by
    decide +kernel
  obtain ⟨_, runs⟩ := exists_eq_ok runs
  obtain ⟨settings, configured, runs⟩ := bind_eq_ok_iff.mp runs
  obtain ⟨service, offered, runs⟩ := bind_eq_ok_iff.mp runs
  have configured := mapError_eq_ok_iff.mp configured
  have offered := mapError_eq_ok_iff.mp offered
  have reported (side : String) :=
    render_reported_iff configured offered (toolsStating side) request source activity
  refine ⟨homes, configuration, settings, service, request, source, activity.tree, configured,
    offered, ?_⟩
  simp only at runs
  split at runs
  · next outcomes =>
    obtain ⟨⟨failure, failed, escaped⟩, fine⟩ := outcomes
    constructor
    · by_contra served
      rw [(reported "0").mpr (fun _ => served) failure failed] at escaped
      cases escaped
    · refine (reported "16").mp (fun failure failed => ?_) (by decide)
      by_contra escaped
      exact fine ⟨failure, failed, Bool.eq_false_of_not_eq_true escaped⟩
  · cases runs

/-- Part of an image is asked for whose header states sides of zero. -/
theorem render_bare_header :
    ¬ ∀ (homes : Path.Homes) (configuration : Configuration) (settings : ServiceSettings)
      (service : Service) (answers : CommandLine.Answers) (output : Path) (request : Request)
      (surroundings : Surroundings) (source : Source) (activity : Activity) (failure : Failure),
      configuration.settings homes = .ok settings → ofSettings settings = .ok service →
      CommandLine.requestOf answers output = .ok request →
      (service.render surroundings request source).result activity = .error failure →
      failure.isRequestFailure = true := by
  intro reported
  let homes : Path.Homes := ⟨"/home", fun _ => none⟩
  let configuration : Configuration := ⟨Configuration.defaults (.ofText "/home"), by decide +kernel⟩
  let answers : CommandLine.Answers := { region := "0,0,10,10" }
  let source : Source := ⟨.ofText "/data/a.jp2", .jp2⟩
  let activity : Activity := { tree := ⟨[], []⟩ }
  have escapes : (do
      let settings ← (configuration.settings homes).mapError fun _ => ()
      let service ← (ofSettings settings).mapError fun _ => ()
      let request ← (CommandLine.requestOf answers (.ofText "/data/b.jpg")).mapError fun _ => ()
      let escapes := FailsWith (fun failure => failure.isRequestFailure = false)
        ((service.render (toolsStating "0") request source).result activity)
      if escapes then pure () else throw () : Except Unit Unit).isOk = true := by
    decide +kernel
  obtain ⟨_, escapes⟩ := exists_eq_ok escapes
  obtain ⟨settings, configured, escapes⟩ := bind_eq_ok_iff.mp escapes
  obtain ⟨service, offered, escapes⟩ := bind_eq_ok_iff.mp escapes
  obtain ⟨request, stated, escapes⟩ := bind_eq_ok_iff.mp escapes
  simp only at escapes
  split at escapes
  · next outcome =>
    obtain ⟨failure, failed, escaped⟩ := outcome
    have told := reported homes configuration settings service answers (.ofText "/data/b.jpg")
      request (toolsStating "0") source activity failure (mapError_eq_ok_iff.mp configured)
      (mapError_eq_ok_iff.mp offered) (mapError_eq_ok_iff.mp stated) failed
    rw [told] at escaped
    cases escaped
  · cases escapes

end Service

end Jp2Render
