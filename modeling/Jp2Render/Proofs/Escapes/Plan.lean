import Jp2Render.Configuration.Settings
import Jp2Render.Proofs.Escapes.Header

/-!
Plans that cannot be made. A plan is arithmetic on the full size and on the numbers of the request:
fractions of the full size for the decoder's argument, the extent of the region in whole pixels, and
the ratio of the requested size to it. Each of these may have no result. The command that a plan comes
to is always one, whatever the configuration.
-/

namespace Jp2Render

open Binary64 Arithmetic

namespace Region

def inPixels (full : Dimensions) : Region → Option Rectangle
  | .full => none
  | .pixels r => some r
  | .percent r => some
    { x := r.x / 100 * ofInt full.width
      y := r.y / 100 * ofInt full.height
      width := r.width / 100 * ofInt full.width
      height := r.height / 100 * ofInt full.height }

theorem inPixels_eq_none {full : Dimensions} {region : Region} :
    region.inPixels full = none ↔ region = .full := by
  cases region <;> simp [inPixels]

theorem fails_visibleLength {length offset : Binary64} {side : Int}
    (inside : side.natAbs < integerRange) :
    Fails (visibleLength length offset side) ↔
      (leastOf length (ofInt side - offset)).isFinite = false := by
  rw [visibleLength, toReal_ofInt inside, ok_bind]
  refine (fails_bind fun _ _ => iff_false_intro (not_failsWith_pure _)).trans ?_
  rw [fails_nearest, or_false]

variable {full : Dimensions} (inRange : full.InRange)
include inRange

theorem rectangle?_eq (region : Region) :
    region.rectangle? full = .ok (region.inPixels full) := by
  obtain ⟨wide, high⟩ := inRange
  cases region with
  | full => rfl
  | pixels r => rfl
  | percent r =>
      rw [rectangle?, toPixels]
      simp only [percentOf, timesInteger_ok wide, timesInteger_ok high, ok_bind]
      rfl

theorem fails_argument (region : Region) :
    Fails (region.argument full) ↔ region ≠ .full ∧ (full.width = 0 ∨ full.height = 0) := by
  rw [argument, rectangle?_eq inRange, ok_bind]
  obtain ⟨wide, high⟩ := inRange
  cases part : region.inPixels full with
  | none => simp [inPixels_eq_none.mp part]
  | some r =>
      have selects : region ≠ .full := by
        intro all
        rw [inPixels_eq_none.mpr all] at part
        cases part
      refine (fails_bind fun _ _ => fails_bind fun _ _ => fails_bind fun _ _ => fails_bind fun _ _ =>
        iff_false_intro (not_failsWith_pure _)).trans ?_
      rw [fails_overInteger wide, fails_overInteger high, fails_overInteger wide,
        fails_overInteger high, or_false, ← or_assoc, or_self]
      exact (and_iff_right selects).symm

end Region

/-- A rectangle that does not end within an image: what is visible of one of its sides is no number
of pixels. -/
def Rectangle.Boundless (r : Rectangle) (full : Dimensions) : Prop :=
  (leastOf r.width (ofInt full.width - r.x)).isFinite = false ∨
    (leastOf r.height (ofInt full.height - r.y)).isFinite = false

theorem Region.fails_extent {full : Dimensions} (inRange : full.InRange) (region : Region) :
    Fails (region.extent full) ↔ ∃ r, region.inPixels full = some r ∧ r.Boundless full := by
  rw [extent, rectangle?_eq inRange, ok_bind]
  obtain ⟨wide, high⟩ := inRange
  cases region.inPixels full with
  | none => exact iff_of_false (not_failsWith_pure _) nofun
  | some r =>
      refine (fails_bind fun _ _ => fails_bind fun _ _ =>
        iff_false_intro (not_failsWith_pure _)).trans ?_
      rw [fails_visibleLength wide, fails_visibleLength high, or_false]
      constructor
      · exact fun boundless => ⟨r, rfl, boundless⟩
      · rintro ⟨_, ⟨⟩, boundless⟩
        exact boundless

/-- Integers without a ratio: they are no divisor at all, or one too small for the dividend. -/
def Arithmetic.HasNoRatio (num den : Int) : Prop :=
  den = 0 ∨ integerRange * den.natAbs ≤ num.natAbs

def Scaling.HasNoScale (area : Dimensions) : Scaling → Prop
  | .fitWidth width => HasNoRatio width area.width
  | .fitHeight height => HasNoRatio height area.height
  | .fitInside width height => HasNoRatio width area.width ∨ HasNoRatio height area.height
  | _ => False

theorem Scaling.fails_linearScale? (scaling : Scaling) (area : Dimensions) :
    Fails (scaling.linearScale? area) ↔ scaling.HasNoScale area := by
  cases scaling with
  | fitWidth width =>
      refine (fails_bind fun _ _ => iff_false_intro (not_failsWith_pure _)).trans ?_
      rw [fails_ratio, or_false]
      rfl
  | fitHeight height =>
      refine (fails_bind fun _ _ => iff_false_intro (not_failsWith_pure _)).trans ?_
      rw [fails_ratio, or_false]
      rfl
  | fitInside width height =>
      refine (fails_bind fun _ _ => fails_bind fun _ _ =>
        iff_false_intro (not_failsWith_pure _)).trans ?_
      rw [fails_ratio, fails_ratio, or_false]
      rfl
  | _ => exact iff_false_intro (not_failsWith_ok _)

theorem Scaling.fails_reduction (scaling : Scaling) (area : Dimensions) (bound : Int) :
    Fails (scaling.reduction area bound) ↔ scaling.HasNoScale area := by
  rw [← scaling.fails_linearScale? area]
  refine (fails_bind fun scale _ => ?_).trans (or_iff_left not_false)
  cases scale with
  | none => exact iff_false_intro (not_failsWith_pure _)
  | some scale => exact iff_false_intro (not_failsWith_pure _)

theorem Reduction.halvings_le (scale : Binary64) (budget : Nat) (threshold : Binary64) :
    halvings scale budget threshold ≤ budget := by
  induction budget generalizing threshold with
  | zero => exact Nat.le_refl 0
  | succ budget ih =>
      rw [halvings]
      split
      · exact Nat.succ_le_succ (ih _)
      · exact Nat.zero_le _

theorem Scaling.reduction_le {scaling : Scaling} {area : Dimensions} {bound : Int} {reduction : Nat}
    (planned : scaling.reduction area bound = .ok reduction) : reduction ≤ bound.toNat := by
  obtain ⟨scale, -, planned⟩ := bind_eq_ok_iff.mp planned
  cases scale with
  | none =>
      rw [← pure_eq_ok_iff.mp planned]
      exact Nat.zero_le _
  | some scale =>
      rw [← pure_eq_ok_iff.mp planned]
      exact Reduction.halvings_le _ _ _

/-- Requests that cannot be planned for an image of the given size: a part of an image without area;
a part that does not end within the image, where its size counts; and a size without a linear scale
to the part. -/
inductive Request.Unplannable (request : Request) (full : Dimensions) : Prop
  | empty (selects : request.region ≠ .full) (bare : full.width = 0 ∨ full.height = 0)
  | boundless (r : Rectangle) (scales : request.size.scaling ≠ .full)
      (selects : request.region.inPixels full = some r) (boundless : r.Boundless full)
  | scaleless (area : Dimensions) (selects : request.region.extent full = .ok area)
      (scaleless : request.size.scaling.HasNoScale area)

namespace Decoder

/-- Decoders whose settings every command can be made with. -/
structure IsSet (decoder : Decoder) : Prop where
  bound : decoder.reductionBound ≤ Reduction.limit
  destination : decoder.destination.isEmpty = false

theorem reductionFor_full {decoder : Decoder} {request : Request} (full : Dimensions)
    (keeps : request.size.scaling = .full) : decoder.reductionFor request full = .ok 0 := by
  rw [reductionFor, keeps]

theorem reductionFor_scaled {decoder : Decoder} {request : Request} (full : Dimensions)
    (scales : request.size.scaling ≠ .full) : decoder.reductionFor request full =
      (request.region.extent full >>= fun area =>
        request.size.scaling.reduction area decoder.reductionBound) := by
  rw [reductionFor]
  split
  · next keeps => exact absurd keeps scales
  · rfl

theorem fails_reductionFor {decoder : Decoder} {request : Request} {full : Dimensions}
    (inRange : full.InRange) : Fails (decoder.reductionFor request full) ↔
      (request.size.scaling ≠ .full ∧
        ∃ r, request.region.inPixels full = some r ∧ r.Boundless full) ∨
      ∃ area, request.region.extent full = .ok area ∧ request.size.scaling.HasNoScale area := by
  by_cases keeps : request.size.scaling = .full
  · rw [reductionFor_full full keeps, keeps]
    refine iff_of_false (not_failsWith_ok 0) ?_
    rintro (⟨scales, -⟩ | ⟨area, -, impossible⟩)
    · exact scales rfl
    · exact impossible
  · rw [reductionFor_scaled full keeps]
    refine failsWith_bind.trans (or_congr ?_ ?_)
    · exact (Region.fails_extent inRange _).trans (and_iff_right keeps).symm
    · exact exists_congr fun area => and_congr_right fun _ => Scaling.fails_reduction _ _ _

theorem reductionFor_le {decoder : Decoder} {request : Request} {full : Dimensions}
    {reduction : Nat} (planned : decoder.reductionFor request full = .ok reduction) :
    reduction ≤ decoder.reductionBound.toNat := by
  by_cases keeps : request.size.scaling = .full
  · rw [reductionFor_full full keeps] at planned
    rw [← Except.ok.inj planned]
    exact Nat.zero_le _
  · rw [reductionFor_scaled full keeps] at planned
    obtain ⟨area, -, planned⟩ := bind_eq_ok_iff.mp planned
    exact Scaling.reduction_le planned

theorem command_ok {decoder : Decoder} (isSet : decoder.IsSet) (workingDirectory : Path)
    (source : Source) (region : Option String) {reduction : Nat}
    (known : (reduction : Int) ≤ Reduction.limit) :
    ∃ command, decoder.command workingDirectory source region reduction = .ok command := by
  have inside : (0 : Int) ≤ reduction ∧ (reduction : Int) ≤ Reduction.limit :=
    ⟨Int.natCast_nonneg reduction, known⟩
  rw [command, CommandDraft.withReduction, if_pos inside, ok_bind]
  simp only [CommandDraft.arguments, CommandDraft.destination?, CommandDraft.withOutput,
    CommandDraft.withRegion, CommandDraft.withInput, Option.filter, isSet.destination]
  exact ⟨_, rfl⟩

theorem reductionFor_known {decoder : Decoder} (isSet : decoder.IsSet) {request : Request}
    {full : Dimensions} {reduction : Nat} (planned : decoder.reductionFor request full = .ok reduction) :
    (reduction : Int) ≤ Reduction.limit := by
  have within := reductionFor_le planned
  have bound := isSet.bound
  unfold Reduction.limit at bound ⊢
  omega

theorem failsWith_arithmetic {α : Type} {outcome : Except ArithmeticFault α} :
    FailsWith Failure.Escapes (outcome.mapError .arithmetic) ↔ Fails outcome :=
  failsWith_mapError.trans (failsWith_of_all Failure.escapes_arithmetic)

theorem failsWith_plan {decoder : Decoder} (isSet : decoder.IsSet) {workingDirectory : Path}
    {request : Request} {full : Dimensions} {source : Source} (inRange : full.InRange) :
    FailsWith Failure.Escapes (decoder.plan workingDirectory request full source) ↔
      request.Unplannable full := by
  unfold plan
  constructor
  · intro failed
    rcases failsWith_bind.mp failed with failed | ⟨region, -, failed⟩
    · obtain ⟨selects, bare⟩ :=
        (Region.fails_argument inRange _).mp (failsWith_arithmetic.mp failed)
      exact .empty selects bare
    · rcases failsWith_bind.mp failed with failed | ⟨reduction, reduced, failed⟩
      · rcases (fails_reductionFor inRange).mp (failsWith_arithmetic.mp failed) with
          ⟨scales, r, selects, boundless⟩ | ⟨area, selects, scaleless⟩
        · exact .boundless r scales selects boundless
        · exact .scaleless area selects scaleless
      · have known := reductionFor_known isSet (mapError_eq_ok_iff.mp reduced)
        obtain ⟨command, made⟩ := command_ok isSet workingDirectory source region known
        rw [made] at failed
        exact absurd failed (not_failsWith_pure _)
  · intro unplannable
    by_cases failed : Fails (request.region.argument full)
    · exact failsWith_bind.mpr (.inl (failsWith_arithmetic.mpr failed))
    · obtain ⟨region, argued⟩ := exists_ok_of_not_fails failed
      refine failsWith_bind.mpr (.inr ⟨region, mapError_eq_ok_iff.mpr argued,
        failsWith_bind.mpr (.inl (failsWith_arithmetic.mpr ((fails_reductionFor inRange).mpr ?_)))⟩)
      cases unplannable with
      | empty selects bare =>
          exact absurd ((Region.fails_argument inRange _).mpr ⟨selects, bare⟩) failed
      | boundless r scales selects boundless => exact .inl ⟨scales, r, selects, boundless⟩
      | scaleless area selects scaleless => exact .inr ⟨area, selects, scaleless⟩

theorem plan_eq_ok_iff {decoder : Decoder} {workingDirectory : Path} {request : Request}
    {full : Dimensions} {source : Source} {plan : DecodePlan} :
    decoder.plan workingDirectory request full source = .ok plan ↔
      request.region.argument full = .ok plan.region ∧
        decoder.reductionFor request full = .ok plan.reduction ∧
        decoder.command workingDirectory source plan.region plan.reduction = .ok plan.command := by
  constructor
  · intro planned
    obtain ⟨region, argued, planned⟩ := bind_eq_ok_iff.mp planned
    obtain ⟨reduction, reduced, planned⟩ := bind_eq_ok_iff.mp planned
    obtain ⟨command, made, planned⟩ := bind_eq_ok_iff.mp planned
    rw [← pure_eq_ok_iff.mp planned]
    exact ⟨mapError_eq_ok_iff.mp argued, mapError_eq_ok_iff.mp reduced, mapError_eq_ok_iff.mp made⟩
  · rintro ⟨argued, reduced, made⟩
    rw [Decoder.plan, argued, reduced]
    simp only [Except.mapError, ok_bind, made]
    rfl

theorem plan_known {decoder : Decoder} (isSet : decoder.IsSet) {workingDirectory : Path}
    {request : Request} {full : Dimensions} {source : Source} {plan : DecodePlan}
    (planned : decoder.plan workingDirectory request full source = .ok plan) :
    (plan.reduction : Int) ≤ Reduction.limit :=
  reductionFor_known isSet (plan_eq_ok_iff.mp planned).2.1

end Decoder

namespace Configuration

open Toml

theorem reductionBound_le (configuration : Configuration) :
    configuration.reductionBound ≤ Reduction.limit := by
  have kept := (List.append_eq_nil_iff.mp
    (List.append_eq_nil_iff.mp configuration.accepted).1).2
  unfold reductionBound wholeEntry
  split
  · next n entry =>
    unfold entry? areaTable? at entry
    split at entry
    · next entries area =>
      unfold decodingProblems at kept
      rw [area] at kept
      have bounded := (List.append_eq_nil_iff.mp kept).2
      rw [Option.bind_some] at entry
      rw [entry] at bounded
      split at bounded
      · cases bounded
      · next inside =>
        simp only [isOutside, counted?, Option.any_some, Bool.or_eq_true, decide_eq_true_eq] at inside
        unfold Reduction.limit
        omega
    · cases entry
  · decide

theorem stdoutDestination_nonempty {homes : Path.Homes} {configuration : Configuration}
    {destination : String} (named : configuration.stdoutDestination homes = .ok destination) :
    destination.isEmpty = false := by
  obtain ⟨path, -, named⟩ := bind_eq_ok_iff.mp named
  rw [← pure_eq_ok_iff.mp named]
  split
  · decide
  · next some => exact Bool.eq_false_iff.mpr some

theorem isSet_decoder {homes : Path.Homes} {configuration : Configuration}
    {settings : ServiceSettings} {service : Service}
    (configured : configuration.settings homes = .ok settings)
    (offered : Service.ofSettings settings = .ok service) : service.decoder.IsSet := by
  rw [Configuration.settings, bind_eq_ok_iff] at configured
  obtain ⟨binDirectory, -, configured⟩ := configured
  obtain ⟨destination, named, configured⟩ := bind_eq_ok_iff.mp configured
  obtain ⟨timeout, -, configured⟩ := bind_eq_ok_iff.mp configured
  obtain ⟨postProcessor, -, offered⟩ := bind_eq_ok_iff.mp offered
  rw [← pure_eq_ok_iff.mp offered, ← pure_eq_ok_iff.mp configured]
  exact ⟨reductionBound_le configuration, stdoutDestination_nonempty (mapError_eq_ok_iff.mp named)⟩

end Configuration

end Jp2Render
