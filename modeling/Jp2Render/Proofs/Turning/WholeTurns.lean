import Jp2Render.Proofs.Backend.Interchange
import Jp2Render.Proofs.Binary64.Range
import Jp2Render.Proofs.Binary64.Values

/-!
Whole turns. The angle of a rotation without whole turns is the exact remainder of its degrees, rounded
once. Degrees that are whole turns apart have one remainder, so both backends make the same of them; and
where nothing remains, no backend turns at all.
-/

namespace Jp2Render

namespace Rotation

open Binary64

def remainingUnits (units : Int) : Nat := (units % fullTurnUnits).toNat

theorem remainingUnits_add_turns (units turns : Int) :
    remainingUnits (units + fullTurnUnits * turns) = remainingUnits units := by
  rw [remainingUnits, Int.add_mul_emod_self_left, remainingUnits]

theorem remainingUnits_natCast (units : Nat) : remainingUnits units = units % fullTurnUnits := by
  rw [remainingUnits, ← Int.natCast_emod, Int.toNat_natCast]

theorem remainingUnits_neg {units : Nat} (some : units % fullTurnUnits ≠ 0) :
    remainingUnits (-(units : Int)) = fullTurnUnits - units % fullTurnUnits := by
  have short := Nat.mod_lt units fullTurnUnits_pos
  have parts : -(units : Int) = (fullTurnUnits - units % fullTurnUnits : Nat) +
      fullTurnUnits * (-(units / fullTurnUnits : Nat) - 1) := by
    have whole : (units : Int) = (fullTurnUnits * (units / fullTurnUnits) + units % fullTurnUnits : Nat) := by
      rw [Nat.div_add_mod]
    rw [whole, Nat.cast_sub (Nat.le_of_lt short)]
    push_cast
    ring
  rw [parts, remainingUnits_add_turns, remainingUnits_natCast, Nat.mod_eq_of_lt (by omega)]

theorem withinOneTurn_eq_remaining {negative : Bool} {units : Nat}
    (number : (finite negative units).Rounded) :
    withinOneTurn (.finite negative units) =
      .finite false (roundUnits (remainingUnits (signedUnits negative units)) 1) := by
  have short := Nat.mod_lt units fullTurnUnits_pos
  have kept : roundUnits (units % fullTurnUnits) 1 = units % fullTurnUnits := by
    have representable : Representable (units % fullTurnUnits) :=
      number.representable.mod (representable_integer (by decide))
    simpa using roundUnits_mul representable Nat.one_pos
  rw [withinOneTurn_finite]
  by_cases none : units % fullTurnUnits = 0
  · have gone : remainingUnits (signedUnits negative units) = 0 := by
      have divides : (fullTurnUnits : Int) ∣ signedUnits negative units := by
        have whole := Int.natCast_dvd_natCast.mpr (Nat.dvd_of_mod_eq_zero none)
        cases negative with
        | false => exact whole
        | true => exact (Int.dvd_neg).mpr whole
      rw [remainingUnits, Int.emod_eq_zero_of_dvd divides, Int.toNat_zero]
    rw [if_pos none, gone, roundUnits_zero]
  · rw [if_neg none]
    -- only the sum with a full turn can need rounding
    cases negative with
    | false => rw [if_pos rfl, signedUnits_false, remainingUnits_natCast, kept]
    | true =>
        rw [if_neg (by decide), (below_add_fullTurn short).1, signedUnits, if_pos rfl,
          remainingUnits_neg none]

theorem withinOneTurn_range {x : Binary64} (finite : x.isFinite = true) (number : x.Rounded) :
    (withinOneTurn x).isFinite = true ∧ 0 ≤ (withinOneTurn x).toRat ∧ (withinOneTurn x).toRat ≤ 360 := by
  have one := unitsPerOne_pos_rat
  obtain ⟨negative, units, rfl⟩ := exists_finite finite
  rcases withinOneTurn_cases (.finite negative units) with nan | ⟨rest, within, turned⟩
  · rw [withinOneTurn_eq_remaining number] at nan
    cases nan
  · rw [turned, toRat_finite, signed_false, div_le_iff₀ one]
    refine ⟨rfl, units_nonneg rest, ?_⟩
    rw [fullTurnUnits] at within
    exact_mod_cast within

theorem withinOneTurn_eq_of_turns {x y : Binary64} (finite : x.isFinite = true)
    (finite' : y.isFinite = true) (number : x.Rounded) (number' : y.Rounded) {turns : ℤ}
    (apart : x.toRat - y.toRat = 360 * turns) : withinOneTurn x = withinOneTurn y := by
  have one := unitsPerOne_pos_rat.ne'
  obtain ⟨negative, units, rfl⟩ := exists_finite finite
  obtain ⟨negative', units', rfl⟩ := exists_finite finite'
  have whole : signedUnits negative units =
      signedUnits negative' units' + fullTurnUnits * turns := by
    rw [toRat_finite_eq_signedUnits, toRat_finite_eq_signedUnits, ← sub_div, div_eq_iff one,
      sub_eq_iff_eq_add'] at apart
    rw [fullTurnUnits]
    have exact : (signedUnits negative units : ℚ) =
        signedUnits negative' units' + 360 * unitsPerOne * turns := by linarith
    exact_mod_cast exact
  rw [withinOneTurn_eq_remaining number, withinOneTurn_eq_remaining number', whole,
    remainingUnits_add_turns]

theorem withinOneTurn_of_turns {x : Binary64} (finite : x.isFinite = true) (number : x.Rounded)
    {turns : ℤ} (whole : x.toRat = 360 * turns) : withinOneTurn x = .finite false 0 := by
  have zero : (Binary64.finite false 0).toRat = 0 := by simp [toRat_finite, signed_zero]
  rw [withinOneTurn_eq_of_turns finite rfl number (rounded_zero false) (by rw [zero, sub_zero, whole]),
    withinOneTurn_of_lt fullTurnUnits_pos]

end Rotation

/-- Reports that differ in no more than their first record, which says what was asked for. -/
def ProcessingReport.Alike (report report' : ProcessingReport) : Prop :=
  report.result = report'.result ∧ report.journal.tail = report'.journal.tail ∧
    report.closes = report'.closes ∧ report.releases = report'.releases

theorem Backend.process_alike {Handle : Type} {backend : Backend Handle} {rotation rotation' : Rotation}
    (same : backend.rotate rotation = backend.rotate rotation') (raster : Raster) (request : Request)
    (quality : Int) :
    (backend.process raster { request with rotation } quality).Alike
      (backend.process raster { request with rotation := rotation' } quality) := by
  have finished : ∀ target opened,
      backend.afterOpening raster target { request with rotation } quality opened =
        backend.afterOpening raster target { request with rotation := rotation' } quality opened := by
    intro target opened
    cases opened with
    | error fault => rfl
    | ok handle => simp only [afterOpening, finish, transform, same]
  unfold process
  cases sized : request.size.scaling.target raster.dimensions raster.reduction with
  | error fault => exact ⟨rfl, rfl, rfl, rfl⟩
  | ok target =>
      simp only [finished]
      exact ⟨rfl, rfl, rfl, rfl⟩

namespace Rotation

open Binary64

variable {rotation rotation' : Rotation}

theorem rasterBackend_rotate_eq (libraries : Libraries) (mirror : rotation.mirror = rotation'.mirror)
    (same : rotation.normalized = rotation'.normalized) :
    (rasterBackend libraries).rotate rotation = (rasterBackend libraries).rotate rotation' := by
  funext handle
  show RasterBackend.rotate _ _ _ = RasterBackend.rotate _ _ _
  rw [RasterBackend.rotate, mirror, same, RasterBackend.rotate]

theorem graphBackend_rotate_eq (libraries : Libraries) (mirror : rotation.mirror = rotation'.mirror)
    (same : rotation.normalized = rotation'.normalized) :
    (graphBackend libraries).rotate rotation = (graphBackend libraries).rotate rotation' := by
  funext graph
  show RenderGraph.rotate _ _ = RenderGraph.rotate _ _
  rw [RenderGraph.rotate, mirror, same, RenderGraph.rotate]

theorem rasterBackend_rotate_unturned (libraries : Libraries)
    (none : rotation.normalized.isZero = true) (held : HeldPicture) :
    RasterBackend.rotate libraries rotation held =
      if rotation.mirror then (RasterBackend.mirrored libraries held).mapError (⟨·, held⟩)
      else .ok held := by
  unfold RasterBackend.rotate
  cases rotation.mirror with
  | false => simp only [RasterBackend.turn_upright _ none, mapError_ok, Bool.false_eq_true, if_false]
  | true =>
      rw [if_pos rfl, if_pos rfl]
      cases RasterBackend.mirrored libraries held with
      | error fault => rfl
      | ok mirrored => simp only [RasterBackend.turn_upright _ none, mapError_ok]

theorem graphBackend_rotate_unturned (none : rotation.normalized.isZero = true) (graph : RenderGraph) :
    RenderGraph.rotate rotation graph =
      .ok (if rotation.mirror then graph.andThen .mirror graph.dimensions else graph) := by
  simp only [RenderGraph.rotate, RenderGraph.turn_upright none, mapError_ok]

/-- Degrees that are whole turns apart leave one angle, between none and a full turn, and each backend
processes every raster alike for both. Where the degrees are whole turns, no backend turns anything. -/
theorem whole_turns_make_no_difference {rotation rotation' : Rotation}
    (mirror : rotation.mirror = rotation'.mirror)
    (finite : rotation.degrees.isFinite = true) (number : rotation.degrees.Rounded)
    (finite' : rotation'.degrees.isFinite = true) (number' : rotation'.degrees.Rounded)
    {turns : ℤ} (apart : rotation.degrees.toRat - rotation'.degrees.toRat = 360 * turns) :
    rotation.normalized = rotation'.normalized ∧
      (rotation.normalized.isFinite = true ∧ 0 ≤ rotation.normalized.toRat ∧
        rotation.normalized.toRat ≤ 360) ∧
      (∀ (kind : BackendKind) (libraries : Libraries) (raster : Raster) (request : Request)
          (quality : Int),
        (kind.process raster { request with rotation } quality libraries).Alike
          (kind.process raster { request with rotation := rotation' } quality libraries)) ∧
      ((∃ whole : ℤ, rotation.degrees.toRat = 360 * whole) →
        (∀ libraries held, RasterBackend.rotate libraries rotation held =
          if rotation.mirror then (RasterBackend.mirrored libraries held).mapError (⟨·, held⟩)
          else .ok held) ∧
        ∀ graph, RenderGraph.rotate rotation graph =
          .ok (if rotation.mirror then graph.andThen .mirror graph.dimensions else graph)) := by
  have same : rotation.normalized = rotation'.normalized :=
    withinOneTurn_eq_of_turns finite finite' number number' apart
  refine ⟨same, withinOneTurn_range finite number, fun kind libraries raster request quality => ?_, ?_⟩
  · cases kind with
    | raster => exact Backend.process_alike (rasterBackend_rotate_eq libraries mirror same) _ _ _
    | graph => exact Backend.process_alike (graphBackend_rotate_eq libraries mirror same) _ _ _
  · rintro ⟨whole, turned⟩
    have none : rotation.normalized.isZero = true := by
      rw [normalized, withinOneTurn_of_turns finite number turned]
      rfl
    exact ⟨fun libraries => rasterBackend_rotate_unturned libraries none,
      graphBackend_rotate_unturned none⟩

theorem toRat_quarters {quarter : ℕ} (whole : unitsPerOne = 4 * quarter) (negative : Bool)
    (count : ℕ) : (finite negative (count * quarter)).toRat = signed negative (count / 4) := by
  have some : quarter ≠ 0 := by
    rintro rfl
    exact absurd whole unitsPerOne_pos.ne'
  have value : ((count * quarter : ℕ) : ℚ) / (4 * quarter : ℕ) = count / 4 := by
    push_cast
    field_simp
  rw [toRat_finite, whole, value]

theorem rounded_quarters (negative : Bool) {count : ℕ} (small : count < 2 ^ 53) :
    (finite negative (count * 2 ^ 1072)).Rounded := by
  have inside : count * 2 ^ 1072 < overflowUnits := by
    rw [← Nat.shiftLeft_eq]
    exact shiftLeft_lt_one_shiftLeft small (by decide)
  rw [← ofUnits_finite inside]
  exact .ofUnits ⟨count, 1072, small, rfl⟩

/-- A quarter of a degree to the left is 719.75 degrees to the right, both 359.75; and two turns to the
left are none. -/
theorem whole_turns_make_no_difference_quarter_degree :
    let left : Rotation := ⟨.finite true (1 * 2 ^ 1072), true⟩
    let right : Rotation := ⟨.finite false (2879 * 2 ^ 1072), true⟩
    let twice : Rotation := ⟨.finite true (2880 * 2 ^ 1072), false⟩
    (left.degrees.toRat - right.degrees.toRat = 360 * (-2 : ℤ) ∧ left.normalized = right.normalized ∧
      right.normalized = .finite false (1439 * 2 ^ 1072)) ∧
    twice.degrees.toRat = 360 * (-2 : ℤ) ∧ ∀ graph, RenderGraph.rotate twice graph = .ok graph := by
  intro left right twice
  have apart : left.degrees.toRat - right.degrees.toRat = 360 * (-2 : ℤ) := by
    rw [toRat_quarters unitsPerOne_eq_quarters, toRat_quarters unitsPerOne_eq_quarters]
    norm_num [signed]
  have whole : twice.degrees.toRat = 360 * (-2 : ℤ) := by
    rw [toRat_quarters unitsPerOne_eq_quarters]
    norm_num [signed]
  have still : twice.degrees.toRat - twice.degrees.toRat = 360 * (0 : ℤ) := by simp
  have same := whole_turns_make_no_difference (show left.mirror = right.mirror from rfl) rfl
    (rounded_quarters true (by decide)) rfl (rounded_quarters false (by decide)) apart
  have none := whole_turns_make_no_difference (show twice.mirror = twice.mirror from rfl) rfl
    (rounded_quarters true (by decide)) rfl (rounded_quarters true (by decide)) still
  refine ⟨⟨apart, same.1, by decide +kernel⟩, whole, (none.2.2.2 ⟨-2, whole⟩).2⟩

end Rotation

end Jp2Render
