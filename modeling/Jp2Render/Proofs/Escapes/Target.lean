import Jp2Render.Proofs.Escapes.Raster

/-!
Targets that cannot be found. The size to scale to is computed from the raster that was decoded; a
ratio may be too large for a number, and so may a side. What is wrong with a target escapes, since
no stage has begun.
-/

namespace Jp2Render.Scaling

open Binary64 Arithmetic

def Exceeds (scale : Binary64) (source : Dimensions) : Prop :=
  (scale * ofInt source.width).isFinite = false ∨ (scale * ofInt source.height).isFinite = false

def reductionFactor (reduction : Int) : Binary64 := 1 / ofInt (2 ^ reduction.toNat)

/-- Scalings that have no target for a raster, decoded with the given reduction. -/
def HasNoTarget (source : Dimensions) (reduction : Int) : Scaling → Prop
  | .full => False
  | .forced _ _ => False
  | .fitWidth width => HasNoRatio (source.height * width) source.width
  | .fitHeight height => HasNoRatio (source.width * height) source.height
  | .fitInside width height =>
    HasNoRatio width source.width ∨ HasNoRatio height source.height ∨
      Exceeds (leastOf (ofIntRatio width source.width) (ofIntRatio height source.height)) source
  | .percent p => Exceeds (p / 100 / reductionFactor reduction) source

theorem fails_wholeLength {x : Binary64} : Fails (wholeLength x) ↔ x.isFinite = false := by
  refine (fails_bind fun _ _ => iff_false_intro (not_failsWith_pure _)).trans ?_
  rw [fails_nearest, or_false]

theorem finite_ratio {num den : Int} {real : Binary64} (done : ratio num den = .ok real) :
    real.isFinite = true := by
  unfold ratio at done
  split at done
  · cases done
  · simp only at done
    split at done
    · next finite => rw [← Except.ok.inj done, finite]
    · cases done

theorem fails_scaledBy {source : Dimensions} (inRange : source.InRange) (scale : Binary64) :
    Fails (scaledBy scale source) ↔ Exceeds scale source := by
  obtain ⟨wide, high⟩ := inRange
  rw [scaledBy, timesInteger_ok wide, ok_bind, timesInteger_ok high, ok_bind]
  refine (fails_bind fun _ _ => fails_bind fun _ _ =>
    iff_false_intro (not_failsWith_pure _)).trans (or_congr fails_wholeLength ?_)
  exact (or_iff_left not_false).trans fails_wholeLength

theorem scale_reduction {reduction : Nat} (known : (reduction : Int) ≤ Reduction.limit) :
    Reduction.scale reduction = .ok (reductionFactor reduction) ∧
      (reductionFactor reduction).isZero = false := by
  have few : reduction < 6 := by
    unfold Reduction.limit at known
    omega
  -- six reductions only, so all of their factors can be computed
  have factors : ∀ f < 6, (ofInt (2 ^ f)).isFinite = true ∧ (ofInt (2 ^ f)).isZero = false ∧
      (1 / ofInt (2 ^ f)).isZero = false := by decide +kernel
  obtain ⟨finite, divides, factor⟩ := factors reduction few
  have inside : ((2 : Int) ^ reduction).natAbs < integerRange := (isFinite_ofInt_iff _).mp finite
  refine ⟨?_, factor⟩
  rw [Reduction.scale, if_pos (Int.natCast_nonneg reduction), Int.toNat_natCast,
    Nat.one_shiftLeft, Int.natCast_pow, Int.cast_ofNat_Int, toReal_ofInt inside, ok_bind, quotient_ok divides, reductionFactor, Int.toNat_natCast]

theorem wholeLength_ratio {num den : Int} {real : Binary64} (done : ratio num den = .ok real) :
    ¬ Fails (wholeLength real) := by
  rw [fails_wholeLength, finite_ratio done]
  exact Bool.noConfusion

theorem fails_target {source : Dimensions} (inRange : source.InRange) {reduction : Nat}
    (known : (reduction : Int) ≤ Reduction.limit) (scaling : Scaling) :
    Fails (scaling.target source reduction) ↔ scaling.HasNoTarget source reduction := by
  cases scaling with
  | full => exact iff_false_intro (not_failsWith_ok _)
  | forced width height => exact iff_false_intro (not_failsWith_ok _)
  | fitWidth width =>
      rw [target, HasNoTarget]
      refine (fails_bind fun height done => iff_false_intro ?_).trans ?_
      · exact not_failsWith_bind (wholeLength_ratio done) fun _ => not_failsWith_pure _
      · rw [fails_ratio, or_false, HasNoRatio]
  | fitHeight height =>
      rw [target, HasNoTarget]
      refine (fails_bind fun width done => iff_false_intro ?_).trans ?_
      · exact not_failsWith_bind (wholeLength_ratio done) fun _ => not_failsWith_pure _
      · rw [fails_ratio, or_false, HasNoRatio]
  | fitInside width height =>
      have scaled : ∀ horizontal vertical, ratio width source.width = .ok horizontal →
          ratio height source.height = .ok vertical →
          (Fails (scaledBy (leastOf horizontal vertical) source) ↔
            Exceeds (leastOf (ofIntRatio width source.width) (ofIntRatio height source.height))
              source) := by
        intro horizontal vertical wide high
        rw [ratio_ok wide, ratio_ok high]
        exact fails_scaledBy inRange _
      rw [target, HasNoTarget]
      refine (fails_bind fun horizontal wide => fails_bind fun vertical high =>
        scaled horizontal vertical wide high).trans ?_
      rw [fails_ratio, fails_ratio, HasNoRatio, HasNoRatio]
  | percent p =>
      obtain ⟨factor, divides⟩ := scale_reduction known
      rw [target, HasNoTarget, factor, ok_bind, quotient_ok divides, ok_bind]
      exact fails_scaledBy inRange _

theorem wholeLength_positive {x : Binary64} {length : Int} (done : wholeLength x = .ok length) :
    1 ≤ length := by
  obtain ⟨whole, -, done⟩ := bind_eq_ok_iff.mp done
  rw [← pure_eq_ok_iff.mp done]
  exact Int.le_max_left 1 whole

theorem positive_scaledBy {scale : Binary64} {source target : Dimensions}
    (done : scaledBy scale source = .ok target) : target.IsPositive := by
  obtain ⟨_, -, done⟩ := bind_eq_ok_iff.mp done
  obtain ⟨_, -, done⟩ := bind_eq_ok_iff.mp done
  obtain ⟨width, wide, done⟩ := bind_eq_ok_iff.mp done
  obtain ⟨height, high, done⟩ := bind_eq_ok_iff.mp done
  rw [← pure_eq_ok_iff.mp done]
  exact ⟨wholeLength_positive wide, wholeLength_positive high⟩

theorem positive_target {scaling : Scaling} {source target : Dimensions} {reduction : Int}
    (positive : source.IsPositive) (done : scaling.target source reduction = .ok target) :
    target.IsPositive := by
  cases scaling with
  | full => rwa [← Except.ok.inj done]
  | forced width height =>
      rw [← Except.ok.inj done]
      exact ⟨Int.le_max_left 1 width, Int.le_max_left 1 height⟩
  | fitWidth width =>
      obtain ⟨_, -, done⟩ := bind_eq_ok_iff.mp done
      obtain ⟨height, high, done⟩ := bind_eq_ok_iff.mp done
      rw [← pure_eq_ok_iff.mp done]
      exact ⟨Int.le_max_left 1 width, wholeLength_positive high⟩
  | fitHeight height =>
      obtain ⟨_, -, done⟩ := bind_eq_ok_iff.mp done
      obtain ⟨width, wide, done⟩ := bind_eq_ok_iff.mp done
      rw [← pure_eq_ok_iff.mp done]
      exact ⟨wholeLength_positive wide, Int.le_max_left 1 height⟩
  | fitInside width height =>
      obtain ⟨_, -, done⟩ := bind_eq_ok_iff.mp done
      obtain ⟨_, -, done⟩ := bind_eq_ok_iff.mp done
      exact positive_scaledBy done
  | percent p =>
      obtain ⟨_, -, done⟩ := bind_eq_ok_iff.mp done
      obtain ⟨_, -, done⟩ := bind_eq_ok_iff.mp done
      exact positive_scaledBy done

end Jp2Render.Scaling
