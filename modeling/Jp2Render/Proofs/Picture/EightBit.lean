import Jp2Render.Proofs.Escapes.Raster
import Jp2Render.Proofs.Picture.Grid

/-!
Pictures of eight bits. Whatever the decoder delivers, and however finely, is brought into bytes before
it becomes a raster: samples are scaled from their maxval to the range of a byte, plain numbers are
cut off at its ends, and inks and positions in a palette give way to the light that they leave.
-/

namespace Jp2Render

def IsByte (v : Int) : Prop := 0 ≤ v ∧ v ≤ 255

theorem isByte_zero : IsByte 0 := ⟨le_rfl, by decide⟩

theorem isByte_full : IsByte 255 := ⟨by decide, le_rfl⟩

theorem isByte_toNat (b : UInt8) : IsByte b.toNat := by
  have := b.toNat_lt
  exact ⟨by omega, by omega⟩

def Grid.HoldsBytes (g : Grid) : Prop := ∀ v ∈ g.samples, IsByte v

/-- A picture of bytes, as many at each place as its mode has bands. -/
structure Picture.IsEightBit (picture : Picture) : Prop where
  bands : picture.grid.bands = picture.mode.bands
  bytes : picture.grid.HoldsBytes

namespace Grid

variable {g : Grid}

theorem holdsBytes_ofFn {width height bands : Nat} {f : Nat → Nat → Nat → Int}
    (bytes : ∀ x y band, IsByte (f x y band)) : (ofFn width height bands f).HoldsBytes := by
  intro v found
  obtain ⟨i, rfl⟩ := Array.mem_ofFn.mp found
  exact bytes _ _ _

theorem HoldsBytes.sample (bytes : g.HoldsBytes) (x y band : Nat) : IsByte (g.sample x y band) := by
  by_cases inside : x < g.width ∧ y < g.height ∧ band < g.bands
  · obtain ⟨left, top, banded⟩ := inside
    rw [sample_eq_getElem left top banded (index_lt left top banded)]
    exact bytes _ (Array.getElem_mem _)
  · have outside : g.sample x y band = 0 := by
      unfold Grid.sample
      rw [if_neg]
      simpa [and_assoc] using inside
    rw [outside]
    exact isByte_zero

theorem HoldsBytes.mirrored (bytes : g.HoldsBytes) : g.mirrored.HoldsBytes :=
  holdsBytes_ofFn fun _ _ _ => bytes.sample _ _ _

theorem holdsBytes_ofSamples {samples : List Int} (bytes : ∀ v ∈ samples, IsByte v)
    (width height bands : Nat) : (ofSamples width height bands samples.toArray).HoldsBytes := by
  refine holdsBytes_ofFn fun x y band => ?_
  rw [Array.getD_eq_getD_getElem?, List.getElem?_toArray]
  cases found : samples[(y * width + x) * bands + band]? with
  | none => exact isByte_zero
  | some v => exact bytes v (List.mem_of_getElem? found)

end Grid

def PictureMode.IsNumeric (mode : PictureMode) : Prop := mode = .integer ∨ mode = .word ∨ mode = .real

namespace Picture

theorem isByte_clip (sample : Int) : IsByte (clip sample) := by
  unfold clip IsByte
  omega

theorem isByte_identity (position : Int) (band : Nat) :
    IsByte (Palette.identity.part position band) := by
  unfold Palette.part Palette.identity
  rw [Array.getD_eq_getD_getElem?, Array.getElem?_ofFn]
  split
  · simp only [Option.getD_some, IsByte]
    omega
  · exact isByte_zero

theorem isByte_colour {mode : PictureMode} {bands : Nat → Int}
    (bytes : mode.IsNumeric ∨ ∀ band, IsByte (bands band)) (band : Nat) :
    IsByte (colour mode .identity bands band) := by
  rcases bytes with (rfl | rfl | rfl) | bytes
  · exact isByte_clip _
  · exact isByte_clip _
  · exact isByte_clip _
  · cases mode with
    | palette =>
        rw [colour]
        exact isByte_identity (bands 0) band
    | cmyk => exact isByte_clip _
    | integer => exact isByte_clip _
    | word => exact isByte_clip _
    | real => exact isByte_clip _
    | _ => exact bytes _

theorem isEightBit_toRgb {picture : Picture} (palette : picture.palette = .identity)
    (bytes : picture.mode.IsNumeric ∨ picture.grid.HoldsBytes) (other : picture.mode ≠ .rgb) :
    picture.toRgb.IsEightBit := by
  rw [toRgb, if_neg other]
  refine ⟨rfl, Grid.holdsBytes_ofFn fun x y band => ?_⟩
  rw [palette]
  exact isByte_colour (bytes.imp_right fun bytes => bytes.sample x y) band

end Picture

namespace Netpbm

theorem scaleSample_within (range maxval sample : Nat) :
    0 ≤ scaleSample range maxval sample ∧ scaleSample range maxval sample ≤ range := by
  have positive : (Binary64.ofRatio false sample maxval * Binary64.ofInt range).isNegative = false :=
    Binary64.isNegative_mul (Binary64.isNegative_ofRatio false sample maxval)
      (Binary64.isNegative_ofInt (Int.natCast_nonneg range))
  unfold scaleSample
  generalize Binary64.ofRatio false sample maxval * Binary64.ofInt range = x at positive ⊢
  cases rounded : x.round with
  | ok value =>
      have least := Binary64.round_nonneg positive rounded
      rw [cutOff]
      omega
  | error fault =>
      rw [cutOff]
      omega

theorem isByte_scaleSample (maxval sample : Nat) : IsByte (scaleSample 255 maxval sample) :=
  scaleSample_within 255 maxval sample

def ReadsBytes (outcome : Except NetpbmFault (List Int)) : Prop :=
  ∀ values, outcome = .ok values → ∀ v ∈ values, IsByte v

theorem readsBytes_plainBits (count : Nat) (bytes : Bytes) : ReadsBytes (plainBits count bytes) := by
  intro values done v found
  unfold plainBits at done
  simp only at done
  split at done
  · cases done
  · split at done
    · cases done
    · rw [← pure_eq_ok_iff.mp done, List.mem_map] at found
      obtain ⟨b, -, rfl⟩ := found
      split
      · exact isByte_zero
      · exact isByte_full

theorem isByte_plainSample {maxval : Nat} {word : Bytes} {sample : Int}
    (done : plainSample 255 maxval word = .ok sample) : IsByte sample := by
  unfold plainSample at done
  split at done
  · cases done
  · obtain ⟨value, -, done⟩ := bind_eq_ok_iff.mp done
    by_cases negative : value < 0
    · rw [if_pos negative] at done
      cases done
    · rw [if_neg negative] at done
      by_cases large : (maxval : Int) < value
      · rw [if_pos large] at done
        cases done
      · rw [if_neg large] at done
        rw [← pure_eq_ok_iff.mp done]
        exact isByte_scaleSample _ _

theorem readsBytes_plainSamples (maxval count : Nat) (words : List Bytes) :
    ReadsBytes (plainSamples 255 maxval count words) := by
  induction count generalizing words with
  | zero =>
      intro values done
      rw [← Except.ok.inj done]
      exact nofun
  | succ count ih =>
      intro values done v found
      cases words with
      | nil => cases done
      | cons word words =>
          obtain ⟨sample, first, done⟩ := bind_eq_ok_iff.mp done
          obtain ⟨samples, rest, done⟩ := bind_eq_ok_iff.mp done
          rw [← pure_eq_ok_iff.mp done] at found
          rcases List.mem_cons.mp found with rfl | found
          · exact isByte_plainSample first
          · exact ih words samples rest v found

theorem isByte_bitRows {width rowBytes rows : Nat} {bytes : Bytes} {v : Int}
    (found : v ∈ bitRows width rowBytes rows bytes) : IsByte v := by
  induction rows generalizing bytes with
  | zero => cases found
  | succ rows ih =>
      rcases List.mem_append.mp found with found | found
      · obtain ⟨b, -, found⟩ := List.mem_flatMap.mp (List.mem_of_mem_take found)
        obtain ⟨i, -, rfl⟩ := List.mem_map.mp found
        split
        · exact isByte_zero
        · exact isByte_full
      · exact ih found

def SampleCoding.IsFitted : SampleCoding → Prop
  | .words => False
  | .reals _ => False
  | _ => True

theorem readsBytes_samples {mode : PictureMode} {coding : SampleCoding} (fitted : coding.IsFitted)
    (byteRange : mode ≠ .integer) (width height : Nat) (bytes : Bytes) :
    ReadsBytes (samples mode coding width height bytes) := by
  have range : fullRange mode = 255 := if_neg byteRange
  intro values done v found
  unfold samples at done
  simp only [range] at done
  cases coding with
  | plainBits => exact readsBytes_plainBits _ _ values done v found
  | plain maxval =>
      obtain ⟨_, -, done⟩ := bind_eq_ok_iff.mp done
      exact readsBytes_plainSamples _ _ _ values done v found
  | packedBits =>
      obtain ⟨rows, -, done⟩ := bind_eq_ok_iff.mp done
      rw [← pure_eq_ok_iff.mp done] at found
      exact isByte_bitRows found
  | bytes =>
      obtain ⟨rows, -, done⟩ := bind_eq_ok_iff.mp done
      rw [← pure_eq_ok_iff.mp done, List.mem_map] at found
      obtain ⟨b, -, rfl⟩ := found
      exact isByte_toNat b
  -- two bytes are read for numbers only, and reals likewise
  | words => cases fitted
  | reals lowFirst => cases fitted
  | scaled maxval =>
      simp only at done
      split at done
      · obtain ⟨kept, -, done⟩ := bind_eq_ok_iff.mp done
        rw [← pure_eq_ok_iff.mp done, List.mem_map] at found
        obtain ⟨b, -, rfl⟩ := found
        exact isByte_scaleSample _ _
      · obtain ⟨kept, -, done⟩ := bind_eq_ok_iff.mp done
        rw [← pure_eq_ok_iff.mp done, List.mem_map] at found
        obtain ⟨n, -, rfl⟩ := found
        exact isByte_scaleSample _ _

def IsFitting (measured : PictureMode × SampleCoding) : Prop :=
  measured.1.IsNumeric ∨ measured.1 ≠ .integer ∧ measured.2.IsFitted

theorem isFitting_codingFor {mode : PictureMode} (light : mode ≠ .integer) (plain : Bool)
    (maxval : Nat) : IsFitting (codingFor mode plain maxval) := by
  unfold codingFor
  simp only
  by_cases wide : (decide (mode = .gray) && decide (255 < maxval)) = true
  · -- gray that is finer than a byte becomes plain numbers, however it is coded
    rw [wide]
    exact .inl (.inl rfl)
  · refine .inr ⟨?_, ?_⟩
    · rw [if_neg wide]
      exact light
    · rw [Bool.not_eq_true] at wide
      rw [wide]
      simp only [Bool.false_and, Bool.false_eq_true, if_false]
      split
      · trivial
      · split <;> trivial

theorem isFitting_measure {mode : PictureMode} (light : mode ≠ .integer) {plain : Bool}
    {bytes rest : Bytes} {measured : PictureMode × SampleCoding}
    (done : measure mode plain bytes = .ok (measured, rest)) : IsFitting measured := by
  unfold measure at done
  split at done
  · obtain ⟨rfl, -⟩ := Prod.mk.inj (Except.ok.inj done)
    refine .inr ⟨light, ?_⟩
    cases plain <;> trivial
  · obtain ⟨⟨scale, rest⟩, -, done⟩ := bind_eq_ok_iff.mp done
    simp only at done
    split at done
    · obtain ⟨rfl, -⟩ := Prod.mk.inj (pure_eq_ok_iff.mp done)
      exact .inl (.inr (.inr rfl))
    · cases done
  · obtain ⟨⟨maxval, rest⟩, -, done⟩ := bind_eq_ok_iff.mp done
    obtain ⟨rfl, -⟩ := Prod.mk.inj (pure_eq_ok_iff.mp done)
    exact isFitting_codingFor light _ _

theorem formatOf?_light {magic : Bytes} {mode : PictureMode} {plain : Bool}
    (known : formatOf? magic = some (mode, plain)) : mode ≠ .integer := by
  have light : ∀ entry ∈ formats, entry.2.1 ≠ .integer := by decide
  obtain ⟨word, -, found⟩ := Option.bind_eq_some_iff.mp known
  obtain ⟨before, after, split, -⟩ := List.lookup_eq_some_iff.mp found
  exact light (word, mode, plain) (split ▸ List.mem_append_cons_self)

theorem isFitting_header {bytes rest : Bytes} {shape : Header}
    (done : header bytes = .ok (shape, rest)) : IsFitting (shape.mode, shape.coding) := by
  unfold header at done
  simp only at done
  split at done
  · cases done
  · next mode plain known =>
    obtain ⟨width, -, done⟩ := bind_eq_ok_iff.mp done
    obtain ⟨height, -, done⟩ := bind_eq_ok_iff.mp done
    obtain ⟨measured, measuring, done⟩ := bind_eq_ok_iff.mp done
    split at done
    · cases done
    · have same := congrArg Prod.fst (pure_eq_ok_iff.mp done)
      simp only at same
      rw [← same]
      exact isFitting_measure (formatOf?_light known) measuring

theorem holdsBytes_read {bytes : Bytes} {picture : Picture} (done : read bytes = .ok picture) :
    picture.palette = .identity ∧ picture.grid.bands = picture.mode.bands ∧
      (picture.mode.IsNumeric ∨ picture.grid.HoldsBytes) := by
  unfold read at done
  simp only at done
  obtain ⟨⟨shape, rest⟩, shaped, done⟩ := bind_eq_ok_iff.mp done
  have fitting := isFitting_header shaped
  split at done
  · cases done
  · split at done
    · cases done
    · obtain ⟨samples, sampled, done⟩ := bind_eq_ok_iff.mp done
      rw [← pure_eq_ok_iff.mp done]
      refine ⟨by simp only, rfl, fitting.imp_right ?_⟩
      rintro ⟨light, fitted⟩
      exact Grid.holdsBytes_ofSamples (readsBytes_samples fitted light _ _ _ samples sampled) _ _ _

end Netpbm

theorem Raster.isEightBit_ofBytes {bytes : Bytes} {reduction : Int} {raster : Raster}
    (done : ofBytes bytes reduction = .ok raster) : raster.picture.IsEightBit := by
  obtain ⟨picture, reads, rfl⟩ := ofBytes_eq_ok_iff.mp done
  obtain ⟨palette, bands, bytes⟩ := Netpbm.holdsBytes_read (reads_willing.mp reads)
  show (standardized picture).IsEightBit
  unfold standardized
  split
  · next standard =>
    have standard := isStandard_iff.mp standard
    refine ⟨bands, bytes.resolve_left ?_⟩
    rintro (mode | mode | mode) <;> simp [mode] at standard
  · next other =>
    exact Picture.isEightBit_toRgb palette bytes fun rgb => other (isStandard_iff.mpr (.inl rgb))

end Jp2Render
