import Jp2Render.Picture.Grid

/-!
Grids that are changed sample by sample, or place by place. Changing samples and moving them commute,
so that a grid which is mirrored in one range of samples is the same as in another.
-/

namespace Jp2Render.Grid

variable {g h : Grid} {f k : Int → Int}

theorem eq_of_samples (width : g.width = h.width) (height : g.height = h.height)
    (bands : g.bands = h.bands) (samples : g.samples = h.samples) : g = h := by
  cases g
  cases h
  simp only at width height bands samples
  subst width height bands samples
  rfl

theorem mapSamples_mapSamples (g : Grid) (f k : Int → Int) :
    (g.mapSamples f).mapSamples k = g.mapSamples fun v => k (f v) :=
  eq_of_samples rfl rfl rfl (Array.map_map ..)

theorem mapSamples_congr (same : ∀ v ∈ g.samples, f v = k v) : g.mapSamples f = g.mapSamples k :=
  eq_of_samples rfl rfl rfl (Array.map_congr_left same)

theorem mapSamples_of_fixed (fixed : ∀ v ∈ g.samples, f v = v) : g.mapSamples f = g := by
  refine (mapSamples_congr fixed).trans ?_
  exact eq_of_samples rfl rfl rfl (Array.map_id' ..)

theorem index_lt {x y band : Nat} (left : x < g.width) (top : y < g.height)
    (inside : band < g.bands) : g.index x y band < g.samples.size := by
  have place : y * g.width + x < g.width * g.height := by
    calc y * g.width + x < (y + 1) * g.width := by rw [Nat.succ_mul]; omega
      _ ≤ g.height * g.width := Nat.mul_le_mul_right _ top
      _ = g.width * g.height := Nat.mul_comm ..
  rw [size_samples, index]
  calc (y * g.width + x) * g.bands + band < (y * g.width + x + 1) * g.bands := by
        rw [Nat.succ_mul]; omega
    _ ≤ g.width * g.height * g.bands := Nat.mul_le_mul_right _ place

theorem sample_eq_getElem {x y band : Nat} (left : x < g.width) (top : y < g.height)
    (inside : band < g.bands) (held : g.index x y band < g.samples.size) :
    g.sample x y band = g.samples[g.index x y band] := by
  simp [sample, left, top, inside, Array.getD_eq_getD_getElem?, held]

theorem sample_mapSamples {x y band : Nat} (left : x < g.width) (top : y < g.height)
    (inside : band < g.bands) : (g.mapSamples f).sample x y band = f (g.sample x y band) := by
  have held : (g.mapSamples f).index x y band < (g.mapSamples f).samples.size :=
    index_lt left top inside
  rw [sample_eq_getElem left top inside (index_lt left top inside)]
  refine (sample_eq_getElem (g := g.mapSamples f) left top inside held).trans ?_
  exact Array.getElem_map ..

theorem place_lt {width height bands i : Nat} (inside : i < width * height * bands) :
    i / bands % width < width ∧ i / bands / width < height ∧ i % bands < bands := by
  have some : 0 < width * height * bands := Nat.zero_lt_of_lt inside
  have banded : 0 < bands := Nat.pos_of_mul_pos_left some
  have wide : 0 < width := Nat.pos_of_mul_pos_right (Nat.pos_of_mul_pos_right some)
  have place : i / bands < width * height := Nat.div_lt_of_lt_mul (by rwa [Nat.mul_comm] at inside)
  exact ⟨Nat.mod_lt _ wide, Nat.div_lt_of_lt_mul place, Nat.mod_lt _ banded⟩

theorem sample_ofFn {width height bands x y band : Nat} (f : Nat → Nat → Nat → Int)
    (left : x < width) (top : y < height) (inside : band < bands) :
    (ofFn width height bands f).sample x y band = f x y band := by
  have held : (ofFn width height bands f).index x y band <
      (ofFn width height bands f).samples.size := index_lt left top inside
  have place : ((y * width + x) * bands + band) / bands = y * width + x := by
    rw [Nat.mul_comm _ bands, Nat.mul_add_div (Nat.zero_lt_of_lt inside), Nat.div_eq_of_lt inside,
      Nat.add_zero]
  have banded : ((y * width + x) * bands + band) % bands = band := by
    rw [Nat.mul_add_mod', Nat.mod_eq_of_lt inside]
  have row : (y * width + x) / width = y := by
    rw [Nat.mul_comm y, Nat.mul_add_div (Nat.zero_lt_of_lt left), Nat.div_eq_of_lt left, Nat.add_zero]
  have column : (y * width + x) % width = x := by rw [Nat.mul_add_mod', Nat.mod_eq_of_lt left]
  refine (sample_eq_getElem left top inside held).trans ?_
  simp only [ofFn, index, Array.getElem_ofFn, place, banded, row, column]

theorem samples_ofSamples {width height bands : Nat} {samples : Array Int}
    (full : samples.size = width * height * bands) :
    (ofSamples width height bands samples).samples = samples := by
  refine Array.ext ?_ fun i held inside => ?_
  · rw [size_samples, full]
    rfl
  · have place : (i / bands / width * width + i / bands % width) * bands + i % bands = i := by
      rw [Nat.div_add_mod', Nat.div_add_mod']
    refine (Array.getElem_ofFn ..).trans ?_
    simp [place, inside]

theorem samples_mirrored {i : Nat} (inside : i < g.mirrored.samples.size) :
    g.mirrored.samples[i] = g.sample (g.width - 1 - i / g.bands % g.width)
      (i / g.bands / g.width) (i % g.bands) := by
  unfold mirrored ofFn
  exact Array.getElem_ofFn ..

theorem size_mirrored (g : Grid) : g.mirrored.samples.size = g.width * g.height * g.bands :=
  g.mirrored.size_samples

theorem mirrored_mapSamples (g : Grid) (f : Int → Int) :
    (g.mapSamples f).mirrored = g.mirrored.mapSamples f := by
  refine eq_of_samples rfl rfl rfl (Array.ext ?_ fun i before after => ?_)
  · rw [size_mirrored, (g.mirrored.mapSamples f).size_samples]
    rfl
  · have inside : i < g.width * g.height * g.bands := by
      rw [(g.mapSamples f).size_mirrored] at before
      exact before
    obtain ⟨left, top, banded⟩ := place_lt inside
    have held : i < g.mirrored.samples.size := by rwa [size_mirrored]
    calc (g.mapSamples f).mirrored.samples[i]
        = (g.mapSamples f).sample (g.width - 1 - i / g.bands % g.width) (i / g.bands / g.width)
            (i % g.bands) := samples_mirrored before
      _ = f (g.sample (g.width - 1 - i / g.bands % g.width) (i / g.bands / g.width)
            (i % g.bands)) := sample_mapSamples (by omega) top banded
      _ = f g.mirrored.samples[i] := by rw [samples_mirrored held]
      _ = (g.mirrored.mapSamples f).samples[i] := (Array.getElem_map ..).symm

end Jp2Render.Grid
