import Jp2Render.Dimensions

/-!
Samples in rows and columns. Each place holds one sample per band; places outside hold zeros. A grid
is made by giving the sample at each place, so that its dimensions are known without its samples.
-/

namespace Jp2Render

structure Grid where
  width : Nat
  height : Nat
  bands : Nat
  samples : Array Int
  size_samples : samples.size = width * height * bands
deriving DecidableEq, Repr

namespace Grid

def index (g : Grid) (x y band : Nat) : Nat := (y * g.width + x) * g.bands + band

def sample (g : Grid) (x y band : Nat) : Int :=
  if x < g.width && y < g.height && band < g.bands then g.samples.getD (g.index x y band) 0 else 0

def ofFn (width height bands : Nat) (f : Nat → Nat → Nat → Int) : Grid :=
  { width, height, bands
    samples := Array.ofFn fun i : Fin (width * height * bands) =>
      let place := i.val / bands
      f (place % width) (place / width) (i.val % bands)
    size_samples := Array.size_ofFn }

def ofSamples (width height bands : Nat) (samples : Array Int) : Grid :=
  ofFn width height bands fun x y band => samples.getD ((y * width + x) * bands + band) 0

def mapSamples (g : Grid) (f : Int → Int) : Grid :=
  { g with
    samples := g.samples.map f
    size_samples := by simp [g.size_samples] }

def merge (g : Grid) (f : (Nat → Int) → Int) : Grid :=
  ofFn g.width g.height 1 fun x y _ => f (g.sample x y)

def spread (g : Grid) (bands : Nat) (f : (Nat → Int) → Nat → Int) : Grid :=
  ofFn g.width g.height bands fun x y band => f (g.sample x y) band

def mirrored (g : Grid) : Grid :=
  ofFn g.width g.height g.bands fun x y band => g.sample (g.width - 1 - x) y band

def dimensions (g : Grid) : Dimensions := ⟨g.width, g.height⟩

def extremes (g : Grid) : Int × Int :=
  match g.samples[0]? with
  | none => (0, 0)
  | some first => g.samples.foldl (fun (low, high) s => (min low s, max high s)) (first, first)

@[simp] theorem dimensions_ofFn (w h b : Nat) (f : Nat → Nat → Nat → Int) :
    (ofFn w h b f).dimensions = ⟨w, h⟩ := rfl

@[simp] theorem dimensions_mapSamples (g : Grid) (f : Int → Int) :
    (g.mapSamples f).dimensions = g.dimensions := rfl

@[simp] theorem dimensions_mirrored (g : Grid) : g.mirrored.dimensions = g.dimensions := rfl

end Grid

end Jp2Render
