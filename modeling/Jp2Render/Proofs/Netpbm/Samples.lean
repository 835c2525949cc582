import Jp2Render.Proofs.Netpbm.Files

/-!
The samples of Netpbm files in gray or in colour. One byte holds a sample, or two do with the high one
first. Gray of more than eight bits is read into sixteen bits and all else into eight, and a sample is
scaled unless the range that it is read into is that of its file.
-/

namespace Jp2Render.Netpbm

variable {content : Content} {bytes : Bytes}

theorem rowsOf_append {data : Bytes} {rowBytes rows : ℕ} (length : data.length = rowBytes * rows)
    (trailing : Bytes) : rowsOf rowBytes rows (data ++ trailing) = .ok data := by
  simp [rowsOf, List.take_left' length, length]

theorem enough_append {data : Bytes} {count : ℕ} (length : data.length = count) (trailing : Bytes) :
    enough count (data ++ trailing) = .ok data := by
  simp [enough, List.take_left' length, length]

def wordBytes (samples : List ℕ) : Bytes := samples.flatMap fun s => [.ofNat (s / 256), .ofNat (s % 256)]

theorem length_wordBytes (samples : List ℕ) : (wordBytes samples).length = 2 * samples.length := by
  induction samples with
  | nil => rfl
  | cons s rest ih =>
      rw [wordBytes] at ih ⊢
      rw [List.flatMap_cons, List.length_append, ih, List.length_cons]
      simp only [List.length_cons, List.length_nil]
      omega

theorem wordsOf_wordBytes {samples : List ℕ} (bounded : ∀ s ∈ samples, s < 65536) :
    wordsOf (wordBytes samples) = samples := by
  induction samples with
  | nil => rfl
  | cons s rest ih =>
      have small := bounded s List.mem_cons_self
      have others := ih fun t member => bounded t (List.mem_cons_of_mem _ member)
      have high : s / 256 % 256 = s / 256 := Nat.mod_eq_of_lt (by omega)
      rw [wordBytes] at others ⊢
      rw [List.flatMap_cons, List.cons_append, List.singleton_append, wordsOf, others]
      simp only [UInt8.toNat_ofNat', List.cons.injEq, and_true]
      omega

theorem map_toNat_ofNat {samples : List ℕ} (bounded : ∀ s ∈ samples, s < 256) (f : ℕ → ℤ) :
    (samples.map UInt8.ofNat).map (fun b => f b.toNat) = samples.map f := by
  rw [List.map_map]
  refine List.map_congr_left fun s member => ?_
  exact congrArg f (UInt8.toNat_ofNat_of_lt' (bounded s member))

namespace Content

/-- Gray of more than eight bits is kept as plain numbers. -/
def IsDeep (content : Content) : Prop := content.colour = false ∧ 255 < content.maxval

instance (content : Content) : Decidable content.IsDeep := inferInstanceAs (Decidable (_ ∧ _))

def range (content : Content) : ℕ := if content.IsDeep then 65535 else 255

theorem range_deep (deep : content.IsDeep) : content.range = 65535 := if_pos deep

theorem range_flat (flat : ¬ content.IsDeep) : content.range = 255 := if_neg flat

/-- What a sample is read as: itself where the range is that of the file, and else scaled to it. -/
def level (content : Content) (s : ℕ) : ℤ :=
  if content.maxval = content.range then s else scaleSample content.range content.maxval s

theorem encoded_bytes (small : content.maxval < 256) :
    content.encoded = content.samples.map UInt8.ofNat := by
  simp only [encoded, small, if_true]
  exact List.map_eq_flatMap.symm

theorem encoded_words (large : ¬ content.maxval < 256) :
    content.encoded = wordBytes content.samples := by
  simp only [encoded, large, if_false]
  rfl

theorem coding_deep (deep : content.IsDeep) :
    content.coding = (.integer, if content.maxval = 65535 then .words else .scaled content.maxval) := by
  obtain ⟨gray, fine⟩ := deep
  have other : content.maxval ≠ 255 := Nat.ne_of_gt fine
  simp [coding, codingFor, mode, gray, fine, other]

theorem coding_flat (flat : ¬ content.IsDeep) :
    content.coding = (content.mode, if content.maxval = 255 then .bytes else .scaled content.maxval) := by
  unfold IsDeep at flat
  unfold coding codingFor mode
  cases colour : content.colour <;> simp_all

theorem level_scaled (other : content.maxval ≠ content.range) :
    content.level = scaleSample content.range content.maxval := by
  funext s
  rw [level, if_neg other]

theorem level_same (same : content.maxval = content.range) : content.level = Int.ofNat := by
  funext s
  rw [level, if_pos same]
  rfl

theorem samples_deep (proper : content.IsProper) (deep : content.IsDeep) (trailing : Bytes) :
    Netpbm.samples content.coding.1 content.coding.2 content.width content.height
      (content.encoded ++ trailing) = .ok (content.samples.map content.level) := by
  have range := range_deep deep
  have large : ¬ content.maxval < 256 := Nat.not_lt.mpr deep.2
  have length : (wordBytes content.samples).length = 2 * (content.width * content.height) := by
    rw [length_wordBytes, proper.length, mode, deep.1]
    simp [PictureMode.bands]
  have words : wordsOf (wordBytes content.samples) = content.samples :=
    wordsOf_wordBytes fun s member => (proper.bounded s member).trans_lt proper.most
  rw [coding_deep deep, encoded_words large]
  by_cases same : content.maxval = 65535
  · have rows : (wordBytes content.samples).length = 2 * content.width * content.height := by
      rw [length, Nat.mul_assoc]
    rw [level_same (same.trans range.symm)]
    simp [Netpbm.samples, same, PictureMode.bands, rowsOf_append rows, words]
  · rw [level_scaled (by rw [range]; exact same), range]
    simp [Netpbm.samples, same, large, PictureMode.bands, fullRange, enough_append length, words]

theorem samples_flat (proper : content.IsProper) (flat : ¬ content.IsDeep) (trailing : Bytes) :
    Netpbm.samples content.coding.1 content.coding.2 content.width content.height
      (content.encoded ++ trailing) = .ok (content.samples.map content.level) := by
  have range := range_flat flat
  have light : content.mode ≠ .integer := by
    unfold mode
    cases content.colour <;> decide
  have full : fullRange content.mode = 255 := if_neg light
  have length : content.samples.length = content.width * content.mode.bands * content.height := by
    rw [proper.length, Nat.mul_right_comm]
  rw [coding_flat flat]
  -- bytes, scaled or not, or pairs of bytes, which are always scaled
  by_cases small : content.maxval < 256
  · have inside : ∀ s ∈ content.samples, s < 256 := fun s member =>
      (proper.bounded s member).trans_lt small
    have count : (content.samples.map UInt8.ofNat).length =
        content.width * content.mode.bands * content.height := by rw [List.length_map, length]
    rw [encoded_bytes small]
    by_cases same : content.maxval = 255
    · rw [level_same (same.trans range.symm)]
      simp only [Netpbm.samples, same, if_true, rowsOf_append count, ok_bind]
      exact congrArg Except.ok (map_toNat_ofNat inside Int.ofNat)
    · rw [level_scaled (by rw [range]; exact same), range]
      simp only [Netpbm.samples, same, small, if_true, if_false, full, enough_append count, ok_bind]
      exact congrArg Except.ok (map_toNat_ofNat inside (scaleSample 255 content.maxval))
  · have other : content.maxval ≠ 255 := fun same => small (by omega)
    have words : wordsOf (wordBytes content.samples) = content.samples :=
      wordsOf_wordBytes fun s member => (proper.bounded s member).trans_lt proper.most
    have count : (wordBytes content.samples).length =
        2 * (content.width * content.mode.bands * content.height) := by rw [length_wordBytes, length]
    rw [encoded_words small, level_scaled (by rw [range]; exact other), range]
    simp [Netpbm.samples, other, small, full, enough_append count, words]

theorem samples_encoded (proper : content.IsProper) (trailing : Bytes) :
    Netpbm.samples content.coding.1 content.coding.2 content.width content.height
      (content.encoded ++ trailing) = .ok (content.samples.map content.level) := by
  by_cases deep : content.IsDeep
  · exact samples_deep proper deep trailing
  · exact samples_flat proper deep trailing

theorem bands_coding : content.coding.1.bands = content.mode.bands := by
  by_cases deep : content.IsDeep
  · rw [coding_deep deep, mode, deep.1]
    rfl
  · rw [coding_flat deep]

/-- The picture that a file is read as. -/
def picture (content : Content) : Picture where
  mode := content.coding.1
  grid := .ofSamples content.width content.height content.mode.bands
    (content.samples.map content.level).toArray

theorem read_file (proper : content.IsProper) (file : content.IsFile bytes) {outcome : Picture}
    (done : read bytes = .ok outcome) : outcome = content.picture := by
  obtain ⟨shape, headed, done⟩ := bind_eq_ok_iff.mp done
  obtain ⟨trailing, rfl⟩ := header_file file headed
  simp only at done
  split at done
  · cases done
  · split at done
    · cases done
    · rw [Int.toNat_natCast, Int.toNat_natCast, samples_encoded proper, ok_bind] at done
      rw [← pure_eq_ok_iff.mp done, bands_coding]
      rfl

end Content

end Jp2Render.Netpbm
