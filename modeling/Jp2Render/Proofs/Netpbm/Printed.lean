import Jp2Render.Proofs.Picture.Brightness

/-!
Printed files that are read back, and what is left of them when they are cut. A cut in a numeral leaves
a shorter one, which is read as another number; but then the bytes are at their end, and what comes
after the numeral is missing. So nothing that is cut off short of the last sample is read as a picture.
-/

namespace Jp2Render

namespace Netpbm

variable {bytes rest : Bytes} {blank : UInt8} {n : ℕ}

theorem length_numeral_le (small : n < 10 ^ tokenLimit) : (numeral n).length ≤ tokenLimit := by
  rw [numeral, List.length_map, String.length_toList]
  exact Nat.repr_length n tokenLimit (by decide) small

theorem integerToken_numeral (small : n < 10 ^ tokenLimit) (ends : isBlank blank = true)
    (rest : Bytes) : integerToken (numeral n ++ blank :: rest) = .ok ((n : ℤ), rest) := by
  have digits := isNumeral_numeral n
  have fits := length_numeral_le small
  have taken : takeToken [] false (numeral n ++ blank :: rest) = (numeral n, rest) :=
    takeToken_word (commented_plain (hash_not_mem_numeral n)) digits.solid ends [] digits.begun
      (by simpa using fits)
  have begun : (numeral n).isEmpty = false := by simpa using digits.begun
  have token : token (numeral n ++ blank :: rest) = .ok (numeral n, rest) := by
    simp [token, taken, begun, Nat.not_lt.mpr fits]
  simp only [integerToken, token, ok_bind, digits.integerOf_eq fits]
  rfl

theorem takeToken_unended {word : Bytes} (plain : hash ∉ word) (solid : ∀ b ∈ word, isBlank b = false)
    (begun : Bytes) (fits : begun.length + word.length ≤ tokenLimit) :
    takeToken begun false word = (begun ++ word, []) := by
  induction word generalizing begun with
  | nil => simp [takeToken]
  | cons b word ih =>
      rw [List.length_cons] at fits
      rw [List.mem_cons, not_or] at plain
      have inside := solid b List.mem_cons_self
      have other : b ≠ hash := Ne.symm plain.1
      have room : begun.length ≠ tokenLimit := by omega
      have left := ih plain.2 (fun c member => solid c (List.mem_cons_of_mem _ member)) (begun ++ [b])
        (by rw [List.length_append, List.length_singleton]; omega)
      rw [List.append_assoc, List.singleton_append] at left
      simp [takeToken, inside, other, room, left]

theorem integerToken_unended (small : n < 10 ^ tokenLimit) (cut : bytes <+: numeral n)
    {outcome : ℤ × Bytes} (done : integerToken bytes = .ok outcome) : outcome.2 = [] := by
  have plain : hash ∉ bytes := fun member => hash_not_mem_numeral n (cut.subset member)
  have solid : ∀ b ∈ bytes, isBlank b = false := fun b member =>
    (isNumeral_numeral n).solid b (cut.subset member)
  have fits := cut.length_le.trans (length_numeral_le small)
  obtain ⟨⟨word, left⟩, taken, done⟩ := bind_eq_ok_iff.mp done
  unfold token at taken
  rw [takeToken_unended plain solid [] (by simpa using fits)] at taken
  simp only at taken
  split at taken
  · cases taken
  · split at taken
    · cases taken
    · obtain ⟨-, rfl⟩ := Prod.mk.inj (Except.ok.inj taken)
      obtain ⟨value, -, done⟩ := bind_eq_ok_iff.mp done
      rw [← pure_eq_ok_iff.mp done]

theorem takeWord_unended {word : Bytes} (solid : ∀ b ∈ word, isBlank b = false) {room : ℕ}
    (fits : word.length ≤ room) : takeWord room word = (word, []) := by
  induction word generalizing room with
  | nil => cases room <;> rfl
  | cons b word ih =>
      obtain ⟨left, rfl⟩ := Nat.exists_eq_succ_of_ne_zero (Nat.ne_zero_of_lt fits)
      have inside := solid b List.mem_cons_self
      have others := ih (fun c member => solid c (List.mem_cons_of_mem _ member))
        (Nat.le_of_succ_le_succ fits)
      simp [takeWord, inside, others]

theorem not_integerToken_nil {outcome : ℤ × Bytes} : integerToken [] ≠ .ok outcome := nofun

theorem prefix_append_cases {before after : Bytes} (cut : bytes <+: before ++ after) :
    bytes <+: before ∨ ∃ left, bytes = before ++ left ∧ left <+: after := by
  rcases List.prefix_or_prefix_of_prefix cut (List.prefix_append before after) with inside | whole
  · exact .inl inside
  · obtain ⟨left, rfl⟩ := whole
    exact .inr ⟨left, rfl, (List.prefix_append_right_inj before).mp cut⟩

theorem integerToken_cut (small : n < 10 ^ tokenLimit) (ends : isBlank blank = true)
    (cut : bytes <+: numeral n ++ blank :: rest) {value : ℤ} {left : Bytes}
    (done : integerToken bytes = .ok (value, left)) :
    left = [] ∨ value = n ∧ bytes = numeral n ++ blank :: left ∧ left <+: rest := by
  rcases prefix_append_cases cut with inside | ⟨more, rfl, ending⟩
  · exact .inl (integerToken_unended small inside done)
  · rcases List.prefix_cons_iff.mp ending with rfl | ⟨more, rfl, after⟩
    · rw [List.append_nil] at done
      exact .inl (integerToken_unended small List.prefix_rfl done)
    · rw [integerToken_numeral small ends] at done
      obtain ⟨rfl, rfl⟩ := Prod.mk.inj (Except.ok.inj done)
      exact .inr ⟨rfl, rfl, after⟩

theorem maxvalToken_cut (small : n < 10 ^ tokenLimit) (ends : isBlank blank = true)
    (cut : bytes <+: numeral n ++ blank :: rest) {value : ℕ} {left : Bytes}
    (done : maxvalToken bytes = .ok (value, left)) : left = [] ∨ bytes = numeral n ++ blank :: left := by
  obtain ⟨⟨maxval, after⟩, token, done⟩ := bind_eq_ok_iff.mp done
  simp only at done
  split at done
  · obtain ⟨-, rfl⟩ := Prod.mk.inj (pure_eq_ok_iff.mp done)
    rcases integerToken_cut small ends cut token with none | ⟨-, whole, -⟩
    · exact .inl none
    · exact .inr whole
  · cases done

theorem rowsOf_short {data : Bytes} {rowBytes rows : ℕ} (short : data.length < rowBytes * rows)
    {kept : Bytes} : rowsOf rowBytes rows data ≠ .ok kept := by
  have few : (data.take (rowBytes * rows)).length < rowBytes * rows :=
    (List.length_take_le' _ _).trans_lt short
  unfold rowsOf
  simp only [few, if_true]
  exact nofun

theorem enough_short {data : Bytes} {count : ℕ} (short : data.length < count) {kept : Bytes} :
    enough count data ≠ .ok kept := by
  have few : (data.take count).length < count := (List.length_take_le' _ _).trans_lt short
  unfold enough
  simp only [few, if_true]
  exact nofun

def SampleCoding.sampleBytes : SampleCoding → ℕ
  | .bytes => 1
  | .words => 2
  | .reals _ => 4
  | .scaled maxval => if maxval < 256 then 1 else 2
  | .plainBits | .plain _ | .packedBits => 0

theorem sampleBytes_codingFor (mode : PictureMode) (maxval : ℕ) :
    0 < (codingFor mode false maxval).2.sampleBytes := by
  unfold codingFor
  simp only [Bool.false_eq_true, if_false]
  split
  · exact Nat.two_pos
  · split
    · exact Nat.one_pos
    · rw [SampleCoding.sampleBytes]
      split <;> decide

theorem bands_pos (mode : PictureMode) : 0 < mode.bands := by
  cases mode <;> decide

theorem not_samples_short {mode : PictureMode} {coding : SampleCoding} {width height : ℕ} {data : Bytes}
    (short : data.length < coding.sampleBytes * (width * mode.bands * height)) {values : List ℤ} :
    samples mode coding width height data ≠ .ok values := by
  intro done
  unfold samples at done
  -- digits say nothing of how many bytes they take; all other codings count them
  cases coding with
  | plainBits => simp [SampleCoding.sampleBytes] at short
  | plain maxval => simp [SampleCoding.sampleBytes] at short
  | packedBits => simp [SampleCoding.sampleBytes] at short
  | bytes =>
      obtain ⟨_, impossible, -⟩ := bind_eq_ok_iff.mp done
      exact rowsOf_short (by rwa [SampleCoding.sampleBytes, Nat.one_mul] at short) impossible
  | words =>
      obtain ⟨_, impossible, -⟩ := bind_eq_ok_iff.mp done
      rw [SampleCoding.sampleBytes, ← Nat.mul_assoc] at short
      exact rowsOf_short short impossible
  | reals lowFirst =>
      obtain ⟨_, impossible, -⟩ := bind_eq_ok_iff.mp done
      rw [SampleCoding.sampleBytes, ← Nat.mul_assoc] at short
      exact rowsOf_short short impossible
  | scaled maxval =>
      rw [SampleCoding.sampleBytes] at short
      simp only at done
      split at done
      · next byte =>
        obtain ⟨_, impossible, -⟩ := bind_eq_ok_iff.mp done
        exact enough_short (by rwa [if_pos byte, Nat.one_mul] at short) impossible
      · next word =>
        obtain ⟨_, impossible, -⟩ := bind_eq_ok_iff.mp done
        exact enough_short (by rwa [if_neg word] at short) impossible

namespace Content

/-- Both sides are there, and sixteen bits count them. -/
structure HasShortSides (content : Content) : Prop where
  wide : 0 < content.width
  narrow : content.width < 65536
  high : 0 < content.height
  low : content.height < 65536

def headed (content : Content) (data : Bytes) : Bytes :=
  content.magic ++ 10 :: (numeral content.width ++ 32 :: (numeral content.height ++ 10 ::
    (numeral content.maxval ++ 10 :: data)))

variable {content : Content} {data : Bytes}

theorem headed_encoded (content : Content) : content.headed content.encoded = content.printed := rfl

theorem printed_append (content : Content) (trailing : Bytes) :
    content.printed ++ trailing = content.headed (content.encoded ++ trailing) := by
  simp [printed, headed]

theorem header_headed (proper : content.IsProper) (sides : content.HasShortSides) (data : Bytes) :
    header (content.headed data) =
      .ok (⟨content.coding.1, content.width, content.height, content.coding.2⟩, data) := by
  have newline : isBlank 10 = true := by decide
  have space : isBlank 32 = true := by decide
  have few : 65536 ≤ 10 ^ tokenLimit := by decide
  have width := integerToken_numeral (sides.narrow.trans_le few) space
  have height := integerToken_numeral (sides.low.trans_le few) newline
  have token := integerToken_numeral (proper.most.trans_le few) newline data
  have maxval : maxvalToken (numeral content.maxval ++ 10 :: data) = .ok (content.maxval, data) := by
    have least : (0 : ℤ) < content.maxval := Int.natCast_pos.mpr proper.least
    have most : (content.maxval : ℤ) < 65536 := by exact_mod_cast proper.most
    rw [maxvalToken, token, ok_bind]
    simp only [least, most, and_self, if_true, Int.toNat_natCast]
    rfl
  have area : ¬ ((content.width : ℤ) ≤ 0 ∨ (content.height : ℤ) ≤ 0) := by
    have := sides.wide
    have := sides.high
    omega
  unfold header headed
  simp only [content.takeWord_magic newline, content.formatOf?_magic, content.measure_eq, width, height,
    maxval, ok_bind, pure, Except.pure, area, if_false]
  rfl

theorem not_header_magic (cut : bytes <+: content.magic) {outcome : Header × Bytes} :
    header bytes ≠ .ok outcome := by
  intro done
  have solid : ∀ b ∈ content.magic, isBlank b = false := by
    unfold magic
    cases content.colour <;> simp [isBlank]
  have short : content.magic.length ≤ magicLimit := by
    unfold magic
    cases content.colour <;> decide
  have word := takeWord_unended (fun b member => solid b (cut.subset member))
    (cut.length_le.trans short)
  unfold header at done
  simp only [word] at done
  split at done
  · cases done
  · obtain ⟨width, impossible, -⟩ := bind_eq_ok_iff.mp done
    exact not_integerToken_nil impossible

/-- What is read as the header of a cut file has the sides of the file, and unless nothing is left after
it the header is whole. The last numeral may be a shorter one, but samples are still to come. -/
theorem header_cut (proper : content.IsProper) (sides : content.HasShortSides)
    (cut : bytes <+: content.headed data) {shape : Header} {left : Bytes}
    (done : header bytes = .ok (shape, left)) :
    shape.width = content.width ∧ shape.height = content.height ∧ 0 < shape.coding.sampleBytes ∧
      (left = [] ∨ bytes = content.headed left) := by
  have newline : isBlank 10 = true := by decide
  have space : isBlank 32 = true := by decide
  have few : 65536 ≤ 10 ^ tokenLimit := by decide
  -- wherever the file is cut, the tokens before the cut are whole, and the one at the cut is shorter
  rcases prefix_append_cases cut with word | ⟨more, rfl, afterMagic⟩
  · exact absurd done (not_header_magic word)
  · rcases List.prefix_cons_iff.mp afterMagic with rfl | ⟨more, rfl, cutMagic⟩
    · rw [List.append_nil] at done
      exact absurd done (not_header_magic List.prefix_rfl)
    · unfold header at done
      simp only [content.takeWord_magic newline, content.formatOf?_magic, content.measure_eq] at done
      obtain ⟨⟨width, afterWidth⟩, readWidth, done⟩ := bind_eq_ok_iff.mp done
      obtain ⟨⟨height, afterHeight⟩, readHeight, done⟩ := bind_eq_ok_iff.mp done
      obtain ⟨⟨_, left'⟩, measuring, done⟩ := bind_eq_ok_iff.mp done
      obtain ⟨⟨_, left''⟩, readMaxval, coded⟩ := bind_eq_ok_iff.mp measuring
      obtain ⟨rfl, rfl⟩ := Prod.mk.inj (pure_eq_ok_iff.mp coded)
      rcases integerToken_cut (sides.narrow.trans_le few) space cutMagic readWidth with
        rfl | ⟨rfl, rfl, cutWidth⟩
      · exact absurd readHeight not_integerToken_nil
      · rcases integerToken_cut (sides.low.trans_le few) newline cutWidth readHeight with
          rfl | ⟨rfl, rfl, cutHeight⟩
        · obtain ⟨_, token, -⟩ := bind_eq_ok_iff.mp readMaxval
          exact absurd token not_integerToken_nil
        · have maxval := maxvalToken_cut (proper.most.trans_le few) newline cutHeight readMaxval
          simp only at done
          split at done
          · cases done
          · obtain ⟨rfl, rfl⟩ := Prod.mk.inj (pure_eq_ok_iff.mp done)
            refine ⟨rfl, rfl, sampleBytes_codingFor _ _, maxval.imp_right ?_⟩
            rintro rfl
            rfl

theorem length_encoded (proper : content.IsProper) : content.encoded.length =
    content.coding.2.sampleBytes * (content.width * content.coding.1.bands * content.height) := by
  have length : content.samples.length = content.width * content.coding.1.bands * content.height := by
    rw [proper.length, bands_coding, Nat.mul_right_comm]
  rw [← length]
  by_cases small : content.maxval < 256
  · have flat : ¬ content.IsDeep := fun deep => absurd deep.2 (by omega)
    have byte : content.coding.2.sampleBytes = 1 := by
      rw [coding_flat flat]
      split <;> simp [SampleCoding.sampleBytes, small]
    rw [byte, encoded_bytes small, List.length_map, Nat.one_mul]
  · have word : content.coding.2.sampleBytes = 2 := by
      by_cases deep : content.IsDeep
      · rw [coding_deep deep]
        split <;> simp [SampleCoding.sampleBytes, small]
      · have other : content.maxval ≠ 255 := by omega
        rw [coding_flat deep, if_neg other]
        simp [SampleCoding.sampleBytes, small]
    rw [word, encoded_words small, length_wordBytes]

theorem sides_within (sides : content.HasShortSides) : ¬ sideLimit < (content.width : ℤ) ∧
    ¬ sideLimit < (content.height : ℤ) ∧ ¬ rowLimit < (content.width : ℤ) := by
  have narrow := sides.narrow
  have low := sides.low
  have side : (65536 : ℤ) ≤ sideLimit := by decide
  have row : (65536 : ℤ) ≤ rowLimit := by decide
  omega

theorem read_printed (proper : content.IsProper) (sides : content.HasShortSides) (trailing : Bytes) :
    read (content.printed ++ trailing) = .ok content.picture := by
  obtain ⟨narrow, low, short⟩ := sides_within sides
  have fits : ¬ (sideLimit < (content.width : ℤ) ∨ sideLimit < (content.height : ℤ)) :=
    not_or.mpr ⟨narrow, low⟩
  rw [read, printed_append, header_headed proper sides, ok_bind]
  simp only [fits, short, if_false, Int.toNat_natCast, samples_encoded proper trailing, ok_bind,
    bands_coding]
  rfl

theorem length_headed (content : Content) (data : Bytes) :
    (content.headed data).length = (content.headed []).length + data.length := by
  simp only [headed, List.length_append, List.length_cons, List.length_nil]
  omega

theorem not_read_cut (proper : content.IsProper) (sides : content.HasShortSides)
    (cut : bytes <+: content.printed) (strict : bytes ≠ content.printed) :
    (∀ picture, read bytes ≠ .ok picture) ∧ ¬ Oversized bytes := by
  constructor
  · intro picture done
    obtain ⟨⟨shape, left⟩, headed, done⟩ := bind_eq_ok_iff.mp done
    obtain ⟨width, height, needed, ending⟩ := header_cut proper sides cut headed
    simp only [width, height, Int.toNat_natCast] at done
    split at done
    · cases done
    · split at done
      · cases done
      · obtain ⟨values, impossible, -⟩ := bind_eq_ok_iff.mp done
        refine not_samples_short ?_ impossible
        rcases ending with rfl | rfl
        · exact Nat.mul_pos needed (Nat.mul_pos (Nat.mul_pos sides.wide (bands_pos _)) sides.high)
        · -- the whole header is there, so that samples are missing
          rw [header_headed proper sides] at headed
          obtain ⟨rfl, -⟩ := Prod.mk.inj (Except.ok.inj headed)
          rw [← length_encoded proper]
          have shorter : (content.headed left).length < content.printed.length :=
            lt_of_le_of_ne cut.length_le fun same => strict (cut.eq_of_length same)
          rw [← headed_encoded, length_headed, length_headed _ content.encoded] at shorter
          omega
  · rintro ⟨shape, left, headed, large⟩
    obtain ⟨width, height, -, -⟩ := header_cut proper sides cut headed
    obtain ⟨narrow, low, short⟩ := sides_within sides
    rw [width, height] at large
    rcases large with wide | high | long
    · exact narrow wide
    · exact low high
    · exact short long

end Content

end Netpbm

namespace Raster

open Netpbm

/-- A printed picture of eight bits is read back sample by sample, whatever comes after it. Of a file that
is cut anywhere nothing is read, and that is reported as a failure of the stream. -/
theorem printed_read_back {content : Content} (proper : content.IsProper)
    (byte : content.maxval = 255) (sides : content.HasShortSides) (reduction : ℤ) :
    (∀ trailing, ∃ raster, Raster.ofBytes (content.printed ++ trailing) reduction = .ok raster ∧
      raster.picture.mode = content.mode ∧ raster.dimensions = ⟨content.width, content.height⟩ ∧
      raster.picture.grid.bands = content.mode.bands ∧
      raster.picture.grid.samples.toList = content.samples.map Int.ofNat ∧
      raster.reduction = reduction) ∧
    (∀ bytes, bytes <+: content.printed → bytes ≠ content.printed → ∃ fault,
      Raster.ofBytes bytes reduction = .error fault ∧
        (Failure.raster fault).kind? = some .streamIO) := by
  have flat : ¬ content.IsDeep := fun deep => absurd deep.2 (by omega)
  obtain ⟨same, mode⟩ := standardized_flat flat
  constructor
  · intro trailing
    have done : Raster.ofBytes (content.printed ++ trailing) reduction =
        .ok { picture := content.picture, reduction } :=
      ofBytes_eq_ok_iff.mpr ⟨content.picture,
        reads_willing.mpr (content.read_printed proper sides trailing), by rw [same]⟩
    have length : (content.samples.map content.level).toArray.size =
        content.width * content.height * content.mode.bands := by
      rw [List.size_toArray, List.length_map, proper.length]
    have level := Content.level_same (byte.trans (Content.range_flat flat).symm)
    refine ⟨_, done, mode, rfl, rfl, ?_, rfl⟩
    rw [← level]
    exact congrArg Array.toList (Grid.samples_ofSamples length)
  · intro bytes cut strict
    -- a cut header may still state the sides, but then samples are missing
    obtain ⟨unread, counted⟩ := Content.not_read_cut proper sides cut strict
    cases read : ofBytes bytes reduction with
    | ok raster =>
        obtain ⟨picture, reads, -⟩ := ofBytes_eq_ok_iff.mp read
        exact absurd (reads_willing.mp reads) (unread picture)
    | error fault =>
        refine ⟨fault, rfl, ?_⟩
        rw [Failure.kind?_raster, if_pos ((isReported_willing read).mpr counted)]

/-- Two places in gray, with a byte after them; and the same file, cut within its last numeral. -/
theorem printed_read_back_two :
    ∃ raster fault, Raster.ofBytes (Bytes.ofText "P5\n2 1\n255\n" ++ [0, 200, 10]) 3 = .ok raster ∧
      raster.picture.grid.samples.toList = [0, 200] ∧ raster.reduction = 3 ∧
      Raster.ofBytes (Bytes.ofText "P5\n2 1\n25") 3 = .error fault ∧
      (Failure.raster fault).kind? = some .streamIO := by
  let content : Content := ⟨false, 2, 1, 255, [0, 200]⟩
  have proper : content.IsProper := ⟨by decide, by decide, by decide, by decide⟩
  have sides : content.HasShortSides := ⟨by decide, by decide, by decide, by decide⟩
  have printed : content.printed = Bytes.ofText "P5\n2 1\n255\n" ++ [0, 200] := by decide +kernel
  have cut : Bytes.ofText "P5\n2 1\n25" <+: content.printed := by
    rw [printed]
    exact ⟨[53, 10, 0, 200], by decide +kernel⟩
  have strict : Bytes.ofText "P5\n2 1\n25" ≠ content.printed := by
    rw [printed]
    decide +kernel
  obtain ⟨whole, parts⟩ := printed_read_back proper rfl sides 3
  obtain ⟨raster, done, -, -, -, samples, reduction⟩ := whole [10]
  obtain ⟨fault, failed, kind⟩ := parts _ cut strict
  rw [printed, List.append_assoc] at done
  exact ⟨raster, fault, done, samples, reduction, failed, kind⟩

end Raster

end Jp2Render
