import Jp2Render.Picture.Netpbm
import Jp2Render.Proofs.Sequencing
import Jp2Render.Proofs.Text.Digits

/-!
Binary Netpbm files in gray or in colour, and the headers that are read from them. A file is its magic
word, three numerals that each end at a blank, and its samples in one byte or two. Comments are skipped
wherever they stand, and each numeral is read as the number that it writes or refused for its length.
-/

namespace Jp2Render.Netpbm

/-- The second bytes are the first without their comments. A comment goes from a hash through the end of
its line, and it may stand anywhere, within a numeral too. -/
inductive Commented : Bytes → Bytes → Prop
  | nil : Commented [] []
  | byte {b : UInt8} {bytes plain : Bytes} (other : b ≠ hash) (others : Commented bytes plain) :
      Commented (b :: bytes) (b :: plain)
  | comment {text bytes plain : Bytes} {lineEnd : UInt8} (line : ∀ b ∈ text, isLineEnd b = false)
      (ends : isLineEnd lineEnd = true) (others : Commented bytes plain) :
      Commented (hash :: (text ++ lineEnd :: bytes)) plain

structure IsNumeral (token : Bytes) (n : ℕ) : Prop where
  begun : token ≠ []
  digits : ∀ b ∈ token, 48 ≤ b.toNat ∧ b.toNat ≤ 57
  value : Text.ofDigits (token.map fun b => b.toNat - 48) = n

def IsField (bytes : Bytes) (n : ℕ) (rest : Bytes) : Prop :=
  ∃ before gap written token blank, Commented before gap ∧ (∀ b ∈ gap, isBlank b = true) ∧
    Commented written token ∧ IsNumeral token n ∧ isBlank blank = true ∧
    bytes = before ++ (written ++ blank :: rest)

/-- A picture in gray or in colour, with samples from zero to a greatest one. -/
structure Content where
  colour : Bool
  width : ℕ
  height : ℕ
  maxval : ℕ
  /-- Row by row, the bands of a place together. -/
  samples : List ℕ

namespace Content

def mode (content : Content) : PictureMode := if content.colour then .rgb else .gray

def magic (content : Content) : Bytes := if content.colour then [80, 54] else [80, 53]

structure IsProper (content : Content) : Prop where
  least : 0 < content.maxval
  most : content.maxval < 65536
  length : content.samples.length = content.width * content.height * content.mode.bands
  bounded : ∀ s ∈ content.samples, s ≤ content.maxval

/-- One byte for a sample, or two with the high one first where the greatest sample needs them. -/
def encoded (content : Content) : Bytes :=
  content.samples.flatMap fun s =>
    if content.maxval < 256 then [.ofNat s] else [.ofNat (s / 256), .ofNat (s % 256)]

/-- The bytes are a file of the picture. What comes after the last sample is no part of it. -/
def IsFile (content : Content) (bytes : Bytes) : Prop :=
  ∃ blank afterMagic afterWidth afterHeight trailing,
    isBlank blank = true ∧ bytes = content.magic ++ blank :: afterMagic ∧
    IsField afterMagic content.width afterWidth ∧ IsField afterWidth content.height afterHeight ∧
    IsField afterHeight content.maxval (content.encoded ++ trailing)

end Content

theorem takeToken_comment {text : Bytes} {lineEnd : UInt8} (line : ∀ b ∈ text, isLineEnd b = false)
    (ends : isLineEnd lineEnd = true) (begun rest : Bytes) :
    takeToken begun true (text ++ lineEnd :: rest) = takeToken begun false rest := by
  induction text with
  | nil => simp [takeToken, ends]
  | cons b text ih =>
      have inside : isLineEnd b = false := line b List.mem_cons_self
      have others := ih fun c member => line c (List.mem_cons_of_mem _ member)
      simp [takeToken, inside, others]

theorem takeToken_gap {before gap : Bytes} (commented : Commented before gap)
    (blanks : ∀ b ∈ gap, isBlank b = true) (rest : Bytes) :
    takeToken [] false (before ++ rest) = takeToken [] false rest := by
  induction commented with
  | nil => rfl
  | byte other others ih =>
      have blank := blanks _ List.mem_cons_self
      simp [takeToken, blank, ih fun b member => blanks b (List.mem_cons_of_mem _ member)]
  | comment line ends others ih =>
      have mark : isBlank hash = false := by decide
      simp [takeToken, mark, takeToken_comment line ends, ih blanks]

variable {written word rest : Bytes} {blank : UInt8}

theorem takeToken_word (commented : Commented written word) (solid : ∀ b ∈ word, isBlank b = false)
    (ends : isBlank blank = true) (begun : Bytes) (some : begun ++ word ≠ [])
    (fits : begun.length + word.length ≤ tokenLimit) :
    takeToken begun false (written ++ blank :: rest) = (begun ++ word, rest) := by
  -- the token so far and the rest of the word keep their common length
  induction commented generalizing begun with
  | nil =>
      rw [List.append_nil] at some ⊢
      simp [takeToken, ends, some]
  | @byte b _ plain other others ih =>
      rw [List.length_cons] at fits
      have inside := solid b List.mem_cons_self
      have room : begun.length ≠ tokenLimit := by omega
      have left := ih (fun c member => solid c (List.mem_cons_of_mem _ member)) (begun ++ [b])
        (by simp) (by rw [List.length_append, List.length_singleton]; omega)
      rw [List.append_assoc, List.singleton_append] at left
      simp [takeToken, inside, other, room, left]
  | comment line ends others ih =>
      have mark : isBlank hash = false := by decide
      simp [takeToken, mark, takeToken_comment line ends, ih solid begun some fits]

theorem takeToken_long (commented : Commented written word) (solid : ∀ b ∈ word, isBlank b = false)
    (begun : Bytes) (room : begun.length ≤ tokenLimit) (long : tokenLimit < begun.length + word.length)
    (rest : Bytes) : tokenLimit < (takeToken begun false (written ++ rest)).1.length := by
  induction commented generalizing begun with
  | nil =>
      rw [List.length_nil] at long
      omega
  | @byte b _ plain other others ih =>
      rw [List.length_cons] at long
      have inside := solid b List.mem_cons_self
      by_cases full : begun.length = tokenLimit
      · simp [takeToken, inside, other, full]
      · have left := ih (fun c member => solid c (List.mem_cons_of_mem _ member)) (begun ++ [b])
          (by rw [List.length_append, List.length_singleton]; omega)
          (by rw [List.length_append, List.length_singleton]; omega)
        simpa [takeToken, inside, other, full] using left
  | comment line ends others ih =>
      have mark : isBlank hash = false := by decide
      simpa [takeToken, mark, takeToken_comment line ends] using ih solid begun room long

namespace IsNumeral

variable {token : Bytes} {n : ℕ}

theorem solid (numeral : IsNumeral token n) : ∀ b ∈ token, isBlank b = false := by
  intro b member
  obtain ⟨low, -⟩ := numeral.digits b member
  rw [← Bool.not_eq_true]
  simp only [isBlank, Bool.or_eq_true, Bool.and_eq_true, decide_eq_true_eq, ← UInt8.toNat_inj,
    UInt8.le_iff_toNat_le]
  rintro (space | ⟨-, control⟩)
  · simp [space] at low
  · exact absurd (low.trans control) (by decide)

theorem digitValue?_ofNat {k : ℕ} (low : 48 ≤ k) (high : k ≤ 57) :
    (Char.ofNat k).isDigit = true ∧ Text.digitValue? (Char.ofNat k) = some (k - 48) := by
  interval_cases k <;> exact ⟨rfl, rfl⟩

theorem mapM_digitValue? (digits : ∀ b ∈ token, 48 ≤ b.toNat ∧ b.toNat ≤ 57) :
    (token.map fun b => Char.ofNat b.toNat).mapM Text.digitValue? =
      some (token.map fun b => b.toNat - 48) := by
  induction token with
  | nil => rfl
  | cons b rest ih =>
      obtain ⟨low, high⟩ := digits b List.mem_cons_self
      have others := ih fun c member => digits c (List.mem_cons_of_mem _ member)
      simp [List.mapM_cons, (digitValue?_ofNat low high).2, others]

theorem integerOf_eq (numeral : IsNumeral token n) (fits : token.length ≤ tokenLimit) :
    integerOf token = .ok n := by
  have ascii : token.all (· < 128) = true := by
    rw [List.all_eq_true]
    intro b member
    have high := (numeral.digits b member).2
    rw [decide_eq_true_eq, UInt8.lt_iff_toNat_lt]
    exact high.trans_lt (by decide)
  have isDigit : ∀ c ∈ token.map fun b => Char.ofNat b.toNat, c.isDigit = true := by
    intro c member
    obtain ⟨b, found, rfl⟩ := List.mem_map.mp member
    obtain ⟨low, high⟩ := numeral.digits b found
    exact (digitValue?_ofNat low high).1
  have value : Text.valueOf? (token.map fun b => Char.ofNat b.toNat) = some n := by
    rw [Text.valueOf?, mapM_digitValue? numeral.digits, Option.map_some, numeral.value]
  have few : (token.map fun b => Char.ofNat b.toNat).length ≤ Text.integerDigitLimit := by
    rw [List.length_map]
    exact fits.trans (by decide)
  have read := Text.readInteger_digits (by simpa using numeral.begun) isDigit few value
  simp only [integerOf, asciiText?, ascii, if_true, Option.map_some, read]

end IsNumeral

theorem commented_plain {bytes : Bytes} (plain : hash ∉ bytes) : Commented bytes bytes := by
  induction bytes with
  | nil => exact .nil
  | cons b rest ih =>
      rw [List.mem_cons, not_or] at plain
      exact .byte (Ne.symm plain.1) (ih plain.2)

def numeral (n : ℕ) : Bytes := (Nat.repr n).toList.map fun c => .ofNat c.toNat

theorem toNat_ofDigit {c : Char} (digit : c.isDigit = true) :
    (UInt8.ofNat c.toNat).toNat = c.toNat ∧ 48 ≤ c.toNat ∧ c.toNat ≤ 57 := by
  obtain ⟨low, high⟩ := Char.isDigit_iff_toNat.mp digit
  exact ⟨UInt8.toNat_ofNat_of_lt' (high.trans_lt (by decide)), low, high⟩

theorem isNumeral_numeral (n : ℕ) : IsNumeral (numeral n) n := by
  have digits : ∀ b ∈ numeral n, 48 ≤ b.toNat ∧ b.toNat ≤ 57 := by
    intro b member
    obtain ⟨c, found, rfl⟩ := List.mem_map.mp member
    obtain ⟨same, bounds⟩ := toNat_ofDigit (Text.isDigit_of_mem_repr found)
    rwa [same]
  have characters : (numeral n).map (fun b => Char.ofNat b.toNat) = (Nat.repr n).toList := by
    rw [numeral, List.map_map]
    refine (List.map_congr_left fun c member => ?_).trans (List.map_id _)
    have same := (toNat_ofDigit (Text.isDigit_of_mem_repr member)).1
    simp only [Function.comp_apply, same, Char.ofNat_toNat, id_eq]
  constructor
  · rw [← List.length_pos_iff, numeral, List.length_map, String.length_toList]
    exact Nat.length_repr_pos
  · exact digits
  · have read := Text.valueOf?_repr n
    rw [← characters, Text.valueOf?, IsNumeral.mapM_digitValue? digits] at read
    exact Option.some.inj read

theorem hash_not_mem_numeral (n : ℕ) : hash ∉ numeral n := fun member =>
  absurd ((isNumeral_numeral n).digits hash member) (by decide)

theorem isField_numeral (n : ℕ) {blank : UInt8} (ends : isBlank blank = true) (rest : Bytes) :
    IsField (numeral n ++ blank :: rest) n rest := by
  exact ⟨[], [], _, _, blank, .nil, by simp, commented_plain (hash_not_mem_numeral n),
    isNumeral_numeral n, ends, rfl⟩

/-- The file of a picture with no comments in it: a line for the magic word, one for the sides and one
for the greatest sample. -/
def Content.printed (content : Content) : Bytes :=
  content.magic ++ 10 :: (numeral content.width ++ 32 :: (numeral content.height ++ 10 ::
    (numeral content.maxval ++ 10 :: content.encoded)))

theorem Content.isFile_printed (content : Content) : content.IsFile content.printed := by
  have newline : isBlank 10 = true := by decide
  have space : isBlank 32 = true := by decide
  refine ⟨10, _, _, _, [], newline, rfl, isField_numeral _ space _, isField_numeral _ newline _, ?_⟩
  rw [List.append_nil]
  exact isField_numeral _ newline _

variable {bytes : Bytes} {n : ℕ}

theorem integerToken_field (field : IsField bytes n rest) {outcome : ℤ × Bytes}
    (done : integerToken bytes = .ok outcome) : outcome = ((n : ℤ), rest) := by
  obtain ⟨before, gap, written, digits, blank, gaps, blanks, commented, numeral, ends, rfl⟩ := field
  obtain ⟨⟨read, left⟩, taken, done⟩ := bind_eq_ok_iff.mp done
  unfold token at taken
  rw [takeToken_gap gaps blanks] at taken
  by_cases fits : digits.length ≤ tokenLimit
  · rw [takeToken_word commented numeral.solid ends [] numeral.begun (by simpa using fits)] at taken
    have begun : digits.isEmpty = false := by simpa using numeral.begun
    simp only [List.nil_append, begun, Bool.false_eq_true, if_false, if_neg (Nat.not_lt.mpr fits),
      Except.ok.injEq, Prod.mk.injEq] at taken
    obtain ⟨rfl, rfl⟩ := taken
    simp only [numeral.integerOf_eq fits, ok_bind] at done
    exact (pure_eq_ok_iff.mp done).symm
  · have long := takeToken_long commented numeral.solid [] (Nat.zero_le _) (by simpa using fits)
      (blank :: rest)
    have begun : (takeToken [] false (written ++ blank :: rest)).1.isEmpty = false := by
      rw [List.isEmpty_eq_false_iff, ← List.length_pos_iff]
      exact (Nat.zero_le _).trans_lt long
    simp [begun, long] at taken

theorem takeWord_append (plain : ∀ b ∈ word, isBlank b = false) (ends : isBlank blank = true)
    {room : ℕ} (fits : word.length < room) (rest : Bytes) :
    takeWord room (word ++ blank :: rest) = (word, rest) := by
  induction word generalizing room with
  | nil =>
      obtain ⟨left, rfl⟩ := Nat.exists_eq_succ_of_ne_zero (Nat.ne_zero_of_lt fits)
      simp [takeWord, ends]
  | cons b word ih =>
      obtain ⟨left, rfl⟩ := Nat.exists_eq_succ_of_ne_zero (Nat.ne_zero_of_lt fits)
      have inside := plain b List.mem_cons_self
      have others := ih (fun c member => plain c (List.mem_cons_of_mem _ member))
        (Nat.lt_of_succ_lt_succ fits)
      simp [takeWord, inside, others]

theorem maxvalToken_field (field : IsField bytes n rest) {outcome : ℕ × Bytes}
    (done : maxvalToken bytes = .ok outcome) : outcome = (n, rest) := by
  obtain ⟨read, token, done⟩ := bind_eq_ok_iff.mp done
  rw [integerToken_field field token] at done
  simp only at done
  split at done
  · rw [← pure_eq_ok_iff.mp done, Int.toNat_natCast]
  · cases done

namespace Content

variable (content : Content)

theorem takeWord_magic (ends : isBlank blank = true) (rest : Bytes) :
    takeWord magicLimit (content.magic ++ blank :: rest) = (content.magic, rest) := by
  unfold magic
  cases content.colour with
  | false => exact takeWord_append (by simp [isBlank]) ends (by decide) rest
  | true => exact takeWord_append (by simp [isBlank]) ends (by decide) rest

theorem formatOf?_magic : formatOf? content.magic = some (content.mode, false) := by
  unfold magic mode
  cases content.colour <;> decide

def coding : PictureMode × SampleCoding := codingFor content.mode false content.maxval

theorem measure_eq (bytes : Bytes) : measure content.mode false bytes = do
    let (maxval, rest) ← maxvalToken bytes
    return (codingFor content.mode false maxval, rest) := by
  unfold mode
  cases content.colour <;> rfl

end Content

variable {content : Content}

theorem header_file (file : content.IsFile bytes) {outcome : Header × Bytes}
    (done : header bytes = .ok outcome) : ∃ trailing, outcome =
      (⟨content.coding.1, content.width, content.height, content.coding.2⟩,
        content.encoded ++ trailing) := by
  obtain ⟨blank, afterMagic, afterWidth, afterHeight, trailing, ends, rfl, width, height, maxval⟩ := file
  unfold header at done
  simp only [content.takeWord_magic ends, content.formatOf?_magic, content.measure_eq] at done
  obtain ⟨_, readWidth, done⟩ := bind_eq_ok_iff.mp done
  rw [integerToken_field width readWidth] at done
  obtain ⟨_, readHeight, done⟩ := bind_eq_ok_iff.mp done
  rw [integerToken_field height readHeight] at done
  obtain ⟨_, measuring, done⟩ := bind_eq_ok_iff.mp done
  obtain ⟨_, readMaxval, coded⟩ := bind_eq_ok_iff.mp measuring
  rw [maxvalToken_field maxval readMaxval] at coded
  rw [← pure_eq_ok_iff.mp coded] at done
  simp only at done
  split at done
  · cases done
  · exact ⟨trailing, (pure_eq_ok_iff.mp done).symm⟩

end Jp2Render.Netpbm
