import Jp2Render.Proofs.Sequencing
import Jp2Render.Text.Utf8

/-!
Reading UTF-8 strictly is the inverse of writing it: bytes are read into a text just if they are the
bytes of that text.
-/

namespace Jp2Render

namespace Bytes

theorem toList_loop (bytes : ByteArray) (i : Nat) (before : List UInt8) :
    ByteArray.toList.loop bytes i before = before.reverse ++ bytes.data.toList.drop i := by
  fun_induction ByteArray.toList.loop bytes i before with
  | case1 i before inside ih =>
      have next : bytes.data.toList.drop i = bytes.get! i :: bytes.data.toList.drop (i + 1) := by
        rw [List.drop_eq_getElem_cons (by simpa using inside)]
        simp [ByteArray.get!, inside]
      rw [ih, next, List.reverse_cons, List.append_assoc]
      rfl
  | case2 i before outside =>
      have none : bytes.data.toList.drop i = [] := by
        rw [List.drop_eq_nil_iff]
        simpa using outside
      rw [none, List.append_nil]

theorem ofText_eq (text : String) : ofText text = text.toList.flatMap String.utf8EncodeChar := by
  have encoded : text.toByteArray = (text.toList.flatMap String.utf8EncodeChar).toByteArray := by
    rw [← String.utf8Encode_toList, List.utf8Encode]
  rw [ofText, String.toUTF8_eq_toByteArray, encoded, ByteArray.toList, toList_loop]
  simp

end Bytes

namespace Text.Utf8

def IsContinuation (b : UInt8) : Prop := 128 ≤ b.toNat ∧ b.toNat < 192

/-- The forms of characters: how many bytes they take, and which numbers those make. -/
inductive Spells : Bytes → Nat → Prop
  | one {a : UInt8} (low : a.toNat < 128) : Spells [a] a.toNat
  | two {a b : UInt8} (low : 194 ≤ a.toNat) (high : a.toNat < 224) (second : IsContinuation b) :
      Spells [a, b] (a.toNat % 32 * 64 + payload b)
  | three {a b c : UInt8} (low : 224 ≤ a.toNat) (high : a.toNat < 240)
      (second : isSecond a b = true) (third : IsContinuation c) :
      Spells [a, b, c] (a.toNat % 16 * 4096 + payload b * 64 + payload c)
  | four {a b c d : UInt8} (low : 240 ≤ a.toNat) (high : a.toNat < 245)
      (second : isSecond a b = true) (third : IsContinuation c) (fourth : IsContinuation d) :
      Spells [a, b, c, d]
        (a.toNat % 8 * 262144 + payload b * 4096 + payload c * 64 + payload d)

variable {a b first : UInt8} {rest more bytes : Bytes} {c : Char} {n : Nat}

theorem isContinuation_iff : isContinuation b = true ↔ IsContinuation b := by
  simp [isContinuation, IsContinuation, UInt8.le_iff_toNat_le, UInt8.lt_iff_toNat_lt]

theorem isSecond_iff : isSecond a b = true ↔ IsContinuation b ∧
    (a.toNat = 224 → 160 ≤ b.toNat) ∧ (a.toNat = 237 → b.toNat < 160) ∧
    (a.toNat = 240 → 144 ≤ b.toNat) ∧ (a.toNat = 244 → b.toNat < 144) := by
  simp only [isSecond, Bool.and_eq_true, Bool.or_eq_true, isContinuation_iff, decide_eq_true_eq,
    bne_iff_ne, ne_eq, ← UInt8.toNat_inj, UInt8.le_iff_toNat_le, UInt8.lt_iff_toNat_lt,
    ← Decidable.imp_iff_not_or, and_assoc]
  rfl

theorem Spells.valid (spells : Spells bytes n) : n.isValidChar := by
  unfold Nat.isValidChar
  cases spells with
  | one low => omega
  | two low high second => unfold payload; omega
  | three low high second third =>
      obtain ⟨second, least, most, -, -⟩ := isSecond_iff.mp second
      unfold IsContinuation at second third
      unfold payload
      omega
  | four low high second third fourth =>
      obtain ⟨second, -, -, least, most⟩ := isSecond_iff.mp second
      unfold IsContinuation at second third fourth
      unfold payload
      omega

theorem Spells.toNat_ofNat (spells : Spells bytes n) : (Char.ofNat n).toNat = n := by
  unfold Char.ofNat
  rw [dif_pos spells.valid]
  rfl

theorem ofNat_eq_of_toNat (same : a.toNat = n) : UInt8.ofNat n = a := by
  rw [← same, UInt8.ofNat_toNat]

theorem Spells.encoded (spells : Spells bytes c.toNat) : String.utf8EncodeChar c = bytes := by
  have number : c.val.toNat = c.toNat := rfl
  unfold String.utf8EncodeChar
  dsimp only
  rw [number]
  generalize c.toNat = n at spells
  -- the first byte and its continuations are the digits of the number to the base 64
  cases spells with
  | one low => rw [if_pos (by omega), UInt8.ofNat_toNat]
  | @two a b low high second =>
      unfold IsContinuation at second
      unfold payload
      have first : a.toNat = (a.toNat % 32 * 64 + b.toNat % 64) / 64 % 32 + 192 := by omega
      have last : b.toNat = (a.toNat % 32 * 64 + b.toNat % 64) % 64 + 128 := by omega
      rw [if_neg (by omega), if_pos (by omega), ofNat_eq_of_toNat first, ofNat_eq_of_toNat last]
  | @three a b c low high second third =>
      obtain ⟨second, least, most, -, -⟩ := isSecond_iff.mp second
      unfold IsContinuation at second third
      unfold payload
      generalize number : a.toNat % 16 * 4096 + b.toNat % 64 * 64 + c.toNat % 64 = n
      have first : a.toNat = n / 4096 % 16 + 224 := by omega
      have middle : b.toNat = n / 64 % 64 + 128 := by omega
      have last : c.toNat = n % 64 + 128 := by omega
      rw [if_neg (by omega), if_neg (by omega), if_pos (by omega), ofNat_eq_of_toNat first,
        ofNat_eq_of_toNat middle, ofNat_eq_of_toNat last]
  | @four a b c d low high second third fourth =>
      obtain ⟨second, -, -, least, most⟩ := isSecond_iff.mp second
      unfold IsContinuation at second third fourth
      unfold payload
      generalize number : a.toNat % 8 * 262144 + b.toNat % 64 * 4096 + c.toNat % 64 * 64 +
        d.toNat % 64 = n
      have first : a.toNat = n / 262144 % 8 + 240 := by omega
      have second : b.toNat = n / 4096 % 64 + 128 := by omega
      have third : c.toNat = n / 64 % 64 + 128 := by omega
      have last : d.toNat = n % 64 + 128 := by omega
      rw [if_neg (by omega), if_neg (by omega), if_neg (by omega), ofNat_eq_of_toNat first,
        ofNat_eq_of_toNat second, ofNat_eq_of_toNat third, ofNat_eq_of_toNat last]

theorem exists_byte (small : n < 256) : ∃ byte, UInt8.ofNat n = byte ∧ byte.toNat = n :=
  ⟨_, rfl, UInt8.toNat_ofNat_of_lt small⟩

theorem spells_encoded (c : Char) : Spells (String.utf8EncodeChar c) c.toNat := by
  have number : c.val.toNat = c.toNat := rfl
  have valid : c.toNat < 55296 ∨ 57343 < c.toNat ∧ c.toNat < 1114112 := c.valid
  unfold String.utf8EncodeChar
  dsimp only
  rw [number]
  generalize c.toNat = n at valid
  -- Every byte is named by its number; what is left is arithmetic.
  split
  · obtain ⟨a, written, first⟩ := exists_byte (by omega : n < 256)
    rw [written, ← first]
    exact .one (by omega)
  split
  · obtain ⟨a, writtenA, first⟩ := exists_byte (by omega : n / 64 % 32 + 192 < 256)
    obtain ⟨b, writtenB, last⟩ := exists_byte (by omega : n % 64 + 128 < 256)
    have value : a.toNat % 32 * 64 + payload b = n := by
      unfold payload
      omega
    rw [writtenA, writtenB, ← value]
    exact .two (by omega) (by omega) ⟨by omega, by omega⟩
  split
  · obtain ⟨a, writtenA, first⟩ := exists_byte (by omega : n / 4096 % 16 + 224 < 256)
    obtain ⟨b, writtenB, middle⟩ := exists_byte (by omega : n / 64 % 64 + 128 < 256)
    obtain ⟨c, writtenC, last⟩ := exists_byte (by omega : n % 64 + 128 < 256)
    have value : a.toNat % 16 * 4096 + payload b * 64 + payload c = n := by
      unfold payload
      omega
    have second : isSecond a b = true := by
      rw [isSecond_iff]
      unfold IsContinuation
      omega
    rw [writtenA, writtenB, writtenC, ← value]
    exact .three (by omega) (by omega) second ⟨by omega, by omega⟩
  · obtain ⟨a, writtenA, first⟩ := exists_byte (by omega : n / 262144 % 8 + 240 < 256)
    obtain ⟨b, writtenB, second⟩ := exists_byte (by omega : n / 4096 % 64 + 128 < 256)
    obtain ⟨c, writtenC, third⟩ := exists_byte (by omega : n / 64 % 64 + 128 < 256)
    obtain ⟨d, writtenD, last⟩ := exists_byte (by omega : n % 64 + 128 < 256)
    have value : a.toNat % 8 * 262144 + payload b * 4096 + payload c * 64 + payload d = n := by
      unfold payload
      omega
    have second : isSecond a b = true := by
      rw [isSecond_iff]
      unfold IsContinuation
      omega
    rw [writtenA, writtenB, writtenC, writtenD, ← value]
    exact .four (by omega) (by omega) second ⟨by omega, by omega⟩ ⟨by omega, by omega⟩

theorem pieceAt_eq (first : UInt8) (rest : Bytes) : pieceAt first rest =
    if first.toNat < 128 then .character (Char.ofNat first.toNat) 1
    else if first.toNat < 194 then .invalid .startByte 1
    else if first.toNat < 224 then afterFirstOfTwo first rest
    else if first.toNat < 240 then afterFirstOfThree first rest
    else if first.toNat < 245 then afterFirstOfFour first rest
    else .invalid .startByte 1 := by
  simp only [pieceAt, UInt8.lt_iff_toNat_lt]
  rfl

def Begins (bytes : Bytes) (c : Char) (n : Nat) : Prop :=
  ∃ spelt, Spells spelt c.toNat ∧ spelt <+: bytes ∧ spelt.length = n

theorem Spells.begins (spells : Spells bytes n) (left : Bytes) :
    Begins (bytes ++ left) (Char.ofNat n) bytes.length :=
  ⟨bytes, spells.toNat_ofNat.symm ▸ spells, List.prefix_append bytes left, rfl⟩

theorem begins_of_two (low : 194 ≤ first.toNat) (high : first.toNat < 224)
    (piece : afterFirstOfTwo first rest = .character c n) : Begins (first :: rest) c n := by
  unfold afterFirstOfTwo at piece
  split at piece
  · cases piece
  · split at piece
    · next second =>
      cases piece
      exact (Spells.two low high (isContinuation_iff.mp second)).begins _
    · cases piece

theorem begins_of_three (low : 224 ≤ first.toNat) (high : first.toNat < 240)
    (piece : afterFirstOfThree first rest = .character c n) : Begins (first :: rest) c n := by
  unfold afterFirstOfThree at piece
  split at piece
  · cases piece
  split at piece
  · cases piece
  next second =>
    split at piece
    · cases piece
    split at piece
    · next third =>
      cases piece
      rw [Bool.not_eq_true, Bool.not_eq_false'] at second
      exact (Spells.three low high second (isContinuation_iff.mp third)).begins _
    · cases piece

theorem begins_of_four (low : 240 ≤ first.toNat) (high : first.toNat < 245)
    (piece : afterFirstOfFour first rest = .character c n) : Begins (first :: rest) c n := by
  unfold afterFirstOfFour at piece
  split at piece
  · cases piece
  split at piece
  · cases piece
  next second =>
    split at piece
    · cases piece
    split at piece
    · cases piece
    next third =>
      split at piece
      · cases piece
      split at piece
      · next fourth =>
        cases piece
        rw [Bool.not_eq_true, Bool.not_eq_false'] at second third
        exact (Spells.four low high second (isContinuation_iff.mp third)
          (isContinuation_iff.mp fourth)).begins _
      · cases piece

theorem begins_of_pieceAt (piece : pieceAt first rest = .character c n) :
    Begins (first :: rest) c n := by
  rw [pieceAt_eq] at piece
  split at piece
  · next low =>
    cases piece
    exact (Spells.one low).begins rest
  split at piece
  · cases piece
  split at piece
  · exact begins_of_two (by omega) (by omega) piece
  split at piece
  · exact begins_of_three (by omega) (by omega) piece
  split at piece
  · exact begins_of_four (by omega) (by omega) piece
  · cases piece

theorem pieceAt_of_spells (spells : Spells (first :: more) n) (left : Bytes) :
    pieceAt first (more ++ left) = .character (Char.ofNat n) (more.length + 1) := by
  rw [pieceAt_eq]
  cases spells with
  | one low => rw [if_pos low]; rfl
  | two low high second =>
      rw [if_neg (by omega), if_neg (by omega), if_pos high]
      simp [afterFirstOfTwo, isContinuation_iff.mpr second, two]
  | three low high second third =>
      rw [if_neg (by omega), if_neg (by omega), if_neg (by omega), if_pos high]
      simp [afterFirstOfThree, second, isContinuation_iff.mpr third, three]
  | four low high second third fourth =>
      rw [if_neg (by omega), if_neg (by omega), if_neg (by omega), if_neg (by omega), if_pos high]
      simp [afterFirstOfFour, second, isContinuation_iff.mpr third, isContinuation_iff.mpr fourth,
        four]

theorem pieceAt_eq_character : pieceAt first rest = .character c n ↔
    String.utf8EncodeChar c <+: first :: rest ∧ (String.utf8EncodeChar c).length = n := by
  constructor
  · intro piece
    obtain ⟨spelt, spells, beginning, length⟩ := begins_of_pieceAt piece
    rw [spells.encoded]
    exact ⟨beginning, length⟩
  · rintro ⟨⟨left, beginning⟩, length⟩
    have spells := spells_encoded c
    cases encoded : String.utf8EncodeChar c with
    | nil => exact absurd encoded String.utf8EncodeChar_ne_nil
    | cons a more =>
        rw [encoded] at spells beginning length
        rw [List.cons_append] at beginning
        obtain ⟨rfl, rfl⟩ := List.cons.inj beginning
        rw [← length, pieceAt_of_spells spells, Char.ofNat_toNat]
        rfl

theorem drop_piece (piece : pieceAt first rest = .character c n) :
    first :: rest = String.utf8EncodeChar c ++ rest.drop (n - 1) := by
  obtain ⟨⟨left, beginning⟩, length⟩ := pieceAt_eq_character.mp piece
  have after : (first :: rest).drop n = left := by
    rw [← beginning, List.drop_left' length]
  rw [← beginning, ← after, ← length]
  cases encoded : String.utf8EncodeChar c with
  | nil => exact absurd encoded String.utf8EncodeChar_ne_nil
  | cons a more => rfl

theorem piecesOnto_append (before after : List Piece) (bytes : Bytes) :
    piecesOnto (before ++ after) bytes = piecesOnto before bytes ++ after := by
  fun_induction piecesOnto before bytes with
  | case1 before => rw [piecesOnto]
  | case2 before first rest piece ih =>
      rw [piecesOnto]
      exact ih

theorem pieces_nil : pieces [] = [] := by
  rw [pieces, piecesOnto]
  rfl

theorem pieces_cons (first : UInt8) (rest : Bytes) :
    pieces (first :: rest) =
      pieceAt first rest :: pieces (rest.drop ((pieceAt first rest).length - 1)) := by
  have apart := piecesOnto_append [] [pieceAt first rest]
    (rest.drop ((pieceAt first rest).length - 1))
  rw [List.nil_append] at apart
  rw [pieces, piecesOnto, apart, List.reverse_append]
  rfl

theorem charactersOf_eq_ok {all bytes : Bytes} {position : Nat} {characters : List Char} :
    charactersOf all position (pieces bytes) = .ok characters ↔
      bytes = characters.flatMap String.utf8EncodeChar := by
  -- On the text: each character takes its own bytes off the front. The position is for faults only.
  induction characters generalizing bytes position with
  | nil =>
      cases bytes with
      | nil => simp [pieces_nil, charactersOf]
      | cons first rest =>
          refine iff_of_false ?_ nofun
          rw [pieces_cons]
          cases pieceAt first rest with
          | character c n =>
              intro read
              obtain ⟨_, -, impossible⟩ := bind_eq_ok_iff.mp read
              cases impossible
          | invalid => nofun
  | cons c characters ih =>
      cases bytes with
      | nil =>
          refine iff_of_false ?_ ?_
          · rw [pieces_nil]
            nofun
          · intro written
            have empty := List.append_eq_nil_iff.mp written.symm
            exact String.utf8EncodeChar_ne_nil empty.1
      | cons first rest =>
          rw [pieces_cons, List.flatMap_cons]
          constructor
          · intro read
            cases piece : pieceAt first rest with
            | invalid =>
                rw [piece] at read
                cases read
            | character d n =>
                rw [piece] at read
                obtain ⟨others, onward, same⟩ := bind_eq_ok_iff.mp read
                obtain ⟨rfl, rfl⟩ := List.cons.inj (pure_eq_ok_iff.mp same)
                rw [drop_piece piece, ← ih.mp onward]
                rfl
          · intro written
            have piece := pieceAt_eq_character.mpr ⟨⟨_, written.symm⟩, rfl⟩
            rw [drop_piece piece] at written
            have others := List.append_cancel_left written
            rw [piece]
            exact bind_eq_ok_iff.mpr ⟨characters, ih.mpr others, rfl⟩

theorem strict_eq_ok_iff {bytes : Bytes} {text : String} :
    strict bytes = .ok text ↔ bytes = Bytes.ofText text := by
  rw [strict, map_eq_ok_iff, Bytes.ofText_eq]
  constructor
  · rintro ⟨characters, read, rfl⟩
    rw [String.toList_ofList]
    exact charactersOf_eq_ok.mp read
  · intro written
    exact ⟨text.toList, charactersOf_eq_ok.mpr written, String.ofList_toList⟩

end Text.Utf8

end Jp2Render
