import Mathlib.Algebra.Ring.Int.Defs
import Mathlib.Data.List.Induction
import DirectoryInterchange.Element.Scalar

/-!
Integers in two's complement survive being written and read back.

A number is written in as many bytes as its range asks for.  These are the bytes
that are left when the low byte of an unbounded number is split off until the
rest fits into a single signed byte, and reading takes them up the other way.
-/

namespace DirectoryInterchange

/-- The last digits of a number do not depend on how many stand in front of them. -/
theorem Bytes.drop_bigEndian (front width number : Nat) :
    (bigEndian (front + width) number).drop front = bigEndian width number := by
  induction width generalizing number with
  | zero => exact List.drop_eq_nil_of_le (Nat.le_of_eq (length_bigEndian _ _))
  | succ width inductionHypothesis =>
      rw [← Nat.add_assoc, bigEndian, List.drop_append_of_le_length, inductionHypothesis, bigEndian]
      rw [length_bigEndian]
      exact Nat.le_add_right front width

namespace Element.Integer

/-! ### The number that bytes stand for -/

/-- The number whose two's complement form is `bytes`, without a bound. -/
def value (bytes : Bytes) : Int :=
  bytes.foldl (fun number byte => number * 256 + byte.toNat) (sign bytes)

theorem value_concat {bytes : Bytes} (nonempty : bytes ≠ []) (byte : UInt8) :
    value (bytes ++ [byte]) = value bytes * 256 + byte.toNat := by
  cases bytes with
  | nil => contradiction
  | cons first rest => simp [value, sign]

/-- The numbers for which one signed byte and so many more are enough. -/
def Within (extra : Nat) (number : Int) : Prop :=
  -(128 * 256 ^ extra) ≤ number ∧ number < 128 * 256 ^ extra

theorem Within.mono {fewer extra : Nat} {number : Int} (fits : Within fewer number)
    (le : fewer ≤ extra) : Within extra number := by
  have wider : (256 : Int) ^ fewer ≤ 256 ^ extra := by
    exact_mod_cast Nat.pow_le_pow_right (by decide : 0 < 256) le
  obtain ⟨low, high⟩ := fits
  constructor <;> omega

/-- Each byte beyond the first makes room for eight bits more, and no others. -/
theorem within_value {bytes : Bytes} {extra : Nat} (length : bytes.length = extra + 1) :
    Within extra (value bytes) := by
  induction extra generalizing bytes with
  | zero =>
      obtain ⟨byte, rfl⟩ := List.length_eq_one_iff.mp length
      have low := UInt8.toNat_lt byte
      simp only [Within, value, List.foldl_cons, List.foldl_nil, sign, UInt8.lt_iff_toNat_lt]
      rw [show (0x80 : UInt8).toNat = 128 from rfl]
      split <;> omega
  | succ extra inductionHypothesis =>
      obtain ⟨front, byte, rfl⟩ : ∃ front byte, bytes = front ++ [byte] :=
        ⟨_, _, (List.dropLast_concat_getLast (List.ne_nil_of_length_eq_add_one length)).symm⟩
      have frontLength : front.length = extra + 1 := by simpa using length
      obtain ⟨low, high⟩ := inductionHypothesis frontLength
      have byteBound := UInt8.toNat_lt byte
      rw [Within, value_concat (List.ne_nil_of_length_eq_add_one frontLength), Int.pow_succ]
      omega

theorem within_value_of_le {bytes : Bytes} {extra : Nat} (nonempty : 1 ≤ bytes.length)
    (short : bytes.length ≤ extra + 1) : Within extra (value bytes) := by
  obtain ⟨fewer, length⟩ := Nat.exists_eq_add_of_le' nonempty
  exact (within_value length).mono (by omega)

/-! ### The shortest bytes for a number -/

/-- The low byte of a number. -/
def lowByte (number : Int) : UInt8 :=
  UInt8.ofNat (number % 256).toNat

theorem toNat_lowByte (number : Int) : ((lowByte number).toNat : Int) = number % 256 := by
  rw [lowByte, UInt8.toNat_ofNat']
  omega

/-- The shortest two's complement form of a number of any size: the low byte is
split off until the rest fits into a single signed byte. -/
def shortest (number : Int) : Bytes :=
  if -128 ≤ number ∧ number ≤ 127 then [lowByte number]
  else shortest (number / 256) ++ [lowByte number]
  termination_by number.natAbs
  decreasing_by omega

theorem shortest_of_small {number : Int} (small : -128 ≤ number ∧ number ≤ 127) :
    shortest number = [lowByte number] := by
  rw [shortest, if_pos small]

theorem shortest_of_large {number : Int} (large : ¬(-128 ≤ number ∧ number ≤ 127)) :
    shortest number = shortest (number / 256) ++ [lowByte number] := by
  rw [shortest, if_neg large]

theorem shortest_ne_nil (number : Int) : shortest number ≠ [] := by
  by_cases small : -128 ≤ number ∧ number ≤ 127
  · simp [shortest_of_small small]
  · simp [shortest_of_large small]

theorem value_lowByte {number : Int} (small : -128 ≤ number ∧ number ≤ 127) :
    value [lowByte number] = number := by
  have low := toNat_lowByte number
  simp only [value, List.foldl_cons, List.foldl_nil, sign, low, UInt8.lt_iff_toNat_lt]
  rw [show (0x80 : UInt8).toNat = 128 from rfl]
  split <;> omega

theorem value_shortest (number : Int) : value (shortest number) = number := by
  fun_induction shortest number with
  | case1 number small => exact value_lowByte small
  | case2 number large inductionHypothesis =>
      have low := toNat_lowByte number
      rw [value_concat (shortest_ne_nil _), inductionHypothesis]
      omega

/-- Whatever is too large for fewer bytes is written in exactly so many digits. -/
theorem bigEndian_eq_shortest {extra digits : Nat} {number turns : Int}
    (same : digits = number + turns * 256 ^ (extra + 1)) (fits : Within extra number)
    (large : ∀ fewer < extra, ¬Within fewer number) :
    Bytes.bigEndian (extra + 1) digits = shortest number := by
  -- Both sides give up their last byte, and what is left needs one byte less.
  induction extra generalizing digits number with
  | zero =>
      obtain ⟨low, high⟩ := fits
      rw [shortest_of_small (by omega), Bytes.bigEndian, Bytes.bigEndian, List.nil_append]
      have byte : UInt8.ofNat digits = lowByte number := by
        apply UInt8.toNat_inj.mp
        have := toNat_lowByte number
        rw [UInt8.toNat_ofNat']
        omega
      rw [byte]
  | succ extra inductionHypothesis =>
      obtain ⟨low, high⟩ := fits
      have wide : ¬(-128 ≤ number ∧ number ≤ 127) := by
        have := large 0 (Nat.succ_pos extra)
        rw [Within] at this
        omega
      have shifted : (256 : Int) ^ (extra + 1 + 1) = 256 ^ (extra + 1) * 256 := Int.pow_succ ..
      rw [shifted, ← Int.mul_assoc] at same
      rw [Int.pow_succ] at low high
      have front := @inductionHypothesis (digits / 256) (number / 256) (by omega)
        (by constructor <;> omega) ?_
      · have byte : UInt8.ofNat digits = lowByte number := by
          apply UInt8.toNat_inj.mp
          have := toNat_lowByte number
          rw [UInt8.toNat_ofNat']
          omega
        rw [shortest_of_large wide, ← front, Bytes.bigEndian, byte]
      · intro fewer less fits
        apply large (fewer + 1) (Nat.succ_lt_succ less)
        obtain ⟨low, high⟩ := fits
        rw [Within, Int.pow_succ]
        omega

/-! ### Numbers of 64 bits -/

variable {bytes : Bytes}

theorem within_toInt (word : Int64) : Within 7 word.toInt :=
  ⟨word.le_toInt, word.toInt_lt⟩

/-- The ranges are those of so many signed bytes, each around the one in front. -/
theorem width_le_iff (word : Int64) {extra : Nat} (few : extra ≤ 7) :
    width word ≤ extra + 1 ↔ Within extra word.toInt := by
  obtain ⟨low, high⟩ := within_toInt word
  have counts : extra = 0 ∨ extra = 1 ∨ extra = 2 ∨ extra = 3 ∨ extra = 4 ∨ extra = 5 ∨
      extra = 6 ∨ extra = 7 := by omega
  simp only [width, Within, Int64.le_iff_toInt_le, Int64.toInt_neg, Int64.reduceToInt,
    Int.reduceNeg, Nat.reducePow, Int.reduceBmod]
  -- For each range and each number of bytes, two linear statements are left.
  repeat' split
  all_goals rcases counts with rfl | rfl | rfl | rfl | rfl | rfl | rfl | rfl <;> omega

theorem width_pos (word : Int64) : 1 ≤ width word := by
  unfold width
  repeat' split
  all_goals decide

theorem width_le (word : Int64) : width word ≤ 8 :=
  (width_le_iff word (Nat.le_refl 7)).mpr (within_toInt word)

theorem encode_eq_bigEndian (word : Int64) :
    encode word = Bytes.bigEndian (width word) word.toUInt64.toNat := by
  have all : 8 - width word + width word = 8 := Nat.sub_add_cancel (width_le word)
  have dropped := Bytes.drop_bigEndian (8 - width word) (width word) word.toUInt64.toNat
  rwa [all] at dropped

@[simp] theorem length_encode (word : Int64) : (encode word).length = width word := by
  rw [encode_eq_bigEndian, Bytes.length_bigEndian]

/-- The unsigned number of a word goes once around when the signed one is negative. -/
theorem toNat_toUInt64 (word : Int64) :
    ∃ turns : Int, (word.toUInt64.toNat : Int) = word.toInt + turns * 2 ^ 64 := by
  have signed : word.toInt = (word.toUInt64.toNat : Int).bmod (2 ^ 64) :=
    BitVec.toInt_eq_toNat_bmod _
  have bounded := word.toUInt64.toNat_lt
  rw [signed, Int.bmod]
  split
  · exact ⟨0, by omega⟩
  · exact ⟨1, by omega⟩

/-- The table of ranges and the bytes that are split off one by one agree. -/
theorem encode_eq_shortest (word : Int64) : encode word = shortest word.toInt := by
  obtain ⟨extra, width_eq⟩ := Nat.exists_eq_add_of_le' (width_pos word)
  have few : extra ≤ 7 := by
    have := width_le word
    omega
  have fits : Within extra word.toInt := (width_le_iff word few).mp (Nat.le_of_eq width_eq)
  have large : ∀ fewer < extra, ¬Within fewer word.toInt := by
    intro fewer less fits
    have narrow := (width_le_iff word (by omega)).mpr fits
    omega
  obtain ⟨turns, same⟩ := toNat_toUInt64 word
  have whole : (2 : Int) ^ 64 = 256 ^ (7 - extra) * 256 ^ (extra + 1) := by
    rw [← Int.pow_add, show 7 - extra + (extra + 1) = 8 by omega]
    rfl
  rw [whole, ← Int.mul_assoc] at same
  rw [encode_eq_bigEndian, width_eq]
  exact bigEndian_eq_shortest same fits large

theorem value_encode (word : Int64) : value (encode word) = word.toInt := by
  rw [encode_eq_shortest, value_shortest]

/-- No fewer bytes stand for the number. -/
theorem length_encode_le {word : Int64} (nonempty : 1 ≤ bytes.length)
    (same : value bytes = word.toInt) : (encode word).length ≤ bytes.length := by
  obtain ⟨extra, length⟩ := Nat.exists_eq_add_of_le' nonempty
  rw [length_encode, length]
  by_cases few : extra ≤ 7
  · apply (width_le_iff word few).mpr
    rw [← same]
    exact within_value length
  · have := width_le word
    omega

/-! ### Registers -/

/-- A shifted word has room for a byte, and loses what the register has no room for. -/
theorem shift_or (number : Int) (byte : UInt8) :
    Int64.ofInt number <<< 8 ||| Int64.ofNat byte.toNat
      = Int64.ofInt (number * 256 + byte.toNat) := by
  have bound := UInt8.toNat_lt byte
  have lost (word : Nat) : word <<< 8 % 2 ^ 64 = (word % 2 ^ 56) <<< 8 := by
    rw [Nat.shiftLeft_eq, Nat.shiftLeft_eq]
    omega
  apply Int64.toBitVec_inj.mp
  show BitVec.ofInt 64 number <<< 8 ||| BitVec.ofNat 64 byte.toNat
    = BitVec.ofInt 64 (number * 256 + byte.toNat)
  apply BitVec.eq_of_toNat_eq
  rw [BitVec.toNat_or, BitVec.toNat_shiftLeft, BitVec.toNat_ofInt, BitVec.toNat_ofInt,
    BitVec.toNat_ofNat, Nat.mod_eq_of_lt (by omega : byte.toNat < 2 ^ 64), lost,
    ← Nat.shiftLeft_add_eq_or_of_lt bound, Nat.shiftLeft_eq]
  omega

theorem register_eq (bytes : Bytes) : register bytes = Int64.ofInt (value bytes) := by
  unfold register value
  generalize sign bytes = start
  induction bytes using List.reverseRecOn with
  | nil => rfl
  | append_singleton front last inductionHypothesis =>
      rw [List.foldl_append, List.foldl_append, inductionHypothesis]
      exact shift_or _ last

theorem toInt_register (nonempty : 1 ≤ bytes.length) (short : bytes.length ≤ 8) :
    (register bytes).toInt = value bytes := by
  obtain ⟨low, high⟩ := @within_value_of_le bytes 7 nonempty short
  rw [register_eq, Int64.toInt_ofInt_of_le (by omega) (by omega)]

/-- Numbers of at most four bytes lose nothing when the register is narrowed. -/
theorem toInt_toInt32_register (nonempty : 1 ≤ bytes.length) (short : bytes.length ≤ 4) :
    (register bytes).toInt32.toInt = value bytes := by
  obtain ⟨low, high⟩ := @within_value_of_le bytes 3 nonempty short
  rw [Int64.toInt_toInt32, toInt_register nonempty (by omega)]
  exact Int.bmod_eq_of_le (by omega) (by omega)

/-! ### Reading -/

theorem decodeWithin_eq_ok {form : Form} {limit : Nat} {word : Int64} :
    decodeWithin form limit bytes = .ok word ↔
      1 ≤ bytes.length ∧ bytes.length ≤ limit ∧ register bytes = word := by
  rw [decodeWithin]
  split
  · next refused =>
      simp only [Bool.or_eq_true, List.isEmpty_iff_length_eq_zero, decide_eq_true_eq] at refused
      simp only [reduceCtorEq, false_iff]
      omega
  · next taken =>
      simp only [Bool.or_eq_true, List.isEmpty_iff_length_eq_zero, decide_eq_true_eq] at taken
      simp only [Except.ok.injEq]
      constructor
      · exact fun same => ⟨by omega, by omega, same⟩
      · exact fun found => found.2.2

/-- Up to eight bytes are read as the number that they stand for. -/
theorem decodeLong_eq_ok {word : Int64} :
    decodeLong bytes = .ok word ↔
      1 ≤ bytes.length ∧ bytes.length ≤ 8 ∧ value bytes = word.toInt := by
  rw [decodeLong, decodeWithin_eq_ok]
  constructor
  · rintro ⟨nonempty, short, rfl⟩
    exact ⟨nonempty, short, (toInt_register nonempty short).symm⟩
  · rintro ⟨nonempty, short, same⟩
    refine ⟨nonempty, short, Int64.toInt_inj.mp ?_⟩
    rw [toInt_register nonempty short, same]

/-- Up to four bytes are read as the number that they stand for. -/
theorem decode_eq_ok {number : Int32} :
    decode bytes = .ok number ↔
      1 ≤ bytes.length ∧ bytes.length ≤ 4 ∧ value bytes = number.toInt := by
  have narrowed : decode bytes = .ok number ↔
      ∃ word, decodeWithin .integer 4 bytes = .ok word ∧ word.toInt32 = number := by
    rw [decode]
    cases decodeWithin .integer 4 bytes <;> simp [Except.map]
  rw [narrowed]
  constructor
  · rintro ⟨word, read, rfl⟩
    obtain ⟨nonempty, short, rfl⟩ := decodeWithin_eq_ok.mp read
    exact ⟨nonempty, short, (toInt_toInt32_register nonempty short).symm⟩
  · rintro ⟨nonempty, short, same⟩
    refine ⟨_, decodeWithin_eq_ok.mpr ⟨nonempty, short, rfl⟩, Int32.toInt_inj.mp ?_⟩
    rw [toInt_toInt32_register nonempty short, same]

@[simp] theorem decodeLong_encode (word : Int64) : decodeLong (encode word) = .ok word := by
  apply decodeLong_eq_ok.mpr
  rw [length_encode]
  exact ⟨width_pos word, width_le word, value_encode word⟩

@[simp] theorem decode_encode (number : Int32) :
    decode (encode number.toInt64) = .ok number := by
  have widened : number.toInt64.toInt = number.toInt := Int32.toInt_toInt64 number
  have fits : Within 3 number.toInt64.toInt := by
    rw [widened]
    exact ⟨number.le_toInt, number.toInt_lt⟩
  apply decode_eq_ok.mpr
  rw [length_encode, value_encode]
  exact ⟨width_pos _, (width_le_iff _ (by decide)).mpr fits, widened⟩

end Element.Integer

end DirectoryInterchange
