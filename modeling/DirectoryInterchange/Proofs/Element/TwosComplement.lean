import DirectoryInterchange.Proofs.Element.Shortening

/-!
Integers and the bytes that spell them.

Bytes spell the number that their bits are in two's complement.  A number has one
shortest spelling, the written one; every other spelling is that one behind bytes
that only repeat the sign.
-/

namespace DirectoryInterchange

theorem Bytes.toNat_cons (first : UInt8) (rest : Bytes) :
    toNat (first :: rest) = first.toNat * 256 ^ rest.length + toNat rest := by
  induction rest using List.reverseRecOn with
  | nil => simp [toNat]
  | append_singleton rest last inductionHypothesis =>
      rw [← List.cons_append, toNat_concat, inductionHypothesis, toNat_concat,
        List.length_append, List.length_singleton, Nat.pow_succ, Nat.add_mul, Nat.mul_assoc,
        Nat.add_assoc]

namespace Element.Integer

/-! ### Two's complement -/

/-- The number that the bits of some bytes are in two's complement. -/
def twosComplement (bytes : Bytes) : Int :=
  (BitVec.ofNat (8 * bytes.length) (Bytes.toNat bytes)).toInt

theorem sign_append {front : Bytes} (nonempty : front ≠ []) (behind : Bytes) :
    sign (front ++ behind) = sign front := by
  cases front with
  | nil => contradiction
  | cons first rest => rfl

theorem value_eq (bytes : Bytes) :
    value bytes = sign bytes * 256 ^ bytes.length + Bytes.toNat bytes := by
  induction bytes using List.reverseRecOn with
  | nil => rfl
  | append_singleton front last inductionHypothesis =>
      by_cases nonempty : front = []
      · subst nonempty
        simp [value, Bytes.toNat]
      · rw [value_concat nonempty, inductionHypothesis, sign_append nonempty, Bytes.toNat_concat,
          List.length_append, List.length_singleton, Int.pow_succ, Int.add_mul, Int.mul_assoc]
        push_cast
        omega

/-- The sign is that of the first byte, since the others do not reach its high bit. -/
theorem value_eq_twosComplement (bytes : Bytes) : value bytes = twosComplement bytes := by
  have bounded := Bytes.toNat_lt bytes
  have bits : 2 ^ (8 * bytes.length) = 256 ^ bytes.length := Nat.pow_mul 2 8 _
  rw [value_eq, twosComplement, BitVec.toInt_eq_toNat_cond, BitVec.toNat_ofNat, bits,
    Nat.mod_eq_of_lt bounded]
  cases bytes with
  | nil => rfl
  | cons first rest =>
      have below := Bytes.toNat_lt rest
      rw [Bytes.toNat_cons, List.length_cons, Nat.pow_succ, sign]
      by_cases low : first < 0x80
      · have small : first.toNat ≤ 127 := Nat.le_of_lt_succ low
        have first_small := Nat.mul_le_mul_right (256 ^ rest.length) small
        rw [if_pos low, if_pos (by omega), Int.zero_mul, Int.zero_add]
      · have large : 128 ≤ first.toNat := Nat.le_of_not_lt low
        have first_large := Nat.mul_le_mul_right (256 ^ rest.length) large
        rw [if_neg low, if_neg (by omega)]
        push_cast
        omega

/-! ### Bytes that only repeat the sign -/

/-- Whether a first byte only repeats the sign of the byte behind it. -/
def repeatsSign (first next : UInt8) : Bool :=
  (first == 0x00 && next < 0x80) || (first == 0xFF && 0x80 ≤ next)

/-- Bytes without those at the front that only repeat the sign. -/
def trimmed : Bytes → Bytes
  | first :: next :: rest =>
      if repeatsSign first next then trimmed (next :: rest) else first :: next :: rest
  | bytes => bytes

/-- Whether no byte at the front only repeats the sign. -/
def Terse (bytes : Bytes) : Prop :=
  ∀ first next rest, bytes = first :: next :: rest → repeatsSign first next = false

theorem trimmed_suffix (bytes : Bytes) : trimmed bytes <:+ bytes := by
  fun_induction trimmed bytes with
  | case1 first next rest repeats inductionHypothesis =>
      exact inductionHypothesis.trans (List.suffix_cons first _)
  | case2 first next rest differs => exact List.suffix_rfl
  | case3 bytes short => exact List.suffix_rfl

theorem trimmed_ne_nil {bytes : Bytes} (nonempty : bytes ≠ []) : trimmed bytes ≠ [] := by
  fun_induction trimmed bytes with
  | case1 first next rest repeats inductionHypothesis =>
      exact inductionHypothesis (List.cons_ne_nil _ _)
  | case2 first next rest differs => exact nonempty
  | case3 bytes short => exact nonempty

theorem terse_trimmed (bytes : Bytes) : Terse (trimmed bytes) := by
  fun_induction trimmed bytes with
  | case1 first next rest repeats inductionHypothesis => exact inductionHypothesis
  | case2 first next rest differs =>
      intro _ _ _ same
      cases same
      exact Bool.eq_false_iff.mpr differs
  | case3 bytes short => exact fun first next rest same => absurd same (short first next rest)

theorem repeatsSign_iff {first next : UInt8} :
    repeatsSign first next = true ↔
      first.toNat = 0 ∧ next.toNat < 128 ∨ first.toNat = 255 ∧ 128 ≤ next.toNat := by
  simp only [repeatsSign, Bool.or_eq_true, Bool.and_eq_true, beq_iff_eq, decide_eq_true_eq,
    ← UInt8.toNat_inj, UInt8.lt_iff_toNat_lt, UInt8.le_iff_toNat_le]
  rfl

/-- A byte that repeats the sign of the next one leaves only that sign. -/
theorem sign_of_repeats {first next : UInt8} (repeats : repeatsSign first next = true)
    (rest : Bytes) :
    sign (first :: next :: rest) * 256 + first.toNat = sign (next :: rest) := by
  rw [repeatsSign_iff] at repeats
  simp only [sign, UInt8.lt_iff_toNat_lt]
  rw [show (0x80 : UInt8).toNat = 128 from rfl]
  split <;> split <;> omega

theorem value_trimmed (bytes : Bytes) : value (trimmed bytes) = value bytes := by
  fun_induction trimmed bytes with
  | case1 first next rest repeats inductionHypothesis =>
      rw [inductionHypothesis]
      conv_rhs => rw [value, List.foldl_cons, sign_of_repeats repeats]
      rfl
  | case2 first next rest differs => rfl
  | case3 bytes short => rfl

/-! ### The shortest spelling -/

theorem Terse.front {front : Bytes} {last : UInt8} (terse : Terse (front ++ [last])) :
    Terse front := by
  rintro first next rest rfl
  exact terse first next (rest ++ [last]) rfl

/-- Bytes without a needless one spell no number that a single byte holds. -/
theorem large_of_terse {front : Bytes} {last : UInt8} (nonempty : front ≠ [])
    (terse : Terse (front ++ [last])) :
    ¬(-128 ≤ value (front ++ [last]) ∧ value (front ++ [last]) ≤ 127) := by
  have lastBound := UInt8.toNat_lt last
  induction front using List.reverseRecOn generalizing last with
  | nil => contradiction
  | append_singleton front byte inductionHypothesis =>
      rw [value_concat nonempty]
      by_cases single : front = []
      · subst single
        have differs := terse byte last [] rfl
        have byteBound := UInt8.toNat_lt byte
        rw [Bool.eq_false_iff, Ne, repeatsSign_iff] at differs
        simp only [List.nil_append, value, List.foldl_cons, List.foldl_nil, sign,
          UInt8.lt_iff_toNat_lt]
        rw [show (0x80 : UInt8).toNat = 128 from rfl]
        split <;> omega
      · have large := inductionHypothesis single terse.front (UInt8.toNat_lt byte)
        omega

theorem lowByte_concat (number : Int) (byte : UInt8) :
    lowByte (number * 256 + byte.toNat) = byte := by
  have low := toNat_lowByte (number * 256 + byte.toNat)
  have bound := UInt8.toNat_lt byte
  apply UInt8.toNat_inj.mp
  omega

/-- Bytes without a needless one are what their number is written as. -/
theorem shortest_value_of_terse {bytes : Bytes} (nonempty : bytes ≠ []) (terse : Terse bytes) :
    shortest (value bytes) = bytes := by
  induction bytes using List.reverseRecOn with
  | nil => contradiction
  | append_singleton front last inductionHypothesis =>
      have lastBound := UInt8.toNat_lt last
      by_cases single : front = []
      · subst single
        obtain ⟨low, high⟩ := @within_value [last] 0 rfl
        rw [List.nil_append, shortest_of_small (by omega)]
        have alone : value [last] = sign [last] * 256 + last.toNat := rfl
        rw [alone, lowByte_concat]
      · rw [shortest_of_large (large_of_terse single terse), value_concat single, lowByte_concat]
        have high : (value front * 256 + last.toNat) / 256 = value front := by omega
        rw [high, inductionHypothesis single terse.front]

theorem shortest_value {bytes : Bytes} (nonempty : bytes ≠ []) :
    shortest (value bytes) = trimmed bytes := by
  rw [← value_trimmed]
  exact shortest_value_of_terse (trimmed_ne_nil nonempty) (terse_trimmed bytes)

/-- Numbers are coded exactly.  Those of 64 bits are written in the fewest bytes that are
read as them.  One to eight bytes are read as their two's complement, and what was read is
written anew without the bytes at the front that only repeat the sign.  Up to four of
them are read as a number of 32 bits too, which is the same. -/
theorem coded_exactly :
    (∀ word : Int64, decodeLong (encode word) = .ok word ∧
      ∀ bytes, decodeLong bytes = .ok word → (encode word).length ≤ bytes.length) ∧
    (∀ bytes : Bytes, 1 ≤ bytes.length → bytes.length ≤ 8 →
      ∃ word, decodeLong bytes = .ok word ∧ word.toInt = twosComplement bytes ∧
        encode word = trimmed bytes ∧ trimmed bytes <:+ bytes) ∧
    ∀ bytes : Bytes,
      ((∃ number, decode bytes = .ok number) ↔ 1 ≤ bytes.length ∧ bytes.length ≤ 4) ∧
      ∀ number, decode bytes = .ok number →
        decodeLong bytes = .ok number.toInt64 ∧ number.toInt = twosComplement bytes := by
  refine ⟨fun word => ⟨decodeLong_encode word, ?_⟩, ?_, fun bytes => ⟨⟨?_, ?_⟩, ?_⟩⟩
  · intro bytes read
    obtain ⟨nonempty, -, same⟩ := decodeLong_eq_ok.mp read
    exact length_encode_le nonempty same
  · intro bytes nonempty short
    have read := toInt_register nonempty short
    refine ⟨register bytes, decodeLong_eq_ok.mpr ⟨nonempty, short, read.symm⟩, ?_, ?_,
      trimmed_suffix bytes⟩
    · rw [read, value_eq_twosComplement]
    · rw [encode_eq_shortest, read, shortest_value (List.length_pos_iff.mp nonempty)]
  · rintro ⟨number, read⟩
    obtain ⟨nonempty, short, -⟩ := decode_eq_ok.mp read
    exact ⟨nonempty, short⟩
  · rintro ⟨nonempty, short⟩
    have read := toInt_toInt32_register nonempty short
    exact ⟨_, decode_eq_ok.mpr ⟨nonempty, short, read.symm⟩⟩
  · intro number read
    obtain ⟨nonempty, short, same⟩ := decode_eq_ok.mp read
    rw [← value_eq_twosComplement, same, decodeLong_eq_ok, Int32.toInt_toInt64]
    exact ⟨⟨nonempty, by omega, same⟩, rfl⟩

/-- A needless byte in front of one with its high bit set, the numbers on both sides of a
bound between two widths, and the least numbers of 32 and of 64 bits. -/
theorem coded_exactly_negative :
    (∃ word, decodeLong [0xFF, 0xFF, 0x7F] = .ok word ∧ word.toInt = -129 ∧
      encode word = [0xFF, 0x7F]) ∧
    encode (-0x80_0000) = [0x80, 0x00, 0x00] ∧
    encode (-0x80_0001) = [0xFF, 0x7F, 0xFF, 0xFF] ∧
    (∀ bytes, decodeLong bytes = .ok (-0x80_0001) → 4 ≤ bytes.length) ∧
    decode [0x80, 0x00, 0x00, 0x00] = .ok Int32.minValue ∧
    decodeLong [0x80, 0x00, 0x00, 0x00] = .ok Int32.minValue.toInt64 ∧
    decodeLong (encode Int64.minValue) = .ok Int64.minValue := by
  obtain ⟨written, read, narrowed⟩ := coded_exactly
  obtain ⟨word, long, same, anew, -⟩ := read [0xFF, 0xFF, 0x7F] (by decide) (by decide)
  have least : decode [0x80, 0x00, 0x00, 0x00] = .ok Int32.minValue := by decide
  refine ⟨⟨word, long, same, anew⟩, by decide, by decide, (written (-0x80_0001)).2, least,
    ((narrowed _).2 _ least).1, (written _).1⟩

end Element.Integer

end DirectoryInterchange
