import DirectoryInterchange.Text.Base64
import DirectoryInterchange.Text.Blank

/-!
What is spelled in base 64 is read back, and its spelling has nothing blank.
-/

namespace DirectoryInterchange.Base64

theorem digits_read : ∀ value ∈ List.range 64,
    value? (digit value) = some value ∧ digit value ≠ '=' := by
  decide

theorem value?_digit {value : Nat} (bounded : value < 64) : value? (digit value) = some value :=
  (digits_read value (List.mem_range.mpr bounded)).1

theorem digit_ne_padding {value : Nat} (bounded : value < 64) : digit value ≠ '=' :=
  (digits_read value (List.mem_range.mpr bounded)).2

theorem decode?_group
    {p q r s : Char} (unpadded : s ≠ '=') {rest : List Char} {a b c d : Nat} {bytes : Bytes}
    (first : value? p = some a) (second : value? q = some b) (third : value? r = some c)
    (fourth : value? s = some d) (others : decode? rest = some bytes) :
    decode? (p :: q :: r :: s :: rest)
      = some (UInt8.ofNat (a * 4 + b / 16) :: UInt8.ofNat (b % 16 * 16 + c / 4)
          :: UInt8.ofNat (c % 4 * 64 + d) :: bytes) := by
  rw [decode?]
  · simp [first, second, third, fourth, others]
  · intro padding
    exact fun same _ => absurd same unpadded
  · exact fun same _ => absurd same unpadded

theorem decode?_pair
    {p q : Char} {a b : Nat} (first : value? p = some a) (second : value? q = some b)
    (clean : b % 16 = 0) : decode? [p, q, '=', '='] = some [UInt8.ofNat (a * 4 + b / 16)] := by
  simp [decode?, first, second, clean]

theorem decode?_triple
    {p q r : Char} (unpadded : r ≠ '=') {a b c : Nat}
    (first : value? p = some a) (second : value? q = some b) (third : value? r = some c)
    (clean : c % 4 = 0) :
    decode? [p, q, r, '=']
      = some [UInt8.ofNat (a * 4 + b / 16), UInt8.ofNat (b % 16 * 16 + c / 4)] := by
  rw [decode?]
  · simp [first, second, third, clean]
  · exact fun same => absurd same unpadded

theorem ofNat_eq {byte : UInt8} {number : Nat} (same : number = byte.toNat) :
    UInt8.ofNat number = byte := by
  rw [same, UInt8.ofNat_toNat]

theorem decode?_encodeCharacters (bytes : Bytes) :
    decode? (encodeCharacters bytes) = some bytes := by
  fun_induction encodeCharacters bytes with
  | case1 => rfl
  | case2 a =>
      have bounded := a.toNat_lt
      rw [decode?_pair (value?_digit (by omega)) (value?_digit (by omega)) (by omega),
        @ofNat_eq a _ (by omega)]
  | case3 a b =>
      have a_lt := a.toNat_lt
      have b_lt := b.toNat_lt
      rw [decode?_triple (digit_ne_padding (by omega)) (value?_digit (by omega))
        (value?_digit (by omega)) (value?_digit (by omega)) (by omega),
        @ofNat_eq a _ (by omega), @ofNat_eq b _ (by omega)]
  | case4 a b c rest inductionHypothesis =>
      have a_lt := a.toNat_lt
      have b_lt := b.toNat_lt
      have c_lt := c.toNat_lt
      rw [decode?_group (digit_ne_padding (by omega)) (value?_digit (by omega))
        (value?_digit (by omega)) (value?_digit (by omega)) (value?_digit (by omega))
        inductionHypothesis, @ofNat_eq a _ (by omega), @ofNat_eq b _ (by omega),
        @ofNat_eq c _ (by omega)]

/-! ### The alphabet -/

theorem digits_ascii : ∀ value ∈ List.range 64,
    Blank.isBlank (digit value) = false ∧ (digit value).toNat < 0x80 := by
  decide

/-- Whether a character may occur in base 64, as far as others care. -/
def IsPlain (c : Char) : Prop :=
  Blank.isBlank c = false ∧ c.toNat < 0x80

theorem isPlain_digit {value : Nat} (bounded : value < 64) : IsPlain (digit value) :=
  digits_ascii value (List.mem_range.mpr bounded)

theorem isPlain_padding : IsPlain '=' :=
  ⟨rfl, by decide⟩

theorem isPlain_of_mem {bytes : Bytes} : ∀ c ∈ encodeCharacters bytes, IsPlain c := by
  fun_induction encodeCharacters bytes with
  | case1 => exact fun c member => by cases member
  | case2 a =>
      have a_lt := a.toNat_lt
      simp only [List.forall_mem_cons]
      refine ⟨isPlain_digit (by omega), isPlain_digit (by omega), isPlain_padding,
        isPlain_padding, ?_⟩
      exact fun c member => by cases member
  | case3 a b =>
      have a_lt := a.toNat_lt
      have b_lt := b.toNat_lt
      simp only [List.forall_mem_cons]
      refine ⟨isPlain_digit (by omega), isPlain_digit (by omega), isPlain_digit (by omega),
        isPlain_padding, ?_⟩
      exact fun c member => by cases member
  | case4 a b c rest inductionHypothesis =>
      have a_lt := a.toNat_lt
      have b_lt := b.toNat_lt
      have c_lt := c.toNat_lt
      simp only [List.forall_mem_cons]
      exact ⟨isPlain_digit (by omega), isPlain_digit (by omega), isPlain_digit (by omega),
        isPlain_digit (by omega), inductionHypothesis⟩

end DirectoryInterchange.Base64
