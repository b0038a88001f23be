import DirectoryInterchange.Text.Utf8

/-!
Text survives being written as UTF-8 and read back, and ASCII bytes are the
characters that they stand for.
-/

namespace DirectoryInterchange.Utf8

@[simp] theorem decode?_encode (text : String) : decode? (encode text) = some text := by
  have spelled : ByteArray.mk (encode text).toArray = text.toList.utf8Encode := by
    apply ByteArray.ext
    simp [encode, List.utf8Encode]
  rw [decode?, spelled, List.utf8Decode?_utf8Encode]
  simp

theorem encode_inj {first second : String} :
    encode first = encode second ↔ first = second := by
  constructor
  · intro same
    simpa using congrArg decode? same
  · exact congrArg encode

/-- Bytes that spell a text are the only ones that do. -/
theorem encode_of_decode? {bytes : Bytes} {text : String} (decoded : decode? bytes = some text) :
    encode text = bytes := by
  obtain ⟨characters, read, rfl⟩ := Option.map_eq_some_iff.mp decoded
  have spelled : characters.toList.utf8Encode = ByteArray.mk bytes.toArray := by
    have whole := @ByteArray.utf8Encode_get_utf8Decode? (ByteArray.mk bytes.toArray)
      (by rw [read]; rfl)
    simpa only [read, Option.get_some] using whole
  have same := congrArg (fun array => array.data.toList) spelled
  simpa [encode, List.utf8Encode] using same

/-! ### Bytes of characters -/

theorem toNat_ofNat_of_lt {number : Nat} (small : number < 256) :
    (UInt8.ofNat number).toNat = number := by
  rw [UInt8.toNat_ofNat']
  omega

theorem encodeChar_of_ascii {c : Char} (ascii : c.toNat < 0x80) :
    String.utf8EncodeChar c = [UInt8.ofNat c.toNat] := by
  have small : c.val.toNat ≤ 127 := Nat.le_of_lt_succ ascii
  rw [String.utf8EncodeChar, if_pos small]
  rfl

/-- Every byte of a character beyond ASCII has its high bit set. -/
theorem high_of_mem
    {c : Char} (beyond : ¬c.toNat < 0x80) {byte : UInt8}
    (member : byte ∈ String.utf8EncodeChar c) : 0x80 ≤ byte.toNat := by
  have large : ¬c.val.toNat ≤ 127 := fun small => beyond (Nat.lt_succ_of_le small)
  rw [String.utf8EncodeChar, if_neg large] at member
  split at member
  · simp only [List.mem_cons, List.not_mem_nil, or_false] at member
    rcases member with rfl | rfl <;> rw [toNat_ofNat_of_lt (by omega)] <;> omega
  split at member
  · simp only [List.mem_cons, List.not_mem_nil, or_false] at member
    rcases member with rfl | rfl | rfl <;> rw [toNat_ofNat_of_lt (by omega)] <;> omega
  · simp only [List.mem_cons, List.not_mem_nil, or_false] at member
    rcases member with rfl | rfl | rfl | rfl <;> rw [toNat_ofNat_of_lt (by omega)] <;> omega

theorem lineFeed_not_mem {text : String} (absent : '\n' ∉ text.toList) :
    0x0A ∉ encode text := by
  intro member
  obtain ⟨c, inside, spelled⟩ := List.mem_flatMap.mp member
  by_cases ascii : c.toNat < 0x80
  · rw [encodeChar_of_ascii ascii, List.mem_singleton] at spelled
    have same := congrArg UInt8.toNat spelled
    rw [toNat_ofNat_of_lt (by omega)] at same
    have feed : c = '\n' := Char.toNat_inj.mp same.symm
    exact absent (feed ▸ inside)
  · exact absurd (high_of_mem ascii spelled) (by decide)

/-! ### ASCII -/

/-- The character that an ASCII byte stands for. -/
def character (byte : UInt8) : Char :=
  Char.ofNat byte.toNat

theorem toNat_character {byte : UInt8} (ascii : byte.toNat < 0x80) :
    (character byte).toNat = byte.toNat := by
  have scalar : byte.toNat.isValidChar := Or.inl (by omega)
  rw [character, Char.ofNat, dif_pos scalar]
  rfl

theorem decodeLossyCharacters_of_ascii
    {bytes : Bytes} (ascii : ∀ byte ∈ bytes, byte.toNat < 0x80) :
    decodeLossyCharacters bytes = bytes.map character := by
  induction bytes with
  | nil => rw [decodeLossyCharacters, List.map_nil]
  | cons byte bytes inductionHypothesis =>
      have low : byte < 0x80 := ascii byte List.mem_cons_self
      have alone : followers byte = some [] := by rw [followers, if_pos low]
      have rest := inductionHypothesis fun other member =>
        ascii other (List.mem_cons_of_mem _ member)
      rw [decodeLossyCharacters, alone, List.map_cons]
      simp only [matching, List.drop_zero, rest]
      rfl

theorem encode_characters
    {bytes : Bytes} (ascii : ∀ byte ∈ bytes, byte.toNat < 0x80) :
    encode (String.ofList (bytes.map character)) = bytes := by
  induction bytes with
  | nil => rfl
  | cons byte bytes inductionHypothesis =>
      have low := ascii byte List.mem_cons_self
      have rest := inductionHypothesis fun other member =>
        ascii other (List.mem_cons_of_mem _ member)
      rw [encode, String.toList_ofList] at rest ⊢
      rw [List.map_cons, List.flatMap_cons, rest,
        encodeChar_of_ascii (by rw [toNat_character low]; exact low), toNat_character low,
        UInt8.ofNat_toNat]
      rfl

end DirectoryInterchange.Utf8
