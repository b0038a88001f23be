import DirectoryInterchange.Bytes

/-!
Text as UTF-8 bytes.  `decode?` reads exactly what `encode` writes;
`decodeLossy` reads every byte sequence and puts one replacement character
for each maximal part that no character starts or completes.
-/

namespace DirectoryInterchange.Utf8

def encode (text : String) : Bytes :=
  text.toList.flatMap String.utf8EncodeChar

/-- The text that `bytes` spell, when they are valid UTF-8. -/
def decode? (bytes : Bytes) : Option String :=
  (ByteArray.mk bytes.toArray).utf8Decode?.map (fun characters => String.ofList characters.toList)

@[simp] theorem encode_empty : encode "" = [] := rfl

@[simp] theorem encode_append (left right : String) :
    encode (left ++ right) = encode left ++ encode right := by
  simp [encode, String.toList_append]

/-- The bytes that may follow a first byte, one closed range for each. -/
def followers (first : UInt8) : Option (List (UInt8 × UInt8)) :=
  if first < 0x80 then some []
  else if 0xC2 ≤ first && first ≤ 0xDF then some [(0x80, 0xBF)]
  else if first == 0xE0 then some [(0xA0, 0xBF), (0x80, 0xBF)]
  else if first == 0xED then some [(0x80, 0x9F), (0x80, 0xBF)]
  else if 0xE1 ≤ first && first ≤ 0xEF then some [(0x80, 0xBF), (0x80, 0xBF)]
  else if first == 0xF0 then some [(0x90, 0xBF), (0x80, 0xBF), (0x80, 0xBF)]
  else if first == 0xF4 then some [(0x80, 0x8F), (0x80, 0xBF), (0x80, 0xBF)]
  else if 0xF1 ≤ first && first ≤ 0xF3 then some [(0x80, 0xBF), (0x80, 0xBF), (0x80, 0xBF)]
  else none

/-- How many of the next bytes lie in their ranges. -/
def matching : List (UInt8 × UInt8) → Bytes → Nat
  | (low, high) :: ranges, byte :: bytes =>
      if low ≤ byte && byte ≤ high then matching ranges bytes + 1 else 0
  | _, _ => 0

/-- The code point of a well-formed sequence: the bits that its first byte
has room for, then six bits for each byte that follows. -/
def codePoint (first : UInt8) (rest : Bytes) : Nat :=
  let leading := match rest.length with
    | 0 => first.toNat
    | 1 => first.toNat % 0x20
    | 2 => first.toNat % 0x10
    | _ => first.toNat % 0x08
  rest.foldl (fun code byte => code * 64 + byte.toNat % 64) leading

def decodeLossyCharacters : Bytes → List Char
  | [] => []
  | first :: rest =>
      match followers first with
      | none => '\uFFFD' :: decodeLossyCharacters rest
      | some ranges =>
          let count := matching ranges rest
          let c :=
            if count = ranges.length then Char.ofNat (codePoint first (rest.take count))
            else '\uFFFD'
          c :: decodeLossyCharacters (rest.drop count)
  termination_by bytes => bytes.length
  decreasing_by all_goals (simp only [List.length_cons, List.length_drop]; omega)

def decodeLossy (bytes : Bytes) : String :=
  String.ofList (decodeLossyCharacters bytes)

end DirectoryInterchange.Utf8
