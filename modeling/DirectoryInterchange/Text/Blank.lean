/-!
Blank characters, and what remains of a text without them at its ends.

Two notions of blank occur: the space alone, and every character with the
Unicode property `White_Space`.
-/

namespace DirectoryInterchange.Blank

/-- The Unicode property `White_Space`. -/
def isBlank (c : Char) : Bool :=
  let code := c.toNat
  (0x09 ≤ code && code ≤ 0x0D) || code == 0x20 || code == 0x85 || code == 0xA0
    || code == 0x1680 || (0x2000 ≤ code && code ≤ 0x200A)
    || code == 0x2028 || code == 0x2029 || code == 0x202F || code == 0x205F
    || code == 0x3000

def isSpace (c : Char) : Bool :=
  c == ' '

/-- Drops the leading characters that satisfy `blank`. -/
def trimStart (blank : Char → Bool) (text : List Char) : List Char :=
  text.dropWhile blank

/-- Drops the trailing characters that satisfy `blank`. -/
def trimEnd (blank : Char → Bool) (text : List Char) : List Char :=
  (text.reverse.dropWhile blank).reverse

def trim (blank : Char → Bool) (text : List Char) : List Char :=
  trimEnd blank (trimStart blank text)

/-- A text without `White_Space` at either end. -/
def trimmed (text : List Char) : String :=
  String.ofList (trim isBlank text)

/-- The pieces between separators; there is always at least one. -/
def split (separator : Char) : List Char → List (List Char)
  | [] => [[]]
  | c :: rest =>
      if c = separator then [] :: split separator rest
      else match split separator rest with
        | [] => [[c]]
        | word :: words => (c :: word) :: words

/-- The maximal runs without a space. -/
def words (text : List Char) : List (List Char) :=
  (split ' ' text).filter (fun word => !word.isEmpty)

end DirectoryInterchange.Blank
