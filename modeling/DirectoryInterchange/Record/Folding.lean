/-!
Folding long lines.

A line that is longer than the column is cut into segments; every segment but
the first is written behind one space.  Columns count UTF-8 bytes.  A cut falls
between characters, at the last boundary that the column leaves room for, so a
segment may end short of the column.
-/

namespace DirectoryInterchange.Folding

/-- How many bytes a text takes. -/
def size : List Char → Nat
  | [] => 0
  | c :: rest => c.utf8Size + size rest

/-- How many bytes a text takes, as far as the limit. -/
def sizeWithin (limit : Nat) : List Char → Nat
  | [] => 0
  | c :: rest =>
      if limit ≤ c.utf8Size then limit
      else c.utf8Size + sizeWithin (limit - c.utf8Size) rest

/-- Whether a character starts, or the text ends, behind so many bytes. -/
def isBoundary : List Char → (offset : Nat) → Bool
  | _, 0 => true
  | [], _ + 1 => false
  | c :: rest, offset => c.utf8Size ≤ offset && isBoundary rest (offset - c.utf8Size)

/-- The last boundary that is not behind an offset. -/
def boundaryBefore (text : List Char) : (offset : Nat) → Nat
  | 0 => 0
  | offset + 1 =>
      if isBoundary text (offset + 1) then offset + 1 else boundaryBefore text offset

/-- The first boundary that is not in front of an offset. -/
def boundaryBehind (text : List Char) (offset : Nat) : Nat :=
  if offset < size text ∧ ¬isBoundary text offset then boundaryBehind text (offset + 1)
  else offset
  termination_by size text - offset

/-- Where to cut: at the last boundary up to an offset, or at the next one when
that is the start of the text. -/
def boundary (text : List Char) (offset : Nat) : Nat :=
  match boundaryBefore text offset with
  | 0 => boundaryBehind text offset
  | before + 1 => before + 1

theorem le_boundaryBehind (text : List Char) (offset : Nat) :
    offset ≤ boundaryBehind text offset := by
  fun_induction boundaryBehind text offset with
  | case1 offset inside inductionHypothesis => exact Nat.le_of_succ_le inductionHypothesis
  | case2 offset here => exact Nat.le_refl offset

theorem boundary_pos (text : List Char) {offset : Nat} (positive : 0 < offset) :
    0 < boundary text offset := by
  rw [boundary]
  split
  · exact Nat.lt_of_lt_of_le positive (le_boundaryBehind text offset)
  · exact Nat.succ_pos _

/-- The characters of so many bytes, and the rest. -/
def splitAt : (offset : Nat) → List Char → List Char × List Char
  | 0, text => ([], text)
  | _ + 1, [] => ([], [])
  | offset + 1, c :: rest =>
      let (front, back) := splitAt (offset + 1 - c.utf8Size) rest
      (c :: front, back)

theorem splitAt_append (offset : Nat) (text : List Char) :
    (splitAt offset text).1 ++ (splitAt offset text).2 = text := by
  fun_induction splitAt offset text <;> simp_all

/-- Splits off the characters that there is room for, and one at least. -/
def cut (room : Nat) (text : List Char) : List Char × List Char :=
  splitAt (boundary text (sizeWithin room text)) text

theorem cut_append (room : Nat) (text : List Char) :
    (cut room text).1 ++ (cut room text).2 = text :=
  splitAt_append _ text

theorem cut_ne_nil {room : Nat} (positive : 0 < room) {text : List Char} (nonempty : text ≠ []) :
    (cut room text).1 ≠ [] := by
  cases text with
  | nil => contradiction
  | cons c rest =>
      have wide := c.utf8Size_pos
      have some_bytes : 0 < sizeWithin room (c :: rest) := by
        rw [sizeWithin]
        split <;> omega
      obtain ⟨offset, found⟩ := Nat.exists_eq_add_of_lt (boundary_pos (c :: rest) some_bytes)
      rw [cut, found, Nat.zero_add, splitAt]
      exact List.cons_ne_nil _ _

theorem length_cut_lt
    {room : Nat} (positive : 0 < room) {text : List Char} (nonempty : text ≠ []) :
    (cut room text).2.length < text.length := by
  have some_characters := List.length_pos_iff.mpr (cut_ne_nil positive nonempty)
  have whole := congrArg List.length (cut_append room text)
  rw [List.length_append] at whole
  omega

/-- Cuts a text into pieces of at most `room` bytes. -/
def pieces (room : Nat) (positive : 0 < room) (text : List Char) : List (List Char) :=
  if _ : text = [] then []
  else (cut room text).1 :: pieces room positive (cut room text).2
  termination_by text.length
  decreasing_by exact length_cut_lt positive ‹_›

/-- The segments of a line; a column of 0 leaves every line whole.  A column
of 1 has no room behind the space, and a segment then holds one character. -/
def segments (column : Nat) (line : List Char) : List (List Char) :=
  if column = 0 ∨ size line ≤ column then [line]
  else
    let (first, rest) := cut column line
    first :: (pieces (max (column - 1) 1) (Nat.le_max_right ..) rest).map (' ' :: ·)

/-- The segments of a line as text. -/
def fold (column : Nat) (line : String) : List String :=
  (segments column line.toList).map String.ofList

end DirectoryInterchange.Folding
