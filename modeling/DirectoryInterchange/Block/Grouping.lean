import DirectoryInterchange.Record.Error

/-!
Grouping lines into the blocks of records.

Blank lines separate blocks.  A line that starts with a space continues the
line in front of it, and a line that starts with `#` is a comment with all of
its continuations.  A version line is skipped at the very start.
-/

namespace DirectoryInterchange

/-- The lines of one record, unfolded and not yet interpreted. -/
structure Block where
  lines : List String
  /-- The line on which the record starts, counted from 1. -/
  firstLine : Nat := 1
  /-- The first line of the record that was no text. -/
  invalidLine : Option Nat := none
  deriving DecidableEq, Repr

/-- Lines on their way into blocks. -/
structure Grouping where
  /-- How many lines were seen. -/
  lineNumber : Nat := 0
  /-- The lines of the block in progress, the last one first. -/
  reversed : List String := []
  firstLine : Nat := 0
  inComment : Bool := false
  /-- Whether a version line may still come. -/
  atStart : Bool := true
  invalidLine : Option Nat := none
  deriving DecidableEq, Repr

namespace Grouping

def isVersion (line : List Char) : Bool :=
  Ascii.sameLetters (String.ofList (line.take 8)) "version:"

/-- Ends the block in progress, if it has any lines. -/
def takeBlock (grouping : Grouping) : Option Block × Grouping :=
  if grouping.reversed.isEmpty then (none, grouping)
  else
    (some
      { lines := grouping.reversed.reverse
        firstLine := grouping.firstLine
        invalidLine := grouping.invalidLine },
      { grouping with reversed := [], atStart := false, invalidLine := none })

/-- The end of the input. -/
def finish (grouping : Grouping) : Option Block × Grouping :=
  { grouping with inComment := false }.takeBlock

/-- A line without its line feed; a carriage return at its end is dropped. -/
def content (line : String) : List Char :=
  let characters := line.toList
  if characters.getLast? = some '\r' then characters.dropLast else characters

/-- Exactly one carriage return is dropped, and a line without one is left as it is. -/
theorem content_eq_iff {line : String} {text : List Char} :
    content line = text ↔
      line.toList = text ++ ['\r'] ∨ line.toList = text ∧ text.getLast? ≠ some '\r' := by
  simp only [content]
  split
  · next returned =>
      obtain ⟨front, whole⟩ := List.getLast?_eq_some_iff.mp returned
      rw [whole, List.dropLast_concat, List.append_cancel_right_eq]
      constructor
      · exact .inl
      · rintro (same | ⟨rfl, plain⟩)
        · exact same
        · exact absurd List.getLast?_concat plain
  · next plain =>
      constructor
      · rintro rfl
        exact .inr ⟨rfl, plain⟩
      · rintro (returned | ⟨same, -⟩)
        · rw [returned] at plain
          exact absurd List.getLast?_concat plain
        · exact same

theorem content_returned (text : List Char) : content (String.ofList (text ++ ['\r'])) = text :=
  content_eq_iff.mpr (.inl String.toList_ofList)

theorem content_of_plain {text : List Char} (plain : text.getLast? ≠ some '\r') :
    content (String.ofList text) = text :=
  content_eq_iff.mpr (.inr ⟨String.toList_ofList, plain⟩)

def fatal (line : List Char) (number : Nat) : Record.Error :=
  { problem := .nothingToContinue number
    lineNumber := some number
    dataLines := [String.ofList line]
    mayContinue := false }

/-- The next line.  A blank line may complete a block. -/
def push (grouping : Grouping) (line : String) :
    Except Record.Error (Option Block) × Grouping :=
  let number := grouping.lineNumber + 1
  let grouping := { grouping with lineNumber := number }
  match content line with
  | [] =>
      let (block, grouping) := { grouping with inComment := false }.takeBlock
      (.ok block, grouping)
  | ' ' :: continuation =>
      if grouping.inComment then (.ok none, grouping)
      else
        match grouping.reversed with
        | [] => (.error (fatal (' ' :: continuation) number), grouping)
        | previous :: earlier =>
            let continued := previous ++ String.ofList continuation
            (.ok none, { grouping with reversed := continued :: earlier })
  | '#' :: _ => (.ok none, { grouping with inComment := true })
  | characters =>
      let grouping := { grouping with inComment := false }
      if !grouping.reversed.isEmpty then
        let reversed := String.ofList characters :: grouping.reversed
        (.ok none, { grouping with reversed })
      else if grouping.atStart && isVersion characters then
        (.ok none, { grouping with atStart := false })
      else
        (.ok none, { grouping with reversed := [String.ofList characters], firstLine := number })

/-- The next line as bytes.  When they are no text, replacement characters
stand in and the block is marked, unless the line belongs to a comment. -/
def pushBytes (grouping : Grouping) (line : Bytes) :
    Except Record.Error (Option Block) × Grouping :=
  match Utf8.decode? line with
  | some text => grouping.push text
  | none =>
      match grouping.push (Utf8.decodeLossy line) with
      | (.ok block, grouping) =>
          let marked :=
            if grouping.inComment || grouping.reversed.isEmpty then grouping.invalidLine
            else grouping.invalidLine.or (some grouping.lineNumber)
          (.ok block, { grouping with invalidLine := marked })
      | failed => failed

end Grouping

end DirectoryInterchange
