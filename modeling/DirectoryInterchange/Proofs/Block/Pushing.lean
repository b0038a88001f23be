import DirectoryInterchange.Block.Grouping

/-!
What one line does to a grouping, by what it starts with.
-/

namespace DirectoryInterchange

namespace Grouping

variable {grouping next : Grouping} {bytes : Bytes} {block : Option Block}

/-- The mark that is left when a line was no text. -/
def marked (grouping : Grouping) (valid : Bool) : Grouping :=
  if valid || grouping.inComment || grouping.reversed.isEmpty then grouping
  else { grouping with invalidLine := grouping.invalidLine.or (some grouping.lineNumber) }

theorem pushBytes_of_ok
    (pushed : grouping.push ((Utf8.decode? bytes).getD (Utf8.decodeLossy bytes)) =
      (.ok block, next)) :
    grouping.pushBytes bytes = (.ok block, next.marked (Utf8.decode? bytes).isSome) := by
  unfold pushBytes
  cases decoded : Utf8.decode? bytes with
  | some text =>
      rw [decoded] at pushed
      exact pushed
  | none =>
      rw [decoded] at pushed
      have lossy : grouping.push (Utf8.decodeLossy bytes) = (.ok block, next) := pushed
      simp only [lossy, marked, Option.isSome_none, Bool.false_or]
      split <;> rfl

theorem pushBytes_of_error {error : Record.Error}
    (pushed : grouping.push ((Utf8.decode? bytes).getD (Utf8.decodeLossy bytes)) =
      (.error error, next)) :
    grouping.pushBytes bytes = (.error error, next) := by
  unfold pushBytes
  cases decoded : Utf8.decode? bytes with
  | some text =>
      rw [decoded] at pushed
      exact pushed
  | none =>
      rw [decoded] at pushed
      have lossy : grouping.push (Utf8.decodeLossy bytes) = (.error error, next) := pushed
      simp only [lossy]

theorem push_of_blank {line : String} (spelled : content line = []) :
    grouping.push line =
      (.ok { grouping with
        lineNumber := grouping.lineNumber + 1, inComment := false }.takeBlock.1,
        { grouping with
          lineNumber := grouping.lineNumber + 1, inComment := false }.takeBlock.2) := by
  rw [push, spelled]

theorem push_of_comment {line : String} {rest : List Char} (spelled : content line = '#' :: rest) :
    grouping.push line =
      (.ok none, { grouping with lineNumber := grouping.lineNumber + 1, inComment := true }) := by
  rw [push, spelled]
  rfl

section Space

variable {line : String} {rest : List Char} (spelled : content line = ' ' :: rest)

include spelled

theorem push_of_commented (commenting : grouping.inComment = true) :
    grouping.push line =
      (.ok none, { grouping with lineNumber := grouping.lineNumber + 1, inComment := true }) := by
  rw [push, spelled]
  simp only [commenting, if_true]

variable (speaking : grouping.inComment = false)

include speaking

theorem push_of_stray (empty : grouping.reversed = []) :
    grouping.push line =
      (.error (fatal (' ' :: rest) (grouping.lineNumber + 1)),
        { grouping with lineNumber := grouping.lineNumber + 1 }) := by
  rw [push, spelled]
  simp only [speaking, empty, Bool.false_eq_true, if_false]

theorem push_of_continued {previous : String} {earlier : List String}
    (held : grouping.reversed = previous :: earlier) :
    grouping.push line =
      (.ok none, { grouping with
        lineNumber := grouping.lineNumber + 1
        reversed := (previous ++ String.ofList rest) :: earlier }) := by
  rw [push, spelled]
  simp only [speaking, held, Bool.false_eq_true, if_false]

end Space

/-- A content line is skipped as a version line, or comes to stand in a block. -/
theorem push_of_content {line : String} {first : Char} {rest : List Char}
    (spelled : content line = first :: rest) (space : first ≠ ' ') (comment : first ≠ '#') :
    grouping.push line = (.ok none,
      if isVersion (first :: rest) && (grouping.atStart && grouping.reversed.isEmpty) then
        { grouping with
          lineNumber := grouping.lineNumber + 1
          inComment := false
          atStart := false }
      else
        { grouping with
          lineNumber := grouping.lineNumber + 1
          inComment := false
          reversed := String.ofList (first :: rest) :: grouping.reversed
          firstLine :=
            if grouping.reversed.isEmpty then grouping.lineNumber + 1 else grouping.firstLine }) := by
  rw [push, spelled]
  split
  · next empty => cases empty
  · next same => exact absurd (List.cons.inj same).1 space
  · next same => exact absurd (List.cons.inj same).1 comment
  · cases grouping.reversed with
    | cons previous earlier => simp
    | nil =>
        cases grouping.atStart <;> cases isVersion (first :: rest) <;> simp

theorem marked_of_quiet {valid : Bool} (quiet : next.inComment = true ∨ next.reversed = []) :
    next.marked valid = next := by
  unfold marked
  rw [if_pos]
  rcases quiet with commenting | empty
  · rw [commenting, Bool.or_true, Bool.true_or]
  · rw [empty]
    exact Bool.or_true _

theorem marked_of_loud {valid : Bool} (speaking : next.inComment = false)
    (going : next.reversed ≠ []) :
    next.marked valid =
      { next with
        invalidLine := next.invalidLine.or (if valid then none else some next.lineNumber) } := by
  have nonempty : next.reversed.isEmpty = false := by
    rwa [List.isEmpty_eq_false_iff]
  have only_valid : (valid || next.inComment || next.reversed.isEmpty) = valid := by
    rw [speaking, nonempty, Bool.or_false, Bool.or_false]
  unfold marked
  rw [only_valid]
  cases valid with
  | true => simp only [if_true, Option.or_none]
  | false => simp only [Bool.false_eq_true, if_false]

end Grouping

end DirectoryInterchange
