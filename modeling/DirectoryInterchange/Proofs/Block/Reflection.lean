import DirectoryInterchange.Proofs.Block.Paragraphs
import DirectoryInterchange.Proofs.Block.Pushing

/-!
What a grouping holds, told by the lines that it has seen.

The block in progress is that of the last group, and every group that a blank
line has ended has given its block away.  Each kind of line keeps this.
-/

namespace DirectoryInterchange

namespace Grouping

open Numbered (isBlank isContinuation isComment isContent)

/-- Whether a fold is left out for a reason, or stands in a block. -/
def Accounted (whole fold : List Numbered) : Prop :=
  isHeadedBy isComment fold = true ∨ isHeadedBy (isData whole) fold = true ∨
    ∃ line, versionLine? whole = some line ∧ fold = [line]

/-- A grouping that has seen the lines `before` of an input and has completed
the blocks `done`. -/
structure Reflects (whole before : List Numbered) (done : List Block) (grouping : Grouping) :
    Prop where
  lineNumber : grouping.lineNumber = before.length
  done : done = blocks whole (closed before)
  reversed : grouping.reversed.reverse = (dataFolds whole (current before)).map unfold
  started : grouping.reversed.isEmpty = !(current before).any (isData whole)
  firstLine : ∀ first ∈ (current before).find? (isData whole), grouping.firstLine = first.number
  invalidLine : grouping.invalidLine =
    ((dataFolds whole (current before)).flatten.find? (!·.valid)).map Numbered.number
  inComment : grouping.inComment =
    (folds (current before)).getLast?.any (isHeadedBy isComment)
  /-- A version line may come as long as no content line was seen. -/
  atStart : grouping.reversed = [] → grouping.atStart = !before.any isContent
  /-- What a continuation would be put behind, if not behind a comment. -/
  latest : grouping.reversed ≠ [] → ∀ fold ∈ (folds (current before)).getLast?,
    isHeadedBy isComment fold = true ∨ isHeadedBy (isData whole) fold = true
  accounted : ∀ group ∈ paragraphs before, ∀ fold ∈ folds group, Accounted whole fold

namespace Reflects

theorem start (whole : List Numbered) : Reflects whole [] [] {} where
  lineNumber := rfl
  done := rfl
  reversed := rfl
  started := rfl
  firstLine _ absent := by cases absent
  invalidLine := rfl
  inComment := rfl
  atStart _ := rfl
  latest going := absurd rfl going
  accounted group member fold inside := by
    rw [List.mem_singleton.mp (show group ∈ [[]] from member)] at inside
    cases inside

variable {whole before : List Numbered} {done : List Block} {grouping : Grouping}

/-- Lines are in progress as soon as there is data in the last group. -/
theorem counts (reflects : Reflects whole before done grouping) {line : String}
    {earlier : List String} (held : grouping.reversed = line :: earlier) :
    (current before).any (isData whole) = true := by
  have started := reflects.started
  rw [held, List.isEmpty_cons, eq_comm, Bool.not_eq_false'] at started
  exact started

/-- Before any content line, and only then, there is nothing in progress and a
version line may come. -/
theorem atStart_eq (reflects : Reflects whole before done grouping) :
    (grouping.atStart && grouping.reversed.isEmpty) = !before.any isContent := by
  cases held : grouping.reversed with
  | nil => rw [List.isEmpty_nil, Bool.and_true, reflects.atStart held]
  | cons line earlier =>
      obtain ⟨other, member, data⟩ := List.any_eq_true.mp (reflects.counts held)
      have content : before.any isContent = true :=
        List.any_eq_true.mpr ⟨other, mem_of_mem_current member, isContent_of_isData data⟩
      rw [content, List.isEmpty_cons, Bool.and_false]
      rfl

/-- The block that is completed is that of the last group. -/
theorem takeBlock_eq (reflects : Reflects whole before done grouping) (number : Nat) :
    let ending := { grouping with lineNumber := number, inComment := false }
    ending.takeBlock.1.toList = blocks whole [current before] ∧
      ending.takeBlock.2 =
        { ending with
          reversed := []
          atStart := grouping.atStart && grouping.reversed.isEmpty
          invalidLine := none } := by
  have started := reflects.started
  have lines := reflects.reversed
  cases held : grouping.reversed with
  | nil =>
      rw [held] at started lines
      have none_counts : dataFolds whole (current before) = [] := List.map_eq_nil_iff.mp lines.symm
      have unmarked : grouping.invalidLine = none := by
        rw [reflects.invalidLine, none_counts]
        rfl
      have silent : (current before).any (isData whole) = false := by simpa using started
      simp only [takeBlock, unmarked, List.isEmpty_nil, if_true, Bool.and_true, and_true]
      rw [blocks_singleton, silent]
      rfl
  | cons line earlier =>
      have counts := reflects.counts held
      obtain ⟨first, found⟩ := exists_first counts
      simp only [takeBlock, List.isEmpty_cons, Bool.false_eq_true, if_false, Bool.and_false,
        and_true]
      rw [blocks_singleton, if_pos counts, ← held, lines, reflects.invalidLine,
        reflects.firstLine first found, block, found]
      rfl

/-- A blank line ends the last group. -/
theorem blank (reflects : Reflects whole before done grouping) {line : Numbered}
    (blank : line.isBlank = true) :
    let ending := { grouping with lineNumber := before.length + 1, inComment := false }
    Reflects whole (before ++ [line]) (done ++ ending.takeBlock.1.toList) ending.takeBlock.2 := by
  intro ending
  obtain ⟨completed, left⟩ := reflects.takeBlock_eq (before.length + 1)
  obtain ⟨ended, begun⟩ := closed_concat_of_blank before blank
  have silent : line.isContent = false := by
    rw [isContent, blank]
    rfl
  rw [completed, left]
  exact {
    lineNumber := by
      rw [List.length_append]
      rfl
    done := by
      rw [ended, paragraphs_eq, blocks_append, ← reflects.done]
    reversed := by
      rw [begun]
      rfl
    started := by
      rw [begun]
      rfl
    firstLine := by
      rw [begun]
      intro first absent
      cases absent
    invalidLine := by
      rw [begun]
      rfl
    inComment := by
      rw [begun]
      rfl
    atStart := by
      intro _
      rw [any_concat silent]
      exact reflects.atStart_eq
    latest := by
      intro going
      exact absurd rfl going
    accounted := by
      rw [paragraphs_concat_of_blank blank]
      intro group member fold inside
      rcases List.mem_append.mp member with before | last
      · exact reflects.accounted group before fold inside
      · rw [List.mem_singleton.mp last] at inside
        cases inside }

variable {line : Numbered}

theorem accounted_concat (reflects : Reflects whole before done grouping)
    (solid : line.isBlank = false)
    (added : ∀ fold ∈ folds (current before ++ [line]),
      fold ∈ folds (current before) ∨ Accounted whole fold) :
    ∀ group ∈ paragraphs (before ++ [line]), ∀ fold ∈ folds group, Accounted whole fold := by
  have accounted := reflects.accounted
  rw [paragraphs_eq] at accounted
  rw [paragraphs_concat solid]
  intro group member fold inside
  rcases List.mem_append.mp member with ended | last
  · exact accounted group (List.mem_append_left _ ended) fold inside
  · rw [List.mem_singleton.mp last] at inside
    rcases added fold inside with old | new
    · exact accounted _ (List.mem_append_right _ List.mem_cons_self) fold old
    · exact new

/-- A line that is left out of all blocks leaves the block in progress alone. -/
theorem leaveOut (reflects : Reflects whole before done grouping) (solid : line.isBlank = false)
    (silent : isData whole line = false)
    (left_out : dataFolds whole (current before ++ [line]) = dataFolds whole (current before))
    {commenting start : Bool}
    (inComment : commenting =
      (folds (current before ++ [line])).getLast?.any (isHeadedBy isComment))
    (atStart : grouping.reversed = [] → start = !(before ++ [line]).any isContent)
    (latest : grouping.reversed ≠ [] → commenting = true)
    (added : ∀ fold ∈ folds (current before ++ [line]),
      fold ∈ folds (current before) ∨ Accounted whole fold) :
    Reflects whole (before ++ [line]) done
      { grouping with
        lineNumber := before.length + 1
        inComment := commenting
        atStart := start } := by
  obtain ⟨ended, going⟩ := closed_concat before solid
  exact {
    lineNumber := by
      rw [List.length_append]
      rfl
    done := by
      rw [ended]
      exact reflects.done
    reversed := by
      rw [going, left_out]
      exact reflects.reversed
    started := by
      rw [going, any_concat silent]
      exact reflects.started
    firstLine := by
      rw [going, find?_concat silent]
      exact reflects.firstLine
    invalidLine := by
      rw [going, left_out]
      exact reflects.invalidLine
    inComment := by
      rw [going]
      exact inComment
    atStart := atStart
    latest := by
      intro held fold last
      rw [going] at last
      left
      have commented := inComment.symm.trans (latest held)
      rw [Option.mem_def.mp last] at commented
      exact commented
    accounted := reflects.accounted_concat solid added }

theorem comment (reflects : Reflects whole before done grouping) (comment : line.isComment = true) :
    Reflects whole (before ++ [line]) done
      { grouping with lineNumber := before.length + 1, inComment := true } := by
  have starts : line.text.head? = some '#' := by simpa [isComment] using comment
  have other : line.isContinuation = false := by rw [isContinuation, starts]; decide
  have silent := Numbered.not_isContent_of_isComment comment
  have headed : isHeadedBy isComment [line] = true := comment
  have solid := Numbered.not_isBlank_of_head starts
  refine reflects.leaveOut solid (not_isData_of_not_isContent silent)
    (dataFolds_concat_of_quiet other (not_isData_of_not_isContent silent)) ?_ ?_ (fun _ => rfl) ?_
  · rw [folds_concat other, List.getLast?_concat]
    exact headed.symm
  · intro empty
    rw [any_concat silent]
    exact reflects.atStart empty
  · intro fold member
    rcases mem_folds_concat other member with old | rfl
    · exact .inl old
    · exact .inr (.inl headed)

/-- The fold that a line would continue, and what it starts with. -/
theorem exists_latest {kind : Numbered → Bool} {group : List Numbered}
    (headed : (folds group).getLast?.any (isHeadedBy kind) = true) :
    ∃ earlier fold, folds group = earlier ++ [fold] ∧ fold ≠ [] ∧ isHeadedBy kind fold = true := by
  obtain ⟨fold, last, headed⟩ := Option.any_eq_true _ _ |>.mp headed
  obtain ⟨earlier, split⟩ := List.getLast?_eq_some_iff.mp last
  refine ⟨earlier, fold, split, ?_, headed⟩
  rintro rfl
  cases headed

theorem commentContinuation (reflects : Reflects whole before done grouping)
    (continues : line.isContinuation = true) (commenting : grouping.inComment = true) :
    Reflects whole (before ++ [line]) done
      { grouping with lineNumber := before.length + 1, inComment := true } := by
  have starts : line.text.head? = some ' ' := by simpa [isContinuation] using continues
  have silent := Numbered.not_isContent_of_isContinuation continues
  obtain ⟨earlier, fold, split, nonempty, headed⟩ :=
    exists_latest (reflects.inComment.symm.trans commenting)
  have extended := folds_concat_of_continuation split continues
  have still : isHeadedBy isComment (fold ++ [line]) = true := by
    rw [isHeadedBy_concat _ nonempty, headed]
  obtain ⟨old, new⟩ := dataFolds_concat_of_continuation whole split continues
  rw [not_isHeadedBy_isData headed] at old new
  have solid := Numbered.not_isBlank_of_head starts
  refine reflects.leaveOut solid (not_isData_of_not_isContent silent)
    (new.trans old.symm) ?_ ?_ (fun _ => rfl) ?_
  · rw [extended, List.getLast?_concat]
    exact still.symm
  · intro empty
    rw [any_concat silent]
    exact reflects.atStart empty
  · intro other member
    rcases mem_folds_concat_of_continuation split continues member with old | rfl
    · exact .inl old
    · exact .inr (.inl still)

/-- The version line of the input is skipped. -/
theorem version (reflects : Reflects whole before done grouping) (content : line.isContent = true)
    (empty : grouping.reversed = []) (version : versionLine? whole = some line) :
    Reflects whole (before ++ [line]) done
      { grouping with lineNumber := before.length + 1, inComment := false, atStart := false } := by
  obtain ⟨solid, other, headed⟩ := Numbered.isContent_iff.mp content
  have silent : isData whole line = false := by
    rw [isData, version, bne_self_eq_false, Bool.and_false]
  refine reflects.leaveOut solid silent
    (dataFolds_concat_of_quiet other silent) ?_ ?_ (fun held => absurd empty held) ?_
  · rw [folds_concat other, List.getLast?_concat]
    exact headed.symm
  · intro _
    rw [List.any_append, List.any_cons, content, Bool.true_or, Bool.or_true]
    rfl
  · intro fold member
    rcases mem_folds_concat other member with old | new
    · exact .inl old
    · exact .inr (.inr (.inr ⟨line, version, new⟩))

/-- A data line is put behind the lines in progress, or starts a block. -/
theorem data (reflects : Reflects whole before done grouping) (data : isData whole line = true)
    (number : line.number = before.length + 1) :
    Reflects whole (before ++ [line]) done
      (marked
        { grouping with
          lineNumber := before.length + 1
          inComment := false
          reversed := String.ofList line.text :: grouping.reversed
          firstLine := if grouping.reversed.isEmpty then before.length + 1 else grouping.firstLine }
        line.valid) := by
  have content := isContent_of_isData data
  obtain ⟨solid, other, headed⟩ := Numbered.isContent_iff.mp content
  obtain ⟨ended, going⟩ := closed_concat before solid
  have added : dataFolds whole (current before ++ [line]) = _ := dataFolds_concat_of_data data
  have extended : folds (current before ++ [line]) = _ := folds_concat other
  have counts : [line].any (isData whole) = true := by
    rw [List.any_cons, data, Bool.true_or]
  rw [marked_of_loud rfl (List.cons_ne_nil _ _)]
  exact {
    lineNumber := by
      rw [List.length_append]
      rfl
    done := by
      rw [ended]
      exact reflects.done
    reversed := by
      rw [going, added, List.map_append, ← reflects.reversed, List.map_singleton, unfold,
        List.flatMap_nil, List.append_nil]
      exact List.reverse_cons
    started := by
      rw [going, List.any_append, counts, Bool.or_true]
      rfl
    firstLine := by
      rw [going, List.find?_append]
      intro first found
      have started := reflects.started
      cases earliest : (current before).find? (isData whole) with
      | some other =>
          have any : (current before).any (isData whole) = true :=
            List.any_eq_true.mpr (List.find?_isSome.mp (Option.isSome_of_eq_some earliest))
          rw [earliest] at found
          cases found
          rw [any] at started
          rw [started]
          exact reflects.firstLine first earliest
      | none =>
          have any : (current before).any (isData whole) = false :=
            List.any_eq_false.mpr (List.find?_eq_none.mp earliest)
          rw [earliest, List.find?_cons_of_pos data] at found
          cases found
          rw [any] at started
          rw [started]
          exact number.symm
    invalidLine := by
      rw [going, added, List.flatten_append, List.flatten_singleton, firstInvalid_concat,
        ← reflects.invalidLine, number]
    inComment := by
      rw [going, extended, List.getLast?_concat]
      exact headed.symm
    atStart := by
      intro empty
      cases empty
    latest := by
      intro _ fold last
      rw [going, extended, List.getLast?_concat] at last
      cases last
      exact .inr data
    accounted := by
      refine reflects.accounted_concat solid fun fold member => ?_
      rcases mem_folds_concat other member with old | rfl
      · exact .inl old
      · exact .inr (.inr (.inl data)) }

/-- What a line that does not belong to a comment would continue. -/
theorem exists_latest_data (reflects : Reflects whole before done grouping)
    (speaking : grouping.inComment = false) {previous : String} {earlier : List String}
    (held : grouping.reversed = previous :: earlier) :
    ∃ others fold, folds (current before) = others ++ [fold] ∧ fold ≠ [] ∧
      isHeadedBy (isData whole) fold = true := by
  apply exists_latest
  cases last : (folds (current before)).getLast? with
  | none =>
      have lines := reflects.reversed
      rw [dataFolds, List.getLast?_eq_none_iff.mp last, held] at lines
      cases List.append_ne_nil_of_right_ne_nil _ (List.cons_ne_nil _ _)
        (List.reverse_cons.symm.trans lines)
  | some fold =>
      have going : grouping.reversed ≠ [] := by
        rw [held]
        exact List.cons_ne_nil _ _
      rcases reflects.latest going fold last with comment | data
      · have commenting := reflects.inComment
        rw [speaking, last, Option.any_some, comment] at commenting
        cases commenting
      · exact data

/-- A continuation is put behind the latest data line. -/
theorem continuation (reflects : Reflects whole before done grouping)
    (continues : line.isContinuation = true) (speaking : grouping.inComment = false)
    {previous : String} {earlier : List String} (held : grouping.reversed = previous :: earlier)
    (number : line.number = before.length + 1) :
    Reflects whole (before ++ [line]) done
      (marked
        { grouping with
          lineNumber := before.length + 1
          reversed := (previous ++ String.ofList line.text.tail) :: earlier }
        line.valid) := by
  have starts : line.text.head? = some ' ' := by simpa [isContinuation] using continues
  have solid := Numbered.not_isBlank_of_head starts
  have silent := Numbered.not_isContent_of_isContinuation continues
  obtain ⟨ended, going⟩ := closed_concat before solid
  obtain ⟨others, fold, split, nonempty, headed⟩ := reflects.exists_latest_data speaking held
  have extended := folds_concat_of_continuation split continues
  have still : isHeadedBy (isData whole) (fold ++ [line]) = true := by
    rw [isHeadedBy_concat _ nonempty, headed]
  obtain ⟨old, new⟩ := dataFolds_concat_of_continuation whole split continues
  rw [headed, if_pos rfl] at old new
  have lines := reflects.reversed
  rw [held, old, List.reverse_cons, List.map_append] at lines
  obtain ⟨before_last, last⟩ := List.append_inj' lines rfl
  have previous_eq : previous = unfold fold := List.singleton_inj.mp last
  rw [marked_of_loud (by exact speaking) (by exact List.cons_ne_nil _ _)]
  exact {
    lineNumber := by
      rw [List.length_append]
      rfl
    done := by
      rw [ended]
      exact reflects.done
    reversed := by
      rw [going, new, List.map_append, ← before_last, previous_eq]
      show _ = earlier.reverse ++ [unfold (fold ++ [line])]
      rw [unfold_concat nonempty]
      exact List.reverse_cons
    started := by
      rw [going, List.any_append, reflects.counts held]
      rfl
    firstLine := by
      rw [going, find?_concat (not_isData_of_not_isContent silent)]
      exact reflects.firstLine
    invalidLine := by
      have invalid := reflects.invalidLine
      rw [old, List.flatten_append, List.flatten_singleton] at invalid
      rw [going, new, List.flatten_append, List.flatten_singleton, ← List.append_assoc,
        firstInvalid_concat, number, ← invalid]
    inComment := by
      have comment := reflects.inComment
      rw [speaking, split, List.getLast?_concat] at comment
      rw [going, extended, List.getLast?_concat, Option.any_some, isHeadedBy_concat _ nonempty]
      exact speaking.trans comment
    atStart := by
      intro empty
      cases empty
    latest := by
      intro _ other last
      rw [going, extended, List.getLast?_concat] at last
      cases last
      exact .inr still
    accounted := by
      refine reflects.accounted_concat solid fun other member => ?_
      rcases mem_folds_concat_of_continuation split continues member with old | rfl
      · exact .inl old
      · exact .inr (.inr (.inl still)) }

/-- What stands in front of a line in its group is what the grouping has seen of it. -/
theorem front_eq {after : List Numbered} (split : whole = before ++ line :: after)
    (number : line.number = before.length + 1) : front whole line = current before := by
  rw [front, split, number, Nat.add_sub_cancel, List.take_left]

end Reflects

end Grouping

end DirectoryInterchange
