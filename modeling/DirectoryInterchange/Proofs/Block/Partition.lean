import DirectoryInterchange.Proofs.Block.Reflection

/-!
Lines pushed one after another, and the blocks that they complete.

Every line is refused as a stray or seen; what the blocks of a whole input are
follows from the lines that the grouping has seen at its end.
-/

namespace DirectoryInterchange

namespace Grouping

open Numbered (isBlank isContinuation isComment isContent)

/-! ### Every line -/

/-- A line is refused when it is stray, and is otherwise reflected. -/
inductive Pushed (whole before : List Numbered) (done : List Block) (line : Numbered) :
    Except Record.Error (Option Block) × Grouping → Prop
  | refused (stray : isStray whole line = true) (next : Grouping) :
      Pushed whole before done line (.error (fatal line.text line.number), next)
  | taken (other : isStray whole line = false) {block : Option Block} {next : Grouping}
      (reflects : Reflects whole (before ++ [line]) (done ++ block.toList) next) :
      Pushed whole before done line (.ok block, next)

namespace Pushed

variable {whole before after : List Numbered} {done : List Block} {grouping : Grouping}
  {line : Numbered} {bytes : Bytes}

/-- A line that completes no block. -/
theorem of_taken (line_eq : line = Numbered.of (bytes, grouping.lineNumber + 1))
    (other : isStray whole line = false) {next : Grouping}
    (pushed : grouping.push ((Utf8.decode? bytes).getD (Utf8.decodeLossy bytes)) = (.ok none, next))
    (taken : Reflects whole (before ++ [line]) done (next.marked line.valid)) :
    Pushed whole before done line (grouping.pushBytes bytes) := by
  subst line_eq
  rw [pushBytes_of_ok pushed]
  apply Pushed.taken other
  rw [Option.toList_none, List.append_nil]
  exact taken

variable (reflects : Reflects whole before done grouping)
  (line_eq : line = Numbered.of (bytes, grouping.lineNumber + 1))

include reflects line_eq

theorem of_blank (spelled : line.text = []) :
    Pushed whole before done line (grouping.pushBytes bytes) := by
  have blank : line.isBlank = true := by rw [isBlank, spelled]; rfl
  have other : isStray whole line = false := by
    rw [isStray, isContinuation, spelled]
    rfl
  subst line_eq
  have quiet := (reflects.takeBlock_eq (grouping.lineNumber + 1)).2
  have ended := reflects.blank blank
  rw [pushBytes_of_ok (push_of_blank spelled), marked_of_quiet (.inr (by rw [quiet]))]
  rw [← reflects.lineNumber] at ended
  exact .taken other ended

theorem of_comment {rest : List Char} (spelled : line.text = '#' :: rest) :
    Pushed whole before done line (grouping.pushBytes bytes) := by
  have starts : line.text.head? = some '#' := by rw [spelled]; rfl
  have comment : line.isComment = true := by rw [isComment, starts]; rfl
  have other : isStray whole line = false := by
    rw [isStray, isContinuation, starts]
    rfl
  have skipped := reflects.comment comment
  rw [← reflects.lineNumber] at skipped
  refine of_taken line_eq other (push_of_comment (by rw [← spelled, line_eq]; rfl)) ?_
  rwa [marked_of_quiet (.inl rfl)]

theorem of_continuation (split : whole = before ++ line :: after) {rest : List Char}
    (spelled : line.text = ' ' :: rest) :
    Pushed whole before done line (grouping.pushBytes bytes) := by
  have starts : line.text.head? = some ' ' := by rw [spelled]; rfl
  have continues : line.isContinuation = true := by rw [isContinuation, starts]; rfl
  have number : line.number = before.length + 1 := by rw [line_eq, ← reflects.lineNumber]; rfl
  have stray : isStray whole line = (!grouping.inComment && grouping.reversed.isEmpty) := by
    rw [isStray, continues, Reflects.front_eq split number, ← reflects.inComment, reflects.started,
      Bool.true_and]
  have space : content ((Utf8.decode? bytes).getD (Utf8.decodeLossy bytes)) = ' ' :: rest := by
    rw [← spelled, line_eq]
    rfl
  cases commenting : grouping.inComment with
  | true =>
      rw [commenting, Bool.not_true, Bool.false_and] at stray
      have skipped := reflects.commentContinuation continues commenting
      rw [← reflects.lineNumber] at skipped
      refine of_taken line_eq stray (push_of_commented space commenting) ?_
      rwa [marked_of_quiet (.inl rfl)]
  | false =>
      rw [commenting, Bool.not_false, Bool.true_and] at stray
      cases held : grouping.reversed with
      | nil =>
          rw [held, List.isEmpty_nil] at stray
          rw [pushBytes_of_error (push_of_stray space commenting held), reflects.lineNumber,
            ← number, ← spelled]
          exact .refused stray _
      | cons previous earlier =>
          rw [held, List.isEmpty_cons] at stray
          have continued := reflects.continuation continues commenting held number
          rw [← reflects.lineNumber, spelled] at continued
          exact of_taken line_eq stray (push_of_continued space commenting held) continued

theorem of_content (ordered : whole.Pairwise (·.number < ·.number))
    (split : whole = before ++ line :: after) {first : Char} {rest : List Char}
    (spelled : line.text = first :: rest) (space : first ≠ ' ') (hash : first ≠ '#') :
    Pushed whole before done line (grouping.pushBytes bytes) := by
  have number : line.number = before.length + 1 := by rw [line_eq, ← reflects.lineNumber]; rfl
  have content : line.isContent = true := by
    simp [isContent, isBlank, isContinuation, isComment, spelled, space, hash]
  have other : isStray whole line = false := by
    rw [isStray, (Numbered.isContent_iff.mp content).2.1]
    rfl
  have text : Grouping.content ((Utf8.decode? bytes).getD (Utf8.decodeLossy bytes)) =
      first :: rest := by
    rw [← spelled, line_eq]
    rfl
  have pushed : grouping.push _ = _ := push_of_content text space hash
  have kind : isData whole line =
      !(isVersion line.text && (grouping.atStart && grouping.reversed.isEmpty)) := by
    have earlier : ∀ other ∈ before, other.number < line.number := by
      rw [split] at ordered
      intro other member
      exact (List.pairwise_append.mp ordered).2.2 other member line List.mem_cons_self
    have kind : isData (before ++ line :: after) line = _ := isData_eq earlier
    rwa [← split, content, Bool.true_and, ← reflects.atStart_eq] at kind
  rw [← spelled] at pushed
  by_cases skipped : (isVersion line.text && (grouping.atStart && grouping.reversed.isEmpty)) = true
  · rw [if_pos skipped] at pushed
    rw [skipped, isData, content, Bool.true_and, Bool.not_true, bne_eq_false_iff_eq] at kind
    simp only [Bool.and_eq_true, List.isEmpty_iff] at skipped
    have passed := reflects.version content skipped.2.2 kind
    rw [← reflects.lineNumber] at passed
    refine of_taken line_eq other pushed ?_
    rwa [marked_of_quiet (.inr (by exact skipped.2.2))]
  · rw [if_neg skipped] at pushed
    rw [Bool.not_eq_true] at skipped
    rw [skipped] at kind
    have added := reflects.data kind number
    rw [← reflects.lineNumber] at added
    exact of_taken line_eq other pushed added

/-- One line is refused as a stray, or seen. -/
theorem of_pushBytes (ordered : whole.Pairwise (·.number < ·.number))
    (split : whole = before ++ line :: after) :
    Pushed whole before done line (grouping.pushBytes bytes) := by
  cases spelled : line.text with
  | nil => exact of_blank reflects line_eq spelled
  | cons first rest =>
      by_cases space : first = ' '
      · exact of_continuation reflects line_eq split (space ▸ spelled)
      by_cases hash : first = '#'
      · exact of_comment reflects line_eq (hash ▸ spelled)
      · exact of_content reflects line_eq ordered split spelled space hash

end Pushed

/-! ### Whole inputs -/

/-- The blocks that lines complete, up to the first one that is refused. -/
def pushAll (grouping : Grouping) : List Bytes → Except Record.Error (List Block × Grouping)
  | [] => .ok ([], grouping)
  | line :: lines =>
      match grouping.pushBytes line with
      | (.error error, _) => .error error
      | (.ok block, next) => do
          let (others, last) ← next.pushAll lines
          return (block.toList ++ others, last)

/-- The blocks of a whole input. -/
def blocksOf (lines : List Bytes) : Except Record.Error (List Block) := do
  let (completed, last) ← ({} : Grouping).pushAll lines
  return completed ++ last.finish.1.toList

/-- Lines are seen one after another, up to the first stray. -/
theorem pushAll_eq {whole before : List Numbered} {done : List Block} {grouping : Grouping}
    (ordered : whole.Pairwise (·.number < ·.number))
    (reflects : Reflects whole before done grouping) (lines : List Bytes)
    (split : whole = before ++ (lines.zipIdx (before.length + 1)).map Numbered.of) :
    match ((lines.zipIdx (before.length + 1)).map Numbered.of).find? (isStray whole) with
    | some line => grouping.pushAll lines = .error (fatal line.text line.number)
    | none => ∃ others last, grouping.pushAll lines = .ok (others, last) ∧
        Reflects whole whole (done ++ others) last := by
  induction lines generalizing before done grouping with
  | nil =>
      rw [List.zipIdx_nil, List.map_nil, List.append_nil] at split
      subst split
      exact ⟨[], grouping, rfl, by rwa [List.append_nil]⟩
  | cons bytes lines inductionHypothesis =>
      rw [List.zipIdx_cons, List.map_cons] at split ⊢
      have pushed : Pushed whole before done _ (grouping.pushBytes bytes) :=
        .of_pushBytes reflects (by rw [reflects.lineNumber]) ordered split
      have count (line : Numbered) : (before ++ [line]).length + 1 = before.length + 1 + 1 := by
        rw [List.length_append, List.length_singleton]
      generalize ran : grouping.pushBytes bytes = result at pushed
      cases pushed with
      | refused stray next =>
          rw [List.find?_cons_of_pos stray]
          simp only [pushAll, ran]
      | @taken other block next taken =>
          rw [List.append_cons] at split
          have rest := inductionHypothesis taken (by rw [count]; exact split)
          rw [count] at rest
          rw [List.find?_cons_of_neg (by rw [other]; decide)]
          simp only [pushAll, ran]
          revert rest
          cases (List.map Numbered.of (lines.zipIdx (before.length + 1 + 1))).find?
            (isStray whole) with
          | some line =>
              intro rest
              simp only at rest ⊢
              rw [rest]
              rfl
          | none =>
              rintro ⟨others, last, rest, reflects⟩
              refine ⟨block.toList ++ others, last, ?_, ?_⟩
              · rw [rest]
                rfl
              · rwa [← List.append_assoc]

/-- Lines complete one block for each group that has data, in order, unless one
of them is stray: then the first stray is refused.  Only comments and the
version line are left out. -/
theorem blocksOf_eq (lines : List Bytes) :
    let whole := numbered lines
    match whole.find? (isStray whole) with
    | some line => blocksOf lines = .error (fatal line.text line.number)
    | none =>
        blocksOf lines = .ok (blocks whole (paragraphs whole)) ∧
          (blocks whole (paragraphs whole)).Pairwise (·.firstLine < ·.firstLine) ∧
          ∀ group ∈ paragraphs whole, ∀ fold ∈ folds group, Accounted whole fold := by
  intro whole
  have ordered : whole.Pairwise (·.number < ·.number) := ordered_zipIdx lines 1
  have run := pushAll_eq ordered (.start whole) lines rfl
  have whole_eq : (lines.zipIdx (([] : List Numbered).length + 1)).map Numbered.of = whole := rfl
  rw [whole_eq] at run
  revert run
  cases whole.find? (isStray whole) with
  | some line =>
      intro run
      simp only at run ⊢
      rw [blocksOf, run]
      rfl
  | none =>
      rintro ⟨completed, last, run, reflects⟩
      refine ⟨?_, ?_, reflects.accounted⟩
      · rw [blocksOf, run, paragraphs_eq, blocks_append, ← reflects.done,
          ← (reflects.takeBlock_eq last.lineNumber).1]
        rfl
      · have increasing := (ordered.map Numbered.number fun _ _ less => less).sublist
          ((firstLines_sublist whole (paragraphs whole)).trans
            ((flatten_paragraphs_sublist whole).map Numbered.number))
        exact List.pairwise_map.mp increasing

end Grouping

end DirectoryInterchange
