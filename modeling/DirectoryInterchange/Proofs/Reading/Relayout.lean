import DirectoryInterchange.Proofs.Reading.Layout
import DirectoryInterchange.Proofs.Reading.Lines
import DirectoryInterchange.Proofs.Reading.Pool.Answers

/-!
Texts with the same lines in another layout.

Each line feed of a text may have a carriage return in front of it, and the
lines may have been edited.  What a reader answers differs at most in the
numbers of the lines that it mentions.
-/

namespace DirectoryInterchange.Reading

open Pool (Item)
open Relation (ReflTransGen)

/-! ### Lines of a text -/

/-- The lines of a text without their line feeds. -/
def linesOf (text : List Char) : List (List Char) :=
  let pieces := text.splitOn '\n'
  if pieces.getLast? = some [] then pieces.dropLast else pieces

/-- A text has these lines.  Each ends with a line feed, with or without a
carriage return in front of it, and the last one may lack it. -/
inductive Spells : List Char → List (List Char) → Prop
  | nil : Spells [] []
  | lineFeed {text line : List Char} {lines : List (List Char)} (whole : '\n' ∉ line)
      (plain : line.getLast? ≠ some '\r') (rest : Spells text lines) :
      Spells (line ++ '\n' :: text) (line :: lines)
  | returnFeed {text line : List Char} {lines : List (List Char)} (whole : '\n' ∉ line)
      (rest : Spells text lines) : Spells (line ++ '\r' :: '\n' :: text) (line :: lines)
  | last {line : List Char} (whole : '\n' ∉ line) (plain : line.getLast? ≠ some '\r')
      (nonempty : line ≠ []) : Spells line [line]

theorem linesOf_cons {line : List Char} (whole : '\n' ∉ line) (rest : List Char) :
    linesOf (line ++ '\n' :: rest) = line :: linesOf rest := by
  have pieces := List.splitOn_append_cons_self_of_not_mem whole rest
  have more : rest.splitOn '\n' ≠ [] := List.splitOn_ne_nil _ _
  unfold linesOf
  simp only [pieces, List.getLast?_cons_of_ne_nil more, List.dropLast_cons_of_ne_nil more]
  split <;> rfl

theorem linesOf_of_not_mem {line : List Char} (whole : '\n' ∉ line) :
    linesOf line = if line = [] then [] else [line] := by
  have pieces := List.splitOn_eq_singleton whole
  unfold linesOf
  simp only [pieces, List.getLast?_singleton, Option.some.injEq, List.dropLast_singleton]

/-- A text without carriage returns has the lines that it is split into. -/
theorem spells_linesOf {text : List Char} (plain : '\r' ∉ text) : Spells text (linesOf text) := by
  induction size : text.length using Nat.strongRecOn generalizing text with
  | ind size inductionHypothesis =>
      by_cases ends : '\n' ∈ text
      · obtain ⟨line, rest, rfl, whole⟩ := List.eq_append_cons_of_mem ends
        rw [List.mem_append, List.mem_cons, not_or, not_or] at plain
        rw [linesOf_cons whole]
        refine .lineFeed whole (fun last => plain.1 (List.mem_of_getLast? last)) ?_
        refine inductionHypothesis rest.length ?_ plain.2.2 rfl
        rw [← size, List.length_append, List.length_cons]
        omega
      · rw [linesOf_of_not_mem ends]
        split
        · next empty =>
            rw [empty]
            exact .nil
        · next nonempty =>
            exact .last ends (fun last => plain (List.mem_of_getLast? last)) nonempty

/-! ### Lines of an input -/

variable {line : List Char} {lines : List (List Char)} {grouping : Grouping}

/-- A line is read by its content. -/
theorem items_of_segment {input rest : Input} {raw : String}
    (next : input.nextSegment = (.ok (some (Utf8.encode raw)), rest))
    (content : Grouping.content raw = line)
    (others : ∀ grouping, Feed.items ⟨rest, grouping⟩ = itemsOf grouping lines) :
    Feed.items ⟨input, grouping⟩ = itemsOf grouping (line :: lines) := by
  have pushed : grouping.pushBytes (Utf8.encode raw) = grouping.pushContent line := by
    rw [Grouping.pushBytes, Utf8.decode?_encode, ← content]
    exact Grouping.push_eq_pushContent grouping raw
  cases ran : grouping.pushContent line with
  | mk answer after =>
      rw [ran] at pushed
      rw [itemsOf, ran]
      rcases answer with error | _ | block
      · exact Feed.items_of_fatal next pushed
      · exact (Feed.items_of_line next pushed).trans (others after)
      · rw [Feed.items_of_block next pushed, others]
        rfl

theorem nextSegment_lineFeed {raw : List Char} (whole : '\n' ∉ raw) (text : List Char) :
    Input.nextSegment ⟨Utf8.encode (String.ofList (raw ++ '\n' :: text)), none⟩ =
      (.ok (some (Utf8.encode (String.ofList raw))), ⟨Utf8.encode (String.ofList text), none⟩) := by
  have spelled : Utf8.encode (String.ofList (raw ++ '\n' :: text)) =
      Utf8.encode (String.ofList raw) ++ 0x0A :: Utf8.encode (String.ofList text) := by
    simp only [Utf8.encode, String.toList_ofList, List.flatMap_append, List.flatMap_cons]
    rfl
  have absent : '\n' ∉ (String.ofList raw).toList := by rwa [String.toList_ofList]
  rw [Input.nextSegment, spelled, splitLine_line (Utf8.lineFeed_not_mem absent)]

/-- What a text comes to depends on its lines alone. -/
theorem items_of_spells {text : List Char} (spelled : Spells text lines) (grouping : Grouping) :
    Feed.items ⟨⟨Utf8.encode (String.ofList text), none⟩, grouping⟩ = itemsOf grouping lines := by
  induction spelled generalizing grouping with
  | nil => exact Feed.items_of_end rfl
  | @lineFeed text line lines whole plain rest inductionHypothesis =>
      exact items_of_segment (nextSegment_lineFeed whole text) (Grouping.content_of_plain plain)
        inductionHypothesis
  | @returnFeed text line lines whole rest inductionHypothesis =>
      have absent : '\n' ∉ line ++ ['\r'] := by
        rw [List.mem_append, not_or]
        exact ⟨whole, by decide⟩
      have next := nextSegment_lineFeed absent text
      rw [List.append_assoc] at next
      exact items_of_segment next (Grouping.content_returned line) inductionHypothesis
  | @last line whole plain nonempty =>
      have absent : '\n' ∉ (String.ofList line).toList := by rwa [String.toList_ofList]
      have next : Input.nextSegment ⟨Utf8.encode (String.ofList line), none⟩ =
          (.ok (some (Utf8.encode (String.ofList line))), ⟨[], none⟩) := by
        have present : (Utf8.encode (String.ofList line)).isEmpty = false := by
          rw [List.isEmpty_eq_false_iff]
          intro empty
          have decoded := Utf8.decode?_encode (String.ofList line)
          rw [empty, ← Utf8.encode_empty, Utf8.decode?_encode] at decoded
          apply nonempty
          rw [← String.toList_ofList (l := line), ← Option.some.inj decoded]
          rfl
        rw [Input.nextSegment, splitLine_eq_none.mpr (Utf8.lineFeed_not_mem absent)]
        simp only [present, Input.atEnd]
        rfl
      exact items_of_segment next (Grouping.content_of_plain plain) fun grouping =>
        Feed.items_of_end rfl

/-! ### Answers -/

/-- An answer without the numbers of the lines that it mentions. -/
def unnumbered (answer : Reader.Answer) : Reader.Answer :=
  answer.mapError Fault.unnumbered

variable {Rule : Type} [Matching Rule]

theorem unnumbered_decode (context : Block.Context Rule) (block : Block) :
    (block.unnumbered.decode context).mapError Record.Error.unnumbered =
      (block.decode context).mapError Record.Error.unnumbered := by
  unfold Block.decode
  have same : Block.parse context block.unnumbered = Block.parse context block := rfl
  rw [same]
  cases Block.parse context block <;> rfl

theorem unnumbered_problem (problem : Record.Problem) :
    problem.unnumbered.unnumbered = problem.unnumbered := by
  cases problem <;> rfl

theorem unnumbered_fault (fault : Fault) : fault.unnumbered.unnumbered = fault.unnumbered := by
  cases fault with
  | record error =>
      simp only [Fault.unnumbered, Record.Error.unnumbered, unnumbered_problem, Option.map_map]
      rfl
  | _ => rfl

theorem answer?_unnumbered (job : Pool.Job Rule) (identical : job.adjust = Pool.Adjustment.identity)
    (item : Item) :
    (job.answer? item.unnumbered).map unnumbered = (job.answer? item).map unnumbered := by
  cases item with
  | ended => rfl
  | failed fault =>
      show some (Except.error fault.unnumbered.unnumbered) = some (.error fault.unnumbered)
      rw [unnumbered_fault]
  | block block =>
      have same := unnumbered_decode job.context block
      show (job.answer? (.block block.unnumbered)).map unnumbered = _
      simp only [Pool.Job.answer?, Pool.Job.outcome?, identical]
      generalize block.unnumbered.decode job.context = left at same ⊢
      generalize block.decode job.context = right at same ⊢
      cases left <;> cases right
      · next left right =>
          have errors : left.unnumbered = right.unnumbered := Except.error.inj same
          show some (Except.error (Fault.record left.unnumbered)) =
            some (.error (.record right.unnumbered))
          rw [errors]
      · cases same
      · cases same
      · cases same
        rfl

/-- Answers without numbers depend on items without numbers alone. -/
theorem answers_unnumbered (context : Block.Context Rule) (input : Input) :
    (Reader.answers context input).map unnumbered =
      (((Feed.items { input }).map Item.unnumbered).filterMap fun item =>
        (({ context } : Pool.Job Rule).answer? item).map unnumbered).filter (· ≠ .ok none) := by
  have answered : Reader.answers context input = _ :=
    @Reader.answers_eq Rule _ { context } rfl input
  have kept : (fun answer => decide (answer ≠ .ok none)) ∘ unnumbered =
      fun answer : Reader.Answer => decide (answer ≠ .ok none) := by
    funext answer
    cases answer <;> rfl
  have numbers := answer?_unnumbered { context } rfl
  rw [answered, List.filterMap_map]
  simp only [Function.comp_def, numbers]
  rw [← List.map_filterMap, List.filter_map, kept]

/-- Layout does not show in what a reader answers. -/
theorem Reader.answers_of_layout (context : Block.Context Rule) {text other : String}
    {lines : List (List Char)} (plain : '\r' ∉ text.toList)
    (edited : ReflTransGen Edit (linesOf text.toList) lines)
    (spelled : Spells other.toList lines) :
    (Reader.answers context ⟨Utf8.encode other, none⟩).map unnumbered =
      (Reader.answers context ⟨Utf8.encode text, none⟩).map unnumbered := by
  have shows := shown_of_edits edited
  have before := items_of_spells (spells_linesOf plain) {}
  have after := items_of_spells spelled {}
  rw [String.ofList_toList] at before after
  rw [answers_unnumbered, answers_unnumbered, before, after]
  unfold shown at shows
  rw [shows]

/-- A text of four lines, and the same with one of them folded, a comment that is
folded, another blank line and two carriage returns. -/
theorem Reader.answers_of_layout_folded :
    (Reader.answers { options := {}, files := fun _ => none }
        ⟨Utf8.encode "version: 1\r\n# a\n b\ncn\n : a\n\r\n\nx", none⟩).map unnumbered =
      (Reader.answers { options := {}, files := fun _ => none }
        ⟨Utf8.encode "version: 1\ncn: a\n\nx", none⟩).map unnumbered := by
  have lines : linesOf "version: 1\ncn: a\n\nx".toList =
      ["version: 1".toList, "cn: a".toList, [], ['x']] := by decide +kernel
  have refold := @Edit.refold ["version: 1".toList] [[], ['x']] "cn: a".toList ['c', 'n'] []
    [[':', ' ', 'a']] (by decide +kernel) (by decide) (by decide +kernel) (by decide +kernel)
  have comment := @Edit.comment ["version: 1".toList] [' ', 'a'] [['b']]
    [['c', 'n'], [' ', ':', ' ', 'a'], [], ['x']] (by decide)
  have blank := Edit.blankBeside ["version: 1".toList, ['#', ' ', 'a'], [' ', 'b'], ['c', 'n'],
    [' ', ':', ' ', 'a']] [['x']]
  have edits : ReflTransGen Edit ["version: 1".toList, "cn: a".toList, [], ['x']]
      ["version: 1".toList, ['#', ' ', 'a'], [' ', 'b'], ['c', 'n'], [' ', ':', ' ', 'a'], [], [],
        ['x']] := ((ReflTransGen.single refold).tail comment).tail blank
  have spelled : Spells _ ["version: 1".toList, ['#', ' ', 'a'], [' ', 'b'], ['c', 'n'],
      [' ', ':', ' ', 'a'], [], [], ['x']] :=
    .returnFeed (by decide +kernel) <| .lineFeed (by decide) (by decide) <|
      .lineFeed (by decide) (by decide) <| .lineFeed (by decide) (by decide) <|
      .lineFeed (by decide) (by decide) <| .returnFeed (by decide) <|
      .lineFeed (by decide) (by decide) <| .last (by decide) (by decide) (by decide)
  refine Reader.answers_of_layout _ (by decide +kernel) (lines ▸ edits) ?_
  convert spelled
  decide +kernel

end DirectoryInterchange.Reading
