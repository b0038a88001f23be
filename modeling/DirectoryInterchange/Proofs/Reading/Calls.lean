import Mathlib.Data.List.Forall2
import DirectoryInterchange.Proofs.Reading.Adjusted
import DirectoryInterchange.Reading.Answers

/-!
What a reader answers, call after call, when every block is read as a record.
-/

namespace DirectoryInterchange.Reading

open Pool (Item)

variable {Rule : Type} [Matching Rule]

/-- Every item but the last block and the end takes at least one byte. -/
theorem Feed.length_items (feed : Feed) :
    feed.items.length ≤ feed.input.bytes.length + 2 := by
  fun_induction Feed.items feed with
  | case1 => simp
  | case2 feed input next =>
      cases feed.grouping.finish.1 <;> simp
  | case3 => simp
  | case4 feed line input next block grouping pushed inductionHypothesis =>
      have shorter := Input.length_nextSegment next
      rw [List.length_cons]
      simp only at inductionHypothesis
      omega
  | case5 feed line input next grouping pushed inductionHypothesis =>
      have shorter := Input.length_nextSegment next
      simp only at inductionHypothesis
      omega

namespace Reader

variable {reader : Reader Rule}

theorem adjustedAnswer_identity (reader : Reader Rule) :
    reader.adjustedAnswer Pool.Adjustment.identity = some reader.readRecord.1 := by
  rw [adjustedAnswer]
  split
  · next answered => rw [answered]; rfl
  · rfl

/-- A call takes the block that is next and answers with its record. -/
theorem readRecord_of_block
    {block : Block} {record : Record} {rest : List Item}
    (front : reader.items = .block block :: rest)
    (decoded : block.decode reader.context = .ok record) :
    reader.readRecord.1 = .ok (some record) ∧ reader.readRecord.2.items = rest
      ∧ reader.readRecord.2.context = reader.context := by
  obtain ⟨answer, after, context⟩ :=
    @call_answers Rule _ reader ⟨reader.context, .identity⟩ rfl _ _ front
  have said := @Pool.Job.answer?_block Rule _ ⟨reader.context, .identity⟩ block record decoded
  rw [adjustedAnswer_identity, said] at answer
  exact ⟨Option.some.inj answer, after, context⟩

theorem readRecord_of_ended {rest : List Item} (front : reader.items = .ended :: rest) :
    reader.readRecord.1 = .ok none := by
  obtain ⟨answer, -, -⟩ := @call_answers Rule _ reader ⟨reader.context, .identity⟩ rfl _ _ front
  rw [adjustedAnswer_identity] at answer
  exact Option.some.inj answer

/-- One answer for each block, and one that says the end. -/
theorem callsWithin_of_items
    {blocks : List Block} {records : List Record} {context : Block.Context Rule}
    (decoded : List.Forall₂ (fun block record => Block.decode context block = .ok record)
      blocks records)
    (same : reader.context = context) (items : reader.items = blocks.map Item.block ++ [.ended])
    {calls : Nat} (enough : blocks.length < calls) :
    (callsWithin
        (fun reader => let (answer, reader) := readRecord reader; (some answer, reader))
        calls reader).map (·.1)
      = records.map (fun record => .ok (some record)) ++ [.ok none] := by
  induction decoded generalizing reader calls with
  | nil =>
      obtain ⟨calls, rfl⟩ : ∃ more, calls = more + 1 := ⟨calls - 1, by simp at enough; omega⟩
      have answered := readRecord_of_ended items
      simp [callsWithin, answered]
  | @cons block record blocks records first _ inductionHypothesis =>
      obtain ⟨calls, rfl⟩ : ∃ more, calls = more + 1 := ⟨calls - 1, by omega⟩
      rw [← same] at first
      obtain ⟨answered, rest, kept⟩ := readRecord_of_block items first
      have others := inductionHypothesis (kept.trans same) rest
        (Nat.lt_of_succ_lt_succ (by rwa [List.length_cons] at enough))
      simp only [callsWithin, answered, List.map_cons, others]
      rfl

/-- What a reader answers from the start to the end of an input. -/
theorem calls_of_items
    {context : Block.Context Rule} {input : Input} {blocks : List Block} {records : List Record}
    (items : Feed.items { input } = blocks.map Item.block ++ [.ended])
    (decoded : List.Forall₂ (fun block record => Block.decode context block = .ok record)
      blocks records) :
    (start context input).calls.map (·.1)
      = records.map (fun record => .ok (some record)) ++ [.ok none] := by
  have bounded := Feed.length_items { input }
  rw [items, List.length_append, List.length_map, List.length_singleton] at bounded
  simp only at bounded
  have enough : blocks.length < input.bytes.length + 3 := by omega
  exact @callsWithin_of_items Rule _ (start context input) _ _ context decoded rfl items _ enough

end Reader

end DirectoryInterchange.Reading
