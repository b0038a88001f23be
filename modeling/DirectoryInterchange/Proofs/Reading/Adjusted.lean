import DirectoryInterchange.Proofs.Reading.Items
import DirectoryInterchange.Reading.Pool.State

/-!
What reading one record after another answers when every record is adjusted.

The adjustment takes the place of the record: another record, an error, or
nothing for a record that is dropped.
-/

namespace DirectoryInterchange.Reading

open Pool (Item Adjustment Job)

variable {Rule : Type} [Matching Rule]

namespace Reader

/-- What becomes of the record of an answer. -/
def adjusted : Adjustment → Option Answer
  | .keep other => some (.ok (some other))
  | .drop => none
  | .reject error => some (.error (.record error))
  | .crash => none

/-- What a call answers; none for a record that is dropped. -/
def adjustedAnswer (adjust : Record → Nat → Adjustment) (reader : Reader Rule) : Option Answer :=
  match reader.nextBlock.1, reader.readRecord.1 with
  | .ok (some block), .ok (some record) => adjusted (adjust record block.firstLine)
  | _, answer => some answer

/-- What so many calls answer, one after another. -/
def adjustedAnswers (adjust : Record → Nat → Adjustment) :
    (calls : Nat) → Reader Rule → List Answer
  | 0, _ => []
  | calls + 1, reader =>
      (reader.adjustedAnswer adjust).toList ++ adjustedAnswers adjust calls reader.readRecord.2

end Reader

/-! ### Answers to items -/

/-- What the consumer of a pool answers to an item; none when it says nothing
about it. -/
def Pool.Job.answer? (job : Job Rule) (item : Item) : Option Reader.Answer :=
  (job.outcome? item).bind fun outcome => (Pool.State.answer outcome).1

theorem Pool.Job.answer?_block
    {job : Job Rule} {block : Block} {record : Record}
    (decoded : block.decode job.context = .ok record) :
    job.answer? (.block block) = Reader.adjusted (job.adjust record block.firstLine) := by
  simp only [answer?, outcome?, decoded]
  cases job.adjust record block.firstLine <;> rfl

namespace Reader

variable {reader : Reader Rule} {job : Job Rule}

theorem mayContinue_of_decode
    {context : Block.Context Rule} {block : Block} {error : Record.Error}
    (failed : block.decode context = .error error) : error.mayContinue :=
  (Block.locates_of_decode failed).mayContinue

/-- A call deals with the item that is next. -/
theorem call_answers
    (same : reader.context = job.context) {item : Item} {rest : List Item}
    (front : reader.items = item :: rest) :
    reader.adjustedAnswer job.adjust = job.answer? item
      ∧ reader.readRecord.2.items = (if item.isLast then [.ended] else rest)
      ∧ reader.readRecord.2.context = job.context := by
  have takes := reader.takes_nextBlock
  have context := reader.context_nextBlock
  rw [same] at context
  rw [adjustedAnswer, readRecord]
  generalize reader.nextBlock = attempt at takes context ⊢
  obtain ⟨found, next⟩ := attempt
  simp only at context ⊢
  cases found with
  | error fault =>
      obtain ⟨failed, after⟩ := takes
      rw [front] at failed
      cases failed
      exact ⟨rfl, after, context⟩
  | ok block =>
      cases block with
      | none =>
          obtain ⟨ended, after⟩ := takes
          rw [front] at ended
          cases ended
          exact ⟨rfl, after, context⟩
      | some block =>
          have taken : reader.items = .block block :: next.items := takes
          rw [front] at taken
          obtain ⟨rfl, rfl⟩ := List.cons.inj taken
          simp only [context]
          cases decoded : block.decode job.context with
          | ok record => exact ⟨(Pool.Job.answer?_block decoded).symm, rfl, rfl⟩
          | error error =>
              have going := mayContinue_of_decode decoded
              refine ⟨?_, ?_, rfl⟩
              · rw [Pool.Job.answer?, Pool.Job.outcome?, decoded]
                rfl
              · simp [going, items, Item.isLast]

theorem take_of_more (items : List Item) (calls : Nat) :
    (items ++ List.replicate (calls + 1) Item.ended).take calls
      = (items ++ List.replicate calls Item.ended).take calls := by
  rw [List.replicate_succ', ← List.append_assoc]
  exact List.take_append_of_le_length (by simp)

/-- Calls go through the items in their order, and then say the end again and
again. -/
theorem adjustedAnswers_eq
    (same : reader.context = job.context) (calls : Nat) :
    reader.adjustedAnswers job.adjust calls
      = ((reader.items ++ List.replicate calls Item.ended).take calls).filterMap job.answer? := by
  induction calls generalizing reader with
  | zero => rfl
  | succ calls inductionHypothesis =>
      have closed := reader.closed_items
      rcases front : reader.items with _ | ⟨item, rest⟩
      · exact absurd front closed.ne_nil
      · obtain ⟨answer, after, context⟩ := call_answers same front
        have later : (reader.readRecord.2.items ++ List.replicate calls Item.ended).take calls
            = (rest ++ List.replicate (calls + 1) Item.ended).take calls := by
          rw [after]
          rw [front] at closed
          cases closed with
          | last ends => rw [if_pos ends]; rfl
          | block block others => exact (take_of_more rest calls).symm
        rw [adjustedAnswers, answer, inductionHypothesis context, later, List.cons_append,
          List.take_succ_cons, List.filterMap_cons]
        cases job.answer? item <;> rfl

end Reader

end DirectoryInterchange.Reading
