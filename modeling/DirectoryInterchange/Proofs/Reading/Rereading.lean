import DirectoryInterchange.Program.Run
import DirectoryInterchange.Proofs.Reading.Document
import DirectoryInterchange.Proofs.Reading.Pool.Answers

/-!
What a pool answers to a document that records were written to.

Each record has its own answer: the record as it was, or an error where the
policy about spaces refuses one of its controls.
-/

namespace DirectoryInterchange

namespace Record.Writer

theorem written_records (records : List Record) :
    written (records.map Call.record) = records := by
  rw [written, List.filterMap_map]
  exact List.filterMap_some

theorem version_not_mem (records : List Record) : Call.version ∉ records.map Call.record := by
  intro member
  obtain ⟨record, -, same⟩ := List.mem_map.mp member
  cases same

theorem orderly_records (records : List Record) : Orderly (records.map Call.record) where
  once := by
    rw [List.count_eq_zero.mpr (version_not_mem records)]
    exact Nat.zero_le 1
  early := fun before after whole => by
    refine absurd ?_ (version_not_mem records)
    rw [whole]
    exact List.mem_append_right before List.mem_cons_self

/-- A version line may stand in front of calls that write none. -/
theorem Orderly.version {calls : List Call} (absent : Call.version ∉ calls) :
    Orderly (.version :: calls) where
  once := by rw [List.count_cons_self, List.count_eq_zero.mpr absent]
  early := fun before after whole => by
    rcases before with _ | ⟨first, rest⟩
    · rfl
    · rw [List.cons_append] at whole
      refine absurd ?_ absent
      rw [(List.cons.inj whole).2]
      exact List.mem_append_right rest List.mem_cons_self

end Record.Writer

namespace Summary

open Reading (recordsOf)

theorem records_ofAnswers (answers : List Reading.Reader.Answer) :
    (ofAnswers answers).records = (recordsOf answers).length := by
  induction answers with
  | nil => rfl
  | cons answer answers inductionHypothesis =>
      rcases answer with fault | _ | record
      · exact inductionHypothesis
      · exact inductionHypothesis
      · simpa [ofAnswers, recordsOf] using inductionHypothesis

theorem errors_ofAnswers_error (fault : Fault) (answers : List Reading.Reader.Answer) :
    (ofAnswers (.error fault :: answers)).errors = (ofAnswers answers).errors + 1 := by
  simp [ofAnswers]

end Summary

namespace Reading

open Pool (Item Adjustment)
open Record (Writer)
open Record.Writer (Call Orderly written)

/-! ### Documents -/

theorem delivers_document
    {options : ReadOptions} (column : Nat) (withVersion : Bool) {records : List Record}
    (regular : ∀ record ∈ records, Block.Regular options record) :
    Delivers {} (Record.document column withVersion records) records := by
  have between : Between { column } {} none true :=
    ⟨⟨rfl, rfl, rfl⟩, fun absent => (by cases absent)⟩
  have deliver {calls : List Call} (orderly : Orderly calls) (whole : written calls = records) :
      Delivers {} (Writer.run { column } calls).1 records := by
    have delivers := @delivers_run options calls orderly (by rwa [whole]) _ _ _ _ between
      (fun _ => ⟨rfl, rfl⟩)
    rwa [whole] at delivers
  cases withVersion with
  | true =>
      have whole : written (.version :: records.map Call.record) = records := by
        rw [Record.Writer.written_cons, Record.Writer.written_records]
        rfl
      exact deliver (Orderly.version (Record.Writer.version_not_mem records)) whole
  | false =>
      exact deliver (Record.Writer.orderly_records records) (Record.Writer.written_records records)

/-! ### Answers, one for each record -/

/-- What is answered where a record was written: the record, or what the policy
about spaces has against one of its controls. -/
inductive Rereads (policy : Policy) (record : Record) : Reader.Answer → Prop
  | kept (allowed : ¬Block.Refused policy record) : Rereads policy record (.ok (some record))
  | refused {control : Control} (member : control ∈ record.controls)
      (refused : Block.RefusedControl policy control) (block : Block) :
      Rereads policy record (.error (.record (block.refusal control)))

theorem Pool.Job.rereads
    {job : Job} (identical : job.adjust = Adjustment.identity) {record : Record}
    (regular : Block.Regular job.context.options record) {block : Block}
    (holds : Holds block record) :
    ∃ answer, job.answer? (.block block) = some answer
      ∧ Rereads job.context.options.trailingSpaces record answer := by
  obtain ⟨lines, valid⟩ := holds
  by_cases refused : Block.Refused job.context.options.trailingSpaces record
  · obtain ⟨control, member, refusing, told⟩ :=
      Block.decode_of_refused job.context refused regular lines valid
    refine ⟨_, ?_, .refused member refusing block⟩
    rw [answer?, outcome?, told]
    rfl
  · have decoded := Block.decode_of_allowed job.context refused regular lines valid
    refine ⟨_, ?_, .kept refused⟩
    rw [answer?_block decoded, identical]
    rfl

theorem Pool.Job.decoded_of_answer?
    {job : Job} (identical : job.adjust = Adjustment.identity) {item : Item} {record : Record}
    (answered : job.answer? item = some (.ok (some record))) :
    ∃ block, Block.decode job.context block = .ok record := by
  cases item with
  | ended => cases answered
  | failed fault => cases answered
  | block block =>
      cases decoded : block.decode job.context with
      | error error =>
          rw [answer?, outcome?, decoded] at answered
          cases answered
      | ok found =>
          rw [answer?_block decoded, identical] at answered
          cases answered
          exact ⟨block, decoded⟩

namespace Pool

variable {setup : Setup} (identical : setup.job.adjust = Adjustment.identity)

include identical

theorem steady_of_identical (record : Record) (line : Nat) :
    setup.job.adjust record line ≠ .crash := by
  rw [identical]
  exact Adjustment.noConfusion

theorem regular_of_answers
    {input : Input} {record : Record} (member : record ∈ recordsOf (answers setup input)) :
    Block.Regular setup.job.context.options record := by
  rw [answers_eq setup (steady_of_identical identical)] at member
  obtain ⟨answer, listed, said⟩ := List.mem_filterMap.mp member
  obtain ⟨item, -, answered⟩ := List.mem_filterMap.mp (List.mem_of_mem_filter listed)
  have found : answer = .ok (some record) := by
    cases answer with
    | error fault => cases said
    | ok answered => exact congrArg Except.ok said
  obtain ⟨block, decoded⟩ := setup.job.decoded_of_answer? identical (found ▸ answered)
  exact Block.regular_of_decode decoded

/-- A pool rereads every record of a document, in the order of the records. -/
theorem answers_document
    (column : Nat) (withVersion : Bool) {records : List Record}
    (regular : ∀ record ∈ records, Block.Regular setup.job.context.options record) :
    List.Forall₂ (Rereads setup.job.context.options.trailingSpaces) records
      (answers setup { bytes := Utf8.encode (Record.document column withVersion records) }) := by
  obtain ⟨blocks, items, holds⟩ := delivers_document column withVersion regular
  rw [answers_eq setup (steady_of_identical identical), items]
  clear items
  -- Behind the blocks only the end is left, and its answer is not delivered.
  induction holds with
  | nil => exact .nil
  | @cons block record blocks records first _ inductionHypothesis =>
      have others := inductionHypothesis fun other member =>
        regular other (List.mem_cons_of_mem _ member)
      obtain ⟨answer, answered, rereads⟩ :=
        setup.job.rereads identical (regular record List.mem_cons_self) first
      have goes : answer ≠ .ok none := fun same =>
        setup.job.answer?_block_ne block (same ▸ answered)
      rw [List.map_cons, List.cons_append, List.filterMap_cons_some answered,
        List.filter_cons_of_pos (by simpa using goes)]
      exact .cons rereads others

end Pool

/-! ### Counts -/

variable {policy : Policy} {records : List Record} {answers : List Reader.Answer}

theorem recordsOf_of_rereads (rereads : List.Forall₂ (Rereads policy) records answers) :
    recordsOf answers = records.filter (¬Block.Refused policy ·) := by
  induction rereads with
  | nil => rfl
  | @cons record answer records answers first _ inductionHypothesis =>
      cases first with
      | kept allowed =>
          rw [List.filter_cons_of_pos (by simpa using allowed), ← inductionHypothesis]
          rfl
      | refused member refused _ =>
          have refused : Block.Refused policy record := ⟨_, member, refused⟩
          rw [List.filter_cons_of_neg (by simpa using refused), ← inductionHypothesis]
          rfl

theorem errors_of_rereads (rereads : List.Forall₂ (Rereads policy) records answers) :
    (Summary.ofAnswers answers).errors = records.countP (Block.Refused policy ·) := by
  induction rereads with
  | nil => rfl
  | @cons record answer records answers first _ inductionHypothesis =>
      cases first with
      | kept allowed =>
          rw [List.countP_cons_of_neg (by simpa using allowed), ← inductionHypothesis]
          rfl
      | refused member refused _ =>
          have refused : Block.Refused policy record := ⟨_, member, refused⟩
          rw [List.countP_cons_of_pos (by simpa using refused), Summary.errors_ofAnswers_error,
            inductionHypothesis]

end Reading

end DirectoryInterchange
