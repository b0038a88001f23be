import Mathlib.Data.List.Forall2
import DirectoryInterchange.Proofs.Block.RoundTrip
import DirectoryInterchange.Proofs.Reading.Calls
import DirectoryInterchange.Proofs.Reading.Lines
import DirectoryInterchange.Record.Writer

/-!
What a writer writes, a reader reads.

The reader is always one record behind: the blank line that ends a record is
only written in front of what comes next.
-/

namespace DirectoryInterchange

namespace Record.Writer

/-- At most one version line, and none behind a record. -/
structure Orderly (calls : List Call) : Prop where
  once : calls.count .version ≤ 1
  early : ∀ before after, calls = before ++ .version :: after → written before = []

variable {call : Call} {calls : List Call}

theorem written_cons (call : Call) (calls : List Call) :
    written (call :: calls) = call.record?.toList ++ written calls := by
  rw [written, List.filterMap_cons]
  cases call.record? <;> rfl

theorem Orderly.tail (orderly : Orderly (call :: calls)) : Orderly calls where
  once := Nat.le_trans (List.count_le_count_cons) orderly.once
  early := fun before after whole => by
    have none_before := orderly.early (call :: before) after (by rw [whole, List.cons_append])
    rw [written_cons, List.append_eq_nil_iff] at none_before
    exact none_before.2

/-- In front of a version line there is neither another one nor a record. -/
theorem Orderly.head (orderly : Orderly (call :: calls)) (version : .version ∈ calls) :
    call ≠ .version ∧ call.record? = none := by
  refine ⟨?_, ?_⟩
  · rintro rfl
    have another := List.count_pos_iff.mpr version
    have once := orderly.once
    rw [List.count_cons_self] at once
    omega
  · obtain ⟨before, after, whole⟩ := List.append_of_mem version
    have none_before := orderly.early (call :: before) after (by rw [whole, List.cons_append])
    rw [written_cons, List.append_eq_nil_iff] at none_before
    exact Option.toList_eq_nil_iff.mp none_before.1

end Record.Writer

namespace Reading

open Grouping (Stands)
open Pool (Item)
open Record (Writer)
open Record.Writer (Call Orderly written)

/-! ### Writer and grouping in step -/

/-- Whether a block has the lines of a record, all of them text. -/
def Holds (block : Block) (record : Record) : Prop :=
  block.lines = record.unfoldedLines ∧ block.invalidLine = none

/-- The lines of the record that was written last. -/
def waiting (pending : Option Record) : List String :=
  pending.elim [] fun record => record.unfoldedLines.reverse

/-- Where the writer and the grouping stand between two calls.  A record whose
block is not ended yet is pending. -/
structure Between (writer : Writer) (grouping : Grouping) (pending : Option Record)
    (start : Bool) : Prop where
  stands : Stands grouping (waiting pending) start
  due : pending.isSome = true → writer.separatorDue = true

/-- The pending record is what the block in progress holds. -/
theorem takeBlock_waiting
    {grouping : Grouping} {pending : Option Record} {start : Bool}
    (stands : Stands grouping (waiting pending) start) :
    ∃ block after, grouping.takeBlock = (block, after)
      ∧ List.Forall₂ Holds block.toList pending.toList
      ∧ Stands after [] (start && pending.isNone) := by
  cases pending with
  | none =>
      refine ⟨none, grouping, Grouping.takeBlock_nil stands, .nil, ?_⟩
      rwa [Option.isNone_none, Bool.and_true]
  | some record =>
      have nonempty : record.unfoldedLines.reverse ≠ [] := by
        rw [ne_eq, List.reverse_eq_nil_iff]
        exact record.unfoldedLines_ne_nil
      obtain ⟨block, after, taken, lines, valid, left⟩ :=
        Grouping.takeBlock_cons stands nonempty
      refine ⟨some block, after, taken, .cons ⟨?_, valid⟩ .nil, ?_⟩
      · exact lines.trans (List.reverse_reverse _)
      · rwa [Option.isNone_some, Bool.and_false]

/-- The blank line in front of what comes next ends the pending record. -/
theorem absorbs_separator
    {writer : Writer} {grouping : Grouping} {pending : Option Record} {start : Bool}
    (between : Between writer grouping pending start) :
    ∃ blocks after, Absorbs grouping writer.separator blocks after
      ∧ List.Forall₂ Holds blocks pending.toList
      ∧ Stands after [] (start && pending.isNone) := by
  cases due : writer.separatorDue with
  | true =>
      obtain ⟨number, pushed⟩ := @Grouping.push_blank grouping
      obtain ⟨block, after, taken, holds, left⟩ := @takeBlock_waiting
        { grouping with lineNumber := number, inComment := false } pending start
        ⟨between.stands.reversed, between.stands.start, between.stands.valid⟩
      rw [taken] at pushed
      refine ⟨block.toList, after, ?_, holds, left⟩
      rw [Writer.separator, if_pos due]
      exact absorbs_line (by decide) pushed
  | false =>
      have settled : pending = none := by
        cases pending with
        | none => rfl
        | some record =>
            have still := between.due rfl
            rw [due] at still
            cases still
      subst settled
      refine ⟨[], grouping, ?_, .nil, ?_⟩
      · rw [Writer.separator, due]
        exact absorbs_empty grouping
      · have stands := between.stands
        rwa [Option.isNone_none, Bool.and_true]

/-! ### One call -/

theorem absorbs_version {grouping : Grouping} (stands : Stands grouping [] true) :
    ∃ after, Absorbs grouping "version: 1\n" [] after ∧ Stands after [] false := by
  obtain ⟨after, pushed, left⟩ := Grouping.push_version stands
  exact ⟨after, @absorbs_line grouping after "version: 1" none (by decide) pushed, left⟩

theorem unbroken_commentLines (comment : String) :
    ∀ line ∈ Writer.commentLines comment, '\n' ∉ line := by
  intro line inside member
  have whole : ∃ piece ∈ Blank.split '\n' comment.toList, '\n' ∈ piece := by
    rw [Writer.commentLines, List.mem_append] at inside
    rcases inside with complete | last
    · obtain ⟨piece, listed, rfl⟩ := List.mem_map.mp complete
      refine ⟨piece, List.dropLast_subset _ listed, ?_⟩
      split at member
      · exact List.dropLast_subset _ member
      · exact member
    · obtain ⟨found, -⟩ := Option.filter_eq_some_iff.mp (Option.mem_toList.mp last)
      exact ⟨line, List.mem_of_getLast? found, member⟩
  obtain ⟨piece, listed, found⟩ := whole
  exact (Blank.of_mem_split listed found).1 rfl

theorem absorbs_comments
    (column : Nat) {lines : List (List Char)} (unbroken : ∀ line ∈ lines, '\n' ∉ line)
    {grouping : Grouping} {reversed : List String} {start : Bool}
    (stands : Stands grouping reversed start) :
    ∃ after,
      Absorbs grouping
        (linesText (lines.flatMap fun line => Folding.segments column (['#', ' '] ++ line))) []
        after
      ∧ Stands after reversed start := by
  induction lines generalizing grouping with
  | nil => exact ⟨grouping, absorbs_empty grouping, stands⟩
  | cons line lines inductionHypothesis =>
      have absent : '\n' ∉ ' ' :: line := by
        rw [List.mem_cons, not_or]
        exact ⟨by decide, unbroken line List.mem_cons_self⟩
      obtain ⟨middle, first, skipped⟩ := absorbs_comment column absent stands
      obtain ⟨after, absorbed, left⟩ := inductionHypothesis
        (fun other member => unbroken other (List.mem_cons_of_mem _ member)) skipped
      refine ⟨after, ?_, left⟩
      rw [List.flatMap_cons, linesText_append]
      exact first.append absorbed

theorem text_eq_linesText (column : Nat) (record : Record) :
    record.text column
      = linesText (record.unfoldedLines.flatMap fun line =>
          Folding.segments column line.toList) := by
  rw [Record.text, Record.lines_eq, List.map_map]
  rfl

theorem absorbs_record
    (column : Nat) {options : ReadOptions} {record : Record}
    (regular : Block.Regular options record) {grouping : Grouping} {start : Bool}
    (stands : Stands grouping [] start) :
    ∃ after, Absorbs grouping (record.text column) [] after
      ∧ Stands after (waiting (some record)) start := by
  rw [text_eq_linesText]
  obtain ⟨after, absorbed, left⟩ := absorbs_unfolded column
    (fun line member => Block.solid_of_mem regular member) stands
    (fun _ => record.head_of_unfoldedLines)
  rw [List.append_nil] at left
  exact ⟨after, absorbed, left⟩

/-! ### All calls -/

/-- Whether a text comes to one block for each of some records, and then ends. -/
def Delivers (grouping : Grouping) (text : String) (records : List Record) : Prop :=
  ∃ blocks, Feed.items ⟨⟨Utf8.encode text, none⟩, grouping⟩ = blocks.map Item.block ++ [.ended]
    ∧ List.Forall₂ Holds blocks records

/-- A separator ends the pending record, and the text behind it no other one. -/
theorem Delivers.behind
    {grouping middle after : Grouping} {separator text more : String} {blocks : List Block}
    {records others : List Record} (separated : Absorbs grouping separator blocks middle)
    (absorbed : Absorbs middle text [] after) (holds : List.Forall₂ Holds blocks records)
    (delivers : Delivers after more others) :
    Delivers grouping (separator ++ text ++ more) (records ++ others) := by
  obtain ⟨rest, items, rest_holds⟩ := delivers
  refine ⟨blocks ++ rest, ?_, List.rel_append holds rest_holds⟩
  rw [Utf8.encode_append, separated.append absorbed, items, List.append_nil, List.map_append,
    List.append_assoc]

theorem delivers_end
    {grouping : Grouping} {pending : Option Record} {start : Bool}
    (stands : Stands grouping (waiting pending) start) :
    Delivers grouping "" pending.toList := by
  obtain ⟨block, after, taken, holds, -⟩ := @takeBlock_waiting
    { grouping with inComment := false } pending start
    ⟨stands.reversed, stands.start, stands.valid⟩
  have finished : grouping.finish = (block, after) := taken
  have next : Input.nextSegment ⟨[], none⟩ = (.ok none, ⟨[], none⟩) := rfl
  refine ⟨block.toList, ?_, holds⟩
  rw [Utf8.encode_empty, Feed.items_of_end next, finished]
  cases block <;> rfl

/-- A version line may still come only where it would be skipped. -/
def Ready (calls : List Call) (pending : Option Record) (start : Bool) : Prop :=
  .version ∈ calls → start = true ∧ pending = none

/-- The text of calls comes to the pending record and the records behind it. -/
theorem delivers_run
    {options : ReadOptions} {calls : List Call} (orderly : Orderly calls)
    (regular : ∀ record ∈ written calls, Block.Regular options record)
    {writer : Writer} {grouping : Grouping} {pending : Option Record} {start : Bool}
    (between : Between writer grouping pending start) (ready : Ready calls pending start) :
    Delivers grouping (writer.run calls).1 (pending.toList ++ written calls) := by
  induction calls generalizing writer grouping pending start with
  | nil =>
      rw [written, List.filterMap_nil, List.append_nil]
      exact delivers_end between.stands
  | cons call calls inductionHypothesis =>
      have others := fun record member => regular record (by
        rw [Record.Writer.written_cons]
        exact List.mem_append_right _ member)
      have continues := @inductionHypothesis orderly.tail others
      have waits : .version ∈ calls → start = true ∧ pending = none :=
        fun version => ready (List.mem_cons_of_mem _ version)
      rw [Record.Writer.written_cons]
      obtain ⟨blocks, middle, separated, holds, stands⟩ := absorbs_separator between
      cases call with
      | version =>
          obtain ⟨rfl, rfl⟩ := ready List.mem_cons_self
          obtain ⟨after, absorbed, left⟩ := absorbs_version stands
          have behind : Ready calls none false :=
            fun version => absurd rfl (orderly.head version).1
          have delivers := @continues writer.version.2 after none _ ⟨left, fun _ => rfl⟩ behind
          exact Delivers.behind separated absorbed holds delivers
      | comment text =>
          obtain ⟨after, absorbed, left⟩ :=
            absorbs_comments writer.column (unbroken_commentLines text) stands
          have behind : Ready calls none (start && pending.isNone) := by
            intro version
            obtain ⟨rfl, rfl⟩ := waits version
            exact ⟨rfl, rfl⟩
          have delivers := @continues (writer.comment text).2 after none _
            ⟨left, fun absent => by cases absent⟩ behind
          exact Delivers.behind separated absorbed holds delivers
      | record record =>
          have keeps := regular record (by
            rw [Record.Writer.written_cons]
            exact List.mem_append_left _ (List.mem_singleton.mpr rfl))
          obtain ⟨after, absorbed, left⟩ := absorbs_record writer.column keeps stands
          have behind : Ready calls (some record) (start && pending.isNone) :=
            fun version => absurd (orderly.head version).2 (by exact Option.some_ne_none record)
          have delivers := @continues (writer.record record).2 after (some record) _
            ⟨left, fun _ => rfl⟩ behind
          exact Delivers.behind separated absorbed holds delivers
      | flush =>
          exact @continues writer grouping pending start between waits

/-- Records that were read are written and read again as they are, whatever the
column and whatever else is written between them. -/
theorem Reader.reads_written
    {options : ReadOptions} (kept : options.trailingSpaces ≠ .reject) (files : Files)
    (column : Nat) {calls : List Call} (orderly : Orderly calls)
    (read : ∀ record ∈ written calls, ∃ files block,
      Block.decode { options, files } block = .ok record) :
    (Reader.start { options, files }
        { bytes := Utf8.encode (Writer.run { column } calls).1 }).calls.map (·.1)
      = (written calls).map (fun record => .ok (some record)) ++ [.ok none] := by
  have regular : ∀ record ∈ written calls, Block.Regular options record := by
    intro record member
    obtain ⟨files, block, decoded⟩ := read record member
    exact Block.regular_of_decode decoded
  have between : Between { column } {} none true :=
    ⟨⟨rfl, rfl, rfl⟩, fun absent => (by cases absent)⟩
  have ready : Ready calls none true := fun _ => ⟨rfl, rfl⟩
  obtain ⟨blocks, items, holds⟩ := delivers_run orderly regular between ready
  refine Reader.calls_of_items items ?_
  have paired : List.Forall₂
      (fun record block => Block.Regular options record ∧ flip Holds record block)
      (written calls) blocks :=
    (List.forall₂_and_left _ _).mpr ⟨regular, @List.Forall₂.flip _ _ (flip Holds) _ _ holds⟩
  exact List.Forall₂.flip (paired.imp fun record block both =>
    Block.decode_unfoldedLines { options, files } kept both.1 both.2.1 both.2.2)

/-- An entry with a value that is no plain text. -/
def plainEntry : Record :=
  .entry "cn=ü" [⟨"sn", [[0x61], [0x20]]⟩]

/-- A change whose control loses its last space when it is read. -/
def controlledDelete : Record :=
  .change "cn=b" [⟨"1.2", true, some []⟩] .delete

def commentedCalls : List Call :=
  [.comment "first\n", .version, .flush, .record plainEntry, .comment "a\rb", .flush,
    .record controlledDelete]

theorem Reader.reads_written_commentedCalls :
    (Reader.start { options := { trailingSpaces := .strip }, files := fun _ => none }
        { bytes := Utf8.encode (Writer.run { column := 5 } commentedCalls).1 }).calls.map (·.1)
      = [.ok (some plainEntry), .ok (some controlledDelete), .ok none] := by
  have orderly : Orderly commentedCalls := by
    refine ⟨by decide, fun before after whole => ?_⟩
    rcases before with _ | ⟨first, _ | ⟨second, rest⟩⟩
    · cases whole
    · cases whole
      rfl
    · have later : .version ∈ commentedCalls.drop 2 := by
        rw [whole]
        exact List.mem_append_right rest List.mem_cons_self
      exact absurd later (by decide)
  have read : ∀ record ∈ written commentedCalls, ∃ files block,
      Block.decode { options := { trailingSpaces := .strip }, files } block = .ok record := by
    have written_two : written commentedCalls = [plainEntry, controlledDelete] := rfl
    rw [written_two]
    intro record member
    rcases List.mem_pair.mp member with rfl | rfl
    · exact ⟨fun _ => none, ⟨plainEntry.unfoldedLines, 1, none⟩, by decide +kernel⟩
    · exact ⟨fun _ => none, ⟨controlledDelete.unfoldedLines, 1, none⟩, by decide +kernel⟩
  exact Reader.reads_written (by decide) (fun _ => none) 5 orderly read

end Reading

end DirectoryInterchange
