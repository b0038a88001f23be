import DirectoryInterchange.Proofs.Message.Framing
import DirectoryInterchange.Proofs.Program.Reformatting

/-!
Converting loses nothing.

Each record that can be read is sent as a message, numbered from 1 without a
gap.  Whoever takes the messages in gets the records back, in their order.
-/

namespace DirectoryInterchange

/-! ### Messages for records -/

namespace Message

theorem id_ofRecord (id : Int32) (record : Record) : (ofRecord id record).id = id := by
  cases record <;> rfl

theorem toRecord_ofRecords (records : List Record) :
    (ofRecords records).map toRecord = records := by
  calc (ofRecords records).map toRecord
      = (records.zipIdx 1).map Prod.fst := by
        rw [ofRecords, List.map_map]
        exact List.map_congr_left fun numbered _ => toRecord_ofRecord _ numbered.1
    _ = records := List.zipIdx_map_fst 1 records

theorem length_ofRecords (records : List Record) : (ofRecords records).length = records.length := by
  rw [ofRecords, List.length_map, List.length_zipIdx]

/-- The messages count up from 1, as long as there are numbers. -/
theorem ids_ofRecords {records : List Record} (bounded : records.length ≤ lastId) :
    (ofRecords records).map (·.id.toInt) = (List.range' 1 records.length).map Int.ofNat := by
  rw [← List.zipIdx_map_snd 1 records, List.map_map, ofRecords, List.map_map]
  refine List.map_congr_left fun numbered member => ?_
  obtain ⟨-, below, -⟩ := List.mem_zipIdx member
  have small : numbered.2 < 2 ^ 31 := by
    rw [lastId] at bounded
    omega
  show (ofRecord (Int32.ofNat numbered.2) numbered.1).id.toInt = numbered.2
  rw [id_ofRecord, Int32.toInt_ofNat_of_lt small]

theorem nonnegative_of_mem_ofRecords {records : List Record} (bounded : records.length ≤ lastId)
    {message : Message} (member : message ∈ ofRecords records) : 0 ≤ message.id := by
  have listed : message.id.toInt ∈ (ofRecords records).map (·.id.toInt) :=
    List.mem_map_of_mem member
  rw [ids_ofRecords bounded] at listed
  obtain ⟨id, -, same⟩ := List.mem_map.mp listed
  rw [Int32.le_iff_toInt_le, ← same]
  exact Int.natCast_nonneg id

end Message

/-! ### Runs -/

namespace Configuration

open Reading (recordsOf)
open Reading.Pool.State (Session start)

/-- A run that converts an input into an output that can be created.  It goes
on with what its pool answers, whatever the number of workers and however they
take turns, up to the first answer that says the end. -/
structure Converts (configuration : Configuration) (fileSystem : FileSystem)
    (input : Reading.Input) (run : Run) : Prop where
  verb : configuration.command.verb = .convert
  opened : fileSystem.input configuration.command.file = .ok input
  created : fileSystem.create configuration.command.output = .ok ()
  delivered : ∃ workers answers final,
    Session (configuration.setup fileSystem workers)
      (start (configuration.setup fileSystem workers) input) (answers ++ [.ok none]) final
    ∧ .ok none ∉ answers
    ∧ run = { configuration.deliver answers with missing := Reading.missingFiles answers }

/-- The records in an input, read one after another. -/
def recordsIn (configuration : Configuration) (fileSystem : FileSystem) (input : Reading.Input) :
    List Record :=
  recordsOf (Reading.Reader.answers
    { options := configuration.reading, files := fileSystem.files } input)

variable {configuration : Configuration} {fileSystem : FileSystem} {input : Reading.Input}
  {run : Run}

theorem steady_setup {workers : Nat} (record : Record) (line : Nat) :
    (configuration.setup fileSystem workers).job.adjust record line ≠ .crash :=
  Reading.Pool.steady_of_identical rfl record line

/-- The run by the fixed schedule is one of them. -/
theorem converts_run (verb : configuration.command.verb = .convert)
    (opened : fileSystem.input configuration.command.file = .ok input)
    (created : fileSystem.create configuration.command.output = .ok ()) :
    configuration.Converts fileSystem input (configuration.run fileSystem) := by
  obtain ⟨final, session⟩ :=
    Reading.Pool.exists_session (configuration.setup fileSystem _) steady_setup input
  refine ⟨verb, opened, created, _, configuration.answers fileSystem input, final, session, ?_, ?_⟩
  · rw [answers, Reading.Pool.answers_eq _ steady_setup]
    exact fun said => by simpa using (List.mem_filter.mp said).2
  · simp only [Configuration.run, opened, verb, created]

/-- Whatever the schedule, a run sends the records that a reader finds.  It
succeeds as long as there are numbers for them, and then counts them all. -/
theorem run_converts (converts : configuration.Converts fileSystem input run) :
    run.output = Message.encodeRecords (configuration.recordsIn fileSystem input)
      ∧ ((∃ summary, run.outcome = .ok summary) ↔
        (configuration.recordsIn fileSystem input).length ≤ Message.lastId)
      ∧ ∀ summary, run.outcome = .ok summary →
        summary.records = (configuration.recordsIn fileSystem input).length := by
  obtain ⟨workers, answers, final, session, going, rfl⟩ := converts.delivered
  have same := Reading.Pool.answers_of_session _ steady_setup session going
  have found : recordsOf answers = configuration.recordsIn fileSystem input := by
    rw [same, recordsIn, ← Reading.Reader.answers_eq rfl]
    rfl
  have counted := Summary.records_ofAnswers answers
  rw [found] at counted
  simp only [deliver, converts.verb, found]
  refine ⟨Run.output_sent _ _ _, ?_⟩
  rw [Run.outcome_sent]
  by_cases beyond : Message.lastId < (configuration.recordsIn fileSystem input).length
  · rw [if_pos beyond]
    simp [beyond]
  · rw [if_neg beyond]
    refine ⟨⟨fun _ => Nat.le_of_not_lt beyond, fun _ => ⟨_, rfl⟩⟩, ?_⟩
    rintro summary ⟨⟩
    exact counted

/-- Converting loses nothing.  A run succeeds as long as there are numbers for
the records.  A codec for messages that large then takes in as many as were
counted and leaves no byte; they are numbered from 1 without a gap, and carry
the records that were read, in their order. -/
theorem converted_read_back (converts : configuration.Converts fileSystem input run)
    (codec : Message.Codec)
    (fit : ∀ message ∈ Message.ofRecords (configuration.recordsIn fileSystem input),
      message.form.Fits)
    (small : ∀ message ∈ Message.ofRecords (configuration.recordsIn fileSystem input),
      message.form.value.length ≤ codec.limit) :
    ((∃ summary, run.outcome = .ok summary) ↔
        (configuration.recordsIn fileSystem input).length ≤ Message.lastId)
      ∧ ∀ summary, run.outcome = .ok summary →
        ∃ messages : List Message, codec.drain run.output = ⟨messages.map .ok, []⟩
          ∧ messages.length = summary.records
          ∧ messages.map (·.id.toInt) = (List.range' 1 summary.records).map Int.ofNat
          ∧ messages.map Message.toRecord = configuration.recordsIn fileSystem input := by
  obtain ⟨output, succeeds, counts⟩ := run_converts converts
  refine ⟨succeeds, ?_⟩
  intro summary succeeded
  have bounded := succeeds.mp ⟨summary, succeeded⟩
  have counted := counts summary succeeded
  refine ⟨Message.ofRecords (configuration.recordsIn fileSystem input), ?_, ?_, ?_, ?_⟩
  · rw [output, Message.encodeRecords, List.take_of_length_le bounded]
    exact Message.Codec.drain_send codec {}
      (fun _ member => Message.nonnegative_of_mem_ofRecords bounded member) fit small
  · rw [counted, Message.length_ofRecords]
  · rw [counted, Message.ids_ofRecords bounded]
  · exact Message.toRecord_ofRecords _

/-- An entry, a record that is none, and a deletion with a control. -/
def threeBlocks : Bytes :=
  Utf8.encode ("dn: cn=a\nsn: x\n\ndn: cn=b\nchangetype: wrong\n\n"
    ++ "dn: cn=c\ncontrol: 1.2 true: v\nchangetype: delete\n")

def conversion : Configuration :=
  usual { verb := .convert, file := "in.ldif", output := some "out.ber" }

theorem converted_read_back_threeBlocks :
    ∃ messages : List Message, ({ limit := 32 } : Message.Codec).drain
        (conversion.run (alone "in.ldif" threeBlocks)).output = ⟨messages.map .ok, []⟩
      ∧ messages.length = 2
      ∧ messages.map (·.id.toInt) = [1, 2]
      ∧ messages.map Message.toRecord =
        [.entry "cn=a" [⟨"sn", [[0x78]]⟩],
          .change "cn=c" [⟨"1.2", true, some [0x76]⟩] .delete] := by
  have opened : (alone "in.ldif" threeBlocks).input conversion.command.file
      = .ok { bytes := threeBlocks } := by
    simp [conversion, usual, alone, FileSystem.input]
  have converts := @converts_run conversion _ _ rfl opened rfl
  have succeeded : (conversion.run (alone "in.ldif" threeBlocks)).outcome
      = .ok { records := 2, errors := 1 } := by decide +kernel
  have found : conversion.recordsIn (alone "in.ldif" threeBlocks) { bytes := threeBlocks } =
      [.entry "cn=a" [⟨"sn", [[0x78]]⟩],
        .change "cn=c" [⟨"1.2", true, some [0x76]⟩] .delete] := by decide +kernel
  have fit : ∀ message ∈ Message.ofRecords
      (conversion.recordsIn (alone "in.ldif" threeBlocks) { bytes := threeBlocks }),
      message.form.Fits := by
    rw [found]
    unfold Element.Fits
    decide +kernel
  have small : ∀ message ∈ Message.ofRecords
      (conversion.recordsIn (alone "in.ldif" threeBlocks) { bytes := threeBlocks }),
      message.form.value.length ≤ 32 := by
    rw [found]
    decide +kernel
  obtain ⟨messages, drained, counted, numbered, read⟩ :=
    (converted_read_back converts { limit := 32 } fit small).2 _ succeeded
  exact ⟨messages, drained, counted, numbered, read.trans found⟩

end Configuration

end DirectoryInterchange
