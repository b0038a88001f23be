import DirectoryInterchange.Proofs.Reading.Rereading

/-!
Reformatting what was reformatted.

A second run finds the records of the first as they were, so it has the same
output, unless the policy about spaces refuses a control with an empty value.
-/

namespace DirectoryInterchange

/-! ### Runs -/

namespace Run

/-- What a command leaves, wherever it went. -/
def output (run : Run) : Bytes :=
  (run.written.map (·.2)).getD run.printed

@[simp] theorem output_sent (outcome : Except Fault Summary) (output : Option String)
    (bytes : Bytes) : (sent outcome output bytes).output = bytes := by
  cases output <;> rfl

@[simp] theorem outcome_sent (outcome : Except Fault Summary) (output : Option String)
    (bytes : Bytes) : (sent outcome output bytes).outcome = outcome := by
  cases output <;> rfl

/-- Whether a run finds as many records as another, no errors, and leaves the
same bytes. -/
def Repeats (second first : Run) : Prop :=
  ∃ records errors, first.outcome = .ok { records, errors }
    ∧ second.outcome = .ok { records, errors := 0 }
    ∧ second.output = first.output

end Run

namespace Configuration

open Reading (recordsOf)
open Block (Refused)

/-- The same choices for another command. -/
def withCommand (configuration : Configuration) (command : Command) : Configuration :=
  { configuration with command }

/-- Whether a configuration is to reformat an input that can be opened, into an
output that can be created. -/
structure Reformats (configuration : Configuration) (fileSystem : FileSystem)
    (input : Reading.Input) : Prop where
  verb : configuration.command.verb = .reformat
  opened : fileSystem.input configuration.command.file = .ok input
  created : fileSystem.create configuration.command.output = .ok ()

variable {configuration : Configuration} {fileSystem later : FileSystem} {input : Reading.Input}

/-- The records that a configuration finds in an input. -/
def found (configuration : Configuration) (fileSystem : FileSystem) (input : Reading.Input) :
    List Record :=
  recordsOf (configuration.answers fileSystem input)

theorem regular_of_found {record : Record}
    (member : record ∈ configuration.found fileSystem input) :
    Block.Regular configuration.reading record :=
  @Reading.Pool.regular_of_answers (configuration.setup fileSystem _) rfl _ _ member

/-! ### One run -/

theorem run_reformats (reformats : configuration.Reformats fileSystem input) :
    (configuration.run fileSystem).outcome
        = .ok
          { records := (configuration.found fileSystem input).length
            errors := (Summary.ofAnswers (configuration.answers fileSystem input)).errors }
      ∧ (configuration.run fileSystem).output
        = Utf8.encode (Record.document configuration.wrapColumn true
            (configuration.found fileSystem input)) := by
  have run : configuration.run fileSystem =
      { configuration.deliver (configuration.answers fileSystem input) with
        missing := Reading.missingFiles (configuration.answers fileSystem input) } := by
    simp only [Configuration.run, reformats.opened, reformats.verb, reformats.created]
  have delivered : configuration.deliver (configuration.answers fileSystem input) =
      .sent (.ok (Summary.ofAnswers (configuration.answers fileSystem input)))
        configuration.command.output
        (Utf8.encode (Record.document configuration.wrapColumn true
          (configuration.found fileSystem input))) := by
    simp only [deliver, reformats.verb, found]
  have counted := Summary.records_ofAnswers (configuration.answers fileSystem input)
  rw [run, delivered]
  refine ⟨(Run.outcome_sent _ _ _).trans ?_, Run.output_sent _ _ _⟩
  rw [found, ← counted]

/-! ### Two runs -/

section

variable (first : configuration.Reformats fileSystem input) {command : Command}

include first

theorem answers_again :
    List.Forall₂ (Reading.Rereads configuration.reading.trailingSpaces)
      (configuration.found fileSystem input)
      ((configuration.withCommand command).answers later
        { bytes := (configuration.run fileSystem).output }) := by
  rw [(run_reformats first).2]
  exact @Reading.Pool.answers_document ((configuration.withCommand command).setup later _) rfl
    configuration.wrapColumn true _ fun record member => regular_of_found member

variable (second : (configuration.withCommand command).Reformats later
  { bytes := (configuration.run fileSystem).output })

include second

/-- The records that are refused are the errors of a second run. -/
theorem run_again :
    ((configuration.withCommand command).run later).outcome
        = .ok
          { records := (configuration.found fileSystem input).countP
              (¬Refused configuration.reading.trailingSpaces ·)
            errors := (configuration.found fileSystem input).countP
              (Refused configuration.reading.trailingSpaces ·) }
      ∧ ((configuration.withCommand command).run later).output
        = Utf8.encode (Record.document configuration.wrapColumn true
            ((configuration.found fileSystem input).filter
              (¬Refused configuration.reading.trailingSpaces ·))) := by
  have rereads := @answers_again _ _ later _ first command
  have kept := Reading.recordsOf_of_rereads rereads
  obtain ⟨outcome, output⟩ := run_reformats second
  refine ⟨?_, ?_⟩
  · rw [outcome, found, kept, Reading.errors_of_rereads rereads, ← List.countP_eq_length_filter]
  · rw [output, found, kept]
    rfl

/-- A run on the output of another with the same choices repeats it just when
none of the records is refused, whatever has become of the files that values
came from. -/
theorem repeats_iff_not_refused :
    (((configuration.withCommand command).run later).Repeats (configuration.run fileSystem) ↔
        ∀ record ∈ configuration.found fileSystem input,
          ¬Refused configuration.reading.trailingSpaces record)
      ∧ ((configuration.withCommand command).run later).outcome
        = .ok
          { records := (configuration.found fileSystem input).countP
              (¬Refused configuration.reading.trailingSpaces ·)
            errors := (configuration.found fileSystem input).countP
              (Refused configuration.reading.trailingSpaces ·) } := by
  obtain ⟨outcome, output⟩ := run_again first second
  obtain ⟨outcomeFirst, outputFirst⟩ := run_reformats first
  refine ⟨⟨?_, fun allowed => ?_⟩, outcome⟩
  · rintro ⟨records, errors, -, repeated, -⟩
    rw [outcome] at repeated
    have none_refused := congrArg Summary.errors (Except.ok.inj repeated)
    simpa using List.countP_eq_zero.mp none_refused
  · have kept : ∀ record ∈ configuration.found fileSystem input,
        decide (¬Refused configuration.reading.trailingSpaces record) = true :=
      fun record member => decide_eq_true (allowed record member)
    have none_refused : (configuration.found fileSystem input).countP
        (Refused configuration.reading.trailingSpaces ·) = 0 :=
      List.countP_eq_zero.mpr fun record member => by simpa using allowed record member
    refine ⟨_, _, outcomeFirst, ?_, ?_⟩
    · rw [outcome, none_refused, List.countP_eq_length.mpr kept]
    · rw [output, List.filter_eq_self.mpr kept, outputFirst]

end

/-! ### Controls with and without a value -/

/-- The choices where nothing is chosen. -/
def usual (command : Command) : Configuration where
  command
  logLevel := .info
  reading := {}
  workers := none
  queueCapacity := 500
  wrapColumn := 76
  queueCapacity_pos := by decide
  wrapColumn_ne_one := by decide

theorem ofParts_usual (command : Command) : ofParts { command } {} = .ok (usual command) := by
  have level : LogLevel.ofName "info" = .info := by decide
  simp [ofParts, usual, level]

/-- A single file. -/
def alone (path : String) (bytes : Bytes) : FileSystem where
  place other := if other = path then .file bytes else .nothing .notFound
  obstacle? _ := none

theorem reformats_alone (path : String) (output : Option String) (bytes : Bytes) :
    (usual ⟨.reformat, path, output⟩).Reformats (alone path bytes) { bytes } where
  verb := rfl
  opened := by simp [usual, alone, FileSystem.input]
  created := by cases output <;> rfl

/-- A change with one control, which ends as given. -/
def controlled (ending : String) : Bytes :=
  Utf8.encode ("dn: cn=a\ncontrol: 1.2.3" ++ ending ++ "\nchangetype: delete\n")

def firstCommand : Command :=
  { verb := .reformat, file := "in.ldif", output := some "out.ldif" }

def secondCommand : Command :=
  { verb := .reformat, file := "out.ldif" }

def firstRun (ending : String) : Run :=
  (usual firstCommand).run (alone "in.ldif" (controlled ending))

/-- A run that reformats the output of the first one. -/
def secondRun (ending : String) : Run :=
  (usual secondCommand).run (alone "out.ldif" (firstRun ending).output)

/-- A value with a space at its end, and an empty one. -/
theorem found_controlled :
    (usual firstCommand).found (alone "in.ldif" (controlled " true:: YiA="))
          { bytes := controlled " true:: YiA=" }
        = [.change "cn=a" [⟨"1.2.3", true, some [0x62, 0x20]⟩] .delete]
      ∧ (usual firstCommand).found (alone "in.ldif" (controlled ":")) { bytes := controlled ":" }
        = [.change "cn=a" [⟨"1.2.3", false, some []⟩] .delete] := by
  decide +kernel

theorem repeats_controlled :
    ofParts { command := firstCommand } {} = .ok (usual firstCommand)
      ∧ (usual firstCommand).Reformats (alone "in.ldif" (controlled " true:: YiA="))
        { bytes := controlled " true:: YiA=" }
      ∧ (usual secondCommand).Reformats (alone "out.ldif" (firstRun " true:: YiA=").output)
        { bytes := (firstRun " true:: YiA=").output }
      ∧ (secondRun " true:: YiA=").Repeats (firstRun " true:: YiA=") := by
  have first : (usual firstCommand).Reformats _ _ :=
    reformats_alone "in.ldif" (some "out.ldif") (controlled " true:: YiA=")
  have second : (usual secondCommand).Reformats _ _ :=
    reformats_alone "out.ldif" none (firstRun " true:: YiA=").output
  refine ⟨ofParts_usual firstCommand, first, second,
    (repeats_iff_not_refused first second).1.mpr ?_⟩
  rw [found_controlled.1]
  decide

/-- An empty value is written with a space that is refused when it is read. -/
theorem not_repeats_emptyValue : ¬(secondRun ":").Repeats (firstRun ":") := by
  rintro ⟨records, errors, -, repeated, -⟩
  have first : (usual firstCommand).Reformats _ _ :=
    reformats_alone "in.ldif" (some "out.ldif") (controlled ":")
  have second : (usual secondCommand).Reformats _ _ :=
    reformats_alone "out.ldif" none (firstRun ":").output
  have outcome := (run_again first second).1
  rw [found_controlled.2] at outcome
  have same : 1 = 0 := congrArg Summary.errors (Except.ok.inj (outcome.symm.trans repeated))
  exact absurd same Nat.one_ne_zero

end Configuration

end DirectoryInterchange
