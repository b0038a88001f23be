import DirectoryInterchange.Block.Grouping
import DirectoryInterchange.Fault

/-!
Lines from an input.

An input is the bytes that are still to be read and, where reading breaks off
behind them, the reason.  A line feed ends a line; the last line may lack it.
A line that breaks off in a failure is lost.
-/

namespace DirectoryInterchange.Reading

structure Input where
  bytes : Bytes
  /-- Why reading fails behind the bytes, when it does not simply end. -/
  failure : Option String := none
  deriving DecidableEq, Repr

/-- Splits off a line; without a line feed there is none. -/
def splitLine (bytes : Bytes) : Option (Bytes × Bytes) :=
  match bytes.dropWhile (· != 0x0A) with
  | [] => none
  | _ :: rest => some (bytes.takeWhile (· != 0x0A), rest)

theorem length_splitLine {bytes line rest : Bytes} (found : splitLine bytes = some (line, rest)) :
    line.length + rest.length + 1 = bytes.length := by
  have whole := congrArg List.length (List.takeWhile_append_dropWhile (p := (· != 0x0A)) (l := bytes))
  rw [List.length_append] at whole
  unfold splitLine at found
  split at found
  · simp at found
  · next behind =>
      simp only [Option.some.injEq, Prod.mk.injEq] at found
      rw [behind, found.1, found.2] at whole
      simpa [Nat.add_assoc] using whole

namespace Input

/-- Why reading fails behind the last line feed, or what it finds there. -/
def atEnd {Found : Type} (input : Input) (found : Found) : Except Fault Found × Input :=
  let spent := { input with bytes := [] }
  match input.failure with
  | some reason => (.error (.file reason), spent)
  | none => (.ok found, spent)

/-- Reads up to and with the next line feed, or what is left without one.
Nothing read is the end. -/
def readUntilLineFeed (input : Input) : Except Fault Bytes × Input :=
  match splitLine input.bytes with
  | some (line, rest) => (.ok (line ++ [0x0A]), { input with bytes := rest })
  | none => input.atEnd input.bytes

/-- The next piece between line feeds, none at the end.  There is no piece
behind a line feed that the input ends with. -/
def nextSegment (input : Input) : Except Fault (Option Bytes) × Input :=
  match splitLine input.bytes with
  | some (line, rest) => (.ok (some line), { input with bytes := rest })
  | none => input.atEnd (if input.bytes.isEmpty then none else some input.bytes)

theorem length_readUntilLineFeed {input rest : Input} {read : Bytes}
    (found : input.readUntilLineFeed = (.ok read, rest)) :
    rest.bytes.length + read.length = input.bytes.length := by
  unfold readUntilLineFeed at found
  split at found
  · next line behind split =>
      have := length_splitLine split
      cases found
      simp
      omega
  · unfold atEnd at found
    split at found <;> cases found
    simp

theorem length_nextSegment {input rest : Input} {line : Bytes}
    (found : input.nextSegment = (.ok (some line), rest)) :
    rest.bytes.length < input.bytes.length := by
  unfold nextSegment at found
  split at found
  · next line behind split =>
      have := length_splitLine split
      cases found
      simp
      omega
  · unfold atEnd at found
    split at found
    · cases found
    · obtain ⟨piece, spent⟩ := Prod.mk.inj found
      subst spent
      split at piece
      · cases piece
      · next nonempty => simpa [List.length_pos_iff] using nonempty

end Input

/-- Drops the line feed that a line ends with. -/
def withoutLineFeed (line : Bytes) : Bytes :=
  if line.getLast? = some 0x0A then line.dropLast else line

/-- Where reading stands: the rest of the input and the lines collected. -/
structure Feed where
  input : Input
  grouping : Grouping := {}
  deriving DecidableEq, Repr

end DirectoryInterchange.Reading
