import DirectoryInterchange.Proofs.Block.Numberless
import DirectoryInterchange.Proofs.Reading.Layout

/-!
Lines that stand further down.

Lines in front, when nothing of them is left in progress, change nothing in the
blocks that come behind but the numbers of lines.
-/

namespace DirectoryInterchange

/-! ### Numbers of lines -/

/-- The problem of lines that stand further down. -/
def Record.Problem.shifted (count : Nat) : Problem → Problem
  | .nothingToContinue line => .nothingToContinue (line + count)
  | .invalidUtf8 line => .invalidUtf8 (line + count)
  | problem => problem

def Record.Error.shifted (count : Nat) (error : Error) : Error :=
  { error with
    problem := error.problem.shifted count
    lineNumber := error.lineNumber.map (· + count) }

def Fault.shifted (count : Nat) : Fault → Fault
  | .record error => .record (error.shifted count)
  | fault => fault

def Block.shifted (count : Nat) (block : Block) : Block :=
  { block with
    firstLine := block.firstLine + count
    invalidLine := block.invalidLine.map (· + count) }

theorem Record.Problem.shifted_of_numberless (count : Nat) {problem : Problem}
    (numberless : problem.line? = none) : problem.shifted count = problem := by
  cases problem with
  | nothingToContinue line => cases numberless
  | invalidUtf8 line => cases numberless
  | _ => rfl

theorem Record.Problem.shifted_shifted (count more : Nat) (problem : Problem) :
    (problem.shifted more).shifted count = problem.shifted (more + count) := by
  cases problem <;> simp [shifted, Nat.add_assoc]

theorem Record.Error.shifted_shifted (count more : Nat) (error : Error) :
    (error.shifted more).shifted count = error.shifted (more + count) := by
  have number : (error.lineNumber.map (· + more)).map (· + count)
      = error.lineNumber.map (· + (more + count)) := by
    cases error.lineNumber <;> simp [Nat.add_assoc]
  simp only [shifted, Problem.shifted_shifted, number]

/-- A block that stands further down is read as the same record, or with the
same problem. -/
theorem Block.decode_shifted {Rule : Type} [Matching Rule]
    (context : Context Rule) (count : Nat) (block : Block) :
    (block.shifted count).decode context
      = (block.decode context).mapError (Record.Error.shifted count) := by
  cases valid : block.invalidLine with
  | some line =>
      have invalid : (block.shifted count).invalidLine = some (line + count) := by
        rw [shifted, valid]
        rfl
      simp only [decode, parse, valid, invalid]
      rfl
  | none =>
      have same : parse context (block.shifted count) = parse context block := by
        simp only [parse, shifted, valid, Option.map_none]
      rw [decode, decode, same]
      cases parsed : parse context block with
      | ok record => rfl
      | error problem =>
          have kept := Record.Problem.shifted_of_numberless count
            (numberless_parse context valid problem parsed)
          simp only [Except.mapError, Record.Error.shifted, kept]
          rfl

namespace Grouping

/-! ### Groupings side by side -/

/-- The content of a line of bytes, with replacement characters where it is no text. -/
def lineText (line : Bytes) : List Char :=
  content ((Utf8.decode? line).getD (Utf8.decodeLossy line))

/-- The first content line of a line and of what comes behind it. -/
def firstContent (text : List Char) (behind : Option (List Char)) : Option (List Char) :=
  if startsContent text then some text else behind

/-- A grouping that has seen so many lines more than another, and nothing of
them is left.  A version line may make a difference while nothing is in
progress, so that the first content line to come must be none. -/
structure Behind (count : Nat) (first : Option (List Char)) (later sooner : Grouping) : Prop where
  lineNumber : later.lineNumber = sooner.lineNumber + count
  reversed : later.reversed = sooner.reversed
  inComment : later.inComment = sooner.inComment
  invalidLine : later.invalidLine = sooner.invalidLine.map (· + count)
  firstLine : sooner.reversed ≠ [] → later.firstLine = sooner.firstLine + count
  atStart : sooner.reversed = [] →
    later.atStart = sooner.atStart ∨ ∀ line ∈ first, isVersion line = false

/-- What comes of a line in two such groupings. -/
inductive BehindPush (count : Nat) (first : Option (List Char)) :
    Except Record.Error (Option Block) × Grouping →
      Except Record.Error (Option Block) × Grouping → Prop
  | refused (error : Record.Error) (later sooner : Grouping) :
      BehindPush count first (.error (error.shifted count), later) (.error error, sooner)
  | taken {block : Option Block} {later sooner : Grouping}
      (behind : Behind count first later sooner) :
      BehindPush count first (.ok (block.map (Block.shifted count)), later) (.ok block, sooner)

namespace BehindPush

variable {count : Nat} {first : Option (List Char)} {sooner : Grouping}
  {result : Except Record.Error (Option Block) × Grouping}

theorem of_error {error : Record.Error}
    (pushes : BehindPush count first result (.error error, sooner)) :
    ∃ later, result = (.error (error.shifted count), later) := by
  cases pushes with
  | refused error later sooner => exact ⟨later, rfl⟩

theorem of_ok {block : Option Block}
    (pushes : BehindPush count first result (.ok block, sooner)) :
    ∃ later, result = (.ok (block.map (Block.shifted count)), later)
      ∧ Behind count first later sooner := by
  cases pushes with
  | taken behind => exact ⟨_, rfl, behind⟩

end BehindPush

namespace Behind

variable {count : Nat} {first : Option (List Char)} {later sooner : Grouping}

theorem isEmpty (behind : Behind count first later sooner) :
    later.reversed.isEmpty = sooner.reversed.isEmpty := by
  rw [behind.reversed]

theorem marked (behind : Behind count first later sooner) (valid : Bool) :
    Behind count first (later.marked valid) (sooner.marked valid) := by
  have alike : (valid || later.inComment || later.reversed.isEmpty)
      = (valid || sooner.inComment || sooner.reversed.isEmpty) := by
    rw [behind.inComment, behind.isEmpty]
  rw [Grouping.marked, Grouping.marked, alike]
  split
  · exact behind
  · refine { behind with invalidLine := ?_ }
    show later.invalidLine.or (some later.lineNumber)
      = (sooner.invalidLine.or (some sooner.lineNumber)).map (· + count)
    rw [behind.invalidLine, behind.lineNumber]
    cases sooner.invalidLine <;> rfl

theorem of_push
    {block : Option Block} {bytes : Bytes} {laterNext soonerNext : Grouping}
    (laterPushed : later.push ((Utf8.decode? bytes).getD (Utf8.decodeLossy bytes))
      = (.ok (block.map (Block.shifted count)), laterNext))
    (soonerPushed : sooner.push ((Utf8.decode? bytes).getD (Utf8.decodeLossy bytes))
      = (.ok block, soonerNext))
    (behind : Behind count first laterNext soonerNext) :
    BehindPush count first (later.pushBytes bytes) (sooner.pushBytes bytes) := by
  rw [pushBytes_of_ok laterPushed, pushBytes_of_ok soonerPushed]
  exact .taken (behind.marked _)

/-- Ending the block in progress leaves nothing of it. -/
theorem takeBlock (behind : Behind count first later sooner) :
    later.takeBlock.1 = sooner.takeBlock.1.map (Block.shifted count)
      ∧ Behind count first later.takeBlock.2 sooner.takeBlock.2 := by
  unfold Grouping.takeBlock
  rw [behind.isEmpty]
  split
  · exact ⟨rfl, behind⟩
  · next going =>
      have held : sooner.reversed ≠ [] := fun empty => going (by rw [empty]; rfl)
      refine ⟨?_, ?_⟩
      · rw [behind.reversed, behind.firstLine held, behind.invalidLine]
        rfl
      · exact { behind with
          reversed := rfl
          invalidLine := rfl
          firstLine := fun absent => absurd rfl absent
          atStart := fun _ => .inl rfl }

/-! ### One more line -/

variable {bytes : Bytes}

section Lines

variable (behind : Behind count (firstContent (lineText bytes) first) later sooner)

include behind

theorem atStart_of_quiet (quiet : startsContent (lineText bytes) = false) :
    sooner.reversed = [] →
      later.atStart = sooner.atStart ∨ ∀ line ∈ first, isVersion line = false := by
  have still := behind.atStart
  rw [firstContent, quiet] at still
  exact still

theorem of_blank (spelled : lineText bytes = []) :
    BehindPush count first (later.pushBytes bytes) (sooner.pushBytes bytes) := by
  have quiet : startsContent (lineText bytes) = false := by rw [spelled]; rfl
  have ended : Behind count first
      { later with lineNumber := later.lineNumber + 1, inComment := false }
      { sooner with lineNumber := sooner.lineNumber + 1, inComment := false } :=
    { behind with
      lineNumber := by rw [behind.lineNumber, Nat.add_right_comm]
      inComment := rfl
      atStart := behind.atStart_of_quiet quiet }
  obtain ⟨blocks, left⟩ := ended.takeBlock
  have laterPushed := @push_of_blank later _ spelled
  rw [blocks] at laterPushed
  exact of_push laterPushed (push_of_blank spelled) left

theorem of_comment {rest : List Char} (spelled : lineText bytes = '#' :: rest) :
    BehindPush count first (later.pushBytes bytes) (sooner.pushBytes bytes) := by
  have quiet : startsContent (lineText bytes) = false := by rw [spelled]; rfl
  refine @of_push _ _ _ _ none _ _ _ (push_of_comment spelled) (push_of_comment spelled) ?_
  exact { behind with
    lineNumber := by rw [behind.lineNumber, Nat.add_right_comm]
    inComment := rfl
    atStart := behind.atStart_of_quiet quiet }

theorem of_continuation {rest : List Char} (spelled : lineText bytes = ' ' :: rest) :
    BehindPush count first (later.pushBytes bytes) (sooner.pushBytes bytes) := by
  have quiet : startsContent (lineText bytes) = false := by rw [spelled]; rfl
  have number : later.lineNumber + 1 = sooner.lineNumber + 1 + count := by
    rw [behind.lineNumber, Nat.add_right_comm]
  cases commenting : sooner.inComment with
  | true =>
      have also := behind.inComment.trans commenting
      refine @of_push _ _ _ _ none _ _ _ (push_of_commented spelled also)
        (push_of_commented spelled commenting) ?_
      exact { behind with
        lineNumber := number
        inComment := rfl
        atStart := behind.atStart_of_quiet quiet }
  | false =>
      have also := behind.inComment.trans commenting
      cases held : sooner.reversed with
      | nil =>
          have empty := behind.reversed.trans held
          rw [pushBytes_of_error (push_of_stray spelled also empty),
            pushBytes_of_error (push_of_stray spelled commenting held), number]
          exact .refused (fatal (' ' :: rest) (sooner.lineNumber + 1)) _ _
      | cons previous earlier =>
          have going := behind.reversed.trans held
          refine @of_push _ _ _ _ none _ _ _ (push_of_continued spelled also going)
            (push_of_continued spelled commenting held) ?_
          exact { behind with
            lineNumber := number
            reversed := rfl
            firstLine := fun _ => behind.firstLine (by rw [held]; exact List.cons_ne_nil _ _)
            atStart := fun absent => absurd absent (List.cons_ne_nil _ _) }

theorem of_content {c : Char} {rest : List Char} (spelled : lineText bytes = c :: rest)
    (space : c ≠ ' ') (comment : c ≠ '#') :
    BehindPush count first (later.pushBytes bytes) (sooner.pushBytes bytes) := by
  have number : later.lineNumber + 1 = sooner.lineNumber + 1 + count := by
    rw [behind.lineNumber, Nat.add_right_comm]
  have alike : (isVersion (c :: rest) && (later.atStart && later.reversed.isEmpty))
      = (isVersion (c :: rest) && (sooner.atStart && sooner.reversed.isEmpty)) := by
    rw [behind.isEmpty]
    cases held : sooner.reversed with
    | cons previous earlier => simp
    | nil =>
        rcases behind.atStart held with same | unversioned
        · rw [same]
        · have content : startsContent (lineText bytes) = true :=
            Reading.startsContent_iff.mpr ⟨c, rest, spelled, space, comment⟩
          rw [firstContent, content, if_pos rfl, spelled] at unversioned
          rw [unversioned _ rfl, Bool.false_and, Bool.false_and]
  have laterPushed := @push_of_content later _ _ _ spelled space comment
  have soonerPushed := @push_of_content sooner _ _ _ spelled space comment
  rw [alike] at laterPushed
  refine @of_push _ _ _ _ none _ _ _ laterPushed soonerPushed ?_
  split
  · exact { behind with
      lineNumber := number
      inComment := rfl
      atStart := fun _ => .inl rfl }
  · refine { behind with
      lineNumber := number
      reversed := by rw [behind.reversed]
      inComment := rfl
      firstLine := fun _ => ?_
      atStart := fun absent => absurd absent (List.cons_ne_nil _ _) }
    show (if later.reversed.isEmpty then later.lineNumber + 1 else later.firstLine)
      = (if sooner.reversed.isEmpty then sooner.lineNumber + 1 else sooner.firstLine) + count
    rw [behind.isEmpty, number]
    split
    · rfl
    · next going => exact behind.firstLine fun empty => going (by rw [empty]; rfl)

end Lines

/-- A line comes to the same in both, but for the numbers of lines. -/
theorem pushBytes (behind : Behind count (firstContent (lineText bytes) first) later sooner) :
    BehindPush count first (later.pushBytes bytes) (sooner.pushBytes bytes) := by
  cases spelled : lineText bytes with
  | nil => exact behind.of_blank spelled
  | cons c rest =>
      by_cases space : c = ' '
      · exact behind.of_continuation (space ▸ spelled)
      by_cases comment : c = '#'
      · exact behind.of_comment (comment ▸ spelled)
      · exact behind.of_content spelled space comment

end Behind

end Grouping

end DirectoryInterchange
