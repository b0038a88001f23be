import Mathlib.Logic.Relation
import DirectoryInterchange.Proofs.Block.Pushing
import DirectoryInterchange.Proofs.Reading.Items

/-!
Layouts of the same lines.

Where a line is folded, which comments stand between lines and how many blank
lines there are does not show in the blocks of an input, but for the numbers of
lines.  Two groupings are compared by what shows of them: an edit leads a
grouping to where it would have come without the edit.
-/

namespace DirectoryInterchange

/-! ### Without the numbers of lines -/

def Record.Problem.unnumbered : Record.Problem → Record.Problem
  | .nothingToContinue _ => .nothingToContinue 0
  | .invalidUtf8 _ => .invalidUtf8 0
  | problem => problem

/-- An error without the numbers of the lines that it mentions. -/
def Record.Error.unnumbered (error : Record.Error) : Record.Error :=
  { error with
    problem := error.problem.unnumbered
    lineNumber := error.lineNumber.map fun _ => 0 }

def Fault.unnumbered : Fault → Fault
  | .record error => .record error.unnumbered
  | fault => fault

def Block.unnumbered (block : Block) : Block :=
  { block with firstLine := 0 }

namespace Grouping

/-! ### One line, whatever ends it -/

/-- The next line, given by its content. -/
def pushContent (grouping : Grouping) (text : List Char) :
    Except Record.Error (Option Block) × Grouping :=
  grouping.push (String.ofList (text ++ ['\r']))

theorem push_eq_pushContent (grouping : Grouping) (line : String) :
    grouping.push line = grouping.pushContent (content line) := by
  rw [pushContent, push, push, content_returned]

/-- Groupings that hold the same lines, all of them text. -/
structure Agree (left right : Grouping) : Prop where
  reversed : right.reversed = left.reversed
  atStart : right.atStart = left.atStart
  left_valid : left.invalidLine = none
  right_valid : right.invalidLine = none

/-- Groupings of which the same shows, whatever line comes next. -/
structure Same (left right : Grouping) : Prop extends Agree left right where
  inComment : right.inComment = left.inComment

/-- What has become of one line in two groupings. -/
inductive SamePush : Except Record.Error (Option Block) × Grouping →
    Except Record.Error (Option Block) × Grouping → Prop
  | refused (text : List Char) (number other : Nat) (left right : Grouping) :
      SamePush (.error (fatal text number), left) (.error (fatal text other), right)
  | taken {block counterpart : Option Block} {left right : Grouping}
      (blocks : counterpart.map Block.unnumbered = block.map Block.unnumbered)
      (same : Same left right) : SamePush (.ok block, left) (.ok counterpart, right)

variable {left right : Grouping} {text : List Char}

theorem Agree.takeBlock (agree : Agree left right) :
    right.takeBlock.1.map Block.unnumbered = left.takeBlock.1.map Block.unnumbered ∧
      Agree left.takeBlock.2 right.takeBlock.2 := by
  unfold Grouping.takeBlock
  rw [agree.reversed, agree.left_valid, agree.right_valid]
  split
  · exact ⟨rfl, agree⟩
  · exact ⟨rfl, rfl, rfl, rfl, rfl⟩

theorem inComment_takeBlock (grouping : Grouping) :
    grouping.takeBlock.2.inComment = grouping.inComment := by
  unfold takeBlock
  split <;> rfl

theorem reversed_takeBlock (grouping : Grouping) : grouping.takeBlock.2.reversed = [] := by
  unfold takeBlock
  split
  · next empty => exact List.isEmpty_iff.mp empty
  · rfl

/-- Whether a comment came last does not show in a line that continues nothing. -/
theorem Agree.push (agree : Agree left right) (plain : text.head? ≠ some ' ') :
    SamePush (left.pushContent text) (right.pushContent text) := by
  have spelled := content_returned text
  cases text with
  | nil =>
      have ended : Agree { left with lineNumber := left.lineNumber + 1, inComment := false }
          { right with lineNumber := right.lineNumber + 1, inComment := false } :=
        ⟨agree.reversed, agree.atStart, agree.left_valid, agree.right_valid⟩
      rw [pushContent, pushContent, push_of_blank spelled, push_of_blank spelled]
      refine .taken ended.takeBlock.1 ⟨ended.takeBlock.2, ?_⟩
      rw [inComment_takeBlock, inComment_takeBlock]
  | cons first rest =>
      by_cases hash : first = '#'
      · subst hash
        rw [pushContent, pushContent, push_of_comment spelled, push_of_comment spelled]
        exact .taken rfl ⟨⟨agree.reversed, agree.atStart, agree.left_valid, agree.right_valid⟩, rfl⟩
      · have space : first ≠ ' ' := fun same => plain (congrArg some same)
        rw [pushContent, pushContent, push_of_content spelled space hash,
          push_of_content spelled space hash, agree.reversed, agree.atStart]
        split
        · exact .taken rfl ⟨⟨rfl, rfl, agree.left_valid, agree.right_valid⟩, rfl⟩
        · exact .taken rfl ⟨⟨rfl, rfl, agree.left_valid, agree.right_valid⟩, rfl⟩

theorem Same.push (same : Same left right) (text : List Char) :
    SamePush (left.pushContent text) (right.pushContent text) := by
  by_cases space : text.head? = some ' '
  · obtain ⟨rest, rfl⟩ := List.head?_eq_some_iff.mp space
    have spelled := content_returned (' ' :: rest)
    have inComment := same.inComment
    have reversed := same.reversed
    cases commenting : left.inComment with
    | true =>
        rw [commenting] at inComment
        rw [pushContent, pushContent, push_of_commented spelled commenting,
          push_of_commented spelled inComment]
        exact .taken rfl ⟨⟨reversed, same.atStart, same.left_valid, same.right_valid⟩, rfl⟩
    | false =>
        rw [commenting] at inComment
        cases held : left.reversed with
        | nil =>
            rw [held] at reversed
            rw [pushContent, pushContent, push_of_stray spelled commenting held,
              push_of_stray spelled inComment reversed]
            exact .refused _ _ _ _ _
        | cons previous earlier =>
            rw [held] at reversed
            rw [pushContent, pushContent, push_of_continued spelled commenting held,
              push_of_continued spelled inComment reversed]
            exact .taken rfl
              ⟨⟨rfl, same.atStart, same.left_valid, same.right_valid⟩, same.inComment⟩
  · exact same.toAgree.push space

/-! ### What is kept -/

/-- Whether no version line can come any more. -/
def Settled (grouping : Grouping) : Prop :=
  (grouping.atStart && grouping.reversed.isEmpty) = false

/-- Whether a line starts neither a comment nor a continuation, and is not blank. -/
def startsContent (text : List Char) : Bool :=
  match text with
  | [] | ' ' :: _ | '#' :: _ => false
  | _ => true

/-- A line that is text marks nothing, and behind a content line no version line comes. -/
theorem kept_of_push {grouping next : Grouping} {block : Option Block}
    (valid : grouping.invalidLine = none) (pushed : grouping.pushContent text = (.ok block, next)) :
    next.invalidLine = none ∧
      (grouping.Settled ∨ startsContent text = true → next.Settled) := by
  have spelled := content_returned text
  rw [pushContent] at pushed
  cases text with
  | nil =>
      rw [push_of_blank spelled] at pushed
      cases pushed
      unfold takeBlock
      split
      · exact ⟨valid, fun either => either.resolve_right (by decide)⟩
      · exact ⟨rfl, fun _ => rfl⟩
  | cons first rest =>
      by_cases space : first = ' '
      · subst space
        cases commenting : grouping.inComment with
        | true =>
            rw [push_of_commented spelled commenting] at pushed
            cases pushed
            exact ⟨valid, fun either => either.resolve_right (by simp [startsContent])⟩
        | false =>
            cases held : grouping.reversed with
            | nil =>
                rw [push_of_stray spelled commenting held] at pushed
                cases pushed
            | cons previous earlier =>
                rw [push_of_continued spelled commenting held] at pushed
                cases pushed
                exact ⟨valid, fun _ => Bool.and_false _⟩
      by_cases hash : first = '#'
      · subst hash
        rw [push_of_comment spelled] at pushed
        cases pushed
        exact ⟨valid, fun either => either.resolve_right (by simp [startsContent])⟩
      · rw [push_of_content spelled space hash] at pushed
        split at pushed
        · cases pushed
          exact ⟨valid, fun _ => rfl⟩
        · cases pushed
          exact ⟨valid, fun _ => Bool.and_false _⟩

end Grouping

namespace Reading

open Pool (Item)
open Grouping (Same Agree SamePush Settled startsContent isVersion)

/-! ### Items -/

def Pool.Item.unnumbered : Item → Item
  | .block completed => .block completed.unnumbered
  | .failed fault => .failed fault.unnumbered
  | .ended => .ended

/-- What lines come to, given by their contents. -/
def itemsOf (grouping : Grouping) : List (List Char) → List Item
  | [] => (grouping.finish.1.map Item.block).toList ++ [.ended]
  | text :: lines =>
      match grouping.pushContent text with
      | (.error error, _) => [.failed (.record error)]
      | (.ok block, next) => (block.map Item.block).toList ++ itemsOf next lines

/-- What lines come to, without the numbers of lines. -/
def shown (grouping : Grouping) (lines : List (List Char)) : List Item :=
  (itemsOf grouping lines).map Item.unnumbered

variable {left right grouping : Grouping} {text : List Char} {lines after : List (List Char)}

theorem shown_of_ok {block : Option Block} {next : Grouping}
    (pushed : grouping.pushContent text = (.ok block, next)) :
    shown grouping (text :: lines) =
      ((block.map Block.unnumbered).map Item.block).toList ++ shown next lines := by
  unfold shown
  simp only [itemsOf, pushed, List.map_append]
  cases block <;> rfl

theorem shown_of_none {next : Grouping} (pushed : grouping.pushContent text = (.ok none, next)) :
    shown grouping (text :: lines) = shown next lines :=
  shown_of_ok pushed

theorem shown_of_samePush {other : List Char}
    (pushes : SamePush (left.pushContent text) (right.pushContent other))
    (rest : ∀ {left right : Grouping}, Same left right → shown left lines = shown right after) :
    shown left (text :: lines) = shown right (other :: after) := by
  generalize leftPushed : left.pushContent text = leftResult at pushes
  generalize rightPushed : right.pushContent other = rightResult at pushes
  cases pushes with
  | refused text number other left right =>
      unfold shown
      simp only [itemsOf, leftPushed, rightPushed]
      rfl
  | taken blocks same => rw [shown_of_ok leftPushed, shown_of_ok rightPushed, blocks, rest same]

theorem shown_nil_eq (grouping : Grouping) :
    shown grouping [] =
      ((grouping.finish.1.map Block.unnumbered).map Item.block).toList ++ [.ended] := by
  unfold shown itemsOf
  cases grouping.finish.1 <;> rfl

theorem shown_nil (agree : Agree left right) : shown left [] = shown right [] := by
  have ended : Agree { left with inComment := false } { right with inComment := false } :=
    ⟨agree.reversed, agree.atStart, agree.left_valid, agree.right_valid⟩
  rw [shown_nil_eq, shown_nil_eq, Grouping.finish, Grouping.finish, ended.takeBlock.1]

theorem shown_of_same (same : Same left right) (lines : List (List Char)) :
    shown left lines = shown right lines := by
  induction lines generalizing left right with
  | nil => exact shown_nil same.toAgree
  | cons text lines inductionHypothesis =>
      exact shown_of_samePush (same.push text) fun same => inductionHypothesis same

/-- Whether a comment came last does not show when no continuation follows. -/
theorem shown_of_agree (agree : Agree left right)
    (plain : ∀ line ∈ lines.head?, line.head? ≠ some ' ') :
    shown left lines = shown right lines := by
  cases lines with
  | nil => exact shown_nil agree
  | cons text lines =>
      exact shown_of_samePush (agree.push (plain text rfl)) fun same => shown_of_same same lines

/-- A change behind some lines does not show when it does not show to any
grouping that these lines may lead to. -/
theorem shown_append {before : List (List Char)} (valid : grouping.invalidLine = none)
    (rest : ∀ {next : Grouping}, next.invalidLine = none →
      (grouping.Settled ∨ before.any startsContent = true → next.Settled) →
      shown next lines = shown next after) :
    shown grouping (before ++ lines) = shown grouping (before ++ after) := by
  induction before generalizing grouping with
  | nil => exact rest valid fun either => either.resolve_right (by simp)
  | cons text before inductionHypothesis =>
      cases pushed : grouping.pushContent text with
      | mk answer next =>
          cases answer with
          | error error =>
              unfold shown
              simp only [List.cons_append, itemsOf, pushed]
          | ok block =>
              obtain ⟨nextValid, settled⟩ := Grouping.kept_of_push valid pushed
              rw [List.cons_append, List.cons_append, shown_of_ok pushed, shown_of_ok pushed]
              congr 1
              apply inductionHypothesis nextValid
              intro last lastValid later
              apply rest lastValid
              intro either
              apply later
              rw [List.any_cons, Bool.or_eq_true] at either
              rcases either with before | here | behind
              · exact .inl (settled (.inl before))
              · exact .inl (settled (.inr here))
              · exact .inr behind

/-! ### Blank lines and comments -/

/-- Behind a blank line there is nothing in progress. -/
theorem exists_blank (valid : grouping.invalidLine = none) :
    ∃ next, grouping.pushContent [] =
        (.ok { grouping with
          lineNumber := grouping.lineNumber + 1, inComment := false }.takeBlock.1, next) ∧
      next.invalidLine = none ∧ next.reversed = [] ∧ next.inComment = false := by
  have pushed : grouping.pushContent [] = _ :=
    Grouping.push_of_blank (Grouping.content_returned [])
  refine ⟨_, pushed, (Grouping.kept_of_push valid pushed).1, ?_, ?_⟩
  · exact Grouping.reversed_takeBlock _
  · exact Grouping.inComment_takeBlock _

/-- A blank line behind nothing does not show. -/
theorem shown_blank_of_empty (valid : grouping.invalidLine = none)
    (empty : grouping.reversed = []) (speaking : grouping.inComment = false) :
    shown grouping ([] :: lines) = shown grouping lines := by
  have pushed : grouping.pushContent [] =
      (.ok none, { grouping with lineNumber := grouping.lineNumber + 1, inComment := false }) := by
    rw [Grouping.pushContent, Grouping.push_of_blank (Grouping.content_returned []),
      Grouping.takeBlock, empty]
    rfl
  rw [shown_of_none pushed]
  refine (shown_of_same ?_ lines).symm
  exact ⟨⟨rfl, rfl, valid, valid⟩, speaking.symm⟩

theorem shown_blank_beside (valid : grouping.invalidLine = none) :
    shown grouping ([] :: [] :: after) = shown grouping ([] :: after) := by
  obtain ⟨next, pushed, nextValid, empty, speaking⟩ := exists_blank valid
  rw [shown_of_ok pushed, shown_of_ok pushed, shown_blank_of_empty nextValid empty speaking]

theorem shown_blank_last (valid : grouping.invalidLine = none) :
    shown grouping [[]] = shown grouping [] := by
  obtain ⟨next, pushed, nextValid, empty, speaking⟩ := exists_blank valid
  have ended : Agree { grouping with lineNumber := grouping.lineNumber + 1, inComment := false }
      { grouping with inComment := false } := ⟨rfl, rfl, valid, valid⟩
  have nothing : next.finish.1 = none := by
    rw [Grouping.finish, Grouping.takeBlock, empty]
    rfl
  rw [shown_of_ok pushed, shown_nil_eq, shown_nil_eq, nothing, ← ended.takeBlock.1]
  rfl

variable {rest : List Char} {others : List (List Char)}

theorem shown_commented (valid : grouping.invalidLine = none)
    (commenting : grouping.inComment = true) :
    shown grouping (others.map (' ' :: ·) ++ after) = shown grouping after := by
  induction others with
  | nil => rfl
  | cons piece others inductionHypothesis =>
      have pushed : grouping.pushContent (' ' :: piece) = _ :=
        Grouping.push_of_commented (Grouping.content_returned _) commenting
      rw [List.map_cons, List.cons_append, shown_of_none pushed, ← inductionHypothesis]
      refine (shown_of_same ?_ _).symm
      exact ⟨⟨rfl, rfl, valid, valid⟩, commenting.symm⟩

theorem shown_comment (valid : grouping.invalidLine = none)
    (plain : ∀ line ∈ after.head?, line.head? ≠ some ' ') :
    shown grouping (('#' :: rest) :: others.map (' ' :: ·) ++ after) = shown grouping after := by
  have pushed : grouping.pushContent ('#' :: rest) = _ :=
    Grouping.push_of_comment (Grouping.content_returned _)
  rw [List.cons_append, shown_of_none pushed, shown_commented (by exact valid) rfl]
  refine (shown_of_agree ?_ plain).symm
  exact ⟨rfl, rfl, valid, valid⟩

/-! ### Folded lines -/

theorem shown_continued (valid : grouping.invalidLine = none)
    (speaking : grouping.inComment = false) {previous : String} {earlier : List String}
    (held : grouping.reversed = previous :: earlier) :
    shown grouping (others.map (' ' :: ·) ++ after) =
      shown { grouping with reversed := (previous ++ String.ofList others.flatten) :: earlier }
        after := by
  induction others generalizing grouping previous with
  | nil =>
      refine shown_of_same ?_ after
      refine ⟨⟨?_, rfl, valid, valid⟩, rfl⟩
      rw [List.flatten_nil, String.ofList_nil, String.append_empty, held]
  | cons piece others inductionHypothesis =>
      have pushed := Grouping.push_of_continued (Grouping.content_returned (' ' :: piece))
        speaking held
      rw [List.map_cons, List.cons_append, shown_of_none pushed,
        inductionHypothesis (by exact valid) (by exact speaking) rfl]
      refine shown_of_same ?_ after
      refine ⟨⟨?_, rfl, valid, valid⟩, rfl⟩
      rw [List.flatten_cons, String.ofList_append, String.append_assoc]

theorem startsContent_iff {first : List Char} :
    startsContent first = true ↔ ∃ c rest, first = c :: rest ∧ c ≠ ' ' ∧ c ≠ '#' := by
  unfold startsContent
  split
  · simp
  · simp
  · simp
  · next blank space hash =>
      cases first with
      | nil => exact absurd rfl blank
      | cons c rest =>
          simp only [true_iff]
          refine ⟨c, rest, rfl, ?_, ?_⟩
          · rintro rfl
            exact space rest rfl
          · rintro rfl
            exact hash rest rfl

theorem isVersion_append {first : List Char} (version : isVersion first = true)
    (more : List Char) : isVersion (first ++ more) = true := by
  have long : 8 ≤ first.length := by
    rw [isVersion, Ascii.sameLetters_iff] at version
    have lengths := congrArg (fun text => text.toList.length) version
    simp only [Ascii.toList_lower, String.toList_ofList, List.length_map,
      List.length_take] at lengths
    have eight : "version:".toList.length = 8 := by decide
    omega
  rw [isVersion, List.take_append_of_le_length long]
  exact version

/-- A content line shows as a whole, wherever it is folded. -/
theorem shown_content (valid : grouping.invalidLine = none) {first : List Char}
    (starts : startsContent first = true)
    (other : isVersion (first ++ others.flatten) = true → grouping.Settled) :
    shown grouping (first :: others.map (' ' :: ·) ++ after) =
      shown { grouping with
        inComment := false
        reversed := String.ofList (first ++ others.flatten) :: grouping.reversed } after := by
  have data : ¬(isVersion first && (grouping.atStart && grouping.reversed.isEmpty)) = true := by
    rw [Bool.and_eq_true, not_and, Bool.not_eq_true]
    exact fun version => other (isVersion_append version _)
  obtain ⟨c, rest, rfl, space, hash⟩ := startsContent_iff.mp starts
  have pushed : grouping.pushContent (c :: rest) = _ :=
    Grouping.push_of_content (Grouping.content_returned _) space hash
  rw [if_neg data] at pushed
  rw [List.cons_append, shown_of_none pushed, shown_continued (by exact valid) rfl rfl]
  refine shown_of_same ?_ after
  refine ⟨⟨?_, rfl, valid, valid⟩, rfl⟩
  rw [String.ofList_append]

/-! ### Edits -/

/-- A change of layout in one place. -/
inductive Edit : List (List Char) → List (List Char) → Prop
  /-- A content line is folded in other places.  The version line of an input is
  its first content line, when it reads so as a whole. -/
  | refold (before after : List (List Char)) {first first' : List Char}
      {others others' : List (List Char)} (starts : startsContent first = true)
      (nonempty : first' ≠ []) (same : first' ++ others'.flatten = first ++ others.flatten)
      (no_version : isVersion (first ++ others.flatten) = true → before.any startsContent = true) :
      Edit (before ++ (first :: others.map (' ' :: ·) ++ after))
        (before ++ (first' :: others'.map (' ' :: ·) ++ after))
  /-- A comment, folded or not, comes in front of a line that continues nothing. -/
  | comment (before : List (List Char)) (rest : List Char) (others : List (List Char))
      {after : List (List Char)} (plain : ∀ line ∈ after.head?, line.head? ≠ some ' ') :
      Edit (before ++ after) (before ++ (('#' :: rest) :: others.map (' ' :: ·) ++ after))
  | blankFirst (lines : List (List Char)) : Edit lines ([] :: lines)
  | blankLast (lines : List (List Char)) : Edit lines (lines ++ [[]])
  | blankBeside (before after : List (List Char)) :
      Edit (before ++ [] :: after) (before ++ [] :: [] :: after)

theorem shown_of_edit {edited : List (List Char)} (edit : Edit lines edited) :
    shown {} lines = shown {} edited := by
  cases edit with
  | @refold before after first first' others others' starts nonempty same no_version =>
      apply shown_append rfl
      intro next valid settled
      obtain ⟨c, rest, begins, space, hash⟩ := startsContent_iff.mp starts
      obtain ⟨c', rest', begins'⟩ := List.exists_cons_of_ne_nil nonempty
      have starts' : startsContent first' = true := by
        rw [begins, begins', List.cons_append, List.cons_append] at same
        exact startsContent_iff.mpr ⟨c', rest', begins', (List.cons.inj same).1 ▸ space,
          (List.cons.inj same).1 ▸ hash⟩
      have plain (version : isVersion (first ++ others.flatten) = true) : next.Settled :=
        settled (.inr (no_version version))
      rw [shown_content valid starts plain, shown_content valid starts' (by rwa [same]), same]
  | comment before rest others plain =>
      exact shown_append rfl fun valid _ => (shown_comment valid plain).symm
  | blankFirst => exact (shown_blank_of_empty rfl rfl rfl).symm
  | blankLast =>
      have ended : shown {} (lines ++ []) = shown {} (lines ++ [[]]) :=
        shown_append rfl fun valid _ => (shown_blank_last valid).symm
      rwa [List.append_nil] at ended
  | blankBeside before after =>
      exact shown_append rfl fun valid _ => (shown_blank_beside valid).symm

theorem shown_of_edits {edited : List (List Char)}
    (edits : Relation.ReflTransGen Edit lines edited) :
    shown {} lines = shown {} edited := by
  induction edits with
  | refl => rfl
  | tail _ edit inductionHypothesis => exact inductionHypothesis.trans (shown_of_edit edit)

end Reading

end DirectoryInterchange
