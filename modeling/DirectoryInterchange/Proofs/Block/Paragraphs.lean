import Mathlib.Data.List.SplitBy
import DirectoryInterchange.Block.Grouping

/-!
The groups of lines that blocks are made of, described as a whole.

Blank lines split the input into groups and the lines that do not start with a
space split a group into folds.  A fold counts when it starts with a data line:
comments and the version line of the input are left out with their folds.
-/

namespace DirectoryInterchange

namespace Grouping

/-! ### Lines and what they are -/

/-- A line of the input without the carriage return at its end. -/
structure Numbered where
  number : Nat
  text : List Char
  /-- Whether the line was text, or has replacement characters in it. -/
  valid : Bool
  deriving DecidableEq, Repr

namespace Numbered

def of (line : Bytes × Nat) : Numbered where
  number := line.2
  text := content ((Utf8.decode? line.1).getD (Utf8.decodeLossy line.1))
  valid := (Utf8.decode? line.1).isSome

def isBlank (line : Numbered) : Bool := line.text.isEmpty

def isContinuation (line : Numbered) : Bool := line.text.head? == some ' '

def isComment (line : Numbered) : Bool := line.text.head? == some '#'

def isContent (line : Numbered) : Bool :=
  !line.isBlank && !line.isContinuation && !line.isComment

variable {line : Numbered} {first : Char}

theorem not_isBlank_of_head (starts : line.text.head? = some first) : line.isBlank = false := by
  unfold isBlank
  cases text : line.text with
  | nil => rw [text] at starts; cases starts
  | cons c rest => rfl

theorem not_isContent_of_isContinuation (continues : line.isContinuation = true) :
    line.isContent = false := by
  rw [isContent, continues, Bool.not_true, Bool.and_false, Bool.false_and]

theorem not_isContent_of_isComment (comment : line.isComment = true) : line.isContent = false := by
  rw [isContent, comment, Bool.not_true, Bool.and_false]

theorem isContent_iff : line.isContent = true ↔
    line.isBlank = false ∧ line.isContinuation = false ∧ line.isComment = false := by
  rw [isContent, Bool.and_eq_true, Bool.and_eq_true, Bool.not_eq_true', Bool.not_eq_true',
    Bool.not_eq_true', and_assoc]

end Numbered

open Numbered (isBlank isContinuation isComment isContent)

/-- The lines of an input, counted from 1. -/
def numbered (lines : List Bytes) : List Numbered :=
  (lines.zipIdx 1).map Numbered.of

/-- The version line of an input is its first content line, if it is one. -/
def versionLine? (whole : List Numbered) : Option Numbered :=
  (whole.find? isContent).filter (isVersion ·.text)

def isData (whole : List Numbered) (line : Numbered) : Bool :=
  line.isContent && versionLine? whole != some line

/-! ### Groups and folds -/

def paragraphs (lines : List Numbered) : List (List Numbered) :=
  lines.splitOnP isBlank

/-- The last group, which more lines may still come to. -/
def current (lines : List Numbered) : List Numbered :=
  (paragraphs lines).getLastD []

/-- The groups that have a blank line behind them. -/
def closed (lines : List Numbered) : List (List Numbered) :=
  (paragraphs lines).dropLast

/-- A line with its continuations, one after another. -/
def folds (group : List Numbered) : List (List Numbered) :=
  group.splitBy fun _ next => next.isContinuation

def isHeadedBy (kind : Numbered → Bool) (fold : List Numbered) : Bool :=
  fold.head?.any kind

def dataFolds (whole group : List Numbered) : List (List Numbered) :=
  (folds group).filter (isHeadedBy (isData whole))

/-- The one line that a fold stands for: what continues it goes without its space. -/
def unfold : List Numbered → String
  | [] => ""
  | first :: others => String.ofList (first.text ++ others.flatMap (·.text.tail))

/-! ### Blocks and errors -/

/-- The block of a group that has data. -/
def block (whole group : List Numbered) : Block where
  lines := (dataFolds whole group).map unfold
  firstLine := ((group.find? (isData whole)).map Numbered.number).getD 0
  invalidLine := ((dataFolds whole group).flatten.find? (!·.valid)).map Numbered.number

def blocks (whole : List Numbered) (groups : List (List Numbered)) : List Block :=
  (groups.filter (·.any (isData whole))).map (block whole)

/-- What stands in front of a line in its group. -/
def front (whole : List Numbered) (line : Numbered) : List Numbered :=
  current (whole.take (line.number - 1))

/-- A continuation that neither continues a comment nor has data in front of it
in its group. -/
def isStray (whole : List Numbered) (line : Numbered) : Bool :=
  line.isContinuation && !(folds (front whole line)).getLast?.any (isHeadedBy isComment) &&
    !(front whole line).any (isData whole)

/-! ### One more line -/

section

variable {lines group : List Numbered} {line : Numbered}

theorem any_concat {kind : Numbered → Bool} (silent : kind line = false) :
    (lines ++ [line]).any kind = lines.any kind := by
  rw [List.any_append, List.any_cons, silent, List.any_nil, Bool.or_false, Bool.or_false]

theorem find?_concat {kind : Numbered → Bool} (silent : kind line = false) :
    (lines ++ [line]).find? kind = lines.find? kind := by
  rw [List.find?_append, List.find?_cons_of_neg (by rw [silent]; decide), List.find?_nil,
    Option.or_none]

theorem exists_first {kind : Numbered → Bool} (counts : lines.any kind = true) :
    ∃ first, lines.find? kind = some first := by
  rw [← Option.isSome_iff_exists, List.find?_isSome]
  exact List.any_eq_true.mp counts

theorem paragraphs_eq (lines : List Numbered) :
    paragraphs lines = closed lines ++ [current lines] := by
  have nonempty : paragraphs lines ≠ [] := List.splitOnP_ne_nil _ _
  rw [closed, current, List.getLastD_eq_getLast?, List.getLast?_eq_some_getLast nonempty]
  exact (List.dropLast_concat_getLast nonempty).symm

theorem of_paragraphs (earlier : List (List Numbered))
    (split : paragraphs lines = earlier ++ [group]) :
    closed lines = earlier ∧ current lines = group := by
  rw [closed, current, split]
  exact ⟨List.dropLast_concat, List.getLastD_concat⟩

theorem paragraphs_concat_of_blank (blank : line.isBlank = true) :
    paragraphs (lines ++ [line]) = paragraphs lines ++ [[]] :=
  List.splitOnP_append_cons lines [] blank

theorem paragraphs_concat (solid : line.isBlank = false) :
    paragraphs (lines ++ [line]) = closed lines ++ [current lines ++ [line]] := by
  induction lines with
  | nil =>
      show [line].splitOnP isBlank = [[line]]
      exact List.splitOnP_eq_singleton fun other member => List.mem_singleton.mp member ▸ solid
  | cons first lines inductionHypothesis =>
      have extended : paragraphs (first :: (lines ++ [line])) = if first.isBlank then
          [] :: (closed lines ++ [current lines ++ [line]])
        else (closed lines ++ [current lines ++ [line]]).modifyHead (first :: ·) := by
        rw [← inductionHypothesis]
        exact List.splitOnP_cons_eq_if_modifyHead ..
      have split : paragraphs (first :: lines) = if first.isBlank then
          [] :: (closed lines ++ [current lines])
        else (closed lines ++ [current lines]).modifyHead (first :: ·) := by
        rw [← paragraphs_eq]
        exact List.splitOnP_cons_eq_if_modifyHead ..
      rw [List.cons_append, extended]
      by_cases blank : first.isBlank = true
      · rw [if_pos blank] at split ⊢
        obtain ⟨ended, going⟩ := of_paragraphs ([] :: closed lines) split
        rw [ended, going]
        rfl
      · rw [if_neg blank] at split ⊢
        cases before : closed lines with
        | nil =>
            rw [before] at split
            obtain ⟨ended, going⟩ := of_paragraphs [] split
            rw [ended, going]
            rfl
        | cons group others =>
            rw [before] at split
            obtain ⟨ended, going⟩ := of_paragraphs ((first :: group) :: others) split
            rw [ended, going]
            rfl

theorem closed_concat_of_blank (lines : List Numbered) (blank : line.isBlank = true) :
    closed (lines ++ [line]) = paragraphs lines ∧ current (lines ++ [line]) = [] :=
  of_paragraphs _ (paragraphs_concat_of_blank blank)

theorem closed_concat (lines : List Numbered) (solid : line.isBlank = false) :
    closed (lines ++ [line]) = closed lines ∧
      current (lines ++ [line]) = current lines ++ [line] :=
  of_paragraphs _ (paragraphs_concat solid)

theorem folds_concat (other : line.isContinuation = false) :
    folds (group ++ [line]) = folds group ++ [[line]] :=
  List.splitBy_append_cons [] fun _ _ => other

theorem mem_folds_concat {fold : List Numbered} (other : line.isContinuation = false)
    (member : fold ∈ folds (group ++ [line])) : fold ∈ folds group ∨ fold = [line] := by
  rw [folds_concat other] at member
  exact (List.mem_append.mp member).imp_right List.mem_singleton.mp

theorem folds_concat_of_continuation {earlier : List (List Numbered)} {fold : List Numbered}
    (split : folds group = earlier ++ [fold]) (continues : line.isContinuation = true) :
    folds (group ++ [line]) = earlier ++ [fold ++ [line]] := by
  obtain ⟨whole, nonempty, chains, between⟩ := List.splitBy_eq_iff.mp split
  rw [List.mem_append, not_or, List.mem_singleton] at nonempty
  refine List.splitBy_eq_iff.mpr ⟨?_, ?_, ?_, ?_⟩
  · rw [whole, List.flatten_append, List.flatten_append, List.flatten_singleton,
      List.flatten_singleton, List.append_assoc]
  · rw [List.mem_append, List.mem_singleton, not_or]
    refine ⟨nonempty.1, fun same => ?_⟩
    exact List.append_ne_nil_of_right_ne_nil _ (List.cons_ne_nil _ _) same.symm
  · intro part member
    rcases List.mem_append.mp member with before | last
    · exact chains part (List.mem_append_left _ before)
    · rw [List.mem_singleton.mp last]
      have chain := chains fold (List.mem_append_right _ List.mem_cons_self)
      exact List.isChain_append.mpr ⟨chain, .singleton line, fun _ _ next member => by
        cases member
        exact continues⟩
  · obtain ⟨before, -, last⟩ := List.isChain_append.mp between
    refine List.isChain_append.mpr ⟨before, .singleton _, ?_⟩
    intro previous member next head
    cases head
    obtain ⟨previousNonempty, foldNonempty, apart⟩ := last previous member fold rfl
    refine ⟨previousNonempty, List.append_ne_nil_of_left_ne_nil foldNonempty _, ?_⟩
    rwa [List.head_append_of_ne_nil foldNonempty]

theorem mem_folds_concat_of_continuation {earlier : List (List Numbered)}
    {fold extended : List Numbered} (split : folds group = earlier ++ [fold])
    (continues : line.isContinuation = true) (member : extended ∈ folds (group ++ [line])) :
    extended ∈ folds group ∨ extended = fold ++ [line] := by
  rw [folds_concat_of_continuation split continues] at member
  refine (List.mem_append.mp member).imp (fun old => ?_) List.mem_singleton.mp
  rw [split]
  exact List.mem_append_left _ old

end

/-! ### The lines of groups -/

theorem flatten_paragraphs_sublist (lines : List Numbered) :
    (paragraphs lines).flatten.Sublist lines := by
  induction lines using List.reverseRecOn with
  | nil => exact List.Sublist.refl _
  | append_singleton lines line inductionHypothesis =>
      cases blank : line.isBlank with
      | true =>
          rw [paragraphs_concat_of_blank blank, List.flatten_append, List.flatten_singleton,
            List.append_nil]
          exact inductionHypothesis.trans (List.sublist_append_left _ _)
      | false =>
          rw [paragraphs_eq] at inductionHypothesis
          rw [paragraphs_concat blank, List.flatten_append, List.flatten_singleton,
            ← List.append_assoc, ← List.flatten_concat]
          exact inductionHypothesis.append (List.Sublist.refl _)

theorem mem_of_mem_current {lines : List Numbered} {line : Numbered}
    (member : line ∈ current lines) : line ∈ lines := by
  apply (flatten_paragraphs_sublist lines).subset
  rw [paragraphs_eq, List.flatten_concat]
  exact List.mem_append_right _ member

theorem isContent_of_isData {whole : List Numbered} {line : Numbered}
    (data : isData whole line = true) : line.isContent = true :=
  (Bool.and_eq_true_iff.mp data).1

/-- A data line is a content line, but not a version line in front of all others. -/
theorem isData_eq {before after : List Numbered} {line : Numbered}
    (earlier : ∀ other ∈ before, other.number < line.number) :
    isData (before ++ line :: after) line =
      (line.isContent && !(isVersion line.text && !before.any isContent)) := by
  cases content : line.isContent with
  | false => rw [isData, content, Bool.false_and, Bool.false_and]
  | true =>
      rw [isData, versionLine?, List.find?_append, content]
      cases found : before.find? isContent with
      | some first =>
          have member := List.mem_of_find?_eq_some found
          have distinct : first ≠ line := fun same => Nat.lt_irrefl _ (same ▸ earlier first member)
          have any : before.any isContent = true :=
            List.any_eq_true.mpr ⟨first, member, List.find?_some found⟩
          simp [any, Option.filter_some, distinct]
      | none =>
          have any : before.any isContent = false := List.any_eq_false.mpr
            (List.find?_eq_none.mp found)
          have first : (line :: after).find? isContent = some line :=
            List.find?_cons_of_pos content
          cases version : isVersion line.text <;> simp [any, first, Option.filter_some, version]

/-! ### Folds that count -/

section

variable {whole group fold : List Numbered} {line : Numbered} {earlier : List (List Numbered)}

theorem isHeadedBy_concat (kind : Numbered → Bool) (nonempty : fold ≠ []) :
    isHeadedBy kind (fold ++ [line]) = isHeadedBy kind fold := by
  rw [isHeadedBy, List.head?_append_of_ne_nil _ nonempty]
  rfl

theorem not_isData_of_not_isContent (silent : line.isContent = false) :
    isData whole line = false := by
  rw [isData, silent, Bool.false_and]

theorem not_isHeadedBy_isData (comment : isHeadedBy isComment fold = true) :
    isHeadedBy (isData whole) fold = false := by
  cases fold with
  | nil => rfl
  | cons first others =>
      exact not_isData_of_not_isContent (Numbered.not_isContent_of_isComment comment)

theorem dataFolds_concat_of_quiet (other : line.isContinuation = false)
    (silent : isData whole line = false) :
    dataFolds whole (group ++ [line]) = dataFolds whole group := by
  have left_out : [[line]].filter (isHeadedBy (isData whole)) = [] :=
    List.filter_cons_of_neg (by simpa [isHeadedBy] using silent)
  rw [dataFolds, folds_concat other, List.filter_append, left_out, List.append_nil]
  rfl

theorem dataFolds_concat_of_data (data : isData whole line = true) :
    dataFolds whole (group ++ [line]) = dataFolds whole group ++ [[line]] := by
  have other := (Numbered.isContent_iff.mp (isContent_of_isData data)).2.1
  have kept : [[line]].filter (isHeadedBy (isData whole)) = [[line]] :=
    List.filter_cons_of_pos (by simpa [isHeadedBy] using data)
  rw [dataFolds, folds_concat other, List.filter_append, kept]
  rfl

/-- A continuation goes with the fold that it continues. -/
theorem dataFolds_concat_of_continuation (whole : List Numbered)
    (split : folds group = earlier ++ [fold]) (continues : line.isContinuation = true) :
    dataFolds whole group = earlier.filter (isHeadedBy (isData whole)) ++
        (if isHeadedBy (isData whole) fold then [fold] else []) ∧
      dataFolds whole (group ++ [line]) = earlier.filter (isHeadedBy (isData whole)) ++
        (if isHeadedBy (isData whole) fold then [fold ++ [line]] else []) := by
  have nonempty : fold ≠ [] := by
    apply List.ne_nil_of_mem_splitBy (r := fun _ next => next.isContinuation) (l := group)
    show fold ∈ folds group
    rw [split]
    exact List.mem_append_right _ List.mem_cons_self
  rw [dataFolds, dataFolds, folds_concat_of_continuation split continues, split,
    List.filter_append, List.filter_append, List.filter_cons, List.filter_cons,
    isHeadedBy_concat _ nonempty, List.filter_nil]
  exact ⟨rfl, rfl⟩

theorem unfold_concat (nonempty : fold ≠ []) :
    unfold (fold ++ [line]) = unfold fold ++ String.ofList line.text.tail := by
  cases fold with
  | nil => contradiction
  | cons first others =>
      rw [List.cons_append, unfold, unfold, List.flatMap_append, List.flatMap_singleton,
        ← List.append_assoc, String.ofList_append]

/-- The first line that was no text, when one more line counts. -/
theorem firstInvalid_concat (lines : List Numbered) :
    ((lines ++ [line]).find? (!·.valid)).map Numbered.number =
      ((lines.find? (!·.valid)).map Numbered.number).or
        (if line.valid then none else some line.number) := by
  rw [List.find?_append]
  cases lines.find? (!·.valid) with
  | some first => rfl
  | none =>
      cases valid : line.valid with
      | true =>
          rw [List.find?_cons_of_neg (by rw [valid]; decide)]
          rfl
      | false =>
          rw [List.find?_cons_of_pos (by rw [valid]; decide)]
          rfl

end

theorem ordered_zipIdx (lines : List Bytes) (start : Nat) :
    ((lines.zipIdx start).map Numbered.of).Pairwise (·.number < ·.number) := by
  rw [List.pairwise_map]
  have indices := List.pairwise_lt_range' (s := start) (n := lines.length)
  rwa [← List.zipIdx_map_snd, List.pairwise_map] at indices

/-! ### Blocks -/

theorem blocks_append (whole : List Numbered) (left right : List (List Numbered)) :
    blocks whole (left ++ right) = blocks whole left ++ blocks whole right := by
  rw [blocks, List.filter_append, List.map_append]
  rfl

theorem blocks_singleton (whole group : List Numbered) :
    blocks whole [group] = if group.any (isData whole) then [block whole group] else [] := by
  rw [blocks, List.filter_cons, List.filter_nil]
  split <;> rfl

/-- The lines on which blocks start are lines of their groups, in order. -/
theorem firstLines_sublist (whole : List Numbered) (groups : List (List Numbered)) :
    ((blocks whole groups).map Block.firstLine).Sublist (groups.flatten.map Numbered.number) := by
  induction groups with
  | nil => exact .slnil
  | cons group groups inductionHypothesis =>
      have split : blocks whole (group :: groups) = blocks whole [group] ++ blocks whole groups :=
        blocks_append whole [group] groups
      rw [split, List.map_append, List.flatten_cons, List.map_append]
      refine List.Sublist.append ?_ inductionHypothesis
      rw [blocks_singleton]
      split
      · next counts =>
          obtain ⟨first, found⟩ := exists_first counts
          rw [List.map_singleton, block, found, List.singleton_sublist]
          exact List.mem_map_of_mem (List.mem_of_find?_eq_some found)
      · exact List.nil_sublist _

end Grouping

end DirectoryInterchange
