import DirectoryInterchange.Proofs.Block.Grammar
import DirectoryInterchange.Proofs.Block.Partition
import DirectoryInterchange.Proofs.Block.RoundTrip
import DirectoryInterchange.Proofs.Record.Folding

/-!
Folded lines put together again.

Pushed one after another, the segments of a line come to stand in the block in
progress as the line that was folded.
-/

namespace DirectoryInterchange

namespace Grouping

variable {grouping : Grouping} {line : String}

/-! ### One line -/

theorem content_of_absent (absent : '\r' ∉ line.toList) : content line = line.toList := by
  rw [content, if_neg fun last => absent (List.mem_of_getLast? last)]

/-- A carriage return that is dropped leaves the start of the line. -/
theorem content_cons
    {first : Char} {rest : List Char} (spelled : line.toList = first :: rest)
    (visible : first ≠ '\r') : ∃ left, content line = first :: left := by
  rw [content, spelled]
  split
  · next last =>
      cases rest with
      | nil => exact absurd (Option.some.inj last) visible
      | cons second rest => exact ⟨(second :: rest).dropLast, rfl⟩
  · exact ⟨rest, rfl⟩

/-- Where a grouping stands, whatever the numbers of its lines. -/
structure Stands (grouping : Grouping) (reversed : List String) (start : Bool) : Prop where
  reversed : grouping.reversed = reversed
  start : grouping.atStart = start
  valid : grouping.invalidLine = none

variable {reversed : List String} {start : Bool}

theorem takeBlock_nil (stands : Stands grouping [] start) :
    grouping.takeBlock = (none, grouping) := by
  rw [takeBlock, stands.reversed]
  rfl

theorem takeBlock_cons
    (stands : Stands grouping reversed start) (nonempty : reversed ≠ []) :
    ∃ block after, grouping.takeBlock = (some block, after)
      ∧ block.lines = reversed.reverse ∧ block.invalidLine = none ∧ Stands after [] false := by
  rw [takeBlock, stands.reversed]
  cases reversed with
  | nil => contradiction
  | cons line earlier => exact ⟨_, _, rfl, rfl, stands.valid, rfl, rfl, rfl⟩

theorem push_blank :
    ∃ number, grouping.push ""
      = (.ok { grouping with lineNumber := number, inComment := false }.takeBlock.1,
          { grouping with lineNumber := number, inComment := false }.takeBlock.2) :=
  ⟨grouping.lineNumber + 1, rfl⟩

theorem push_comment
    (stands : Stands grouping reversed start) {rest : List Char}
    (spelled : line.toList = '#' :: rest) :
    ∃ after, grouping.push line = (.ok none, after)
      ∧ Stands after reversed start ∧ after.inComment = true := by
  obtain ⟨left, begins⟩ := content_cons spelled (by decide)
  exact ⟨_, push_of_comment begins, ⟨stands.reversed, stands.start, stands.valid⟩, rfl⟩

theorem push_commentContinuation
    (stands : Stands grouping reversed start) (commenting : grouping.inComment = true)
    {rest : List Char} (spelled : line.toList = ' ' :: rest) :
    ∃ after, grouping.push line = (.ok none, after)
      ∧ Stands after reversed start ∧ after.inComment = true := by
  obtain ⟨left, begins⟩ := content_cons spelled (by decide)
  have pushed := push_of_commented begins commenting
  exact ⟨_, pushed, ⟨stands.reversed, stands.start, stands.valid⟩, rfl⟩

theorem push_continuation
    {previous : String} {earlier : List String}
    (stands : Stands grouping (previous :: earlier) start) (speaking : grouping.inComment = false)
    {rest : List Char} (spelled : line.toList = ' ' :: rest) (absent : '\r' ∉ line.toList) :
    ∃ after, grouping.push line = (.ok none, after)
      ∧ Stands after ((previous ++ String.ofList rest) :: earlier) start
      ∧ after.inComment = false := by
  have begins := (content_of_absent absent).trans spelled
  have pushed := push_of_continued begins speaking stands.reversed
  exact ⟨_, pushed, ⟨rfl, stands.start, stands.valid⟩, speaking⟩

theorem push_version (stands : Stands grouping [] true) :
    ∃ after, grouping.push "version: 1" = (.ok none, after) ∧ Stands after [] false := by
  have spelled : content "version: 1" = 'v' :: "ersion: 1".toList := by decide
  have version : isVersion ('v' :: "ersion: 1".toList) = true := by decide
  have pushed : grouping.push "version: 1" = _ :=
    push_of_content spelled (by decide) (by decide)
  rw [version, stands.reversed, stands.start] at pushed
  exact ⟨_, pushed, rfl, rfl, stands.valid⟩

theorem isVersion_of_head {text : List Char} (first : text.head? = some 'd') :
    isVersion text = false := by
  obtain ⟨rest, rfl⟩ := List.head?_eq_some_iff.mp first
  rw [isVersion, Bool.eq_false_iff, ne_eq, Ascii.sameLetters_iff]
  intro same
  have spelled := congrArg String.toList same
  rw [Ascii.toList_lower, String.toList_ofList, List.take_succ_cons, List.map_cons] at spelled
  exact absurd (List.cons.inj spelled).1 (by decide)

/-- A line that starts a block or goes on with it. -/
theorem push_solid
    (stands : Stands grouping reversed start) (solid : Block.Solid line.toList)
    (plain : reversed = [] → isVersion line.toList = false) :
    ∃ after, grouping.push line = (.ok none, after)
      ∧ Stands after (line :: reversed) start ∧ after.inComment = false := by
  obtain ⟨first, rest, spelled, space, comment⟩ := solid.starts
  have absent : '\r' ∉ line.toList := fun member => (solid.unbroken _ member).2 rfl
  have data : ¬(isVersion line.toList && (grouping.atStart && reversed.isEmpty)) = true := by
    cases reversed with
    | nil =>
        rw [plain rfl, Bool.false_and]
        decide
    | cons previous earlier => simp
  have begins := (content_of_absent absent).trans spelled
  have pushed : grouping.push line = _ := push_of_content begins space comment
  rw [← spelled, stands.reversed, if_neg data, String.ofList_toList] at pushed
  exact ⟨_, pushed, ⟨rfl, stands.start, stands.valid⟩, rfl⟩

/-! ### Lines of text, one after another -/

/-- Lines are pushed in two parts as they are pushed at once. -/
theorem pushAll_append (grouping : Grouping) (lines more : List Bytes) :
    grouping.pushAll (lines ++ more) =
      grouping.pushAll lines >>= fun found =>
        (found.2.pushAll more).map fun behind => (found.1 ++ behind.1, behind.2) := by
  induction lines generalizing grouping with
  | nil =>
      rw [List.nil_append, pushAll, ok_bind]
      cases grouping.pushAll more <;> rfl
  | cons line lines inductionHypothesis =>
      rw [List.cons_append, pushAll, pushAll]
      rcases grouping.pushBytes line with ⟨answer, next⟩
      cases answer with
      | error error => rfl
      | ok block =>
          dsimp only
          rw [inductionHypothesis]
          rcases next.pushAll lines with _ | ⟨others, middle⟩
          · rfl
          · simp only [ok_bind, pure_eq_ok]
            cases middle.pushAll more with
            | error error => rfl
            | ok behind => exact congrArg Except.ok (by simp only [List.append_assoc])

theorem pushAll_line
    {after : Grouping} {block : Option Block} (pushed : grouping.push line = (.ok block, after)) :
    grouping.pushAll [Utf8.encode line] = .ok (block.toList, after) := by
  have bytes : grouping.pushBytes (Utf8.encode line) = (.ok block, after) := by
    rw [pushBytes, Utf8.decode?_encode]
    exact pushed
  rw [pushAll, bytes]
  exact congrArg Except.ok (congrArg (·, after) (List.append_nil _))

/-- Lines of text that complete no block. -/
def Gathers (grouping : Grouping) (lines : List (List Char)) (after : Grouping) : Prop :=
  grouping.pushAll (lines.map fun line => Utf8.encode (String.ofList line)) = .ok ([], after)

theorem gathers_nil (grouping : Grouping) : Gathers grouping [] grouping := rfl

theorem gathers_line
    {after : Grouping} {line : List Char}
    (pushed : grouping.push (String.ofList line) = (.ok none, after)) :
    Gathers grouping [line] after :=
  pushAll_line pushed

theorem Gathers.append
    {middle after : Grouping} {lines more : List (List Char)}
    (first : Gathers grouping lines middle) (second : Gathers middle more after) :
    Gathers grouping (lines ++ more) after := by
  rw [Gathers] at first second
  rw [Gathers, List.map_append, pushAll_append, first, ok_bind, second]
  rfl

/-- The continuations of a line are put behind it. -/
theorem gathers_continuations
    {others : List (List Char)} (unbroken : ∀ piece ∈ others, '\r' ∉ piece)
    {line : String} {earlier : List String} {start : Bool}
    (stands : Stands grouping (line :: earlier) start) (speaking : grouping.inComment = false) :
    ∃ after, Gathers grouping (others.map (' ' :: ·)) after
      ∧ Stands after ((line ++ String.ofList others.flatten) :: earlier) start := by
  induction others generalizing grouping line with
  | nil =>
      refine ⟨grouping, gathers_nil grouping, ?_⟩
      rwa [List.flatten_nil, String.ofList_nil, String.append_empty]
  | cons piece others inductionHypothesis =>
      have absent : '\r' ∉ (String.ofList (' ' :: piece)).toList := by
        rw [String.toList_ofList, List.mem_cons, not_or]
        exact ⟨by decide, unbroken piece List.mem_cons_self⟩
      obtain ⟨middle, pushed, continued, speaking⟩ :=
        push_continuation stands speaking String.toList_ofList absent
      obtain ⟨after, gathers, left⟩ := inductionHypothesis
        (fun other member => unbroken other (List.mem_cons_of_mem _ member)) continued speaking
      refine ⟨after, (gathers_line pushed).append gathers, ?_⟩
      rwa [List.flatten_cons, String.ofList_append, ← String.append_assoc]

/-- The continuations of a comment are skipped. -/
theorem gathers_commentContinuations
    (others : List (List Char)) {reversed : List String} {start : Bool}
    (stands : Stands grouping reversed start) (commenting : grouping.inComment = true) :
    ∃ after, Gathers grouping (others.map (' ' :: ·)) after ∧ Stands after reversed start := by
  induction others generalizing grouping with
  | nil => exact ⟨grouping, gathers_nil grouping, stands⟩
  | cons piece others inductionHypothesis =>
      obtain ⟨middle, pushed, skipped, commenting⟩ :=
        push_commentContinuation stands commenting (@String.toList_ofList (' ' :: piece))
      obtain ⟨after, gathers, left⟩ := inductionHypothesis skipped commenting
      exact ⟨after, (gathers_line pushed).append gathers, left⟩

/-! ### Folded lines -/

/-- A comment is skipped however it is folded. -/
theorem gathers_comment
    (column : Nat) (line : List Char) {reversed : List String} {start : Bool}
    (stands : Stands grouping reversed start) :
    ∃ after, Gathers grouping (Folding.segments column ('#' :: line)) after
      ∧ Stands after reversed start := by
  obtain ⟨first, others, segmented, nonempty, whole⟩ :=
    Folding.exists_segments column (List.cons_ne_nil '#' line)
  obtain ⟨rest, rfl⟩ : ∃ rest, first = '#' :: rest := by
    cases first with
    | nil => contradiction
    | cons c rest =>
        rw [List.cons_append] at whole
        exact ⟨rest, by rw [(List.cons.inj whole).1]⟩
  obtain ⟨middle, pushed, started, commenting⟩ :=
    push_comment stands (@String.toList_ofList ('#' :: rest))
  obtain ⟨after, gathers, left⟩ := gathers_commentContinuations others started commenting
  rw [segmented]
  exact ⟨after, (gathers_line pushed).append gathers, left⟩

/-- A line of a record is put together again however it is folded. -/
theorem gathers_folded
    (column : Nat) {line : String} (solid : Block.Solid line.toList)
    {reversed : List String} {start : Bool} (stands : Stands grouping reversed start)
    (plain : reversed = [] → line.toList.head? = some 'd') :
    ∃ after, Gathers grouping (Folding.segments column line.toList) after
      ∧ Stands after (line :: reversed) start := by
  have nonempty : line.toList ≠ [] := by
    obtain ⟨head, tail, spelled, -, -⟩ := solid.starts
    rw [spelled]
    exact List.cons_ne_nil _ _
  obtain ⟨first, others, segmented, first_nonempty, whole⟩ :=
    Folding.exists_segments column nonempty
  rw [← whole] at solid plain
  have first_solid : Block.Solid (String.ofList first).toList := by
    rw [String.toList_ofList]
    exact solid.of_append first_nonempty
  have first_plain : reversed = [] → isVersion (String.ofList first).toList = false := by
    intro empty
    have head := plain empty
    rw [String.toList_ofList]
    cases first with
    | nil => contradiction
    | cons c rest => exact isVersion_of_head head
  obtain ⟨middle, pushed, started, speaking⟩ := push_solid stands first_solid first_plain
  have unbroken : ∀ piece ∈ others, '\r' ∉ piece := fun piece inside member =>
    (solid.unbroken '\r' (List.mem_append_right _
      (List.mem_flatten.mpr ⟨piece, inside, member⟩))).2 rfl
  obtain ⟨after, gathers, left⟩ := gathers_continuations unbroken started speaking
  refine ⟨after, segmented ▸ (gathers_line pushed).append gathers, ?_⟩
  rwa [← String.ofList_append, whole, String.ofList_toList] at left

/-- The lines of a record come to stand in the block in progress. -/
theorem gathers_unfolded
    (column : Nat) {lines : List String} (solid : ∀ line ∈ lines, Block.Solid line.toList)
    {reversed : List String} {start : Bool} (stands : Stands grouping reversed start)
    (plain : reversed = [] → ∀ line ∈ lines.head?, line.toList.head? = some 'd') :
    ∃ after,
      Gathers grouping (lines.flatMap fun line => Folding.segments column line.toList) after
      ∧ Stands after (lines.reverse ++ reversed) start := by
  induction lines generalizing grouping reversed with
  | nil => exact ⟨grouping, gathers_nil grouping, stands⟩
  | cons line lines inductionHypothesis =>
      obtain ⟨middle, first, begun⟩ := gathers_folded column (solid line List.mem_cons_self) stands
        (fun empty => plain empty line rfl)
      obtain ⟨after, gathers, left⟩ := inductionHypothesis
        (fun other member => solid other (List.mem_cons_of_mem _ member)) begun
        (fun empty => absurd empty (List.cons_ne_nil _ _))
      refine ⟨after, first.append gathers, ?_⟩
      rwa [List.reverse_cons, List.append_assoc]

end Grouping

/-! ### Whole records -/

theorem Record.head_of_unfoldedLines (record : Record) :
    ∀ line ∈ record.unfoldedLines.head?, line.toList.head? = some 'd' := by
  intro line first
  have named : line = Rendering.textLine "dn" record.dn := by
    cases record <;> cases first <;> rfl
  rw [named, Rendering.textLine, Block.toList_nameValue]
  rfl

theorem Record.unfoldedLines_ne_nil (record : Record) : record.unfoldedLines ≠ [] := by
  cases record <;> exact List.cons_ne_nil _ _

theorem Record.lines_eq (column : Nat) (record : Record) :
    record.lines column = (record.unfoldedLines.flatMap fun line =>
      Folding.segments column line.toList).map String.ofList := by
  rw [Record.lines, List.map_flatMap]
  rfl

/-- The lines of a record, however they are folded, are one block. -/
theorem Grouping.exists_blocksOf_lines
    (column : Nat) {options : ReadOptions} {record : Record}
    (regular : Block.Regular options record) :
    ∃ block, blocksOf ((record.lines column).map Utf8.encode) = .ok [block]
      ∧ block.lines = record.unfoldedLines ∧ block.invalidLine = none := by
  have empty : Stands {} [] true := ⟨rfl, rfl, rfl⟩
  obtain ⟨last, gathers, stands⟩ := gathers_unfolded column
    (fun line member => Block.solid_of_mem regular member) empty
    (fun _ => record.head_of_unfoldedLines)
  rw [List.append_nil] at stands
  have ended : Stands { last with inComment := false } record.unfoldedLines.reverse true :=
    ⟨stands.reversed, stands.start, stands.valid⟩
  obtain ⟨block, after, taken, lines, valid, -⟩ := takeBlock_cons ended
    (List.reverse_ne_nil_iff.mpr record.unfoldedLines_ne_nil)
  have finished : last.finish = (some block, after) := taken
  refine ⟨block, ?_, lines.trans (List.reverse_reverse _), valid⟩
  have pushed : ({} : Grouping).pushAll ((record.lines column).map Utf8.encode)
      = .ok ([], last) := by
    rw [record.lines_eq, List.map_map]
    exact gathers
  rw [blocksOf, pushed, ok_bind]
  dsimp only
  rw [finished]
  rfl

namespace Block

open Rendering

/-- A value is read back under every policy, whatever bytes it has and wherever
its line is folded. -/
theorem decode_folded_value
    (context : Context) (column : Nat) (dn : String) {name : String}
    (described : name.toList ∈ Grammar.description)
    (uncontrolled : Ascii.sameLetters name "control" = false)
    (unchanged : Ascii.sameLetters name "changetype" = false) (value : Bytes) :
    ∃ block,
      Grouping.blocksOf ((Folding.fold column (nameValue "dn" (Utf8.encode dn)) ++
        Folding.fold column (nameValue name value)).map Utf8.encode) = .ok [block] ∧
      block.decode context = .ok (.entry dn [⟨name, [value]⟩]) := by
  have grouped : Grouped context.options [⟨name, [value]⟩] :=
    Values.grouped_add (Grammar.isDescription_iff.mpr described) grouped_nil rfl
  have leads : LeadsEntry [⟨name, [value]⟩] := by
    intro attr first
    cases first
    exact ⟨uncontrolled, unchanged⟩
  have regular : Regular context.options (.entry dn [⟨name, [value]⟩]) := ⟨grouped, leads⟩
  have allowed : ¬Refused context.options.trailingSpaces (.entry dn [⟨name, [value]⟩]) := by
    rintro ⟨control, member, -⟩
    cases member
  obtain ⟨block, blocks, lines, valid⟩ := Grouping.exists_blocksOf_lines column regular
  rw [Record.lines, Record.unfoldedLines, List.flatMap_cons, List.flatMap_singleton,
    attributeLines, List.map_singleton, List.flatMap_singleton] at blocks
  exact ⟨block, blocks, decode_of_allowed context allowed regular lines valid⟩

theorem decode_folded_value_rejecting :
    "cn;lang-en".toList ∈ Grammar.description ∧
      Ascii.sameLetters "cn;lang-en" "control" = false ∧
      Ascii.sameLetters "cn;lang-en" "changetype" = false ∧
      ∃ block,
        Grouping.blocksOf ((Folding.fold 3 (nameValue "dn" (Utf8.encode "cn=a ")) ++
          Folding.fold 3 (nameValue "cn;lang-en" [0x20, 0x0A, 0x20])).map Utf8.encode)
            = .ok [block] ∧
        block.decode ⟨{ duplicates := .reject, trailingSpaces := .reject }, fun _ => none⟩
          = .ok (.entry "cn=a " [⟨"cn;lang-en", [[0x20, 0x0A, 0x20]]⟩]) := by
  have described : "cn;lang-en".toList ∈ Grammar.description :=
    Grammar.isDescription_iff.mp (by decide)
  have uncontrolled : Ascii.sameLetters "cn;lang-en" "control" = false := by decide
  have unchanged : Ascii.sameLetters "cn;lang-en" "changetype" = false := by decide
  exact ⟨described, uncontrolled, unchanged,
    decode_folded_value _ 3 "cn=a " described uncontrolled unchanged _⟩

end Block

end DirectoryInterchange
