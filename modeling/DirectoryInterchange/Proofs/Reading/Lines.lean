import DirectoryInterchange.Proofs.Block.Unfolding
import DirectoryInterchange.Proofs.Reading.Items

/-!
Lines of an input, and what comes of them.
-/

namespace DirectoryInterchange.Reading

open Pool (Item)

/-! ### Lines of bytes -/

/-- Lines with a line feed behind each. -/
def fed (lines : List Bytes) : Bytes :=
  lines.flatMap (· ++ [0x0A])

theorem fed_cons_append (line : Bytes) (lines : List Bytes) (rest : Bytes) :
    fed (line :: lines) ++ rest = line ++ 0x0A :: (fed lines ++ rest) := by
  rw [fed, List.flatMap_cons, List.append_assoc, List.append_assoc]
  rfl

theorem splitLine_line {line : Bytes} (absent : 0x0A ∉ line) (rest : Bytes) :
    splitLine (line ++ 0x0A :: rest) = some (line, rest) := by
  have different : ∀ byte ∈ line, (byte != 0x0A) = true := by
    intro byte member
    rw [bne_iff_ne]
    rintro rfl
    exact absent member
  rw [splitLine, List.dropWhile_append_of_pos different, List.takeWhile_append_of_pos different]
  simp

theorem nextSegment_line {line : Bytes} (whole : 0x0A ∉ line) (rest : Bytes)
    (failure : Option String) :
    Input.nextSegment ⟨line ++ 0x0A :: rest, failure⟩ = (.ok (some line), ⟨rest, failure⟩) := by
  rw [Input.nextSegment, splitLine_line whole]

/-- What lines complete comes first, and what is left of them goes on. -/
theorem items_of_pushAll
    {lines : List Bytes} (whole : ∀ line ∈ lines, 0x0A ∉ line) {grouping last : Grouping}
    {blocks : List Block} (pushed : grouping.pushAll lines = .ok (blocks, last))
    (rest : Bytes) (failure : Option String) :
    Feed.items ⟨⟨fed lines ++ rest, failure⟩, grouping⟩
      = blocks.map Item.block ++ Feed.items ⟨⟨rest, failure⟩, last⟩ := by
  induction lines generalizing grouping blocks with
  | nil =>
      cases pushed
      rfl
  | cons line lines inductionHypothesis =>
      obtain ⟨first, others⟩ := List.forall_mem_cons.mp whole
      have next := nextSegment_line first (fed lines ++ rest) failure
      rw [fed_cons_append]
      rw [Grouping.pushAll] at pushed
      split at pushed
      · cases pushed
      · next block after one =>
          obtain ⟨⟨more, final⟩, run, done⟩ := bind_eq_ok.mp pushed
          cases done
          rw [List.map_append, List.append_assoc, ← inductionHypothesis others run]
          cases block with
          | none => exact Feed.items_of_line next one
          | some block => exact Feed.items_of_block next one

/-! ### Text -/

/-- Text that is taken in: the blocks that it completes, and the grouping behind it. -/
def Absorbs (grouping : Grouping) (text : String) (blocks : List Block) (after : Grouping) :
    Prop :=
  ∀ rest, Feed.items ⟨⟨Utf8.encode text ++ rest, none⟩, grouping⟩
    = blocks.map Item.block ++ Feed.items ⟨⟨rest, none⟩, after⟩

theorem absorbs_empty (grouping : Grouping) : Absorbs grouping "" [] grouping :=
  fun _ => rfl

theorem Absorbs.append
    {grouping middle after : Grouping} {text more : String} {blocks others : List Block}
    (first : Absorbs grouping text blocks middle) (second : Absorbs middle more others after) :
    Absorbs grouping (text ++ more) (blocks ++ others) after := by
  intro rest
  rw [Utf8.encode_append, List.append_assoc, first, second, List.map_append, List.append_assoc]

/-- Lines of text, each with a line feed behind it. -/
def linesText (lines : List (List Char)) : String :=
  String.join (lines.map fun line => String.ofList line ++ "\n")

theorem linesText_cons (line : List Char) (lines : List (List Char)) :
    linesText (line :: lines) = (String.ofList line ++ "\n") ++ linesText lines :=
  String.join_cons

theorem linesText_append (lines more : List (List Char)) :
    linesText (lines ++ more) = linesText lines ++ linesText more := by
  rw [linesText, List.map_append, String.join_append]
  rfl

theorem encode_linesText (lines : List (List Char)) :
    Utf8.encode (linesText lines)
      = fed (lines.map fun line => Utf8.encode (String.ofList line)) := by
  induction lines with
  | nil => rfl
  | cons line lines inductionHypothesis =>
      rw [linesText_cons, Utf8.encode_append, Utf8.encode_append, inductionHypothesis,
        List.map_cons, fed, fed, List.flatMap_cons]
      rfl

theorem absorbs_of_pushAll
    {lines : List (List Char)} (whole : ∀ line ∈ lines, '\n' ∉ line)
    {grouping after : Grouping} {blocks : List Block}
    (pushed : grouping.pushAll (lines.map fun line => Utf8.encode (String.ofList line))
      = .ok (blocks, after)) :
    Absorbs grouping (linesText lines) blocks after := by
  intro rest
  have bytes : ∀ line ∈ lines.map fun line => Utf8.encode (String.ofList line), 0x0A ∉ line := by
    intro line inside
    obtain ⟨text, listed, rfl⟩ := List.mem_map.mp inside
    apply Utf8.lineFeed_not_mem
    rw [String.toList_ofList]
    exact whole text listed
  rw [encode_linesText, items_of_pushAll bytes pushed]

theorem absorbs_line
    {grouping after : Grouping} {line : String} {block : Option Block}
    (absent : '\n' ∉ line.toList) (pushed : grouping.push line = (.ok block, after)) :
    Absorbs grouping (line ++ "\n") block.toList after := by
  have whole : ∀ text ∈ [line.toList], '\n' ∉ text := by
    rintro text inside
    rwa [List.mem_singleton.mp inside]
  have spelled : linesText [line.toList] = line ++ "\n" := by
    rw [linesText_cons, String.ofList_toList]
    exact String.append_empty
  rw [← spelled]
  apply absorbs_of_pushAll whole
  rw [List.map_singleton, String.ofList_toList]
  exact Grouping.pushAll_line pushed

/-! ### Folded lines -/

open Grouping (Stands)

theorem lineFeed_not_mem_segments
    (column : Nat) {line : List Char} (absent : '\n' ∉ line) :
    ∀ segment ∈ Folding.segments column line, '\n' ∉ segment := by
  intro segment inside member
  rcases Folding.of_mem_segments inside member with same | found
  · exact absurd same (by decide)
  · exact absent found

/-- A comment is skipped however it is folded. -/
theorem absorbs_comment
    (column : Nat) {line : List Char} (unbroken : '\n' ∉ line)
    {grouping : Grouping} {reversed : List String} {start : Bool}
    (stands : Stands grouping reversed start) :
    ∃ after, Absorbs grouping (linesText (Folding.segments column ('#' :: line))) [] after
      ∧ Stands after reversed start := by
  obtain ⟨after, gathers, left⟩ := Grouping.gathers_comment column line stands
  have absent : '\n' ∉ '#' :: line := List.not_mem_cons_of_ne_of_not_mem (by decide) unbroken
  exact ⟨after, absorbs_of_pushAll (lineFeed_not_mem_segments column absent) gathers, left⟩

/-- The lines of a record come to stand in the block in progress. -/
theorem absorbs_unfolded
    (column : Nat) {lines : List String} (solid : ∀ line ∈ lines, Block.Solid line.toList)
    {grouping : Grouping} {reversed : List String} {start : Bool}
    (stands : Stands grouping reversed start)
    (plain : reversed = [] → ∀ line ∈ lines.head?, line.toList.head? = some 'd') :
    ∃ after,
      Absorbs grouping
        (linesText (lines.flatMap fun line => Folding.segments column line.toList)) [] after
      ∧ Stands after (lines.reverse ++ reversed) start := by
  obtain ⟨after, gathers, left⟩ := Grouping.gathers_unfolded column solid stands plain
  refine ⟨after, absorbs_of_pushAll (fun segment inside => ?_) gathers, left⟩
  obtain ⟨line, listed, inside⟩ := List.mem_flatMap.mp inside
  have absent : '\n' ∉ line.toList := fun member => ((solid line listed).unbroken _ member).1 rfl
  exact lineFeed_not_mem_segments column absent segment inside

end DirectoryInterchange.Reading
