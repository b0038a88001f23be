import DirectoryInterchange.Proofs.Reading.Lines
import DirectoryInterchange.Proofs.Reading.Pool.Answers
import DirectoryInterchange.Proofs.Reading.Shifting

/-!
Records that stand in one input do not affect one another.

Behind a blank line nothing is left of the lines in front: what is read behind
it is what would be read there alone, but for the numbers of lines.
-/

namespace DirectoryInterchange.Reading

open Pool (Item)
open Grouping (lineText startsContent isVersion)

/-! ### Lines of bytes -/

/-- Bytes that end with a line feed are lines. -/
theorem exists_lines {bytes : Bytes} (ends : ∀ byte ∈ bytes.getLast?, byte = 0x0A) :
    ∃ lines : List Bytes, (∀ line ∈ lines, 0x0A ∉ line) ∧ bytes = fed lines := by
  induction bytes with
  | nil => exact ⟨[], fun line member => (by cases member), rfl⟩
  | cons byte rest inductionHypothesis =>
      have more : ∀ other ∈ rest.getLast?, other = 0x0A := by
        intro other last
        refine ends other ?_
        rw [List.getLast?_cons, Option.mem_def.mp last]
        rfl
      obtain ⟨lines, whole, spelled⟩ := inductionHypothesis more
      by_cases feeds : byte = 0x0A
      · refine ⟨[] :: lines, List.forall_mem_cons.mpr ⟨List.not_mem_nil, whole⟩, ?_⟩
        rw [feeds, spelled]
        rfl
      · cases lines with
        | nil =>
            rw [spelled] at ends
            exact absurd (ends byte rfl) feeds
        | cons line lines =>
            obtain ⟨first, others⟩ := List.forall_mem_cons.mp whole
            refine ⟨(byte :: line) :: lines, List.forall_mem_cons.mpr ⟨?_, others⟩, ?_⟩
            · exact List.not_mem_cons_of_ne_of_not_mem (Ne.symm feeds) first
            · rw [spelled]
              rfl

theorem count_lines {lines : List Bytes} (whole : ∀ line ∈ lines, 0x0A ∉ line) :
    (fed lines).count 0x0A = lines.length := by
  induction lines with
  | nil => rfl
  | cons line lines inductionHypothesis =>
      obtain ⟨first, others⟩ := List.forall_mem_cons.mp whole
      rw [← List.append_nil (fed (line :: lines)), fed_cons_append, List.append_nil,
        List.count_append, List.count_eq_zero.mpr first, List.count_cons_self,
        inductionHypothesis others, List.length_cons, Nat.zero_add]

/-- The first line of bytes that is neither blank nor a comment nor a continuation. -/
def firstContent? (bytes : Bytes) : Option (List Char) :=
  ((bytes.splitOn 0x0A).map lineText).find? startsContent

theorem firstContent?_line {line : Bytes} (whole : 0x0A ∉ line) (rest : Bytes) :
    firstContent? (line ++ 0x0A :: rest)
      = Grouping.firstContent (lineText line) (firstContent? rest) := by
  rw [firstContent?, List.splitOn_append_cons_self_of_not_mem whole, List.map_cons,
    List.find?_cons, Grouping.firstContent, firstContent?]
  cases startsContent (lineText line) <;> rfl

theorem firstContent?_of_nextSegment {input rest : Input} {line : Bytes}
    (next : input.nextSegment = (.ok (some line), rest)) :
    firstContent? input.bytes
      = Grouping.firstContent (lineText line) (firstContent? rest.bytes) := by
  obtain ⟨bytes, failure⟩ := input
  by_cases feeds : 0x0A ∈ bytes
  · obtain ⟨first, others, rfl, whole⟩ := List.eq_append_cons_of_mem feeds
    rw [nextSegment_line whole] at next
    cases next
    exact firstContent?_line whole others
  · rw [Input.nextSegment, splitLine_eq_none.mpr feeds] at next
    cases failure with
    | some reason => cases next
    | none =>
        obtain ⟨found, rfl⟩ := Prod.mk.inj next
        dsimp only at found
        split at found
        · cases found
        · cases found
          rw [firstContent?, List.splitOn_eq_singleton feeds, List.map_singleton,
            List.find?_singleton]
          rfl

theorem file_of_nextSegment {input rest : Input} {fault : Fault}
    (next : input.nextSegment = (.error fault, rest)) : ∃ reason, fault = .file reason := by
  rw [Input.nextSegment] at next
  split at next
  · cases next
  · rw [Input.atEnd] at next
    split at next
    · cases next
      exact ⟨_, rfl⟩
    · cases next

/-! ### Items -/

def Pool.Item.shifted (count : Nat) : Item → Item
  | .block completed => .block (completed.shifted count)
  | .failed fault => .failed (fault.shifted count)
  | .ended => .ended

theorem behindPush_of_nextSegment
    {count : Nat} {feed : Feed} {later : Grouping} {rest : Input} {line : Bytes}
    (next : feed.input.nextSegment = (.ok (some line), rest))
    (behind : Grouping.Behind count (firstContent? feed.input.bytes) later feed.grouping) :
    Grouping.BehindPush count (firstContent? rest.bytes) (later.pushBytes line)
      (feed.grouping.pushBytes line) := by
  rw [firstContent?_of_nextSegment next] at behind
  exact behind.pushBytes

/-- What a feed comes to behind more lines. -/
theorem items_of_behind {count : Nat} {feed : Feed} {later : Grouping}
    (behind : Grouping.Behind count (firstContent? feed.input.bytes) later feed.grouping) :
    Feed.items { feed with grouping := later } = feed.items.map (Item.shifted count) := by
  induction feed using Feed.items.induct generalizing later with
  | case1 feed fault input next =>
      obtain ⟨reason, rfl⟩ := file_of_nextSegment next
      rw [@Feed.items_of_error { feed with grouping := later } _ _ next, Feed.items_of_error next]
      rfl
  | case2 feed input next =>
      rw [@Feed.items_of_end { feed with grouping := later } _ next, Feed.items_of_end next]
      have ended : Grouping.Behind count (firstContent? feed.input.bytes)
          { later with inComment := false } { feed.grouping with inComment := false } :=
        { behind with inComment := rfl }
      rw [Grouping.finish, Grouping.finish, ended.takeBlock.1, List.map_append]
      cases Grouping.takeBlock _ with
      | mk block left => cases block <;> rfl
  | case3 feed line input next error grouping pushed =>
      have pushes := behindPush_of_nextSegment next behind
      rw [pushed] at pushes
      obtain ⟨after, laterPushed⟩ := pushes.of_error
      rw [@Feed.items_of_fatal { feed with grouping := later } _ _ _ _ next laterPushed,
        Feed.items_of_fatal next pushed]
      rfl
  | case4 feed line input next block grouping pushed inductionHypothesis =>
      have pushes := behindPush_of_nextSegment next behind
      rw [pushed] at pushes
      obtain ⟨after, laterPushed, still⟩ := pushes.of_ok
      rw [@Feed.items_of_block { feed with grouping := later } _ _ _ _ next laterPushed,
        Feed.items_of_block next pushed, List.map_cons, ← inductionHypothesis still]
      rfl
  | case5 feed line input next grouping pushed inductionHypothesis =>
      have pushes := behindPush_of_nextSegment next behind
      rw [pushed] at pushes
      obtain ⟨after, laterPushed, still⟩ := pushes.of_ok
      rw [@Feed.items_of_line { feed with grouping := later } _ _ _ next laterPushed,
        Feed.items_of_line next pushed, ← inductionHypothesis still]

/-- A line that is refused is met, whatever stands behind it. -/
theorem failed_mem_items
    {lines : List Bytes} (whole : ∀ line ∈ lines, 0x0A ∉ line) {grouping : Grouping}
    {error : Record.Error} (pushed : grouping.pushAll lines = .error error)
    (rest : Bytes) (failure : Option String) :
    .failed (.record error)
      ∈ Feed.items ⟨⟨fed lines ++ rest, failure⟩, grouping⟩ := by
  induction lines generalizing grouping with
  | nil => cases pushed
  | cons line lines inductionHypothesis =>
      obtain ⟨first, others⟩ := List.forall_mem_cons.mp whole
      have next := nextSegment_line first (fed lines ++ rest) failure
      rw [fed_cons_append]
      rw [Grouping.pushAll] at pushed
      split at pushed
      · next refused left one =>
          cases pushed
          rw [Feed.items_of_fatal next one]
          exact List.mem_singleton_self _
      · next block after one =>
          cases run : after.pushAll lines with
          | ok found => rw [run] at pushed; cases pushed
          | error met =>
              rw [run] at pushed
              cases pushed
              have later := inductionHypothesis others run
              cases block with
              | none => rwa [Feed.items_of_line next one]
              | some block =>
                  rw [Feed.items_of_block next one]
                  exact List.mem_cons_of_mem _ later

/-! ### Blank lines -/

/-- Behind a blank line a grouping is as it was at the start, but for the number
of lines and for version lines. -/
theorem behind_of_blank
    {whole before : List Grouping.Numbered} {line : Grouping.Numbered} {done : List Block}
    {last : Grouping} (reflects : Grouping.Reflects whole (before ++ [line]) done last)
    (blank : line.isBlank = true) {first : Option (List Char)}
    (unversioned : ∀ line ∈ first, isVersion line = false) :
    Grouping.Behind (before.length + 1) first last {} := by
  have current := (Grouping.closed_concat_of_blank before blank).2
  have reversed := reflects.reversed
  have invalidLine := reflects.invalidLine
  have inComment := reflects.inComment
  rw [current] at reversed invalidLine inComment
  refine ⟨?_, List.reverse_eq_nil_iff.mp reversed, inComment, invalidLine,
    fun absent => absurd rfl absent, fun _ => .inr unversioned⟩
  rw [reflects.lineNumber, List.length_append]
  exact (Nat.zero_add _).symm

/-- Bytes with a blank line at their end. -/
def EndsBlank (bytes : Bytes) : Prop :=
  ∃ before blank, (∀ byte ∈ before.getLast?, byte = 0x0A) ∧ (blank = [] ∨ blank = [0x0D])
    ∧ bytes = before ++ (blank ++ [0x0A])

theorem EndsBlank.exists_lines {bytes : Bytes} (ends : EndsBlank bytes) :
    ∃ lines blank, (∀ line ∈ lines ++ [blank], 0x0A ∉ line) ∧ lineText blank = []
      ∧ bytes = fed (lines ++ [blank]) := by
  obtain ⟨before, blank, fedBefore, empty, rfl⟩ := ends
  obtain ⟨lines, whole, rfl⟩ := Reading.exists_lines fedBefore
  refine ⟨lines, blank, ?_, ?_, ?_⟩
  · rw [List.forall_mem_append, List.forall_mem_singleton]
    refine ⟨whole, ?_⟩
    rcases empty with rfl | rfl <;> decide
  · rcases empty with rfl | rfl <;> rfl
  · rw [fed, fed, List.flatMap_append, List.flatMap_singleton]

/-- Bytes in front that come to these blocks and leave a grouping in which
nothing is in progress. -/
structure Settles (front : Bytes) (blocks : List Block) (last : Grouping) : Prop where
  items : ∀ back failure, Feed.items { input := ⟨front ++ back, failure⟩ }
    = blocks.map Item.block ++ Feed.items ⟨⟨back, failure⟩, last⟩
  behind : ∀ first : Option (List Char), (∀ line ∈ first, isVersion line = false) →
    Grouping.Behind (front.count 0x0A) first last {}

/-- Bytes that end with a blank line stop the reader for good, or settle. -/
theorem stops_or_settles {front : Bytes} (ends : EndsBlank front) :
    (∃ error : Record.Error, error.mayContinue = false ∧ ∀ back failure,
        .failed (.record error) ∈ Feed.items { input := ⟨front ++ back, failure⟩ })
      ∨ ∃ blocks last, Settles front blocks last := by
  obtain ⟨lines, blank, whole, empty, rfl⟩ := ends.exists_lines
  have last_blank : (Grouping.Numbered.of (blank, 1 + lines.length)).isBlank = true := by
    show (lineText blank).isEmpty = true
    rw [empty]
    rfl
  have split : Grouping.numbered (lines ++ [blank])
      = Grouping.numbered lines ++ [Grouping.Numbered.of (blank, 1 + lines.length)] := by
    rw [Grouping.numbered, List.zipIdx_append, List.map_append]
    rfl
  have run := Grouping.pushAll_eq (Grouping.ordered_zipIdx (lines ++ [blank]) 1)
    (.start (Grouping.numbered (lines ++ [blank]))) (lines ++ [blank]) rfl
  split at run
  · exact .inl ⟨_, rfl, failed_mem_items whole run⟩
  · obtain ⟨blocks, last, run, reflects⟩ := run
    refine .inr ⟨blocks, last, items_of_pushAll whole run, fun first unversioned => ?_⟩
    have count : (Grouping.numbered lines).length + 1 = (fed (lines ++ [blank])).count 0x0A := by
      rw [count_lines whole, Grouping.numbered, List.length_map, List.length_zipIdx,
        List.length_append, List.length_singleton]
    have seen : Grouping.Reflects _ (Grouping.numbered (lines ++ [blank])) _ last := reflects
    rw [split] at seen
    exact count ▸ behind_of_blank seen last_blank unversioned

/-! ### Answers -/

/-- An answer about lines that stand further down. -/
def shifted (count : Nat) (answer : Reader.Answer) : Reader.Answer :=
  answer.mapError (Fault.shifted count)

theorem shifted_shifted (count more : Nat) (answer : Reader.Answer) :
    shifted count (shifted more answer) = shifted (more + count) answer := by
  rcases answer with fault | found
  · cases fault with
    | record error =>
        exact congrArg (fun error => Except.error (Fault.record error))
          (error.shifted_shifted count more)
    | _ => rfl
  · rfl

variable {Rule : Type} [Matching Rule] (context : Block.Context Rule)

/-- What a reader delivers for items. -/
def answersTo (items : List Item) : List Reader.Answer :=
  (items.filterMap ({ context } : Pool.Job Rule).answer?).filter (· ≠ .ok none)

theorem answersTo_append (items others : List Item) :
    answersTo context (items ++ others) = answersTo context items ++ answersTo context others := by
  rw [answersTo, List.filterMap_append, List.filter_append]
  rfl

theorem answer?_shifted (count : Nat) (item : Item) :
    ({ context } : Pool.Job Rule).answer? (item.shifted count)
      = (({ context } : Pool.Job Rule).answer? item).map (shifted count) := by
  cases item with
  | ended => rfl
  | failed fault => rfl
  | block block =>
      have same := block.decode_shifted context count
      show ({ context } : Pool.Job Rule).answer? (.block (block.shifted count)) = _
      simp only [Pool.Job.answer?, Pool.Job.outcome?, same]
      cases block.decode context <;> rfl

theorem answersTo_shifted (count : Nat) (items : List Item) :
    answersTo context (items.map (Item.shifted count))
      = (answersTo context items).map (shifted count) := by
  have kept : (fun answer => decide (answer ≠ .ok none)) ∘ shifted count =
      fun answer : Reader.Answer => decide (answer ≠ .ok none) := by
    funext answer
    cases answer <;> rfl
  rw [answersTo, List.filterMap_map]
  simp only [Function.comp_def, answer?_shifted]
  rw [← List.map_filterMap, List.filter_map, kept]
  rfl

theorem answers_eq_answersTo (input : Input) :
    Reader.answers context input = answersTo context (Feed.items { input }) :=
  @Reader.answers_eq Rule _ { context } rfl input

/-! ### Inputs behind one another -/

/-- Bytes that end with a blank line, and in which nothing stops the reader. -/
structure Paragraphs (bytes : Bytes) : Prop where
  ends : EndsBlank bytes
  going : ∀ fault, .error fault ∈ Reader.answers context ⟨bytes, none⟩ → fault.mayContinue = true

/-- Whether the first content line of bytes is no version line. -/
def Unversioned (bytes : Bytes) : Prop :=
  ∀ line ∈ firstContent? bytes, isVersion line = false

variable {context} {front middle back : Bytes}

theorem Paragraphs.settles (paragraphs : Paragraphs context front) :
    ∃ blocks last, Settles front blocks last := by
  refine (stops_or_settles paragraphs.ends).resolve_left ?_
  rintro ⟨error, stops, met⟩
  have told : .error (.record error) ∈ Reader.answers context ⟨front ++ [], none⟩ := by
    rw [answers_eq_answersTo]
    exact List.mem_filter.mpr ⟨List.mem_filterMap.mpr ⟨_, met [] none, rfl⟩, by simp⟩
  rw [List.append_nil] at told
  have goes : error.mayContinue = true := paragraphs.going _ told
  rw [stops] at goes
  cases goes

/-- What stands behind paragraphs is answered as it is alone. -/
theorem answers_append (paragraphs : Paragraphs context front) (unversioned : Unversioned back)
    (failure : Option String) :
    Reader.answers context ⟨front ++ back, failure⟩
      = Reader.answers context ⟨front, none⟩
        ++ (Reader.answers context ⟨back, failure⟩).map (shifted (front.count 0x0A)) := by
  obtain ⟨blocks, last, settles⟩ := paragraphs.settles
  have behind := @items_of_behind _ { input := ⟨back, failure⟩ } last
    (settles.behind _ unversioned)
  have nothing := @items_of_behind _ { input := ⟨[], none⟩ } last
    (settles.behind (firstContent? []) fun line found => by cases found)
  have ended : Feed.items { input := ⟨[], none⟩ } = [.ended] := Feed.items_of_end rfl
  have alone := settles.items [] none
  have whole := settles.items back failure
  rw [List.append_nil] at alone
  rw [nothing, ended] at alone
  rw [behind] at whole
  have silent : answersTo context ([Item.ended].map (Item.shifted (front.count 0x0A))) = [] := rfl
  rw [answers_eq_answersTo, answers_eq_answersTo, answers_eq_answersTo, whole, alone,
    answersTo_append, answersTo_append, silent, List.append_nil, answersTo_shifted]

theorem firstContent?_fed_append {lines : List Bytes} (whole : ∀ line ∈ lines, 0x0A ∉ line)
    (back : Bytes) :
    firstContent? (fed lines ++ back) = (firstContent? (fed lines)).or (firstContent? back) := by
  induction lines with
  | nil => rfl
  | cons line lines inductionHypothesis =>
      obtain ⟨first, others⟩ := List.forall_mem_cons.mp whole
      have alone := firstContent?_line first (fed lines)
      rw [← List.append_nil (fed lines), ← fed_cons_append, List.append_nil,
        List.append_nil] at alone
      rw [fed_cons_append, firstContent?_line first, inductionHypothesis others, alone,
        Grouping.firstContent, Grouping.firstContent]
      split <;> rfl

theorem Unversioned.append (ends : EndsBlank middle) (first : Unversioned middle)
    (behind : Unversioned back) : Unversioned (middle ++ back) := by
  obtain ⟨lines, blank, whole, -, rfl⟩ := ends.exists_lines
  intro line found
  rw [firstContent?_fed_append whole, Option.mem_def, Option.or_eq_some_iff] at found
  rcases found with found | ⟨-, found⟩
  · exact first line found
  · exact behind line found

/-- Records are read as if they stood alone: what stands behind paragraphs is
answered as without them, and so is what stands on either side of others, but for
the numbers of lines. -/
theorem answers_independent (context : Block.Context Rule) (failure : Option String)
    {front back : Bytes} (paragraphs : Paragraphs context front)
    (unversioned : Unversioned back) :
    Reader.answers context ⟨front ++ back, failure⟩
        = Reader.answers context ⟨front, none⟩
          ++ (Reader.answers context ⟨back, failure⟩).map (shifted (front.count 0x0A)) ∧
      ∀ middle, Paragraphs context middle → Unversioned middle →
        Reader.answers context ⟨front ++ (middle ++ back), failure⟩
          = Reader.answers context ⟨front, none⟩
            ++ (Reader.answers context ⟨middle, none⟩).map (shifted (front.count 0x0A))
            ++ (Reader.answers context ⟨back, failure⟩).map
              (shifted ((front ++ middle).count 0x0A)) := by
  refine ⟨answers_append paragraphs unversioned failure, ?_⟩
  intro middle between first
  have joined := first.append between.ends unversioned
  have further : shifted (front.count 0x0A) ∘ shifted (middle.count 0x0A)
      = shifted ((front ++ middle).count 0x0A) := by
    funext answer
    rw [Function.comp_apply, shifted_shifted, List.count_append, Nat.add_comm]
  rw [answers_append paragraphs joined, answers_append between unversioned, List.map_append,
    List.map_map, further, List.append_assoc]

/-- A record without a colon in its second line. -/
def malformed : Bytes :=
  Utf8.encode "dn: a\ncn b\n\n"

/-- A comment, and a record with a line that is no text. -/
def garbled : Bytes :=
  Utf8.encode "# c\n\ndn: a\ncn: " ++ [0xFF, 0x0A, 0x0D, 0x0A]

def intact : Bytes :=
  Utf8.encode "dn: a\ncn: b\n"

theorem answers_independent_malformed :
    let context : Block.Context := ⟨{}, fun _ => none⟩
    Paragraphs context malformed ∧ Paragraphs context garbled ∧ Unversioned garbled ∧
      Unversioned intact ∧
      Reader.answers context ⟨malformed ++ (garbled ++ intact), none⟩
        = [.error (.record
              ⟨.missingColon "cn b", some 1, ["dn: a", "cn b"], true⟩),
            .error (.record ⟨.invalidUtf8 7, some 6, ["dn: a", "cn: \uFFFD"], true⟩),
            .ok (some (.entry "a" [⟨"cn", [[0x62]]⟩]))] := by
  intro context
  have read : Reader.answers context ⟨malformed, none⟩
      = [.error (.record ⟨.missingColon "cn b", some 1, ["dn: a", "cn b"], true⟩)] := by
    decide +kernel
  have readGarbled : Reader.answers context ⟨garbled, none⟩
      = [.error (.record ⟨.invalidUtf8 4, some 3, ["dn: a", "cn: \uFFFD"], true⟩)] := by
    decide +kernel
  have readIntact : Reader.answers context ⟨intact, none⟩
      = [.ok (some (.entry "a" [⟨"cn", [[0x62]]⟩]))] := by
    decide +kernel
  have first : Paragraphs context malformed := by
    refine ⟨⟨malformed.dropLast, [], by decide +kernel, .inl rfl, by decide +kernel⟩, ?_⟩
    intro fault member
    rw [read, List.mem_singleton] at member
    cases member
    rfl
  have second : Paragraphs context garbled := by
    refine ⟨⟨garbled.dropLast.dropLast, [0x0D], by decide +kernel, .inr rfl, by decide +kernel⟩, ?_⟩
    intro fault member
    rw [readGarbled, List.mem_singleton] at member
    cases member
    rfl
  have garbled_unversioned : Unversioned garbled := by
    unfold Unversioned
    decide +kernel
  have intact_unversioned : Unversioned intact := by
    unfold Unversioned
    decide +kernel
  have answered := (answers_independent context none first intact_unversioned).2 garbled second
    garbled_unversioned
  refine ⟨first, second, garbled_unversioned, intact_unversioned, ?_⟩
  rw [answered, read, readGarbled, readIntact]
  decide +kernel

end DirectoryInterchange.Reading
