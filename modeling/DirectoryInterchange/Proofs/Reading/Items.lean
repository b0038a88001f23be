import Mathlib.Data.List.TakeWhile
import DirectoryInterchange.Reading.Pool.Job
import DirectoryInterchange.Reading.Reader

/-!
The items that an input comes to: its blocks, and how it ends.

A reader and the feeder of a pool read lines in loops of their own.  Both are
shown to go through the same items.
-/

namespace DirectoryInterchange.Reading

open Pool (Item)

/-! ### Lines -/

theorem splitLine_eq_none {bytes : Bytes} :
    splitLine bytes = none ↔ 0x0A ∉ bytes := by
  have all : bytes.dropWhile (· != 0x0A) = [] ↔ 0x0A ∉ bytes := by
    rw [List.dropWhile_eq_nil_iff]
    constructor
    · intro different member
      simpa using different 0x0A member
    · intro absent byte member
      have different : byte ≠ 0x0A := fun same => absent (same ▸ member)
      simpa using different
  rw [splitLine, ← all]
  split <;> simp_all

theorem withoutLineFeed_concat (line : Bytes) : withoutLineFeed (line ++ [0x0A]) = line := by
  simp [withoutLineFeed]

theorem withoutLineFeed_of_absent {line : Bytes} (absent : 0x0A ∉ line) :
    withoutLineFeed line = line := by
  rw [withoutLineFeed, if_neg]
  intro last
  exact absent (List.mem_of_getLast? last)

namespace Input

variable {input rest : Input}

theorem nextSegment_of_error
    {fault : Fault} (read : input.readUntilLineFeed = (.error fault, rest)) :
    input.nextSegment = (.error fault, rest) := by
  unfold readUntilLineFeed at read
  unfold nextSegment
  split at read
  · cases read
  · unfold atEnd at read ⊢
    split at read <;> cases read
    rfl

theorem nextSegment_of_nil (read : input.readUntilLineFeed = (.ok [], rest)) :
    input.nextSegment = (.ok none, rest) := by
  unfold readUntilLineFeed at read
  unfold nextSegment
  split at read
  · next line behind found =>
      have ends := congrArg Prod.fst read
      simp at ends
  · unfold atEnd at read ⊢
    split at read
    · cases read
    · obtain ⟨empty, spent⟩ := Prod.mk.inj read
      rw [Except.ok.inj empty, ← spent]
      rfl

theorem nextSegment_of_cons
    {byte : UInt8} {bytes : Bytes}
    (read : input.readUntilLineFeed = (.ok (byte :: bytes), rest)) :
    input.nextSegment = (.ok (some (withoutLineFeed (byte :: bytes))), rest) := by
  unfold readUntilLineFeed at read
  unfold nextSegment
  split at read
  · next line behind found =>
      obtain ⟨whole, spent⟩ := Prod.mk.inj read
      rw [← Except.ok.inj whole, withoutLineFeed_concat, ← spent]
  · next unended =>
      unfold atEnd at read ⊢
      split at read
      · cases read
      · obtain ⟨whole, spent⟩ := Prod.mk.inj read
        have absent := splitLine_eq_none.mp unended
        rw [Except.ok.inj whole] at absent ⊢
        rw [withoutLineFeed_of_absent absent, ← spent]
        rfl

end Input

/-! ### Items -/

/-- What is still to come out of a feed. -/
def Feed.items (feed : Feed) : List Item :=
  match _ : feed.input.nextSegment with
  | (.error fault, _) => [.failed fault]
  | (.ok none, _) => (feed.grouping.finish.1.map Item.block).toList ++ [.ended]
  | (.ok (some line), input) =>
      match feed.grouping.pushBytes line with
      | (.error error, _) => [.failed (.record error)]
      | (.ok (some block), grouping) => .block block :: items { input, grouping }
      | (.ok none, grouping) => items { input, grouping }
  termination_by feed.input.bytes.length
  decreasing_by all_goals exact Input.length_nextSegment ‹_›

namespace Feed

variable {feed : Feed} {input : Input} {grouping : Grouping}

theorem items_of_error
    {fault : Fault} (next : feed.input.nextSegment = (.error fault, input)) :
    feed.items = [.failed fault] := by
  rw [items]
  split <;> simp_all

theorem items_of_end (next : feed.input.nextSegment = (.ok none, input)) :
    feed.items = (feed.grouping.finish.1.map Item.block).toList ++ [.ended] := by
  rw [items]
  split <;> simp_all

theorem items_of_fatal
    {line : Bytes} {error : Record.Error}
    (next : feed.input.nextSegment = (.ok (some line), input))
    (pushed : feed.grouping.pushBytes line = (.error error, grouping)) :
    feed.items = [.failed (.record error)] := by
  rw [items]
  split <;> simp_all

theorem items_of_block
    {line : Bytes} {block : Block}
    (next : feed.input.nextSegment = (.ok (some line), input))
    (pushed : feed.grouping.pushBytes line = (.ok (some block), grouping)) :
    feed.items = .block block :: items { input, grouping } := by
  rw [items]
  split <;> simp_all

theorem items_of_line
    {line : Bytes} (next : feed.input.nextSegment = (.ok (some line), input))
    (pushed : feed.grouping.pushBytes line = (.ok none, grouping)) :
    feed.items = items { input, grouping } := by
  rw [items]
  split <;> simp_all

end Feed

/-- Blocks, and behind them one item that says how the input ended. -/
inductive Closed : List Item → Prop
  | last {item : Item} : item.isLast → Closed [item]
  | block {items : List Item} (block : Block) : Closed items → Closed (.block block :: items)

namespace Closed

theorem ne_nil {items : List Item} (closed : Closed items) : items ≠ [] := by
  cases closed <;> exact List.cons_ne_nil _ _

/-- The last item is the one that says how the input ended. -/
theorem isLast_iff
    {items : List Item} (closed : Closed items) {number : Nat} {item : Item}
    (found : items[number]? = some item) :
    item.isLast ↔ number + 1 = items.length := by
  induction closed generalizing number with
  | last ends =>
      obtain ⟨first, same⟩ := List.getElem?_eq_some_iff.mp found
      simp only [List.length_singleton] at first ⊢
      have zero : number = 0 := by omega
      subst zero
      simp only [List.getElem_cons_zero] at same
      simp [← same, ends]
  | block block others inductionHypothesis =>
      have more := List.length_pos_iff.mpr others.ne_nil
      cases number with
      | zero =>
          rw [List.getElem?_cons_zero] at found
          cases found
          rw [List.length_cons]
          constructor
          · intro ends
            cases ends
          · intro one
            omega
      | succ number =>
          rw [List.getElem?_cons_succ] at found
          rw [inductionHypothesis found, List.length_cons]
          omega

end Closed

theorem Feed.closed_items (feed : Feed) : Closed feed.items := by
  fun_induction Feed.items feed with
  | case1 => exact .last rfl
  | case2 feed input next =>
      cases feed.grouping.finish.1 with
      | none => exact .last rfl
      | some block => exact .block block (.last rfl)
  | case3 => exact .last rfl
  | case4 feed line input next block grouping pushed inductionHypothesis =>
      exact .block block inductionHypothesis
  | case5 feed line input next grouping pushed inductionHypothesis => exact inductionHypothesis

/-! ### The feeder of a pool -/

namespace Pool.Feeder

/-- What is still to come when the feeder has nothing in its hands. -/
def remaining (feeder : Feeder) : List Item :=
  if feeder.ending then [.ended] else feeder.feed.items

/-- What the feeder is still to hand out. -/
def pending (feeder : Feeder) : List Item :=
  match feeder.stage with
  | .reading => feeder.remaining
  | .holding item | .admitted item => item :: if item.isLast then [] else feeder.remaining
  | .stopped | .abandoned => []

/-- Reading takes hold of the first item that remains. -/
theorem pending_read (feeder : Feeder) : feeder.read.pending = feeder.remaining := by
  fun_induction Feeder.read feeder with
  | case1 feeder ending => simp [pending, remaining, ending, Item.isLast]
  | case2 feeder reading fault input next =>
      simp [pending, remaining, reading, Feed.items_of_error next, Item.isLast]
  | case3 feeder reading input next block grouping finished =>
      simp [pending, remaining, reading, Feed.items_of_end next, finished, Item.isLast]
  | case4 feeder reading input next grouping finished =>
      simp [pending, remaining, reading, Feed.items_of_end next, finished, Item.isLast]
  | case5 feeder reading line input next error grouping pushed =>
      simp [pending, remaining, reading, Feed.items_of_fatal next pushed, Item.isLast]
  | case6 feeder reading line input next block grouping pushed =>
      simp [pending, remaining, reading, Feed.items_of_block next pushed, Item.isLast]
  | case7 feeder reading line input next grouping pushed inductionHypothesis =>
      rw [inductionHypothesis]
      simp [remaining, reading, Feed.items_of_line next pushed]

theorem holding_read (feeder : Feeder) : ∃ item, feeder.read.stage = .holding item := by
  fun_induction Feeder.read feeder with
  | case1 => exact ⟨_, rfl⟩
  | case2 => exact ⟨_, rfl⟩
  | case3 => exact ⟨_, rfl⟩
  | case4 => exact ⟨_, rfl⟩
  | case5 => exact ⟨_, rfl⟩
  | case6 => exact ⟨_, rfl⟩
  | case7 feeder reading line input next grouping pushed inductionHypothesis =>
      exact inductionHypothesis

theorem pending_sent
    {feeder : Feeder} {item : Item} (admitted : feeder.stage = .admitted item) :
    feeder.pending = item :: (feeder.sent item).pending := by
  rw [pending, admitted]
  cases last : item.isLast <;> simp [pending, sent, last, remaining]

end Pool.Feeder

/-! ### The reader -/

namespace Reader

variable {Rule : Type}

/-- What calls of the reader are still to go through. -/
def items (reader : Reader Rule) : List Item :=
  if reader.finished then [.ended] else reader.feed.items

theorem closed_items (reader : Reader Rule) : Closed reader.items := by
  rw [items]
  split
  · exact .last rfl
  · exact reader.feed.closed_items

/-- What an attempt to read a block takes from the items in front of it. -/
def Takes (reader : Reader Rule) : Except Fault (Option Block) × Reader Rule → Prop
  | (.ok (some block), next) => reader.items = .block block :: next.items
  | (.ok none, next) => reader.items = [.ended] ∧ next.items = [.ended]
  | (.error fault, next) => reader.items = [.failed fault] ∧ next.items = [.ended]

theorem takes_nextBlock (reader : Reader Rule) : reader.Takes reader.nextBlock := by
  fun_induction Reader.nextBlock reader with
  | case1 reader finished => simp [Takes, items, finished]
  | case2 reader reading fault input read =>
      have next := Input.nextSegment_of_error read
      simp [Takes, items, reading, Feed.items_of_error next]
  | case3 reader reading input read block grouping finished =>
      have next := Input.nextSegment_of_nil read
      cases block <;> simp [Takes, items, reading, Feed.items_of_end next, finished]
  | case4 reader reading byte bytes input read error grouping pushed =>
      have next := Input.nextSegment_of_cons read
      simp [Takes, items, reading, Feed.items_of_fatal next pushed]
  | case5 reader reading byte bytes input read block grouping pushed =>
      have next := Input.nextSegment_of_cons read
      simp [Takes, items, reading, Feed.items_of_block next pushed]
  | case6 reader reading byte bytes input read grouping pushed inductionHypothesis =>
      have next := Input.nextSegment_of_cons read
      have same : Reader.items { reader with feed := { input, grouping } } = reader.items := by
        simp [items, reading, Feed.items_of_line next pushed]
      simpa [Takes, same] using inductionHypothesis

theorem context_nextBlock {Rule : Type} (reader : Reader Rule) :
    reader.nextBlock.2.context = reader.context := by
  fun_induction Reader.nextBlock reader with
  | case1 => rfl
  | case2 => rfl
  | case3 => rfl
  | case4 => rfl
  | case5 => rfl
  | case6 reader reading byte bytes input read grouping pushed inductionHypothesis =>
      exact inductionHypothesis

end Reader

end DirectoryInterchange.Reading
