import DirectoryInterchange.Proofs.Reading.Pool.Termination

/-!
Requests of different kinds, one after another.

Whatever is asked for, a request takes the item in front and answers to it.
So answers stay in step with those of plain requests for records: none is
skipped, none comes twice, and behind the end or a failure to go on there is
nothing more.
-/

namespace DirectoryInterchange.Reading.Reader

open Pool (Item)

variable {Rule : Type} [Matching Rule]

/-! ### What is said about an answer -/

/-- How a request answers where a plain one answers something. -/
inductive Request.Reports : Request → Answer → Answer → Prop
  | record (answer : Answer) : Reports .record answer answer
  | item (answer : Answer) : Reports .item answer answer
  | ended (request : Request) : Reports request (.ok none) (.ok none)
  | failed (request : Request) (fault : Fault) : Reports request (.error fault) (.error fault)
  | entry (dn : String) (attributes : List Attribute) :
      Reports .entry (.ok (some (.entry dn attributes))) (.ok (some (.entry dn attributes)))
  | noEntry (dn : String) (controls : List Control) (change : Change) :
      Reports .entry (.ok (some (.change dn controls change)))
        (.error (.record { problem := .entryExpected dn, mayContinue := true }))
  | change (addEntries : Bool) (dn : String) (controls : List Control) (change : Change) :
      Reports (.change addEntries) (.ok (some (.change dn controls change)))
        (.ok (some (.change dn controls change)))
  | addition (dn : String) (attributes : List Attribute) :
      Reports (.change true) (.ok (some (.entry dn attributes)))
        (.ok (some (.change dn [] (.add attributes))))
  | noChange (dn : String) (attributes : List Attribute) :
      Reports (.change false) (.ok (some (.entry dn attributes)))
        (.error (.record { problem := .changeExpected dn, mayContinue := true }))

/-- Another kind of request makes no answer final, and none that is final less so. -/
theorem Request.Reports.isFinal_iff
    {request : Request} {plain answer : Answer} (reports : request.Reports plain answer) :
    answer.IsFinal ↔ plain.IsFinal := by
  cases reports with
  | noEntry | addition | noChange => simp [Answer.IsFinal, Fault.mayContinue]
  | _ => rfl

theorem Answer.ofItem_toItem (answer : Answer) : Answer.ofItem answer.toItem = answer := by
  rcases answer with fault | _ | record <;> rfl

omit [Matching Rule] in
theorem checked_behind (check : Record → Answer) (asked : Answer × Reader Rule) :
    (checked check asked).2 = asked.2 := by
  rcases asked with ⟨fault | _ | record, behind⟩ <;> rfl

/-- A request of any kind takes what a plain one takes. -/
theorem behind_ask (reader : Reader Rule) (request : Request) :
    (reader.ask request).2 = reader.readRecord.2 := by
  cases request with
  | record => rfl
  | item => rfl
  | entry => exact checked_behind requireEntry reader.readRecord
  | change addEntries => exact checked_behind (requireChange addEntries) reader.readRecord

theorem reports_requireEntry (record : Record) :
    Request.entry.Reports (.ok (some record)) (requireEntry record) := by
  cases record with
  | entry dn attributes => exact .entry dn attributes
  | change dn controls change => exact .noEntry dn controls change

theorem reports_requireChange (addEntries : Bool) (record : Record) :
    (Request.change addEntries).Reports (.ok (some record)) (requireChange addEntries record) := by
  cases record with
  | change dn controls change => exact .change addEntries dn controls change
  | entry dn attributes =>
      cases addEntries with
      | true => exact .addition dn attributes
      | false => exact .noChange dn attributes

omit [Matching Rule] in
theorem reports_checked
    {request : Request} {check : Record → Answer}
    (passes : ∀ record, request.Reports (.ok (some record)) (check record))
    (asked : Answer × Reader Rule) : request.Reports asked.1 (checked check asked).1 := by
  rcases asked with ⟨fault | _ | record, behind⟩
  · exact .failed request fault
  · exact .ended request
  · exact passes record

theorem reports_ask (reader : Reader Rule) (request : Request) :
    request.Reports reader.readRecord.1 (reader.ask request).1 := by
  cases request with
  | record => exact .record _
  | item =>
      show Request.item.Reports _ (Answer.ofItem reader.readRecord.1.toItem)
      rw [Answer.ofItem_toItem]
      exact .item _
  | entry => exact reports_checked reports_requireEntry reader.readRecord
  | change addEntries => exact reports_checked (reports_requireChange addEntries) reader.readRecord

/-! ### What one request does -/

/-- What a reader answers to an item. -/
def answerTo (context : Block.Context Rule) : Item → Answer
  | .block block =>
      match block.decode context with
      | .ok record => .ok (some record)
      | .error error => .error (.record error)
  | .ended => .ok none
  | .failed fault => .error fault

/-- The block that the next request hands to the decoding. -/
def handed? (reader : Reader Rule) : Option Block :=
  match reader.nextBlock.1 with
  | .ok found => found
  | .error _ => none

omit [Matching Rule] in
theorem recordsRead_nextBlock (reader : Reader Rule) :
    reader.nextBlock.2.recordsRead = reader.recordsRead := by
  fun_induction Reader.nextBlock reader with
  | case6 reader reading byte bytes input read grouping pushed inductionHypothesis =>
      exact inductionHypothesis
  | _ => rfl

omit [Matching Rule] in
/-- Only a block that is complete keeps a reader going. -/
theorem finished_nextBlock
    {reader : Reader Rule} (none : ∀ block, reader.nextBlock.1 ≠ .ok (some block)) :
    reader.nextBlock.2.finished = true := by
  fun_induction Reader.nextBlock reader with
  | case1 reader finished => exact finished
  | case2 => rfl
  | case3 => rfl
  | case4 => rfl
  | case5 reader reading byte bytes input read block grouping pushed =>
      exact absurd rfl (none block)
  | case6 reader reading byte bytes input read grouping pushed inductionHypothesis =>
      exact inductionHypothesis none

/-- How a request deals with the item in front: it hands a block on, to be
decoded, or it comes to what is last. -/
inductive Deals (reader : Reader Rule) (answer : Answer) (next : Reader Rule) : Prop
  | block (block : Block)
      (front : reader.items = .block block :: next.items)
      (answered : answer = answerTo reader.context (.block block))
      (handed : reader.handed? = some block)
      (counted : next.recordsRead = reader.recordsRead + 1)
      (context : next.context = reader.context)
  | last (item : Item)
      (ends : item.isLast)
      (front : reader.items = [item])
      (answered : answer = answerTo reader.context item)
      (handed : reader.handed? = none)
      (finished : next.finished = true)
      (counted : next.recordsRead = reader.recordsRead)
      (context : next.context = reader.context)

theorem deals_readRecord (reader : Reader Rule) :
    reader.Deals reader.readRecord.1 reader.readRecord.2 := by
  have takes := reader.takes_nextBlock
  have context := reader.context_nextBlock
  have counted := reader.recordsRead_nextBlock
  have finished := @finished_nextBlock Rule reader
  rw [readRecord]
  rcases read : reader.nextBlock with ⟨fault | _ | block, next⟩ <;>
    rw [read] at takes context counted finished
  · have handed : reader.handed? = none := by rw [handed?, read]
    exact .last (.failed fault) rfl takes.1 rfl handed (finished (by simp)) counted context
  · have handed : reader.handed? = none := by rw [handed?, read]
    exact .last .ended rfl takes.1 rfl handed (finished (by simp)) counted context
  · have taken : reader.items = .block block :: next.items := takes
    have handed : reader.handed? = some block := by rw [handed?, read]
    simp only at context counted ⊢
    cases decoded : block.decode next.context with
    | ok record =>
        have answered : .ok (some record) = answerTo reader.context (.block block) := by
          simp only [answerTo, ← context, decoded]
        exact .block block taken answered handed (congrArg (· + 1) counted) context
    | error error =>
        have answered : .error (.record error) = answerTo reader.context (.block block) := by
          simp only [answerTo, ← context, decoded]
        -- An error about a block does not stop a reader.
        simp only [mayContinue_of_decode decoded, Bool.not_true, Bool.or_false]
        exact .block block taken answered handed (congrArg (· + 1) counted) context

/-- An answer is final just when nothing follows what it answers to. -/
theorem isFinal_answerTo
    {reader : Reader Rule} {item : Item} (member : item ∈ reader.items) :
    (answerTo reader.context item).IsFinal ↔ item.isLast = true := by
  cases item with
  | ended => simp [answerTo, Answer.IsFinal, Item.isLast]
  | failed fault =>
      have stops : fault.mayContinue = false := by
        rw [items] at member
        split at member
        · cases List.mem_singleton.mp member
        · exact Feed.mayContinue_of_failed member
      simp [answerTo, Answer.IsFinal, Item.isLast, stops]
  | block block =>
      cases decoded : block.decode reader.context with
      | ok record => simp [answerTo, decoded, Answer.IsFinal, Item.isLast]
      | error error =>
          have going := mayContinue_of_decode decoded
          simp [answerTo, decoded, Answer.IsFinal, Item.isLast, Fault.mayContinue, going]

/-! ### What requests do, one after another -/

/-- The blocks that requests hand to the decoding, in turn. -/
def handed (reader : Reader Rule) : List Request → List Block
  | [] => []
  | request :: requests => reader.handed?.toList ++ (reader.ask request).2.handed requests

section Finished

variable {reader : Reader Rule} (finished : reader.finished = true)

include finished

omit [Matching Rule] in
theorem nextBlock_of_finished : reader.nextBlock = (.ok none, reader) := by
  rw [nextBlock, if_pos finished]

theorem ask_of_finished (request : Request) :
    reader.ask request = (.ok none, reader) := by
  have read : reader.readRecord = (.ok none, reader) := by
    rw [readRecord, nextBlock_of_finished finished]
  cases request <;> simp [ask, next, readEntry, readChange, read, checked, Answer.toItem,
    Answer.ofItem]

/-- Behind what was last there is only the end, and nothing changes any more. -/
theorem askAll_of_finished (requests : List Request) :
    reader.askAll requests = (List.replicate requests.length (.ok none), reader) := by
  induction requests with
  | nil => rfl
  | cons request requests inductionHypothesis =>
      simp only [askAll, ask_of_finished finished, inductionHypothesis]
      rfl

end Finished

theorem handed_of_finished
    {reader : Reader Rule} (finished : reader.finished = true) (requests : List Request) :
    reader.handed requests = [] := by
  induction requests with
  | nil => rfl
  | cons request requests inductionHypothesis =>
      simp only [handed, handed?, nextBlock_of_finished finished, ask_of_finished finished,
        inductionHypothesis]
      rfl

/-- So many plain requests for records. -/
def readRecords (reader : Reader Rule) (count : Nat) : List Answer × Reader Rule :=
  reader.askAll (List.replicate count .record)

theorem askAll_cons (reader : Reader Rule) (request : Request)
    (requests : List Request) :
    reader.askAll (request :: requests)
      = ((reader.ask request).1 :: (reader.readRecord.2.askAll requests).1,
          (reader.readRecord.2.askAll requests).2) := by
  rw [← reader.behind_ask request]
  rfl

theorem readRecords_succ (reader : Reader Rule) (count : Nat) :
    reader.readRecords (count + 1)
      = (reader.readRecord.1 :: (reader.readRecord.2.readRecords count).1,
          (reader.readRecord.2.readRecords count).2) :=
  reader.askAll_cons .record (List.replicate count .record)

theorem behind_askAll (reader : Reader Rule) (requests : List Request) :
    (reader.askAll requests).2 = (reader.readRecords requests.length).2 := by
  induction requests generalizing reader with
  | nil => rfl
  | cons request requests inductionHypothesis =>
      rw [askAll_cons, List.length_cons, readRecords_succ]
      exact inductionHypothesis reader.readRecord.2

theorem reports_askAll
    (reader : Reader Rule) {requests : List Request} {number : Nat} {request : Request}
    (asked : requests[number]? = some request) :
    ∃ plain answer, (reader.readRecords requests.length).1[number]? = some plain
      ∧ (reader.askAll requests).1[number]? = some answer ∧ request.Reports plain answer := by
  induction requests generalizing reader number with
  | nil => cases asked
  | cons other requests inductionHypothesis =>
      rw [askAll_cons, List.length_cons, readRecords_succ]
      cases number with
      | zero =>
          cases asked
          exact ⟨_, _, rfl, rfl, reader.reports_ask request⟩
      | succ number => exact inductionHypothesis reader.readRecord.2 asked

/-- Plain requests go through the items in their order, and then say the end
again and again. -/
theorem readRecords_eq (reader : Reader Rule) (count : Nat) :
    (reader.readRecords count).1
      = ((reader.items ++ List.replicate count Item.ended).take count).map
          (answerTo reader.context) := by
  induction count generalizing reader with
  | zero => rfl
  | succ count inductionHypothesis =>
      rw [readRecords_succ]
      cases reader.deals_readRecord with
      | block block front answered handed counted context =>
          rw [answered, inductionHypothesis, context, front, List.cons_append,
            List.take_succ_cons, take_of_more, List.map_cons]
      | last item ends front answered handed finished counted context =>
          rw [answered, readRecords, askAll_of_finished finished, front, List.cons_append,
            List.take_succ_cons, List.nil_append, List.take_replicate, List.map_cons,
            List.map_replicate, List.length_replicate, Nat.min_eq_left (Nat.le_succ count)]
          rfl

/-- A run is where it should be among the items, or behind them. -/
theorem items_askAll (reader : Reader Rule) (requests : List Request) :
    (reader.askAll requests).2.items = reader.items.drop requests.length
      ∨ (reader.askAll requests).2.items = [.ended] := by
  induction requests generalizing reader with
  | nil => exact .inl rfl
  | cons request requests inductionHypothesis =>
      rw [askAll_cons]
      cases reader.deals_readRecord with
      | block block front answered handed counted context =>
          rw [front]
          exact inductionHypothesis reader.readRecord.2
      | last item ends front answered handed finished counted context =>
          rw [askAll_of_finished finished, items, if_pos finished]
          exact .inr rfl

theorem context_readRecord (reader : Reader Rule) :
    reader.readRecord.2.context = reader.context := by
  cases reader.deals_readRecord with
  | block _ _ _ _ _ context | last _ _ _ _ _ _ _ context => exact context

theorem context_askAll (reader : Reader Rule) (requests : List Request) :
    (reader.askAll requests).2.context = reader.context := by
  induction requests generalizing reader with
  | nil => rfl
  | cons request requests inductionHypothesis =>
      rw [askAll_cons, inductionHypothesis]
      exact reader.context_readRecord

/-- Every block that is handed on is counted, and nothing else. -/
theorem recordsRead_askAll (reader : Reader Rule) (requests : List Request) :
    (reader.askAll requests).2.recordsRead
      = reader.recordsRead + (reader.handed requests).length := by
  induction requests generalizing reader with
  | nil => rfl
  | cons request requests inductionHypothesis =>
      rw [askAll_cons, inductionHypothesis, handed, behind_ask, List.length_append, ← Nat.add_assoc]
      cases reader.deals_readRecord with
      | block block front answered handed counted context =>
          rw [counted, handed]
          rfl
      | last item ends front answered handed finished counted context =>
          rw [counted, handed]
          rfl

/-- The block of an item, none for what is last. -/
def block? : Item → Option Block
  | .block block => some block
  | _ => none

/-- The blocks are handed on in their order, one for each request. -/
theorem handed_eq (reader : Reader Rule) (requests : List Request) :
    reader.handed requests = (reader.items.filterMap block?).take requests.length := by
  induction requests generalizing reader with
  | nil => rfl
  | cons request requests inductionHypothesis =>
      rw [handed, behind_ask]
      cases reader.deals_readRecord with
      | block block front answered handed counted context =>
          rw [handed, front, inductionHypothesis]
          rfl
      | last item ends front answered handed finished counted context =>
          rw [handed, front, handed_of_finished finished]
          cases item with
          | block block => cases ends
          | ended | failed fault => rfl

/-- Behind a final answer a reader has stopped for good. -/
theorem askAll_of_isFinal
    {reader : Reader Rule} {request : Request} (final : (reader.ask request).1.IsFinal)
    (later : List Request) :
    (reader.ask request).2.askAll later
      = (List.replicate later.length (.ok none), (reader.ask request).2) := by
  have plain := (reader.reports_ask request).isFinal_iff.mp final
  rw [behind_ask]
  cases reader.deals_readRecord with
  | block block front answered handed counted context =>
      have member : Item.block block ∈ reader.items := front ▸ List.mem_cons_self
      rw [answered] at plain
      cases (isFinal_answerTo member).mp plain
  | last item ends front answered handed finished counted context =>
      exact askAll_of_finished finished later

/-- Behind any other answer the item that comes next is in front. -/
theorem items_of_not_isFinal
    {reader : Reader Rule} {request : Request} (going : ¬(reader.ask request).1.IsFinal) :
    ∃ block, reader.items = .block block :: (reader.ask request).2.items := by
  have plain := (reader.reports_ask request).isFinal_iff.not.mp going
  rw [behind_ask]
  cases reader.deals_readRecord with
  | block block front answered handed counted context => exact ⟨block, front⟩
  | last item ends front answered handed finished counted context =>
      have member : item ∈ reader.items := front ▸ List.mem_cons_self
      rw [answered] at plain
      exact absurd ((isFinal_answerTo member).mpr ends) plain

/-- A request reports on what there is to answer to the item in front. -/
theorem exists_front (reader : Reader Rule) :
    ∃ item rest, reader.items = item :: rest
      ∧ ∀ request : Request, request.Reports (answerTo reader.context item)
          (reader.ask request).1 := by
  cases reader.deals_readRecord with
  | block block front answered handed counted context =>
      exact ⟨_, _, front, fun request => answered ▸ reader.reports_ask request⟩
  | last item ends front answered handed finished counted context =>
      exact ⟨_, _, front, fun request => answered ▸ reader.reports_ask request⟩

/-! ### In step -/

/-- Where requests of any kinds leave a reader of an input, and what becomes of
one more. -/
structure InStep (context : Block.Context Rule) (input : Input) (requests : List Request) :
    Prop where
  /-- The reader is where as many plain requests leave it. -/
  behind : ((start context input).askAll requests).2
    = ((start context input).readRecords requests.length).2
  /-- Every answer reports on the one that a plain request gets in its place. -/
  reports : ∀ (number : Nat) (request : Request), requests[number]? = some request →
    ∃ plain answer, ((start context input).readRecords requests.length).1[number]? = some plain
      ∧ ((start context input).askAll requests).1[number]? = some answer
      ∧ request.Reports plain answer
  /-- Plain requests skip none of the items of the input. -/
  plain : ((start context input).readRecords requests.length).1
    = ((Feed.items { input } ++ List.replicate requests.length Item.ended).take
        requests.length).map (answerTo context)
  /-- Behind the end or a failure to go on there is only the end, and the reader
  stays as it is. -/
  stops : ∀ request asked, ((start context input).askAll requests).2.ask request = asked →
    asked.1.IsFinal → ∀ later,
      asked.2.askAll later = (List.replicate later.length (.ok none), asked.2)
  /-- Behind any other error the next request answers to the item that comes next. -/
  goesOn : ∀ request asked, ((start context input).askAll requests).2.ask request = asked →
    ∀ fault, asked.1 = .error fault → fault.mayContinue = true →
      ∃ block item, (Feed.items { input })[requests.length]? = some (.block block)
        ∧ (Feed.items { input })[requests.length + 1]? = some item
        ∧ ∀ next : Request, next.Reports (answerTo context item) (asked.2.ask next).1
  /-- The count is that of the blocks that were handed to the decoding. -/
  counted : ((start context input).askAll requests).2.recordsRead
    = ((start context input).handed requests).length
  /-- These are the first blocks of the input, one for each request. -/
  handed : (start context input).handed requests
    = ((Feed.items { input }).filterMap block?).take requests.length

/-- However requests are mixed, they stay in step with plain ones: nothing is
skipped, and a reader that has stopped has stopped for good. -/
theorem requests_inStep (context : Block.Context Rule) (input : Input) (requests : List Request) :
    InStep context input requests where
  behind := behind_askAll _ requests
  reports number request asked := reports_askAll _ asked
  plain := readRecords_eq _ requests.length
  stops := by
    rintro request asked rfl final later
    exact askAll_of_isFinal final later
  goesOn := by
    rintro request asked rfl fault failed going
    have place := (start context input).items_askAll requests
    have kept := (start context input).context_askAll requests
    generalize ((start context input).askAll requests).2 = reader at *
    have notFinal : ¬(reader.ask request).1.IsFinal := by
      rw [failed]
      simp [Answer.IsFinal, going]
    obtain ⟨block, front⟩ := items_of_not_isFinal notFinal
    obtain ⟨item, rest, next, reports⟩ := (reader.ask request).2.exists_front
    rw [behind_ask, context_readRecord, kept] at reports
    rw [front, next] at place
    have ahead := place.resolve_right (by simp)
    have found (offset : Nat) : (Feed.items { input })[requests.length + offset]?
        = (.block block :: item :: rest)[offset]? := by
      rw [ahead, List.getElem?_drop]
      rfl
    rw [behind_ask]
    exact ⟨block, item, found 0, found 1, reports⟩
  counted := by
    rw [recordsRead_askAll]
    exact Nat.zero_add _
  handed := handed_eq _ requests

/-- An entry where a change is asked for, a record without a colon, a change,
and a line that continues none. -/
def mixed : Input where
  bytes := Utf8.encode "dn: a\ncn: b\n\ncn\n\ndn: a\nchangetype: delete\n\n c\n\ndn: a\ncn: b\n"

example :
    let context : Block.Context := ⟨{}, fun _ => none⟩
    let (answers, reader) := (start context mixed).askAll
      [.change false, .entry, .item, .record, .change true, .item]
    answers = [.error (.record ⟨.changeExpected "a", none, [], true⟩),
        .error (.record ⟨.missingColon "cn", some 4, ["cn"], true⟩),
        .ok (some (.change "a" [] .delete)),
        .error (.record ⟨.nothingToContinue 9, some 9, [" c"], false⟩), .ok none, .ok none]
      ∧ reader.recordsRead = 3 := by
  decide +kernel

end DirectoryInterchange.Reading.Reader
