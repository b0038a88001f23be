import Mathlib.Logic.Function.Iterate
import DirectoryInterchange.Proofs.Block.Numberless
import DirectoryInterchange.Proofs.Reading.Requests

/-!
Blocks that cannot be decoded.

An error about a block lets the reader go on.  So a reader is always where it
would be had it passed over its blocks undecoded: what stops it is the end of
the input, or a failure that is not about a block.
-/

namespace DirectoryInterchange.Reading

/-- Whether nothing is left to read and nothing fails behind that. -/
def Input.Ended (input : Input) : Prop :=
  input.bytes = [] ∧ input.failure = none

theorem Input.ended_of_nothing
    {input rest : Input} (read : input.readUntilLineFeed = (.ok [], rest)) : rest.Ended := by
  unfold readUntilLineFeed at read
  split at read
  · simp at read
  · unfold atEnd at read
    split at read
    · cases read
    · next unfailing =>
        obtain ⟨-, rfl⟩ := Prod.mk.inj read
        exact ⟨rfl, unfailing⟩

namespace Reader

variable {Rule : Type}

/-! ### Taking a block -/

/-- A reader stops at the end of its input, or at a failure behind which it
does not go on. -/
theorem ended_or_failed_of_nextBlock
    {reader : Reader Rule} (reading : reader.finished = false)
    (stopped : reader.nextBlock.2.finished = true) :
    reader.nextBlock.2.feed.input.Ended ∨
      ∃ fault, reader.nextBlock.1 = .error fault ∧ fault.mayContinue = false := by
  fun_induction Reader.nextBlock reader with
  | case1 reader finished =>
      rw [reading] at finished
      cases finished
  | case2 reader _ fault input read =>
      have next := Input.nextSegment_of_error read
      exact Or.inr ⟨fault, rfl, Input.mayContinue_of_nextSegment next⟩
  | case3 reader _ input read => exact Or.inl (Input.ended_of_nothing read)
  | case4 reader _ byte bytes input read error grouping pushed =>
      exact Or.inr ⟨.record error, rfl, Grouping.mayContinue_of_pushBytes pushed⟩
  | case5 reader _ byte bytes input read block grouping pushed =>
      rw [reading] at stopped
      cases stopped
  | case6 reader _ byte bytes input read grouping pushed inductionHypothesis =>
      exact inductionHypothesis reading stopped

/-- Takes the next block, if there is one, and does not decode it. -/
def pass (reader : Reader Rule) : Reader Rule :=
  match reader.nextBlock with
  | (.ok (some _), behind) => { behind with recordsRead := behind.recordsRead + 1 }
  | (_, behind) => behind

/-! ### Decoding it -/

variable [Matching Rule] {reader behind : Reader Rule} {block : Block}

/-- The error about a block is the answer, and leaves the reader behind it. -/
theorem readRecord_of_failed
    {error : Record.Error} (taken : reader.nextBlock = (.ok (some block), behind))
    (failed : block.decode behind.context = .error error) :
    reader.readRecord
      = (.error (.record error), { behind with recordsRead := behind.recordsRead + 1 }) := by
  have continues := (Block.locates_of_decode failed).mayContinue
  simp only [readRecord, taken, failed, continues, Bool.not_true, Bool.or_false]

/-- A reader goes on from where taking the block left it, whatever becomes of
the block. -/
theorem behind_readRecord (reader : Reader Rule) : reader.readRecord.2 = reader.pass := by
  rcases taken : reader.nextBlock with ⟨fault | _ | block, behind⟩
  · simp only [readRecord, pass, taken]
  · simp only [readRecord, pass, taken]
  · cases decoded : block.decode behind.context with
    | ok record => simp only [readRecord, pass, taken, decoded]
    | error error => simp only [readRecord_of_failed taken decoded, pass, taken]

theorem ended_or_failed_of_readRecord
    (reading : reader.finished = false) (stopped : reader.readRecord.2.finished = true) :
    reader.readRecord.2.feed.input.Ended ∨
      ∃ fault, reader.readRecord.1 = .error fault ∧ fault.mayContinue = false := by
  have cause := @ended_or_failed_of_nextBlock Rule reader reading
  rw [behind_readRecord] at stopped ⊢
  rcases taken : reader.nextBlock with ⟨fault | _ | block, behind⟩ <;>
    simp only [pass, readRecord, taken] at cause stopped ⊢
  · simpa using cause stopped
  · simpa using cause stopped
  · apply Or.inl
    simpa using cause stopped

/-! ### Requests one after another -/

theorem behind_askAll_eq (reader : Reader Rule) (requests : List Request) :
    (reader.askAll requests).2 = pass^[requests.length] reader := by
  induction requests generalizing reader with
  | nil => rfl
  | cons request requests inductionHypothesis =>
      rw [askAll_cons, inductionHypothesis, behind_readRecord, List.length_cons,
        Function.iterate_succ_apply]

theorem Request.Reports.of_failed
    {request : Request} {fault : Fault} {answer : Answer}
    (reports : request.Reports (.error fault) answer) : answer = .error fault := by
  cases reports <;> rfl

theorem ended_or_failed_of_askAll
    {requests : List Request} (reading : reader.finished = false)
    (stopped : (reader.askAll requests).2.finished = true) :
    (reader.askAll requests).2.feed.input.Ended ∨
      ∃ fault, .error fault ∈ (reader.askAll requests).1 ∧ fault.mayContinue = false := by
  induction requests generalizing reader with
  | nil =>
      have finished : reader.finished = true := stopped
      rw [reading] at finished
      cases finished
  | cons request requests inductionHypothesis =>
      rw [askAll_cons] at stopped ⊢
      cases here : reader.readRecord.2.finished with
      | true =>
          rw [askAll_of_finished here]
          rcases ended_or_failed_of_readRecord reading here with ended | ⟨fault, failed, final⟩
          · exact Or.inl ended
          · have reports := reader.reports_ask request
            rw [failed] at reports
            refine Or.inr ⟨fault, ?_, final⟩
            rw [reports.of_failed]
            exact List.mem_cons_self
      | false =>
          rcases inductionHypothesis here stopped with ended | ⟨fault, member, final⟩
          · exact Or.inl ended
          · exact Or.inr ⟨fault, List.mem_cons_of_mem _ member, final⟩

/-! ### What failures to decode amount to -/

/-- How decoding fails, and what a reader makes of it. -/
structure PassesFailures (context : Block.Context Rule) : Prop where
  /-- An error tells where its block starts and what the lines are, and lets
  the reader go on. -/
  located : ∀ (block : Block) (error : Record.Error),
    block.decode context = .error error → block.Locates error
  /-- Its message mentions by number no line but one of the block that was no
  text. -/
  mentions : ∀ (block : Block) (error : Record.Error),
    block.decode context = .error error → error.problem.line? = block.invalidLine
  /-- It is the answer to the call that comes to the block, and leaves the
  reader as taking the block did, with one more block counted. -/
  answered : ∀ (reader behind : Reader Rule) (block : Block) (error : Record.Error),
    reader.context = context → reader.nextBlock = (.ok (some block), behind) →
      block.decode context = .error error →
        reader.readRecord
          = (.error (.record error), { behind with recordsRead := behind.recordsRead + 1 })
  /-- Requests leave a reader where passing over as many blocks leaves it. -/
  passes : ∀ (input : Input) (requests : List Request),
    ((start context input).askAll requests).2 = pass^[requests.length] (start context input)
  /-- A reader that has stopped has come to the end of the input or answered
  with a failure that does not let it go on. -/
  stops : ∀ (input : Input) (requests : List Request) (answers : List Answer)
    (reader : Reader Rule), (start context input).askAll requests = (answers, reader) →
      reader.finished = true → reader.feed.input.Ended ∨
        ∃ fault, .error fault ∈ answers ∧ fault.mayContinue = false

/-- No block that cannot be decoded stops a reader. -/
theorem passes_failures (context : Block.Context Rule) : PassesFailures context where
  located block error failed := Block.locates_of_decode failed
  mentions block error failed := Block.line?_of_decode failed
  answered := by
    rintro reader behind block error rfl taken failed
    have kept := reader.context_nextBlock
    rw [taken] at kept
    rw [← kept] at failed
    exact readRecord_of_failed taken failed
  passes input requests := behind_askAll_eq _ requests
  stops := by
    intro input requests answers reader asked stopped
    have cause := @ended_or_failed_of_askAll Rule _ (start context input) requests rfl
    rw [asked] at cause
    exact cause stopped

/-- The rule under which all values of one attribute are the same, and no two
values of any other. -/
structure SingleValued where
  name : String

instance : Matching SingleValued where
  same rule name _ _ := Ascii.sameLetters rule.name name

/-- An entry with two values of one attribute, and an entry behind it. -/
def twoEntries : Input where
  bytes := Utf8.encode "dn: a\ncn: b\ncn: c\n\ndn: d\ncn: e\n"

theorem passes_failures_singleValued :
    let context : Block.Context SingleValued :=
      ⟨{ duplicates := .reject, rule := ⟨"CN"⟩ }, fun _ => none⟩
    let block : Block := { lines := ["dn: a", "cn: b", "cn: c"] }
    let error : Record.Error := ⟨.duplicateValue [0x63] "cn", some 1, block.lines, true⟩
    (start context twoEntries).nextBlock.1 = .ok (some block) ∧
      block.decode context = .error error ∧ block.Locates error ∧
      (start context twoEntries).readRecord.1 = .error (.record error) ∧
      (start context twoEntries).readRecord.2.finished = false := by
  intro context block error
  obtain ⟨located, -, answered, -, -⟩ := passes_failures context
  have found : (start context twoEntries).nextBlock.1 = .ok (some block) := by decide +kernel
  have reading : (start context twoEntries).nextBlock.2.finished = false := by decide +kernel
  have failed : block.decode context = .error error := by decide +kernel
  have answer := answered (start context twoEntries) _ block error rfl (Prod.ext found rfl) failed
  refine ⟨found, failed, located block error failed, ?_, ?_⟩
  · rw [answer]
  · rw [answer]
    exact reading

end Reader

end DirectoryInterchange.Reading
