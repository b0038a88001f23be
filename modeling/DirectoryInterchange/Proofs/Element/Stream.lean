import DirectoryInterchange.Proofs.Element.Delivery

/-!
What a cursor reads from a steady source.

Each step is described by the content of the source in front of it.  A step
that succeeds leaves the cursor `Took` so many bytes further on.
-/

namespace DirectoryInterchange.Element.Cursor

/-! ### Running actions -/

section Running

variable {First Second : Type} {action : Action First} {following : First → Action Second}
  {cursor middle : Cursor}

theorem bind_ok {value : First} (ran : action cursor = .ok value middle) :
    (action >>= following) cursor = following value middle := by
  simp only [bind, EStateM.bind, ran]

theorem bind_error {error : Error} (ran : action cursor = .error error middle) :
    (action >>= following) cursor = .error error middle := by
  simp only [bind, EStateM.bind, ran]

end Running

@[simp] theorem run_pure {Value : Type} (value : Value) (cursor : Cursor) :
    (pure value : Action Value) cursor = .ok value cursor := rfl

@[simp] theorem run_throw {Value : Type} (error : Error) (cursor : Cursor) :
    (throw error : Action Value) cursor = .error error cursor := rfl

@[simp] theorem run_get_bind {Value : Type} (following : Cursor → Action Value)
    (cursor : Cursor) : (get >>= following) cursor = following cursor cursor := rfl

@[simp] theorem run_modify_bind {Value : Type} (change : Cursor → Cursor)
    (following : PUnit → Action Value) (cursor : Cursor) :
    (modify change >>= following) cursor = following ⟨⟩ (change cursor) := rfl

/-! ### Taking bytes -/

/-- The cursor when it has taken so many bytes and has this left to read. -/
def past (cursor : Cursor) (count : Nat) (source : Source) : Cursor :=
  { cursor with source, consumed := cursor.consumed + count }

/-- One cursor is further on than another by so many bytes, and otherwise equal. -/
structure Took (cursor : Cursor) (count : Nat) (next : Cursor) : Prop where
  eq : next = cursor.past count next.source
  content : next.source.content = cursor.source.content.drop count
  failure : next.source.failure = cursor.source.failure
  steady : next.source.Steady

theorem Took.trans {first second third : Cursor} {count more : Nat}
    (start : first.Took count second) (rest : second.Took more third) :
    first.Took (count + more) third := by
  refine ⟨?_, ?_, rest.failure.trans start.failure, rest.steady⟩
  · rw [rest.eq, start.eq]
    simp [past, Nat.add_assoc]
  · rw [rest.content, start.content, List.drop_drop]

theorem Took.ends {cursor next : Cursor} {count : Nat} (took : cursor.Took count next) :
    next.ends = cursor.ends := by
  rw [took.eq]
  rfl

theorem Took.peeked {cursor next : Cursor} {count : Nat} (took : cursor.Took count next) :
    next.peeked = cursor.peeked := by
  rw [took.eq]
  rfl

theorem Took.maximumSize {cursor next : Cursor} {count : Nat} (took : cursor.Took count next) :
    next.maximumSize = cursor.maximumSize := by
  rw [took.eq]
  rfl

/-- The cursor behind the bytes that a loop of reads gathers. -/
def behind (cursor : Cursor) (count : Nat) : Cursor :=
  cursor.past (cursor.source.gather count).bytes.length (cursor.source.gather count).source

theorem takeBytes_eq (count : Nat) (cursor : Cursor) :
    takeBytes count cursor =
      match (cursor.source.gather count).stop with
      | .enough => .ok (cursor.source.gather count).bytes (cursor.behind count)
      | .ended =>
          .error (.truncated count (cursor.source.gather count).bytes.length)
            (cursor.behind count)
      | .failed reason => .error (.unreadable reason) (cursor.behind count) := by
  simp only [takeBytes, run_get_bind, run_modify_bind]
  cases (cursor.source.gather count).stop <;> rfl

theorem takeByte?_eq (cursor : Cursor) :
    takeByte? cursor =
      match (cursor.source.gather 1).stop with
      | .failed reason => .error (.unreadable reason) (cursor.behind 1)
      | _ => .ok (cursor.source.gather 1).bytes.head? (cursor.behind 1) := by
  simp only [takeByte?, run_get_bind, run_modify_bind]
  cases (cursor.source.gather 1).stop <;> rfl

theorem took_behind {cursor : Cursor} (steady : cursor.source.Steady) (count : Nat) :
    cursor.Took (cursor.source.gather count).bytes.length (cursor.behind count) := by
  have supplied := Source.supplies_gather steady count
  refine ⟨rfl, ?_, supplied.failure, supplied.steady⟩
  show (cursor.source.gather count).source.content = _
  rw [supplied.rest, supplied.bytes, List.length_take]
  by_cases enough : count ≤ cursor.source.content.length
  · rw [Nat.min_eq_left enough]
  · rw [Nat.min_eq_right (by omega), List.drop_length, List.drop_eq_nil_of_le (by omega)]

theorem takeBytes_of_le {cursor : Cursor} (steady : cursor.source.Steady) (count : Nat)
    (enough : count ≤ cursor.source.content.length) :
    ∃ next, cursor.Took count next ∧
      takeBytes count cursor = .ok (cursor.source.content.take count) next := by
  have supplied := Source.supplies_gather steady count
  have length_eq : (cursor.source.gather count).bytes.length = count := by
    rw [supplied.bytes, List.length_take, Nat.min_eq_left enough]
  have took := took_behind steady count
  rw [length_eq] at took
  refine ⟨_, took, ?_⟩
  rw [takeBytes_eq, supplied.stop, if_neg (by omega), length_eq, supplied.bytes]

theorem takeBytes_of_lt {cursor : Cursor} (steady : cursor.source.Steady)
    (ended : cursor.source.failure = none) {count : Nat}
    (short : cursor.source.content.length < count) :
    ∃ next, cursor.Took cursor.source.content.length next ∧
      takeBytes count cursor = .error (.truncated count cursor.source.content.length) next := by
  have supplied := Source.supplies_gather steady count
  have length_eq : (cursor.source.gather count).bytes.length = cursor.source.content.length := by
    rw [supplied.bytes, List.length_take, Nat.min_eq_right (by omega)]
  have took := took_behind steady count
  rw [length_eq] at took
  refine ⟨_, took, ?_⟩
  rw [takeBytes_eq, supplied.stop, if_pos short, length_eq]
  simp only [Source.ending, ended]

theorem takeByte?_of_cons {cursor : Cursor} (steady : cursor.source.Steady)
    {byte : UInt8} {rest : Bytes} (content : cursor.source.content = byte :: rest) :
    ∃ next, cursor.Took 1 next ∧ takeByte? cursor = .ok (some byte) next := by
  have supplied := Source.supplies_gather steady 1
  have bytes_eq : (cursor.source.gather 1).bytes = [byte] := by
    rw [supplied.bytes, content]
    rfl
  have took := took_behind steady 1
  rw [bytes_eq] at took
  refine ⟨_, took, ?_⟩
  rw [takeByte?_eq, supplied.stop, content, if_neg (by simp), bytes_eq]
  rfl

theorem takeByte?_of_nil {cursor : Cursor} (steady : cursor.source.Steady)
    (ended : cursor.source.failure = none) (content : cursor.source.content = []) :
    ∃ next, cursor.Took 0 next ∧ takeByte? cursor = .ok none next := by
  have supplied := Source.supplies_gather steady 1
  have bytes_eq : (cursor.source.gather 1).bytes = [] := by
    rw [supplied.bytes, content]
    rfl
  have took := took_behind steady 1
  rw [bytes_eq] at took
  refine ⟨_, took, ?_⟩
  rw [takeByte?_eq, supplied.stop, content, if_pos (by simp), bytes_eq]
  simp only [Source.ending, ended]
  rfl

/-! ### Length fields -/

/-- The field behind its first byte. -/
theorem readLengthField_of_first {cursor middle : Cursor} {first : UInt8}
    (taken : takeByte? cursor = .ok (some first) middle) :
    readLengthField cursor =
      (if first < 0x80 then pure first.toNat
      else if first.toNat - 0x80 = 0 then throw .indefiniteLength
      else if 4 < first.toNat - 0x80 then throw (.lengthTooLong (first.toNat - 0x80))
      else do
        let length := Bytes.toNat (← takeBytes (first.toNat - 0x80))
        if Length.maximum < length then throw (.lengthTooLarge length Length.maximum)
        return length : Action Nat) middle := by
  rw [readLengthField, bind_ok taken]

theorem readLengthField_of_ok {cursor : Cursor} (steady : cursor.source.Steady)
    {length : Nat} {rest : Bytes}
    (decoded : Length.decode cursor.source.content = .ok (length, rest)) :
    ∃ next, cursor.Took (cursor.source.content.length - rest.length) next ∧
      next.source.content = rest ∧ readLengthField cursor = .ok length next := by
  cases content : cursor.source.content with
  | nil => simp [content, Length.decode] at decoded
  | cons first following =>
      obtain ⟨middle, tookFirst, taken⟩ := takeByte?_of_cons steady content
      have middleContent : middle.source.content = following := by
        rw [tookFirst.content, content]
        rfl
      rw [readLengthField_of_first taken]
      simp only [content, Length.decode] at decoded
      split at decoded
      · next short =>
          simp only [Except.ok.injEq, Prod.mk.injEq] at decoded
          obtain ⟨rfl, rfl⟩ := decoded
          refine ⟨middle, ?_, middleContent, by rw [if_pos short]; rfl⟩
          simpa using tookFirst
      · next long =>
          split at decoded
          · simp at decoded
          next definite =>
          split at decoded
          · simp at decoded
          next few =>
          split at decoded
          · simp at decoded
          next complete =>
          split at decoded
          · simp at decoded
          next small =>
          simp only [Except.ok.injEq, Prod.mk.injEq] at decoded
          obtain ⟨rfl, rfl⟩ := decoded
          obtain ⟨next, tookRest, takenRest⟩ := takeBytes_of_le tookFirst.steady
            (first.toNat - 0x80) (by rw [middleContent]; omega)
          refine ⟨next, ?_, ?_, ?_⟩
          · have took := tookFirst.trans tookRest
            simp only [List.length_cons, List.length_drop]
            rwa [show following.length + 1 - (following.length - (first.toNat - 0x80)) =
              1 + (first.toNat - 0x80) by omega]
          · rw [tookRest.content, middleContent]
          · rw [if_neg long, if_neg definite, if_neg few, bind_ok takenRest, middleContent,
              if_neg small]
            rfl

theorem readLengthField_of_error {cursor : Cursor} (steady : cursor.source.Steady)
    (ended : cursor.source.failure = none) {error : Error}
    (decoded : Length.decode cursor.source.content = .error error) :
    ∃ next, readLengthField cursor = .error error next := by
  cases content : cursor.source.content with
  | nil =>
      obtain ⟨next, -, taken⟩ := takeByte?_of_nil steady ended content
      simp only [content, Length.decode, Except.error.injEq] at decoded
      refine ⟨next, ?_⟩
      rw [readLengthField, bind_ok taken, ← decoded]
      rfl
  | cons first following =>
      obtain ⟨middle, tookFirst, taken⟩ := takeByte?_of_cons steady content
      have middleContent : middle.source.content = following := by
        rw [tookFirst.content, content]
        rfl
      have middleEnded : middle.source.failure = none := tookFirst.failure.trans ended
      rw [readLengthField_of_first taken]
      simp only [content, Length.decode] at decoded
      split at decoded
      · simp at decoded
      next long =>
      rw [if_neg long]
      split at decoded
      · next indefinite =>
          cases decoded
          exact ⟨middle, by rw [if_pos indefinite]; rfl⟩
      next definite =>
      rw [if_neg definite]
      split at decoded
      · next many =>
          cases decoded
          exact ⟨middle, by rw [if_pos many]; rfl⟩
      next few =>
      rw [if_neg few]
      split at decoded
      · next incomplete =>
          cases decoded
          rw [← middleContent] at incomplete ⊢
          obtain ⟨next, -, takenRest⟩ := takeBytes_of_lt tookFirst.steady middleEnded incomplete
          exact ⟨next, bind_error takenRest⟩
      next complete =>
      split at decoded
      · next large =>
          cases decoded
          obtain ⟨next, -, takenRest⟩ := takeBytes_of_le tookFirst.steady
            (first.toNat - 0x80) (by rw [middleContent]; omega)
          refine ⟨next, ?_⟩
          rw [bind_ok takenRest, middleContent, if_pos large]
          rfl
      · simp at decoded

/-! ### Tags and elements -/

/-- The bytes that were not read yet, a tag that was only looked at included. -/
def unread (cursor : Cursor) : Bytes :=
  cursor.peeked.toList ++ cursor.source.content

/-- The cursor when it has left every container that ends here, and no longer
holds a tag. -/
def leaving (cursor : Cursor) : Cursor :=
  { cursor with ends := cursor.ends.dropWhile (· ≤ cursor.position), peeked := none }

theorem readTag_of_cons {cursor : Cursor} (steady : cursor.source.Steady)
    {tag : UInt8} {rest : Bytes} (unread : cursor.unread = tag :: rest) :
    ∃ next count, cursor.leaving.Took count next ∧ next.source.content = rest ∧
      readTag cursor = .ok (some tag) next := by
  cases peeked : cursor.peeked with
  | some looked =>
      simp only [Cursor.unread, peeked, Option.toList_some, List.singleton_append,
        List.cons.injEq] at unread
      refine ⟨cursor.leaving, 0, ⟨rfl, rfl, rfl, steady⟩, unread.2, ?_⟩
      simp only [readTag, run_modify_bind, run_get_bind, peeked, unread.1]
      rfl
  | none =>
      simp only [Cursor.unread, peeked, Option.toList_none, List.nil_append] at unread
      obtain ⟨next, took, taken⟩ :=
        takeByte?_of_cons (show cursor.leaving.source.Steady from steady) unread
      refine ⟨next, 1, took, ?_, ?_⟩
      · rw [took.content]
        show cursor.source.content.drop 1 = rest
        rw [unread]
        rfl
      · simp only [readTag, run_modify_bind, run_get_bind, peeked]
        exact taken

theorem readTag_of_nil {cursor : Cursor} (steady : cursor.source.Steady)
    (ended : cursor.source.failure = none) (unread : cursor.unread = []) :
    ∃ next, readTag cursor = .ok none next := by
  simp only [Cursor.unread, List.append_eq_nil_iff, Option.toList_eq_nil_iff] at unread
  obtain ⟨next, -, taken⟩ :=
    takeByte?_of_nil (show cursor.leaving.source.Steady from steady) ended unread.2
  refine ⟨next, ?_⟩
  simp only [readTag, run_modify_bind, run_get_bind, unread.1]
  exact taken

end DirectoryInterchange.Element.Cursor
