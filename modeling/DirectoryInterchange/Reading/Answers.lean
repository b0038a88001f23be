import DirectoryInterchange.Reading.Pool.Schedule

/-!
The answers to call after call, from a reader and from a pool.
-/

namespace DirectoryInterchange.Reading

/-- At most so many successive calls, each with the source behind it.  The
last one says the end, or is the last that gets an answer. -/
def callsWithin {Source : Type} (call : Source → Option Reader.Answer × Source) :
    (calls : Nat) → Source → List (Reader.Answer × Source)
  | 0, _ => []
  | calls + 1, source =>
      match call source with
      | (none, _) => []
      | (some (.ok none), source) => [(.ok none, source)]
      | (some answer, source) => (answer, source) :: callsWithin call calls source

/-- What a sequence of calls delivers: the records and the errors, without the
end. -/
def delivered {Source : Type} (calls : List (Reader.Answer × Source)) : List Reader.Answer :=
  (calls.map (·.1)).filter fun
    | .ok none => false
    | _ => true

/-- The records among some answers. -/
def recordsOf (answers : List Reader.Answer) : List Record :=
  answers.filterMap fun
    | .ok record => record
    | .error _ => none

variable {Rule : Type}

/-- All calls up to the one that says the end.  Every call but two takes at
least one line. -/
def Reader.calls [Matching Rule] (reader : Reader Rule) : List (Answer × Reader Rule) :=
  callsWithin
    (fun reader =>
      let (answer, reader) := reader.readRecord
      (some answer, reader))
    (reader.feed.input.bytes.length + 3) reader

/-- What reading an input one record after another delivers. -/
def Reader.answers [Matching Rule] (context : Block.Context Rule) (input : Input) : List Answer :=
  delivered (Reader.start context input).calls

/-- All calls up to the one that says the end. -/
def Pool.State.calls [Matching Rule] (setup : Setup Rule) (state : State) :
    List (Reader.Answer × State) :=
  callsWithin (readRecord setup) (state.feeder.feed.input.bytes.length + 3) state

/-- What a pool delivers. -/
def Pool.answers [Matching Rule] (setup : Setup Rule) (input : Input) : List Reader.Answer :=
  delivered ((State.start setup input).calls setup)

end DirectoryInterchange.Reading
