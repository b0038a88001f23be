import DirectoryInterchange.Proofs.Element.Meeting

/-!
A walk through a source finds what splitting its bytes finds.

It goes through what is left of a container when that can be split all the way
down, and stops with an error when it cannot.
-/

namespace DirectoryInterchange.Element.Outline

open Cursor

/-! ### Walking on -/

section

variable {container : Option Span} {cursor next : Cursor} {fuel depth : Nat}

theorem walkFrom_succ (fuel : Nat) (container : Option Span) (depth : Nat) (cursor : Cursor) :
    walkFrom (fuel + 1) container depth cursor =
      match meet container cursor with
      | .error error next => (.stopped error, next)
      | .ok none next => (.done, next)
      | .ok (some (.inr element)) next =>
          ((walkFrom fuel container depth next).1.after [.value depth element],
            (walkFrom fuel container depth next).2)
      | .ok (some (.inl span)) next =>
          let (inner, last) := walkFrom fuel (some span) (depth + 1) next
          let found := Node.container depth span.tag span.length :: inner.nodes
          match inner.outcome with
          | .error error => ((Walk.stopped error).after found, last)
          | .ok () =>
              ((walkFrom fuel container depth last).1.after found,
                (walkFrom fuel container depth last).2) :=
  rfl

theorem walkFrom_of_error {error : Error} (met : meet container cursor = .error error next) :
    walkFrom (fuel + 1) container depth cursor = (.stopped error, next) := by
  simp only [walkFrom_succ, met]

theorem walkFrom_of_none (met : meet container cursor = .ok none next) :
    walkFrom (fuel + 1) container depth cursor = (.done, next) := by
  simp only [walkFrom_succ, met]

theorem walkFrom_of_element {element : Element}
    (met : meet container cursor = .ok (some (.inr element)) next) :
    walkFrom (fuel + 1) container depth cursor =
      ((walkFrom fuel container depth next).1.after [.value depth element],
        (walkFrom fuel container depth next).2) := by
  simp only [walkFrom_succ, met]

theorem walkFrom_of_container {span : Span} {inner : Cursor} {nodes : List Node}
    (met : meet container cursor = .ok (some (.inl span)) next)
    (walked : walkFrom fuel (some span) (depth + 1) next = (⟨nodes, .ok ()⟩, inner)) :
    walkFrom (fuel + 1) container depth cursor =
      ((walkFrom fuel container depth inner).1.after
          (.container depth span.tag span.length :: nodes),
        (walkFrom fuel container depth inner).2) := by
  simp only [walkFrom_succ, met, walked]

theorem walkFrom_of_entered {span : Span} {walk : Walk} {last : Cursor}
    (met : meet container cursor = .ok (some (.inl span)) next)
    (walked : walkFrom (fuel + 1) container depth cursor = (walk, last))
    (done : walk.outcome = .ok ()) :
    ∃ nodes inner rest, walkFrom fuel (some span) (depth + 1) next = (⟨nodes, .ok ()⟩, inner) ∧
      walkFrom fuel container depth inner = (rest, last) ∧ rest.outcome = .ok () := by
  simp only [walkFrom_succ, met] at walked
  cases inside : walkFrom fuel (some span) (depth + 1) next with
  | mk found inner =>
      obtain ⟨nodes, outcome⟩ := found
      rw [inside] at walked
      cases outcome with
      | error error =>
          cases walked
          cases done
      | ok ended =>
          cases walked
          exact ⟨nodes, inner, _, rfl, rfl, done⟩

end

/-- A cursor in the midst of a walk: it is in a container with `depth`
containers open, and goes by these limits. -/
structure Standing (maximumSize maximumDepth depth : Nat) (container : Option Span)
    (cursor : Cursor) : Prop where
  ready : cursor.Ready
  innermost : Innermost container cursor.ends
  depth : cursor.ends.length = depth
  maximumSize : cursor.maximumSize = maximumSize
  maximumDepth : cursor.maximumDepth = maximumDepth

section

variable {maximumSize maximumDepth depth count : Nat} {container : Option Span}
  {cursor next : Cursor}

theorem Standing.of_took (standing : Standing maximumSize maximumDepth depth container cursor)
    (took : cursor.Took count next) :
    Standing maximumSize maximumDepth depth container next where
  ready := standing.ready.of_took took
  innermost := took.ends ▸ standing.innermost
  depth := took.ends ▸ standing.depth
  maximumSize := took.maximumSize.trans standing.maximumSize
  maximumDepth := took.maximumDepth.trans standing.maximumDepth

theorem Standing.inside (standing : Standing maximumSize maximumDepth depth container cursor)
    {span : Span} (outside : span.depth = cursor.ends.length) :
    Standing maximumSize maximumDepth (depth + 1) (some span) (cursor.inside span) where
  ready := ⟨standing.ready.steady, standing.ready.ended, standing.ready.peeked⟩
  innermost := .container outside
  depth := congrArg (· + 1) standing.depth
  maximumSize := standing.maximumSize
  maximumDepth := standing.maximumDepth

/-- What is left behind the first element. -/
theorem left_behind {bytes behind rest : Bytes} (left : cursor.Left (bytes ++ rest) behind)
    (took : cursor.Took bytes.length next) : next.Left rest behind where
  content := by rw [took.content, left.content, List.append_assoc, List.drop_left]
  outermost none := left.outermost (took.ends ▸ none)
  innermost stop member := by
    have := left.innermost stop (took.ends ▸ member)
    rw [took.consumed]
    simp only [List.length_append] at this
    omega

/-- The walk goes through everything that can be split all the way down. -/
theorem walkFrom_of_divisible {fuel : Nat} {bytes behind : Bytes}
    (standing : Standing maximumSize maximumDepth depth container cursor)
    (left : cursor.Left bytes behind) (divisible : Divisible maximumSize maximumDepth depth bytes)
    (fueled : cursor.source.content.length < fuel) :
    ∃ elements last, decodeAll bytes = .ok elements ∧
      walkFrom fuel container depth cursor = (⟨elements.flatMap (nodesOf depth), .ok ()⟩, last) ∧
      cursor.outside.Took bytes.length last := by
  -- On the fuel, which stays ahead of the content that is left.
  induction fuel generalizing depth container cursor bytes behind with
  | zero => omega
  | succ fuel inductionHypothesis =>
      have enough := Nat.le_of_lt_succ fueled
      by_cases nonempty : bytes = []
      · subst nonempty
        obtain ⟨last, took, met⟩ := meet_of_end standing.ready standing.innermost left
        exact ⟨[], last, decodeAll_nil, walkFrom_of_none met, took⟩
      obtain ⟨element, rest, first⟩ := divisible.first nonempty
      obtain ⟨small, within, divisibleRest⟩ := (Divisible.iff_of_first first).mp divisible
      obtain ⟨front, rfl⟩ := suffix_of_decodeFirst first
      obtain ⟨what, next, met⟩ := meets_first standing.ready standing.innermost left first
        (standing.maximumSize.symm ▸ small)
        (fun constructed => standing.depth.symm ▸ standing.maximumDepth.symm ▸
          (within constructed).1)
      have length_eq : cursor.source.content.length = front.length + (rest ++ behind).length := by
        rw [left.content, List.append_assoc, List.length_append]
      have shorter := length_lt_of_decodeFirst first
      rw [List.length_append] at shorter
      have meeting := meeting_of_ok standing.ready standing.innermost met
      cases meetingFirst_of_meeting meeting left first with
      | read took primitive =>
          obtain ⟨others, last, othersRead, walked, tookRest⟩ :=
            inductionHypothesis (standing.of_took took) (left_behind left took) divisibleRest
              (by rw [took.content, List.length_drop]; omega)
          refine ⟨_, last, decodeAll_eq_ok.mpr (.inr ⟨_, _, _, first, othersRead, rfl⟩), ?_, ?_⟩
          · rw [walkFrom_of_element met, walked, List.flatMap_cons,
              nodesOf_of_primitive primitive]
            rfl
          · rw [List.length_append]
            exact took.outside.trans tookRest
      | entered described outside took counted fewer constructed insideLeft =>
          -- The walk inside ends where the element does, and goes on from there.
          obtain ⟨children, inner, childrenRead, walkedInside, tookInside⟩ :=
            inductionHypothesis ((standing.of_took took).inside outside) insideLeft
              (within constructed).2 (Nat.lt_of_lt_of_le fewer enough)
          have tookFirst : cursor.Took front.length inner := counted ▸ took.trans tookInside
          obtain ⟨others, last, othersRead, walked, tookRest⟩ :=
            inductionHypothesis (standing.of_took tookFirst) (left_behind left tookFirst)
              divisibleRest (by rw [tookFirst.content, List.length_drop]; omega)
          refine ⟨_, last, decodeAll_eq_ok.mpr (.inr ⟨_, _, _, first, othersRead, rfl⟩), ?_, ?_⟩
          · rw [walkFrom_of_container met walkedInside, walked, List.flatMap_cons,
              nodesOf_of_constructed constructed childrenRead, described.1, described.2]
            rfl
          · rw [List.length_append]
            exact tookFirst.outside.trans tookRest

/-- An element in front of what is left makes what is left longer. -/
theorem left_of_first {element : Element} {rest behind : Bytes} {last : Cursor}
    (first : decodeFirst cursor.source.content = .ok (element, next.source.content))
    (took : cursor.Took count next)
    (counted : count + next.source.content.length = cursor.source.content.length)
    (left : next.Left rest behind) (tookRest : next.outside.Took rest.length last) :
    ∃ bytes, cursor.Left bytes behind ∧ decodeFirst bytes = .ok (element, rest) ∧
      cursor.outside.Took bytes.length last := by
  obtain ⟨front, content⟩ := suffix_of_decodeFirst first
  obtain rfl : count = front.length := by
    rw [content, List.length_append] at counted
    omega
  rw [left.content, ← List.append_assoc] at content
  refine ⟨front ++ rest, ⟨content, ?_, ?_⟩, ?_, ?_⟩
  · exact fun none => left.outermost (took.ends.trans none)
  · intro stop member
    have := left.innermost stop (took.ends.symm ▸ member)
    rw [took.consumed] at this
    rw [List.length_append]
    omega
  · rw [content, left.content, List.append_assoc] at first
    exact decodeFirst_front first rest
  · rw [List.length_append]
    exact took.outside.trans tookRest

/-- A container that was left at its end is the first element of what was there
before it. -/
theorem first_of_left
    {tag : UInt8} {following content behind : Bytes} {length : Nat} {span : Span} {inner : Cursor}
    (spelled : cursor.source.content = tag :: following)
    (decoded : Length.decode following = .ok (length, next.source.content))
    (took : cursor.Took count next)
    (counted : count + next.source.content.length = cursor.source.content.length)
    (span_eq : span = ⟨tag, length, next.consumed + length, next.ends.length⟩)
    (left : (next.inside span).Left content behind)
    (tookInside : next.Took content.length inner) :
    length = content.length
      ∧ decodeFirst cursor.source.content = .ok (⟨tag, content⟩, inner.source.content)
      ∧ cursor.Took (count + content.length) inner
      ∧ count + content.length + inner.source.content.length = cursor.source.content.length := by
  have whole : next.source.content = content ++ behind := left.content
  have rest : inner.source.content = behind := by
    rw [tookInside.content, whole, List.drop_left]
  obtain rfl : length = content.length := by
    have := left.innermost span.stop rfl
    rw [span_eq] at this
    exact Nat.add_left_cancel this
  refine ⟨rfl, ?_, took.trans tookInside, ?_⟩
  · rw [rest]
    exact decodeFirst_eq_ok.mpr ⟨following, spelled, whole ▸ decoded⟩
  · rw [whole, List.length_append] at counted
    rw [rest, ← counted, Nat.add_assoc]

/-- A walk that comes to an end has gone through something that can be split. -/
theorem divisible_of_walkFrom {fuel : Nat} {walk : Walk} {last : Cursor}
    (standing : Standing maximumSize maximumDepth depth container cursor)
    (fueled : cursor.source.content.length < fuel)
    (walked : walkFrom fuel container depth cursor = (walk, last)) (done : walk.outcome = .ok ()) :
    ∃ bytes behind, cursor.Left bytes behind ∧ Divisible maximumSize maximumDepth depth bytes ∧
      cursor.outside.Took bytes.length last := by
  -- How much is left of the container is not known until the walk is done with
  -- it, so the bytes are put together from the back.
  induction fuel generalizing depth container cursor walk last with
  | zero => omega
  | succ fuel inductionHypothesis =>
      have enough := Nat.le_of_lt_succ fueled
      cases met : meet container cursor with
      | error error next =>
          cases (walkFrom_of_error met).symm.trans walked
          cases done
      | ok what next =>
          cases meeting_of_ok standing.ready standing.innermost met with
          | finished left took =>
              cases (walkFrom_of_none met).symm.trans walked
              exact ⟨[], _, left, .nil, took⟩
          | read first took counted primitive small =>
              cases (walkFrom_of_element met).symm.trans walked
              have shorter := length_lt_of_decodeFirst first
              obtain ⟨rest, behind, left, divisible, tookRest⟩ :=
                inductionHypothesis (standing.of_took took) (by omega) rfl done
              obtain ⟨bytes, leftAll, firstOf, tookAll⟩ :=
                left_of_first first took counted left tookRest
              refine ⟨bytes, behind, leftAll, ?_, tookAll⟩
              exact (Divisible.iff_of_first firstOf).mpr ⟨standing.maximumSize ▸ small,
                fun constructed => absurd constructed primitive, divisible⟩
          | @entered next tag following length count spelled decoded took counted constructed
              small shallow span span_eq =>
              have nextStanding := standing.of_took took
              have outside : span.depth = next.ends.length := by rw [span_eq]
              have shorter := length_lt_of_field spelled decoded
              obtain ⟨nodes, inner, others, walkedInside, walkedRest, doneRest⟩ :=
                walkFrom_of_entered met walked done
              obtain ⟨content, around, leftInside, divisibleInside, tookInside⟩ :=
                inductionHypothesis (nextStanding.inside outside)
                  (Nat.lt_of_lt_of_le shorter enough) walkedInside rfl
              obtain ⟨rfl, first, tookFirst, countedFirst⟩ :=
                first_of_left spelled decoded took counted span_eq leftInside tookInside
              have shorterFirst := length_lt_of_decodeFirst first
              obtain ⟨rest, behind, left, divisible, tookRest⟩ :=
                inductionHypothesis (standing.of_took tookFirst) (by omega) walkedRest doneRest
              obtain ⟨bytes, leftAll, firstOf, tookAll⟩ :=
                left_of_first first tookFirst countedFirst left tookRest
              refine ⟨bytes, behind, leftAll, ?_, tookAll⟩
              refine (Divisible.iff_of_first firstOf).mpr
                ⟨standing.maximumSize ▸ small, fun _ => ⟨?_, divisibleInside⟩, divisible⟩
              rwa [← standing.depth, ← standing.maximumDepth]

end

end DirectoryInterchange.Element.Outline
