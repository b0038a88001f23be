import DirectoryInterchange.Program.Run
import DirectoryInterchange.Proofs.Element.Printing
import DirectoryInterchange.Proofs.Element.Walking

/-!
The outline of an input is that of the elements into which its bytes split.
-/

namespace DirectoryInterchange.Element.Outline

/-- The limits of a cursor that is given none. -/
abbrev Divides (bytes : Bytes) : Prop :=
  Divisible 16777216 64 0 bytes

section

variable {source : Source} (steady : source.Steady) (ended : source.failure = none)

include steady ended

theorem standing_start : Standing 16777216 64 0 none (Cursor.start source) where
  ready := ⟨steady, ended, rfl⟩
  innermost := .everything
  depth := rfl
  maximumSize := rfl
  maximumDepth := rfl

theorem ofSource_of_divisible (divides : Divides source.content) :
    ∃ elements, decodeAll source.content = .ok elements ∧
      ofSource source = ⟨elements.flatMap (nodesOf 0), .ok ()⟩ := by
  have left : (Cursor.start source).Left source.content [] :=
    ⟨(List.append_nil _).symm, fun _ => rfl, by intro stop member; cases member⟩
  obtain ⟨elements, last, read, walked, -⟩ :=
    walkFrom_of_divisible (standing_start steady ended) left divides (Nat.lt_succ_self _)
  exact ⟨elements, read, congrArg Prod.fst walked⟩

theorem divisible_of_ofSource (done : (ofSource source).outcome = .ok ()) :
    Divides source.content := by
  obtain ⟨bytes, behind, left, divisible, -⟩ :=
    divisible_of_walkFrom (standing_start steady ended) (Nat.lt_succ_self _) rfl done
  obtain rfl := left.outermost rfl
  have content : source.content = bytes ++ [] := left.content
  rwa [content, List.append_nil]

end

/-- The source of an input that is read in one piece. -/
theorem outline_eq (bytes : Bytes) :
    ∃ source : Source, source.Steady ∧ source.failure = none ∧ source.content = bytes ∧
      Configuration.outline { bytes } =
        { outcome :=
            match (ofSource source).outcome with
            | .ok () => .ok { records := (ofSource source).nodes.length }
            | .error error => .error (.element error)
          printed := Utf8.encode (ofSource source).text } := by
  refine ⟨⟨if bytes.isEmpty then [] else [.bytes bytes], none⟩, ?_, rfl, ?_, rfl⟩
  · cases bytes with
    | nil => exact fun event member => absurd member List.not_mem_nil
    | cons byte bytes =>
        intro event member
        cases List.mem_singleton.mp member
        exact List.cons_ne_nil byte bytes
  · cases bytes with
    | nil => rfl
    | cons byte bytes => exact List.append_nil _

/-- However the bytes are delivered, the walk comes to an end just when they
divide.  Then it has found the nodes of the elements they divide into, and prints a
line for each of them, the one that follows the rules. -/
theorem outline_divides {source : Source} (steady : source.Steady)
    (ended : source.failure = none) :
    ((ofSource source).outcome = .ok () ↔ Divides source.content)
      ∧ ((∃ summary, (Configuration.outline { bytes := source.content }).outcome = .ok summary) ↔
          Divides source.content)
      ∧ (Divides source.content → ∃ elements lines, decodeAll source.content = .ok elements
          ∧ (ofSource source).nodes = elements.flatMap (nodesOf 0)
          ∧ (∀ others, List.Forall₂ Prints (elements.flatMap (nodesOf 0)) others ↔
              others = lines)
          ∧ (ofSource source).text = String.join (lines.map (· ++ "\n"))
          ∧ Configuration.outline { bytes := source.content } =
              { outcome := .ok { records := Tree.sizeAll (elements.map Tree.ofElement) }
                printed := Utf8.encode (String.join (lines.map (· ++ "\n"))) }) := by
  obtain ⟨whole, wholeSteady, wholeEnded, same, run⟩ := outline_eq source.content
  have walked (divides : Divides source.content) :
      ∃ elements, decodeAll source.content = .ok elements ∧
        ofSource source = ⟨elements.flatMap (nodesOf 0), .ok ()⟩ ∧
        ofSource whole = ⟨elements.flatMap (nodesOf 0), .ok ()⟩ := by
    obtain ⟨elements, read, found⟩ := ofSource_of_divisible steady ended divides
    obtain ⟨_, alsoRead, alsoFound⟩ :=
      ofSource_of_divisible wholeSteady wholeEnded (same.symm ▸ divides)
    rw [same, read] at alsoRead
    cases alsoRead
    exact ⟨elements, read, found, alsoFound⟩
  refine ⟨⟨divisible_of_ofSource steady ended, fun divides => ?_⟩, ⟨?_, fun divides => ?_⟩,
    fun divides => ?_⟩
  · obtain ⟨elements, -, found, -⟩ := walked divides
    rw [found]
  · rintro ⟨summary, succeeded⟩
    rw [run] at succeeded
    cases outcome : (ofSource whole).outcome with
    | error error =>
        simp only [outcome] at succeeded
        cases succeeded
    | ok ended => exact same ▸ divisible_of_ofSource wholeSteady wholeEnded outcome
  · obtain ⟨elements, -, -, found⟩ := walked divides
    rw [run, found]
    exact ⟨_, rfl⟩
  · obtain ⟨elements, read, found, alsoFound⟩ := walked divides
    have counted : (elements.flatMap (nodesOf 0)).length =
        Tree.sizeAll (elements.map Tree.ofElement) :=
      length_flatMap_nodesOf fun element _ => length_nodesOf 0 element
    have printed : (ofSource source).text =
        String.join (((elements.flatMap (nodesOf 0)).map Node.line).map (· ++ "\n")) := by
      rw [found, Walk.text, List.map_map]
      rfl
    refine ⟨elements, _, read, by rw [found], fun _ => prints_lines, printed, ?_⟩
    rw [← printed, run, alsoFound, found]
    simp only [counted]

/-- A sequence of a truth value and an empty set, delivered in three pieces. -/
def nested : Source :=
  ⟨[.bytes [0x30], .interrupted, .bytes [0x05, 0x01, 0x01], .bytes [0xFF, 0x31, 0x00]], none⟩

theorem outline_divides_nested :
    nested.Steady ∧ nested.failure = none ∧ Divides nested.content
      ∧ (ofSource nested).nodes =
          [.container 0 0x30 5, .value 1 ⟨0x01, [0xFF]⟩, .container 1 0x31 0]
      ∧ (ofSource nested).text =
          "0x30 SEQUENCE (5 bytes)\n  0x01 BOOLEAN true\n  0x31 SET (0 bytes)\n"
      ∧ ∃ elements lines, decodeAll nested.content = .ok elements
        ∧ List.Forall₂ Prints (elements.flatMap (nodesOf 0)) lines
        ∧ (ofSource nested).text = String.join (lines.map (· ++ "\n")) := by
  have steady : nested.Steady := by decide
  have walked := outline_divides steady rfl
  have divides := walked.1.mp (by decide +kernel)
  obtain ⟨elements, lines, read, -, printed, text, -⟩ := walked.2.2 divides
  exact ⟨steady, rfl, divides, by decide +kernel, by decide +kernel, elements, lines, read,
    (printed lines).mpr rfl, text⟩

end DirectoryInterchange.Element.Outline
