import DirectoryInterchange.Element.Outline
import DirectoryInterchange.Element.Tree
import DirectoryInterchange.Proofs.Element.Agreement
import DirectoryInterchange.Proofs.Element.Encoding

/-!
Elements inside elements, as far down as there are constructed ones.

What holds for all the elements that are found in some bytes comes down to the
first of them, to the bytes inside it and to the bytes behind it, and so does
the list of their nodes.
-/

namespace DirectoryInterchange.Element

/-! ### Bytes that go on otherwise -/

/-- A length field does not depend on what stands behind it. -/
theorem Length.decode_field {field rest : Bytes} {length : Nat}
    (decoded : decode (field ++ rest) = .ok (length, rest)) (other : Bytes) :
    decode (field ++ other) = .ok (length, other) := by
  cases field with
  | nil => exact absurd (length_rest_lt_of_decode decoded) (Nat.lt_irrefl _)
  | cons first following =>
      simp only [decode, List.cons_append] at decoded ⊢
      split at decoded
      · next short =>
          simp only [Except.ok.injEq, Prod.mk.injEq, List.append_left_eq_self] at decoded
          obtain ⟨rfl, rfl⟩ := decoded
          rw [if_pos short, List.nil_append]
      · next long =>
          split at decoded
          · cases decoded
          next definite =>
          split at decoded
          · cases decoded
          next few =>
          split at decoded
          · cases decoded
          next complete =>
          split at decoded
          · cases decoded
          next small =>
          simp only [Except.ok.injEq, Prod.mk.injEq] at decoded
          obtain ⟨rfl, dropped⟩ := decoded
          -- The field is just as long as its first byte announces.
          have announced : first.toNat - 0x80 = following.length := by
            have lengths := congrArg List.length dropped
            simp only [List.length_drop, List.length_append] at lengths complete
            omega
          rw [announced, List.take_left] at small
          rw [if_neg long, if_neg definite, if_neg few, announced, if_neg (by simp),
            List.take_left, List.take_left, List.drop_left, if_neg small]

/-- An element is read when its tag and its length field precede its content. -/
theorem decodeFirst_eq_ok {bytes rest : Bytes} {element : Element} :
    decodeFirst bytes = .ok (element, rest) ↔
      ∃ following, bytes = element.tag :: following ∧
        Length.decode following = .ok (element.value.length, element.value ++ rest) := by
  cases bytes with
  | nil => simp [decodeFirst]
  | cons tag following =>
      simp only [decodeFirst, List.cons.injEq]
      cases decoded : Length.decode following with
      | error error => simp [decoded]
      | ok field =>
          obtain ⟨length, content⟩ := field
          simp only
          constructor
          · intro read
            split at read
            · cases read
            · cases read
              refine ⟨following, ⟨rfl, rfl⟩, ?_⟩
              rw [decoded, List.take_append_drop, List.length_take, Nat.min_eq_left (by omega)]
          · rintro ⟨_, ⟨rfl, rfl⟩, same⟩
            rw [decoded] at same
            cases same
            rw [if_neg (by simp), List.take_left, List.drop_left]

theorem suffix_of_decodeFirst {bytes rest : Bytes} {element : Element}
    (read : decodeFirst bytes = .ok (element, rest)) : ∃ front, bytes = front ++ rest := by
  obtain ⟨following, rfl, decoded⟩ := decodeFirst_eq_ok.mp read
  obtain ⟨field, rfl⟩ := Length.suffix_of_decode decoded
  exact ⟨element.tag :: (field ++ element.value), by simp⟩

/-- An element does not depend on what stands behind it. -/
theorem decodeFirst_front {front rest : Bytes} {element : Element}
    (read : decodeFirst (front ++ rest) = .ok (element, rest)) (other : Bytes) :
    decodeFirst (front ++ other) = .ok (element, other) := by
  obtain ⟨following, whole, decoded⟩ := decodeFirst_eq_ok.mp read
  obtain ⟨field, rfl⟩ := Length.suffix_of_decode decoded
  obtain rfl : front = element.tag :: (field ++ element.value) := by
    rw [← List.append_assoc, ← List.cons_append] at whole
    exact List.append_cancel_right whole
  refine decodeFirst_eq_ok.mpr ⟨field ++ (element.value ++ other), by simp, ?_⟩
  exact Length.decode_field decoded (element.value ++ other)

/-- Bytes that can be split are none, or an element and bytes that can be split. -/
theorem decodeAll_eq_ok {bytes : Bytes} {elements : List Element} :
    decodeAll bytes = .ok elements ↔
      bytes = [] ∧ elements = [] ∨
        ∃ element rest others, decodeFirst bytes = .ok (element, rest) ∧
          decodeAll rest = .ok others ∧ elements = element :: others := by
  rw [decodeAll]
  constructor
  · intro read
    split at read
    · next none_left =>
        cases read
        exact .inl ⟨List.isEmpty_iff.mp none_left, rfl⟩
    · split at read
      · cases read
      · next element rest first =>
          split at read
          · cases read
          · next others restRead =>
              cases read
              exact .inr ⟨element, rest, others, first, restRead, rfl⟩
  · rintro (⟨rfl, rfl⟩ | ⟨element, rest, others, first, restRead, rfl⟩)
    · rfl
    · rw [← decodeAll, decodeAll_of_decodeFirst first, restRead]
      rfl

/-! ### What is found on the way down -/

/-- An element that comes up when some bytes are split, inside of `depth`
constructed ones that come up as well. -/
inductive Found (bytes : Bytes) : Nat → Element → Prop
  | outermost {elements : List Element} {element : Element}
      (read : decodeAll bytes = .ok elements) (member : element ∈ elements) :
      Found bytes 0 element
  | inside {depth : Nat} {outer element : Element} {elements : List Element}
      (found : Found bytes depth outer) (constructed : outer.isConstructed)
      (read : outer.children = .ok elements) (member : element ∈ elements) :
      Found bytes (depth + 1) element

namespace Found

variable {bytes rest : Bytes} {first element : Element} {others : List Element} {depth : Nat}

theorem behind (found : Found rest depth element) (read : decodeFirst bytes = .ok (first, rest))
    (restRead : decodeAll rest = .ok others) : Found bytes depth element := by
  induction found with
  | outermost alsoRead member =>
      cases alsoRead.symm.trans restRead
      have all : decodeAll bytes = .ok (first :: others) :=
        decodeAll_eq_ok.mpr (.inr ⟨_, _, _, read, restRead, rfl⟩)
      exact .outermost all (List.mem_cons_of_mem _ member)
  | inside found constructed inner member inductionHypothesis =>
      exact .inside inductionHypothesis constructed inner member

theorem within (found : Found first.value depth element) (outermost : Found bytes 0 first)
    (constructed : first.isConstructed) : Found bytes (depth + 1) element := by
  induction found with
  | outermost read member => exact .inside outermost constructed read member
  | inside found constructed inner member inductionHypothesis =>
      exact .inside inductionHypothesis constructed inner member

/-- Whatever is found is the first element, behind it, or inside it. -/
theorem cases_first (found : Found bytes depth element)
    (read : decodeFirst bytes = .ok (first, rest)) (restRead : decodeAll rest = .ok others) :
    (depth = 0 ∧ element = first) ∨ Found rest depth element ∨
      (first.isConstructed ∧ ∃ below, depth = below + 1 ∧ Found first.value below element) := by
  induction found with
  | outermost alsoRead member =>
      have all := decodeAll_eq_ok.mpr (.inr ⟨_, _, _, read, restRead, rfl⟩)
      cases alsoRead.symm.trans all
      rcases List.mem_cons.mp member with rfl | member
      · exact .inl ⟨rfl, rfl⟩
      · exact .inr (.inl (.outermost restRead member))
  | @inside depth outer element elements found constructed inner member inductionHypothesis =>
      rcases inductionHypothesis with ⟨rfl, rfl⟩ | behind | ⟨outermost, below, rfl, within⟩
      · exact .inr (.inr ⟨constructed, 0, rfl, .outermost inner member⟩)
      · exact .inr (.inl (.inside behind constructed inner member))
      · exact .inr (.inr ⟨outermost, below + 1, rfl, .inside within constructed inner member⟩)

theorem not_nil : ¬Found [] depth element := by
  intro found
  induction found with
  | outermost read member =>
      cases decodeAll_nil.symm.trans read
      exact List.not_mem_nil member
  | inside found constructed inner member inductionHypothesis => exact inductionHypothesis

end Found

/-- Bytes inside of `depth` constructed elements that can be split all the way
down within some limits. -/
structure Divisible (maximumSize maximumDepth depth : Nat) (bytes : Bytes) : Prop where
  splits : ∃ elements, decodeAll bytes = .ok elements
  splits_inside : ∀ below element, Found bytes below element → element.isConstructed →
    ∃ elements, element.children = .ok elements
  shallow : ∀ below element, Found bytes below element → element.isConstructed →
    depth + below < maximumDepth
  small : ∀ below element, Found bytes below element → element.value.length ≤ maximumSize

namespace Divisible

variable {maximumSize maximumDepth depth : Nat} {bytes rest : Bytes} {element : Element}

theorem nil : Divisible maximumSize maximumDepth depth [] where
  splits := ⟨[], decodeAll_nil⟩
  splits_inside _ _ found := absurd found Found.not_nil
  shallow _ _ found := absurd found Found.not_nil
  small _ _ found := absurd found Found.not_nil

theorem first (divisible : Divisible maximumSize maximumDepth depth bytes)
    (nonempty : bytes ≠ []) : ∃ element rest, decodeFirst bytes = .ok (element, rest) := by
  obtain ⟨elements, read⟩ := divisible.splits
  rcases decodeAll_eq_ok.mp read with ⟨rfl, -⟩ | ⟨element, rest, others, first, -⟩
  · exact absurd rfl nonempty
  · exact ⟨element, rest, first⟩

theorem iff_of_first (read : decodeFirst bytes = .ok (element, rest)) :
    Divisible maximumSize maximumDepth depth bytes ↔
      element.value.length ≤ maximumSize ∧
        (element.isConstructed → depth < maximumDepth ∧
          Divisible maximumSize maximumDepth (depth + 1) element.value) ∧
        Divisible maximumSize maximumDepth depth rest := by
  constructor
  · intro divisible
    obtain ⟨elements, all⟩ := divisible.splits
    obtain ⟨rfl, -⟩ | ⟨_, _, others, alsoRead, restRead, rfl⟩ := decodeAll_eq_ok.mp all
    · cases read
    cases read.symm.trans alsoRead
    have outermost : Found bytes 0 element := .outermost all List.mem_cons_self
    refine ⟨divisible.small _ _ outermost, fun constructed => ⟨?_, ?_⟩, ?_⟩
    · exact divisible.shallow _ _ outermost constructed
    · refine ⟨divisible.splits_inside _ _ outermost constructed, ?_, ?_, ?_⟩
      · exact fun below inner found =>
          divisible.splits_inside _ _ (found.within outermost constructed)
      · intro below inner found innerConstructed
        have := divisible.shallow _ _ (found.within outermost constructed) innerConstructed
        omega
      · exact fun below inner found => divisible.small _ _ (found.within outermost constructed)
    · exact ⟨⟨others, restRead⟩,
        fun _ _ found => divisible.splits_inside _ _ (found.behind read restRead),
        fun _ _ found => divisible.shallow _ _ (found.behind read restRead),
        fun _ _ found => divisible.small _ _ (found.behind read restRead)⟩
  · rintro ⟨small, inside, behind⟩
    obtain ⟨others, restRead⟩ := behind.splits
    refine ⟨⟨_, decodeAll_eq_ok.mpr (.inr ⟨_, _, _, read, restRead, rfl⟩)⟩, ?_, ?_, ?_⟩
    · intro below inner found constructed
      rcases found.cases_first read restRead with ⟨rfl, rfl⟩ | later | ⟨outer, below, rfl, deeper⟩
      · exact (inside constructed).2.splits
      · exact behind.splits_inside _ _ later constructed
      · exact (inside outer).2.splits_inside _ _ deeper constructed
    · intro below inner found constructed
      rcases found.cases_first read restRead with ⟨rfl, rfl⟩ | later | ⟨outer, below, rfl, deeper⟩
      · exact (inside constructed).1
      · exact behind.shallow _ _ later constructed
      · have := (inside outer).2.shallow _ _ deeper constructed
        omega
    · intro below inner found
      rcases found.cases_first read restRead with ⟨rfl, rfl⟩ | later | ⟨outer, below, rfl, deeper⟩
      · exact small
      · exact behind.small _ _ later
      · exact (inside outer).2.small _ _ deeper

end Divisible

/-! ### Nodes -/

namespace Outline

/-- The nodes of an element and of everything inside it, the outer before the inner. -/
def nodesOf (depth : Nat) (element : Element) : List Node :=
  let node := Node.container depth element.tag element.value.length
  if element.isConstructed then
    match _ : element.children with
    | .error _ => [node]
    | .ok children => node :: children.attach.flatMap fun child => nodesOf (depth + 1) child.val
  else [.value depth element]
  termination_by element.value.length
  decreasing_by exact length_value_lt_of_decodeAll ‹_› child.val child.property

theorem nodesOf_of_constructed {element : Element} {children : List Element}
    (constructed : element.isConstructed) (read : element.children = .ok children) (depth : Nat) :
    nodesOf depth element =
      .container depth element.tag element.value.length ::
        children.flatMap (nodesOf (depth + 1)) := by
  rw [nodesOf, if_pos constructed]
  split
  · next failed => cases failed.symm.trans read
  · next others alsoRead =>
      cases alsoRead.symm.trans read
      rw [List.flatMap_subtype (g := nodesOf (depth + 1)) (fun _ _ => rfl), List.unattach_attach]

theorem nodesOf_of_primitive {element : Element} (primitive : ¬element.isConstructed)
    (depth : Nat) : nodesOf depth element = [.value depth element] := by
  rw [nodesOf, if_neg primitive]

end Outline

namespace Tree

mutual

/-- How many elements a tree holds, itself included. -/
def size : Tree → Nat
  | .primitive _ => 1
  | .constructed _ children => 1 + sizeAll children
  | .broken _ _ => 1

def sizeAll : List Tree → Nat
  | [] => 0
  | tree :: trees => tree.size + sizeAll trees

end

theorem ofElement_of_constructed {element : Element} {children : List Element}
    (constructed : element.isConstructed) (read : element.children = .ok children) :
    ofElement element = .constructed element.tag (children.map ofElement) := by
  rw [ofElement, if_pos constructed]
  split
  · next failed => cases failed.symm.trans read
  · next others alsoRead =>
      cases alsoRead.symm.trans read
      rw [List.map_subtype (g := ofElement) (fun _ _ => rfl), List.unattach_attach]

theorem ofElement_of_broken {element : Element} {error : Error}
    (constructed : element.isConstructed) (failed : element.children = .error error) :
    ofElement element = .broken element.tag error := by
  rw [ofElement, if_pos constructed]
  split
  · next alsoFailed => cases alsoFailed.symm.trans failed; rfl
  · next read => cases read.symm.trans failed

end Tree

namespace Outline

theorem length_flatMap_nodesOf {depth : Nat} {elements : List Element}
    (each : ∀ element ∈ elements,
      (nodesOf depth element).length = (Tree.ofElement element).size) :
    (elements.flatMap (nodesOf depth)).length = Tree.sizeAll (elements.map Tree.ofElement) := by
  induction elements with
  | nil => rfl
  | cons element elements inductionHypothesis =>
      rw [List.flatMap_cons, List.length_append, each element List.mem_cons_self,
        inductionHypothesis fun other member => each other (List.mem_cons_of_mem _ member)]
      rfl

theorem length_nodesOf (depth : Nat) (element : Element) :
    (nodesOf depth element).length = (Tree.ofElement element).size := by
  fun_induction nodesOf depth element with
  | case1 depth element node constructed error failed =>
      rw [Tree.ofElement_of_broken constructed failed]
      rfl
  | case2 depth element node constructed children read inductionHypothesis =>
      have inside := length_flatMap_nodesOf fun child member => inductionHypothesis ⟨child, member⟩
      rw [Tree.ofElement_of_constructed constructed read, Tree.size, ← inside,
        List.flatMap_subtype (g := nodesOf (depth + 1)) (fun _ _ => rfl), List.unattach_attach,
        List.length_cons, Nat.add_comm]
  | case3 depth element primitive =>
      rw [Tree.ofElement, if_neg primitive]
      rfl

end Outline

end DirectoryInterchange.Element
