import Mathlib.Data.List.Chain
import DirectoryInterchange.Proofs.Record.Folding

/-!
How much the segments of a line hold.

A segment holds as many characters as its share of the column has room for, and
one at least: a character that is wider than that has a segment to itself.
-/

namespace DirectoryInterchange.Folding

/-! ### Bytes of a text -/

theorem length_le_size (text : List Char) : text.length ≤ size text := by
  induction text with
  | nil => exact Nat.le_refl 0
  | cons c text inductionHypothesis =>
      have wide := c.utf8Size_pos
      rw [List.length_cons, size]
      omega

theorem utf8ByteSize_ofList (text : List Char) : (String.ofList text).utf8ByteSize = size text := by
  induction text with
  | nil => rfl
  | cons c text inductionHypothesis =>
      have first : (String.ofList [c]).utf8ByteSize = c.utf8Size := String.utf8ByteSize_singleton
      rw [← List.singleton_append, String.ofList_append, String.utf8ByteSize_append, first,
        inductionHypothesis, List.singleton_append, size]

/-! ### Boundaries -/

theorem size_append (front back : List Char) : size (front ++ back) = size front + size back := by
  induction front with
  | nil => rw [List.nil_append, size, Nat.zero_add]
  | cons c front inductionHypothesis =>
      rw [List.cons_append, size, size, inductionHypothesis, Nat.add_assoc]

theorem sizeWithin_eq (limit : Nat) (text : List Char) :
    sizeWithin limit text = min limit (size text) := by
  fun_induction sizeWithin limit text with
  | case1 limit => exact (Nat.min_zero limit).symm
  | case2 limit c rest wide =>
      rw [size]
      omega
  | case3 limit c rest narrow inductionHypothesis =>
      rw [inductionHypothesis, size]
      omega

/-- Boundaries are where a text can be taken apart. -/
theorem isBoundary_iff {text : List Char} {offset : Nat} :
    isBoundary text offset = true ↔ ∃ front back, text = front ++ back ∧ size front = offset := by
  fun_induction isBoundary text offset with
  | case1 text => exact iff_of_true rfl ⟨[], text, rfl, rfl⟩
  | case2 offset =>
      refine iff_of_false Bool.false_ne_true ?_
      rintro ⟨front, back, whole, reached⟩
      rw [(List.append_eq_nil_iff.mp whole.symm).1] at reached
      cases reached
  | case3 c rest offset inside inductionHypothesis =>
      rw [Bool.and_eq_true, decide_eq_true_eq, inductionHypothesis]
      constructor
      · rintro ⟨narrow, front, back, rfl, reached⟩
        refine ⟨c :: front, back, rfl, ?_⟩
        rw [size, reached]
        exact Nat.add_sub_of_le narrow
      · rintro ⟨front, back, whole, reached⟩
        cases front with
        | nil => exact absurd reached.symm inside
        | cons first front =>
            cases whole
            rw [size] at reached
            exact ⟨Nat.le.intro reached, front, back, rfl, Nat.eq_sub_of_add_eq' reached⟩

theorem isBoundary_size (front back : List Char) :
    isBoundary (front ++ back) (size front) = true :=
  isBoundary_iff.mpr ⟨front, back, rfl, rfl⟩

theorem splitAt_size (front back : List Char) :
    splitAt (size front) (front ++ back) = (front, back) := by
  induction front with
  | nil => rw [size, splitAt, List.nil_append]
  | cons c front inductionHypothesis =>
      have wide := c.utf8Size_pos
      obtain ⟨offset, more⟩ : ∃ offset, size (c :: front) = offset + 1 :=
        Nat.exists_eq_add_one.mpr (by rw [size]; omega)
      have behind : offset + 1 - c.utf8Size = size front := by
        rw [← more, size]
        omega
      rw [more, List.cons_append, splitAt, behind, inductionHypothesis]

section Searches

variable {text : List Char} {offset other : Nat}

theorem boundaryBefore_le (text : List Char) (offset : Nat) :
    boundaryBefore text offset ≤ offset := by
  fun_induction boundaryBefore text offset with
  | case1 => exact Nat.le_refl 0
  | case2 offset here => exact Nat.le_refl (offset + 1)
  | case3 offset across inductionHypothesis => exact Nat.le_succ_of_le inductionHypothesis

theorem isBoundary_boundaryBefore (text : List Char) (offset : Nat) :
    isBoundary text (boundaryBefore text offset) = true := by
  fun_induction boundaryBefore text offset with
  | case1 => rw [isBoundary]
  | case2 offset here => exact here
  | case3 offset across inductionHypothesis => exact inductionHypothesis

/-- Searching back passes no boundary. -/
theorem le_boundaryBefore (here : isBoundary text other = true) (le : other ≤ offset) :
    other ≤ boundaryBefore text offset := by
  fun_induction boundaryBefore text offset with
  | case1 => exact le
  | case2 offset found => exact le
  | case3 offset across inductionHypothesis =>
      have differs : other ≠ offset + 1 := fun same => across (same ▸ here)
      exact inductionHypothesis (by omega)

theorem isBoundary_boundaryBehind (inside : offset ≤ size text) :
    isBoundary text (boundaryBehind text offset) = true := by
  fun_induction boundaryBehind text offset with
  | case1 offset across inductionHypothesis => exact inductionHypothesis across.1
  | case2 offset stopped =>
      by_cases more : offset < size text
      · exact Decidable.not_not.mp fun across => stopped ⟨more, across⟩
      · have atEnd : offset = size text := by omega
        have last := isBoundary_size text []
        rwa [List.append_nil, ← atEnd] at last

/-- Searching on passes no boundary. -/
theorem boundaryBehind_le (here : isBoundary text other = true) (le : offset ≤ other) :
    boundaryBehind text offset ≤ other := by
  fun_induction boundaryBehind text offset with
  | case1 offset across inductionHypothesis =>
      have differs : offset ≠ other := fun same => across.2 (same ▸ here)
      exact inductionHypothesis (by omega)
  | case2 offset stopped => exact le

theorem isBoundary_boundary (inside : offset ≤ size text) :
    isBoundary text (boundary text offset) = true := by
  have found := isBoundary_boundaryBefore text offset
  rw [boundary]
  split
  · exact isBoundary_boundaryBehind inside
  · next before reached => rwa [reached] at found

/-- No boundary up to the offset is behind the cut. -/
theorem le_boundary (here : isBoundary text other = true) (le : other ≤ offset) :
    other ≤ boundary text offset := by
  have bounded := le_boundaryBefore here le
  rw [boundary]
  split
  · next none => omega
  · next before reached => rwa [reached] at bounded

/-- A cut is in front of the offset unless it is at the first boundary. -/
theorem boundary_le (here : isBoundary text other = true) (positive : 0 < other) :
    boundary text offset ≤ offset ∨ boundary text offset ≤ other := by
  have bounded := boundaryBefore_le text offset
  have reaches := @le_boundaryBefore text offset other here
  rw [boundary]
  split
  · exact .inr (boundaryBehind_le here (by omega))
  · exact .inl (by omega)

end Searches

/-! ### One piece -/

/-- Whether a piece has no room for the character that follows it. -/
def Full (room : Nat) (piece following : List Char) : Prop :=
  ∀ c ∈ following.head?, room < size piece + c.utf8Size

/-- Whether a piece is within its room, or as short as a piece can be. -/
def Fits (room : Nat) (piece : List Char) : Prop :=
  size piece ≤ room ∨ piece.length = 1

theorem size_cut (room : Nat) (text : List Char) :
    size (cut room text).1 = boundary text (min room (size text)) := by
  obtain ⟨front, back, whole, reached⟩ :=
    isBoundary_iff.mp (@isBoundary_boundary text (min room (size text)) (Nat.min_le_right ..))
  rw [cut, sizeWithin_eq, ← reached, whole, splitAt_size]

theorem fits_cut {room : Nat} (positive : 0 < room) {text : List Char} (nonempty : text ≠ []) :
    Fits room (cut room text).1 := by
  have reached := size_cut room text
  have whole := cut_append room text
  rcases taken : (cut room text).1 with _ | ⟨c, more⟩
  · exact absurd taken (cut_ne_nil positive nonempty)
  · rw [taken] at reached whole
    have here := isBoundary_size [c] (more ++ (cut room text).2)
    rw [List.singleton_append, ← List.cons_append, whole] at here
    rcases boundary_le here (Nat.lt_of_lt_of_le c.utf8Size_pos (Nat.le_add_right ..))
      with within | first
    · left
      rw [reached]
      exact Nat.le_trans within (Nat.min_le_left ..)
    · right
      rw [← reached, size, size, size] at first
      have bounded := length_le_size more
      rw [List.length_cons]
      omega

theorem full_cut (room : Nat) (text : List Char) :
    Full room (cut room text).1 (cut room text).2 := by
  intro c follows
  have reached := size_cut room text
  have whole := cut_append room text
  obtain ⟨more, behind⟩ := List.head?_eq_some_iff.mp follows
  rw [behind] at whole
  have here := isBoundary_size ((cut room text).1 ++ [c]) more
  have all := congrArg size whole
  rw [List.append_assoc, List.singleton_append, whole] at here
  rw [size_append, size] at here all
  rw [size, Nat.add_zero] at here
  by_contra room_left
  have passed := @le_boundary text (min room (size text)) _ here (by omega)
  have wide := c.utf8Size_pos
  omega

/-! ### All pieces -/

theorem of_mem_pieces
    {room : Nat} {positive : 0 < room} {text piece : List Char}
    (member : piece ∈ pieces room positive text) : piece ≠ [] ∧ Fits room piece := by
  fun_induction pieces room positive text with
  | case1 => cases member
  | case2 text nonempty inductionHypothesis =>
      rcases List.mem_cons.mp member with rfl | behind
      · exact ⟨cut_ne_nil positive nonempty, fits_cut positive nonempty⟩
      · exact inductionHypothesis behind

/-- What follows a piece starts with the character that the next piece starts with. -/
theorem Full.of_pieces
    {room share : Nat} {positive : 0 < share} {piece text next : List Char}
    (full : Full room piece text) (follows : next ∈ (pieces share positive text).head?) :
    Full room piece next := by
  rw [pieces] at follows
  split at follows
  · cases follows
  next nonempty =>
  have whole := cut_append share text
  cases follows
  rcases taken : (cut share text).1 with _ | ⟨c, more⟩
  · exact absurd taken (cut_ne_nil positive nonempty)
  · rw [taken] at whole
    rwa [← whole] at full

theorem isChain_pieces (room : Nat) (positive : 0 < room) (text : List Char) :
    (pieces room positive text).IsChain (Full room) := by
  fun_induction pieces room positive text with
  | case1 => exact .nil
  | case2 text nonempty inductionHypothesis =>
      rw [List.isChain_cons]
      exact ⟨fun next follows => (full_cut room text).of_pieces follows, inductionHypothesis⟩

theorem length_pieces_le (room : Nat) (positive : 0 < room) (text : List Char) :
    (pieces room positive text).length ≤ text.length := by
  fun_induction pieces room positive text with
  | case1 => exact Nat.zero_le _
  | case2 text nonempty inductionHypothesis =>
      have shorter := length_cut_lt positive nonempty
      rw [List.length_cons]
      omega

/-! ### The line -/

/-- What a line is divided into: the text of its first segment, and the texts that
stand behind the space of each other one. -/
structure Divides (column : Nat) (line first : String) (others : List String) : Prop where
  joined : first ++ String.join others = line
  short : column = 0 ∨ line.utf8ByteSize ≤ column → others = []
  filled : ∀ text ∈ others, text ≠ ""
  /-- Every cut falls between two characters of the line. -/
  between : ∀ front back, others = front ++ back →
    (first ++ String.join front).rawEndPos.IsValid line
  first_fits : 0 < column → first.utf8ByteSize ≤ column ∨ first.length = 1
  others_fit : ∀ text ∈ others, (" " ++ text).utf8ByteSize ≤ column ∨ text.length = 1
  /-- The first character of the next segment has no room in the one in front. -/
  first_full : ∀ next ∈ others.head?, ∀ c ∈ next.toList.head?,
    column < (first.push c).utf8ByteSize
  others_full : others.IsChain fun text next => ∀ c ∈ next.toList.head?,
    column - 1 < (text.push c).utf8ByteSize
  /-- Cutting comes to an end, since each segment takes a character. -/
  few : others.length + 1 ≤ max 1 line.length

/-- A piece within the room behind a space, or of one character. -/
theorem Fits.behind_space {column : Nat} (positive : 0 < column) {piece : List Char}
    (nonempty : piece ≠ []) (fits : Fits (max (column - 1) 1) piece) :
    (" " ++ String.ofList piece).utf8ByteSize ≤ column ∨ (String.ofList piece).length = 1 := by
  have some_characters := List.length_pos_iff.mpr nonempty
  have bounded := length_le_size piece
  have space : (" " : String).utf8ByteSize = 1 := rfl
  rw [String.utf8ByteSize_append, space, utf8ByteSize_ofList, String.length_ofList]
  rcases fits with within | single
  · omega
  · exact .inr single

theorem Full.push {room share : Nat} (le : share ≤ room) {piece next : List Char}
    (full : Full room piece next) :
    ∀ c ∈ (String.ofList next).toList.head?,
      share < ((String.ofList piece).push c).utf8ByteSize := by
  intro c follows
  rw [String.toList_ofList] at follows
  have beyond := full c follows
  rw [String.utf8ByteSize_push, utf8ByteSize_ofList]
  omega

theorem join_ofList (texts : List (List Char)) :
    String.join (texts.map String.ofList) = String.ofList texts.flatten := by
  induction texts with
  | nil => rfl
  | cons text texts inductionHypothesis =>
      rw [List.map_cons, String.join_cons, inductionHypothesis, List.flatten_cons,
        String.ofList_append]

theorem isValid_of_joined {line first : String} {others front back : List String}
    (joined : first ++ String.join others = line) (split : others = front ++ back) :
    (first ++ String.join front).rawEndPos.IsValid line := by
  rw [String.Pos.Raw.isValid_iff_exists_append]
  refine ⟨first ++ String.join front, String.join back, ?_, rfl⟩
  rw [← joined, split, String.join_append, String.append_assoc]

theorem divides_whole {column : Nat} {line : String}
    (short : column = 0 ∨ line.utf8ByteSize ≤ column) : Divides column line line [] where
  joined := String.append_empty
  short := fun _ => rfl
  filled := fun text absent => by cases absent
  between := fun front back split => isValid_of_joined String.append_empty split
  first_fits := fun positive => .inl (short.resolve_left (Nat.ne_of_gt positive))
  others_fit := fun text absent => by cases absent
  first_full := fun next absent => by cases absent
  others_full := .nil
  few := Nat.le_max_left ..

theorem divides_cut {column : Nat} {line : List Char} (positive : 0 < column)
    (long : column < size line) :
    Divides column (String.ofList line) (String.ofList (cut column line).1)
      ((pieces (max (column - 1) 1) (Nat.le_max_right ..) (cut column line).2).map
        String.ofList) := by
  have nonempty : line ≠ [] := fun empty => by
    rw [empty] at long
    exact absurd long (Nat.not_lt_zero column)
  have joined : String.ofList (cut column line).1
      ++ String.join ((pieces (max (column - 1) 1) (Nat.le_max_right ..)
        (cut column line).2).map String.ofList) = String.ofList line := by
    rw [join_ofList, flatten_pieces, ← String.ofList_append, cut_append]
  constructor
  case joined => exact joined
  case between => exact fun front back split => isValid_of_joined joined split
  case short =>
    rw [utf8ByteSize_ofList]
    intro short
    omega
  case filled =>
    rintro text listed empty
    obtain ⟨piece, member, rfl⟩ := List.mem_map.mp listed
    exact (of_mem_pieces member).1 (String.ofList_eq_empty_iff.mp empty)
  case first_fits =>
    intro _
    rw [utf8ByteSize_ofList, String.length_ofList]
    exact fits_cut positive nonempty
  case others_fit =>
    rintro text listed
    obtain ⟨piece, member, rfl⟩ := List.mem_map.mp listed
    obtain ⟨filled, fits⟩ := of_mem_pieces member
    exact fits.behind_space positive filled
  case first_full =>
    rintro next follows
    rw [List.head?_map] at follows
    obtain ⟨piece, leads, rfl⟩ := Option.map_eq_some_iff.mp follows
    exact ((full_cut column line).of_pieces leads).push (Nat.le_refl column)
  case others_full =>
    rw [List.isChain_map]
    exact (isChain_pieces _ _ _).imp fun piece next full => full.push (Nat.le_max_left ..)
  case few =>
    have fewer := length_pieces_le (max (column - 1) 1) (Nat.le_max_right ..) (cut column line).2
    have shorter := length_cut_lt positive nonempty
    rw [List.length_map, String.length_ofList]
    omega

/-- Every line is divided so: into its own characters in their order, within the
column as far as single characters are, and with each segment but the last full. -/
theorem fold_divides (column : Nat) (line : String) :
    ∃ first others, fold column line = first :: others.map (" " ++ ·)
      ∧ Divides column line first others := by
  have bytes : line.utf8ByteSize = size line.toList := by
    rw [← utf8ByteSize_ofList, String.ofList_toList]
  by_cases short : column = 0 ∨ line.utf8ByteSize ≤ column
  · refine ⟨line, [], ?_, divides_whole short⟩
    rw [fold, segments, if_pos (bytes ▸ short), List.map_singleton, String.ofList_toList]
    rfl
  · have divides := @divides_cut column line.toList (by omega) (by omega)
    rw [String.ofList_toList] at divides
    refine ⟨_, _, ?_, divides⟩
    rw [fold, segments, if_neg (bytes ▸ short), List.map_cons, List.map_map, List.map_map]
    congr 1
    exact List.map_congr_left fun piece _ => @String.ofList_append [' '] piece

/-- Characters of one to four bytes: the last two are wider than the room for them. -/
example : fold 3 "aé€😀" = ["aé", " €", " 😀"] := by decide +kernel

end DirectoryInterchange.Folding
