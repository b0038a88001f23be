import DirectoryInterchange.Record.Folding

/-!
The segments of a line put together again are the line.
-/

namespace DirectoryInterchange.Folding

theorem flatten_pieces (room : Nat) (positive : 0 < room) (text : List Char) :
    (pieces room positive text).flatten = text := by
  fun_induction pieces room positive text with
  | case1 => rfl
  | case2 text nonempty inductionHypothesis =>
      rw [List.flatten_cons, inductionHypothesis, cut_append]

/-- The first segment is the start of the line, and every other one stands
behind a space. -/
theorem exists_segments (column : Nat) {line : List Char} (nonempty : line ≠ []) :
    ∃ (first : List Char) (others : List (List Char)),
      segments column line = first :: others.map (' ' :: ·)
      ∧ first ≠ [] ∧ first ++ others.flatten = line := by
  rw [segments]
  split
  · exact ⟨line, [], rfl, nonempty, List.append_nil line⟩
  · next long =>
    refine ⟨(cut column line).1, pieces (max (column - 1) 1) (Nat.le_max_right ..)
      (cut column line).2, rfl, cut_ne_nil (by omega) nonempty, ?_⟩
    rw [flatten_pieces, cut_append]

theorem of_mem_segments
    {column : Nat} {line segment : List Char} (inside : segment ∈ segments column line) {c : Char}
    (member : c ∈ segment) : c = ' ' ∨ c ∈ line := by
  by_cases nonempty : line = []
  · have whole : segments column line = [line] := if_pos (.inr (nonempty ▸ Nat.zero_le column))
    rw [whole, List.mem_singleton] at inside
    exact .inr (inside ▸ member)
  · obtain ⟨first, others, segmented, -, whole⟩ := exists_segments column nonempty
    rw [segmented] at inside
    rw [← whole, List.mem_append, List.mem_flatten]
    rcases List.mem_cons.mp inside with rfl | behind
    · exact .inr (.inl member)
    · obtain ⟨piece, listed, rfl⟩ := List.mem_map.mp behind
      rcases List.mem_cons.mp member with space | found
      · exact .inl space
      · exact .inr (.inr ⟨piece, listed, found⟩)

end DirectoryInterchange.Folding
