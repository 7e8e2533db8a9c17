import LoxTokens.Proofs.LineNumbers

/-!
# Shifted scans

The items of a tiling depend on the place where it starts by offset and line alone: when the place
is shifted, every item is shifted with it.
-/

namespace LoxTokens

namespace Position

/-- A place so many bytes and lines later. -/
def shift (position : Position) (bytes lines : Nat) : Position :=
  { offset := position.offset + bytes, line := position.line + UInt32.ofNat lines }

theorem next_shift (position : Position) (bytes lines : Nat) (character : Char) :
    (position.shift bytes lines).next character =
      (position.next character).shift bytes lines := by
  have offsets := Nat.add_right_comm position.offset bytes character.utf8Size
  by_cases newline : character = '\n'
  · subst newline
    simp [shift, next, offsets, UInt32.add_assoc, UInt32.add_comm 1]
  · simp [shift, next, newline, offsets]

/-- A shift can be made before or after moving over a text. -/
theorem advance_shift (position : Position) (bytes lines : Nat) (text : List Char) :
    (position.shift bytes lines).advance text = (position.advance text).shift bytes lines := by
  induction text generalizing position with
  | nil => rfl
  | cons character text ih => rw [advance_cons, advance_cons, next_shift, ih]

/-- Moving over a text is a shift by its bytes and newlines. -/
theorem advance_eq_shift (position : Position) (text : List Char) :
    position.advance text = position.shift (byteSize text) (text.count '\n') := by
  induction text generalizing position with
  | nil => simp [shift, byteSize]
  | cons character text ih =>
      rw [advance_cons, ih, byteSize_cons]
      by_cases newline : character = '\n'
      · subst newline
        rw [List.count_cons_self]
        simp [shift, next, Nat.add_assoc, UInt32.ofNat_add, UInt32.add_assoc, UInt32.add_comm 1]
      · rw [List.count_cons_of_ne newline]
        simp [shift, next, newline, Nat.add_assoc]

end Position

/-- An item of a source that starts so many bytes and lines later. -/
def Item.shift (bytes lines : Nat) : Item → Item
  | token value =>
      .token
        { value with
          start := value.start + bytes
          line := value.line + UInt32.ofNat lines }
  | diagnostic value => .diagnostic { value with line := value.line + UInt32.ofNat lines }

theorem Item.line_shift (bytes lines : Nat) (item : Item) :
    (item.shift bytes lines).line = item.line + UInt32.ofNat lines := by
  cases item <;> rfl

theorem Verdict.item_shift (verdict : Verdict) (text : List Char) (start : Position)
    (bytes lines : Nat) :
    verdict.item text (start.shift bytes lines) = (verdict.item text start).shift bytes lines := by
  cases verdict with
  | token => rfl
  | error =>
      rw [item, Position.advance_shift]
      rfl

namespace Tile

theorem item_shift (tile : Tile) (position : Position) (bytes lines : Nat) :
    tile.item (position.shift bytes lines) = (tile.item position).shift bytes lines := by
  rw [item, Position.advance_shift, Verdict.item_shift]
  rfl

/-- When the place where tiles start is shifted, every item is. -/
theorem items_shift (position : Position) (bytes lines : Nat) (tiles : List Tile)
    (closing : List Char) :
    items (position.shift bytes lines) tiles closing =
      (items position tiles closing).map (Item.shift bytes lines) := by
  induction tiles generalizing position with
  | nil =>
      rw [items, Position.advance_shift]
      rfl
  | cons tile tiles ih =>
      rw [items, item_shift, Position.advance_shift, ih]
      rfl

end Tile

namespace Scanner

/-- A line of a scan can be raised by newlines in front as long as the counter has room. -/
theorem line_shift_toNat {options : Options} {front source : List Char} {item : Item}
    (bounded : (front ++ source).count '\n' ≤ UInt32.size - 2)
    (member : item ∈ (ofSource source options).items) :
    (item.shift (byteSize front) (front.count '\n')).line.toNat =
      item.line.toNat + front.count '\n' := by
  obtain ⟨tiles, closing, tiled⟩ := exists_tiled options source
  rw [items_ofSource tiled] at member
  obtain ⟨before, stands, line_eq⟩ := Tile.line_mem_items member
  rw [← tiled.source_eq] at stands
  have fewer := stands.sublist.count_le '\n'
  rw [List.count_append] at bounded
  have size : 2 ≤ UInt32.size := by decide
  have line_toNat : item.line.toNat = 1 + before.count '\n' := by
    rw [line_eq]
    exact line_origin (by omega) stands
  have lines_toNat : (UInt32.ofNat (front.count '\n')).toNat = front.count '\n' :=
    UInt32.toNat_ofNat_of_lt' (by omega)
  rw [Item.line_shift, UInt32.toNat_add, lines_toNat]
  exact Nat.mod_eq_of_lt (show _ < UInt32.size by omega)

end Scanner
end LoxTokens
