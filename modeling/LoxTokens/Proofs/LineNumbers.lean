import LoxTokens.Proofs.Tiling

/-!
# Line numbers

While the newlines of a source are few enough for a machine word, the line of each place is exact.
A token is on the line where it starts, and an error is on the line where its text ends.  Only an
open string runs over newlines, and then to the end of the source.
-/

namespace LoxTokens

/-! ## The line of a place -/

/-- A counter with enough room counts every newline. -/
theorem line_advance {position : Position} {text : List Char}
    (room : position.line.toNat + text.count '\n' < UInt32.size) :
    (position.advance text).line.toNat = position.line.toNat + text.count '\n' := by
  induction text generalizing position with
  | nil => simp
  | cons character text ih =>
      by_cases newline : character = '\n'
      · subst newline
        rw [List.count_cons_self] at room ⊢
        have next_line : (position.next '\n').line.toNat = position.line.toNat + 1 := by
          have added : (position.line + 1).toNat = (position.line.toNat + 1) % UInt32.size :=
            UInt32.toNat_add position.line 1
          rw [Nat.mod_eq_of_lt (by omega)] at added
          simpa [Position.next] using added
        rw [Position.advance_cons, ih (by omega), next_line]
        omega
      · rw [List.count_cons_of_ne newline] at room ⊢
        have next_line : (position.next character).line = position.line := by
          simp [Position.next, newline]
        rw [Position.advance_cons, ih (next_line ▸ room), next_line]

/-- Moving on with enough room lowers no line. -/
theorem line_le_advance {position : Position} {text : List Char}
    (room : position.line.toNat + text.count '\n' < UInt32.size) :
    position.line ≤ (position.advance text).line := by
  rw [UInt32.le_iff_toNat_le, line_advance room]
  omega

/-- A source with few enough newlines leaves room on the counter. -/
theorem room_origin {source : List Char} (bounded : source.count '\n' ≤ UInt32.size - 2) :
    Position.origin.line.toNat + source.count '\n' < UInt32.size := by
  have first_line : Position.origin.line.toNat = 1 := rfl
  have size : 2 ≤ UInt32.size := by decide
  omega

/-- In a source with few enough newlines, the line of every place is exact. -/
theorem line_origin {source front : List Char} (bounded : source.count '\n' ≤ UInt32.size - 2)
    (stands : front <+: source) :
    (Position.origin.advance front).line.toNat = 1 + front.count '\n' := by
  have fewer := stands.sublist.count_le '\n'
  have room := room_origin bounded
  exact line_advance (by omega)

/-! ## The lines of a tiling -/

/-- The line of an item. -/
def Item.line : Item → UInt32
  | token value => value.line
  | diagnostic value => value.line

namespace Tile

variable {tile : Tile} {tiles : List Tile} {position : Position} {closing : List Char}

/-- An item is on the line of a place in its tile. -/
theorem line_item (tile : Tile) (position : Position) :
    ∃ front back, tile.source = front ++ back ∧
      (tile.item position).line = (position.advance front).line := by
  cases item_eq : tile.item position with
  | token token =>
      obtain ⟨kind, literal, -, rfl⟩ := item_token item_eq
      exact ⟨tile.gap, tile.text, rfl, rfl⟩
  | diagnostic diagnostic =>
      obtain ⟨error, -, rfl⟩ := item_diagnostic item_eq
      exact ⟨tile.source, [], (List.append_nil _).symm, rfl⟩

/-- Every item is on the line of some place in the source. -/
theorem line_mem_items {item : Item} (member : item ∈ items position tiles closing) :
    ∃ front, front <+: tiles.flatMap source ++ closing ∧
      item.line = (position.advance front).line := by
  induction tiles generalizing position with
  | nil =>
      obtain rfl := List.mem_singleton.mp member
      exact ⟨closing, List.prefix_rfl, rfl⟩
  | cons tile tiles ih =>
      rw [List.flatMap_cons, List.append_assoc]
      rcases List.mem_cons.mp member with rfl | member
      · obtain ⟨front, back, source_eq, line_eq⟩ := tile.line_item position
        rw [source_eq, List.append_assoc]
        exact ⟨front, List.prefix_append front _, line_eq⟩
      · obtain ⟨front, stands, line_eq⟩ := ih member
        refine ⟨tile.source ++ front, (List.prefix_append_right_inj tile.source).mpr stands, ?_⟩
        rw [line_eq, Position.advance_append]

/-- While the counter has room, the lines of the items do not decrease. -/
theorem pairwise_line
    (room : position.line.toNat + (tiles.flatMap source ++ closing).count '\n' < UInt32.size) :
    (items position tiles closing).Pairwise fun left right => left.line ≤ right.line := by
  induction tiles generalizing position with
  | nil => exact List.pairwise_singleton _ _
  | cons tile tiles ih =>
      rw [List.flatMap_cons, List.append_assoc, List.count_append] at room
      have tile_line : (position.advance tile.source).line.toNat =
          position.line.toNat + tile.source.count '\n' := line_advance (by omega)
      rw [items, List.pairwise_cons]
      refine ⟨?_, ih (by omega)⟩
      intro later member
      obtain ⟨front, back, source_eq, line_eq⟩ := tile.line_item position
      obtain ⟨before, stands, later_eq⟩ := line_mem_items member
      have fewer := stands.sublist.count_le '\n'
      rw [source_eq, List.count_append] at room
      have front_line : (position.advance front).line.toNat =
          position.line.toNat + front.count '\n' := line_advance (by omega)
      -- From the place of the first item, the later one is reached by moving on.
      rw [line_eq, later_eq, source_eq, Position.advance_append, ← Position.advance_append]
      apply line_le_advance
      rw [List.count_append]
      omega

end Tile

/-- Text without blanks has no newline. -/
theorem count_newline_visible {text : List Char}
    (visible : ∀ character ∈ text, ¬ isBlank character) :
    text.count '\n' = 0 :=
  List.count_eq_zero.mpr fun newline => visible '\n' newline rfl

namespace Tiled

variable {options : Options} {source closing : List Char} {tiles front back : List Tile}
  {tile : Tile} {error : LexError}

/-- Only an open string runs over newlines: the text of any other error has none. -/
theorem count_newline_error (tiled : Tiled options source tiles closing)
    (tiles_eq : tiles = front ++ tile :: back) (verdict_eq : tile.verdict = .error error)
    (closed : error ≠ .unterminatedString) : tile.text.count '\n' = 0 := by
  obtain ⟨longest, munches⟩ := tiled.munches tiles_eq
  obtain ⟨gap, text, verdict⟩ := tile
  obtain rfl : verdict = .error error := verdict_eq
  apply count_newline_visible
  generalize back.flatMap Tile.source ++ closing = rest at longest munches
  cases munches with
  | lexeme _ lexeme => exact lexeme.visible_error
  | openString => contradiction
  | unexpected => exact List.forall_mem_singleton.mpr longest.not_gap.1

/-- An open string is the last tile, and nothing is left after it. -/
theorem source_openString (tiled : Tiled options source tiles closing)
    (tiles_eq : tiles = front ++ tile :: back)
    (verdict_eq : tile.verdict = .error .unterminatedString) :
    source = front.flatMap Tile.source ++ tile.source := by
  obtain ⟨-, munches⟩ := tiled.munches tiles_eq
  have source_eq := tiled.source_split tiles_eq
  obtain ⟨gap, text, verdict⟩ := tile
  obtain rfl : verdict = .error .unterminatedString := verdict_eq
  rw [munches.rest_openString] at source_eq
  simpa [Tile.source] using source_eq

end Tiled

/-! ## Exact lines -/

/--
The lines of a scan are exact.  A token is on the line where it starts, and so is an error, but for
an open string, which is on the last line of the source, like its end.
-/
structure CountsLines (source : List Char) (options : Options) (tiles : List Tile)
    (closing : List Char) : Prop where
  /-- The tiles are those of the grammar. -/
  tiled : Tiled options source tiles closing
  /-- Each tile makes one item, and the closing gap is followed by the end of the source. -/
  items_eq : (Scanner.ofSource source options).items = Tile.items .origin tiles closing
  /-- Tokens count the newlines before their start. -/
  tokens : ∀ token, .token token ∈ (Scanner.ofSource source options).items →
    ∃ before after, source = before ++ after ∧ byteSize before = token.start ∧
      token.line.toNat = 1 + before.count '\n'
  /-- The end of the source is an item, and it counts all newlines. -/
  ends : ∃ earlier line,
    (Scanner.ofSource source options).items =
        earlier ++ [.token (Token.eof line (byteSize source))] ∧
      line.toNat = 1 + source.count '\n'
  /-- Diagnostics count the newlines before their text, or all newlines if a string is open. -/
  diagnostics : ∀ front tile back error, tiles = front ++ tile :: back →
    tile.verdict = .error error →
      ∃ line,
        tile.item (Position.origin.advance (front.flatMap Tile.source)) =
            .diagnostic { line, error } ∧
          (error ≠ .unterminatedString →
            line.toNat = 1 + (front.flatMap Tile.source ++ tile.gap).count '\n') ∧
          (error = .unterminatedString → line.toNat = 1 + source.count '\n')
  /-- Lines do not decrease. -/
  sorted : (Scanner.ofSource source options).items.Pairwise fun left right =>
    left.line ≤ right.line
  /-- However often the scan is pulled, the line that is kept is that of a place in the source. -/
  reaches : ∀ count, ∃ front, front <+: source ∧
    ((Scanner.ofSource source options).take count).2.position = Position.origin.advance front
  /-- The counter never wraps around. -/
  counter : ∀ front, front <+: source →
    (Position.origin.advance front).line.toNat = 1 + front.count '\n'

/-- Exact lines: a source with few enough newlines for the counter has every line counted. -/
theorem exists_countsLines (source : List Char) (options : Options)
    (bounded : source.count '\n' ≤ UInt32.size - 2) :
    ∃ tiles closing, CountsLines source options tiles closing := by
  obtain ⟨tiles, closing, tiled⟩ := exists_tiled options source
  have items_eq := Scanner.items_ofSource tiled
  refine ⟨tiles, closing, tiled, items_eq, ?_, ?_, ?_, ?_, ?_, ?_⟩
  · intro token member
    obtain ⟨before, after, source_eq, start_eq, line_eq⟩ := tiled.token_place (items_eq ▸ member)
    refine ⟨before, _, source_eq, start_eq, ?_⟩
    rw [line_eq, line_origin bounded ⟨_, source_eq.symm⟩]
  · obtain ⟨earlier, ends⟩ := Tile.items_end .origin tiles closing
    rw [← tiled.source_eq, offset_origin] at ends
    exact ⟨earlier, _, items_eq.trans ends, line_origin bounded List.prefix_rfl⟩
  · intro front tile back error tiles_eq verdict_eq
    have stands : front.flatMap Tile.source ++ tile.source <+: source :=
      ⟨back.flatMap Tile.source ++ closing, by simp [tiled.source_split tiles_eq, Tile.source]⟩
    refine ⟨_, Tile.item_error verdict_eq, ?_, ?_⟩
    · intro closed
      have no_newline := tiled.count_newline_error tiles_eq verdict_eq closed
      rw [← Position.advance_append, line_origin bounded stands, Tile.source, ← List.append_assoc,
        List.count_append, no_newline, Nat.add_zero]
    · rintro rfl
      rw [← Position.advance_append, ← tiled.source_openString tiles_eq verdict_eq]
      exact line_origin bounded List.prefix_rfl
  · rw [items_eq]
    apply Tile.pairwise_line
    rw [← tiled.source_eq]
    exact room_origin bounded
  · intro count
    obtain ⟨front, read⟩ := (Scanner.HasRead.ofSource source options).take count
    exact ⟨front, ⟨_, read.source_eq.symm⟩, read.position_eq⟩
  · exact fun front stands => line_origin bounded stands

theorem exists_countsLines_openString :
    "\"a\nb\" @\n1 \"open\n".toList.count '\n' ≤ UInt32.size - 2 ∧
      ∃ tiles closing, CountsLines "\"a\nb\" @\n1 \"open\n".toList {} tiles closing :=
  ⟨by decide, exists_countsLines _ _ (by decide)⟩

end LoxTokens
