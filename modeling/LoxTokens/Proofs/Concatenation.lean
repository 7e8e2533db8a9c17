import LoxTokens.Proofs.Pulling
import LoxTokens.Proofs.Shifting

/-!
# Concatenated sources

A newline separates what stands before it from what stands after it.  A source that ends where a
line ends, without an open string, is scanned as if nothing followed, and what follows is scanned as
if it stood alone.
-/

namespace LoxTokens

/-- Where a source ends a line, a newline is left behind every text but an open string. -/
theorem Munches.newline_behind {options : Options} {gap text rest : List Char} {verdict : Verdict}
    (longest : IsLongestPrefix GapText (gap ++ (text ++ rest)) gap)
    (munches : Munches options text verdict rest)
    (closed : verdict ≠ .error .unterminatedString) (ends : EndsLine (gap ++ (text ++ rest))) :
    ['\n'] <:+ rest := by
  have ends_text := endsLine_of_append gap ends
  rcases endsLine_of_append text ends_text with rfl | newline
  · -- Nothing is left, so that the text itself would have to end in a newline.
    rw [List.append_nil] at ends_text
    rcases ends_text with nothing | newline
    · exact (munches.ne_nil nothing).elim
    · cases munches with
      | lexeme _ lexeme =>
          obtain ⟨front, rfl⟩ := newline
          exact (lexeme.last_visible rfl).elim
      | openString => contradiction
      | unexpected =>
          obtain rfl := List.mem_singleton.mp (newline.subset List.mem_cons_self)
          exact (longest.not_gap.1 rfl).elim
  · exact newline

namespace Tiled

variable {options : Options} {source text closing ending : List Char} {tiles others : List Tile}

/-- A closed gap in front of a source joins its first gap. -/
theorem closedGap_append {front : List Char} (closed : ClosedGap front)
    (tiled : Tiled options source tiles closing) :
    ∃ joined last, Tiled options (front ++ source) joined last ∧
      ∀ position, Tile.items position joined last =
        Tile.items (position.advance front) tiles closing := by
  cases tiled with
  | closing gap =>
      refine ⟨[], _, .closing (closed.longest_append gap.longest).accepted, ?_⟩
      intro position
      rw [Tile.items, Tile.items, Position.advance_append]
  | @tile gap text rest _ verdict tiles longest munches tiled =>
      have longest_joined := closed.longest_append longest
      rw [← List.append_assoc] at longest_joined ⊢
      refine ⟨_, _, .tile longest_joined munches tiled, ?_⟩
      intro position
      simp [Tile.items, Tile.item, Tile.source]

/-- A source that ends where a line ends, and has no open string, can be followed by another. -/
theorem append (tiled : Tiled options source tiles closing)
    (later : Tiled options text others ending) (ends : EndsLine source)
    (closed : ∀ tile ∈ tiles, tile.verdict ≠ .error .unterminatedString) :
    ∃ joined last, Tiled options (source ++ text) joined last ∧
      ∀ position, Tile.items position joined last =
        (Tile.items position tiles closing).dropLast ++
          Tile.items (position.advance source) others ending := by
  induction tiled with
  | closing gap => exact closedGap_append (gap.closedGap ends) later
  | @tile gap front rest closing verdict tiles longest munches tiled ih =>
      obtain ⟨front_closed, tiles_closed⟩ := List.forall_mem_cons.mp closed
      have newline := munches.newline_behind longest front_closed ends
      obtain ⟨joined, last, again, items_eq⟩ := ih (.inr newline) tiles_closed
      have shows := showsNoMore_append newline text
      have gap_closed := longest.closedGap (List.append_ne_nil_of_left_ne_nil munches.ne_nil rest)
      have gap_longest := gap_closed.longest_of_shows shows munches.ne_nil longest
      have tiled_again := Tiled.tile gap_longest (munches.of_shows shows front_closed) again
      refine ⟨_, last, by simpa using tiled_again, ?_⟩
      intro position
      have nonempty := Tile.items_ne_nil (position.advance (gap ++ front)) tiles closing
      rw [Tile.items, items_eq, Tile.items, Tile.source, List.dropLast_cons_of_ne_nil nonempty]
      simp

end Tiled

namespace Scanner

/-- A closed gap in front of a source shifts its items, and does nothing else. -/
theorem items_closedGap_append (options : Options) {front : List Char} (closed : ClosedGap front)
    (source : List Char) :
    (ofSource (front ++ source) options).items =
      (ofSource source options).items.map (Item.shift (byteSize front) (front.count '\n')) := by
  obtain ⟨tiles, closing, tiled⟩ := exists_tiled options source
  obtain ⟨joined, last, again, items_eq⟩ := tiled.closedGap_append closed
  rw [items_ofSource again, items_eq, Position.advance_eq_shift, Tile.items_shift,
    items_ofSource tiled]

/--
A newline is a place to start afresh.  When a source ends where a line ends and has no open string,
its items but for its end are followed by those of the text behind it, which are shifted by the
bytes and newlines of the source.  While all newlines fit the counter, no shifted line wraps around.
-/
theorem items_append_endsLine (options : Options) {front back : List Char} (ends : EndsLine front)
    (closed : ∀ line, .diagnostic { line, error := .unterminatedString } ∉
      (ofSource front options).items)
    (bounded : (front ++ back).count '\n' ≤ UInt32.size - 2) :
    ∃ earlier line,
      (ofSource front options).items = earlier ++ [.token (Token.eof line (byteSize front))] ∧
        (ofSource (front ++ back) options).items =
          earlier ++
            (ofSource back options).items.map (Item.shift (byteSize front) (front.count '\n')) ∧
        ∀ item ∈ (ofSource back options).items,
          (item.shift (byteSize front) (front.count '\n')).line.toNat =
            item.line.toNat + front.count '\n' := by
  obtain ⟨tiles, closing, tiled⟩ := exists_tiled options front
  obtain ⟨others, ending, later⟩ := exists_tiled options back
  have front_items := items_ofSource tiled
  have tiles_closed : ∀ tile ∈ tiles, tile.verdict ≠ .error .unterminatedString := by
    intro tile member isOpen
    obtain ⟨line, reported⟩ := Tile.exists_diagnostic .origin closing member isOpen
    exact closed line (front_items ▸ reported)
  obtain ⟨joined, last, again, items_eq⟩ := tiled.append later ends tiles_closed
  obtain ⟨earlier, earlier_eq⟩ := Tile.items_end .origin tiles closing
  rw [← tiled.source_eq, offset_origin] at earlier_eq
  refine ⟨earlier, _, front_items.trans earlier_eq, ?_, ?_⟩
  · rw [items_ofSource again, items_eq, earlier_eq, List.dropLast_concat,
      Position.advance_eq_shift, Tile.items_shift, items_ofSource later]
  · exact fun item member => line_shift_toNat bounded member

theorem items_append_endsLine_trailingDot :
    EndsLine "12. // a\n".toList ∧
      (∀ line, .diagnostic { line, error := .unterminatedString } ∉
        (ofSource "12. // a\n".toList {}).items) ∧
      ("12. // a\n".toList ++ "5/@\n\"b".toList).count '\n' ≤ UInt32.size - 2 ∧
      ∃ earlier line,
        (ofSource "12. // a\n".toList {}).items =
            earlier ++ [.token (Token.eof line (byteSize "12. // a\n".toList))] ∧
          (ofSource ("12. // a\n".toList ++ "5/@\n\"b".toList) {}).items =
            earlier ++
              (ofSource "5/@\n\"b".toList {}).items.map
                (Item.shift (byteSize "12. // a\n".toList) ("12. // a\n".toList.count '\n')) ∧
          ∀ item ∈ (ofSource "5/@\n\"b".toList {}).items,
            (item.shift (byteSize "12. // a\n".toList)
                ("12. // a\n".toList.count '\n')).line.toNat =
              item.line.toNat + "12. // a\n".toList.count '\n' := by
  have ends : EndsLine "12. // a\n".toList := .inr ⟨"12. // a".toList, by decide⟩
  have closed : ∀ line, .diagnostic { line, error := .unterminatedString } ∉
      (ofSource "12. // a\n".toList {}).items := by
    have no_errors :
        ((ofSource "12. // a\n".toList {}).take 3).1.filterMap Item.diagnostic? = [] := by
      decide +kernel
    intro line member
    rw [items_of_take 3 (by decide +kernel)] at member
    have reported := mem_diagnostics.mpr member
    rw [no_errors] at reported
    exact List.not_mem_nil reported
  exact ⟨ends, closed, by decide, items_append_endsLine {} ends closed (by decide)⟩

end Scanner
end LoxTokens
