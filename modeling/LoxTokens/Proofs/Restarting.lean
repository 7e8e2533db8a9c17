import LoxTokens.Proofs.CursorSafety
import LoxTokens.Proofs.Shifting

/-!
# Restarted scans

Between two items nothing but the place of the cursor is kept of what was scanned.  A scan goes on
from there as a fresh scan of the text behind its cursor would, with all items shifted to that
place.  A scan that keeps its source whole, and knows it by byte offsets, does the same.
-/

namespace LoxTokens

namespace Scanner

/-! ## Shifted scanners -/

/-- The same scanner at a place so many bytes and lines later. -/
def shift (bytes lines : Nat) (scanner : Scanner) : Scanner :=
  { scanner with position := scanner.position.shift bytes lines }

theorem moveOver_shift (scanner : Scanner) (bytes lines : Nat) (text rest : List Char) :
    (scanner.shift bytes lines).moveOver text rest =
      (scanner.moveOver text rest).shift bytes lines := by
  simp only [moveOver, shift, Position.advance_shift]

/-- A pull of a shifted scanner yields the shifted item, and leads to the shifted place. -/
theorem next?_shift (scanner : Scanner) (bytes lines : Nat) :
    (scanner.shift bytes lines).next? =
      scanner.next?.map (Prod.map (Item.shift bytes lines) (shift bytes lines)) := by
  cases finished : scanner.finished with
  | true =>
      have shifted_finished : (scanner.shift bytes lines).finished := finished
      rw [next?_eq_none_iff.mpr finished, next?_eq_none_iff.mpr shifted_finished]
      rfl
  | false =>
      have unfinished : (scanner.shift bytes lines).finished = false := finished
      rcases gap_or_munches scanner.options scanner.rest with
        gap | ⟨gap, text, rest, verdict, rest_eq, longest, munches⟩
      · have shifted_gap : GapText (scanner.shift bytes lines).rest := gap
        rw [next?_gap finished gap, next?_gap unfinished shifted_gap, moveOver_shift]
        simp only [shift, Position.advance_shift]
        rfl
      · -- The grammar does not know places, so that both scanners take the same gap and text.
        have pulled := next?_munches finished rest_eq longest munches
        have shifted_pulled :=
          @next?_munches (scanner.shift bytes lines) unfinished _ _ _ _ rest_eq longest munches
        rw [pulled, shifted_pulled, moveOver_shift]
        simp only [shift, Position.advance_shift, Verdict.item_shift]
        rfl

/-- Pulls of a shifted scanner yield the shifted items. -/
theorem take_shift (scanner : Scanner) (bytes lines count : Nat) :
    (scanner.shift bytes lines).take count =
      Prod.map (List.map (Item.shift bytes lines)) (shift bytes lines) (scanner.take count) := by
  induction count generalizing scanner with
  | zero => rfl
  | succ count ih =>
      rw [take, take, next?_shift]
      cases scanner.next? with
      | none => rfl
      | some pull =>
          obtain ⟨item, after⟩ := pull
          simp [ih]

/-- All items that are left to a shifted scanner are shifted. -/
theorem items_shift (scanner : Scanner) (bytes lines : Nat) :
    (scanner.shift bytes lines).items = scanner.items.map (Item.shift bytes lines) := by
  cases finished : scanner.finished with
  | true =>
      have shifted_finished : (scanner.shift bytes lines).finished := finished
      rw [items_finished finished, items_finished shifted_finished, List.map_nil]
  | false =>
      obtain ⟨tiles, closing, tiled⟩ := exists_tiled scanner.options scanner.rest
      rw [items_tiled tiled finished rfl,
        @items_tiled (scanner.shift bytes lines) _ _ _ tiled finished rfl]
      exact Tile.items_shift scanner.position bytes lines tiles closing

/-- A scanner between two items is a fresh one of the text left, shifted over the text read. -/
theorem HasRead.eq_shift {source before : List Char} {options : Options} {scanner : Scanner}
    (read : HasRead source options before scanner) (unfinished : scanner.finished = false) :
    scanner =
      (Scanner.ofSource scanner.rest options).shift (byteSize before) (before.count '\n') := by
  have position_eq := read.position_eq
  rw [Position.advance_eq_shift] at position_eq
  obtain ⟨rest, position, scanner_options, finished⟩ := scanner
  obtain rfl : scanner_options = options := read.options_eq
  obtain rfl : finished = false := unfinished
  exact congrArg (Scanner.mk rest · scanner_options false) position_eq

end Scanner

/-! ## Scans by byte offsets -/

namespace ByteScanner

theorem Follows.ofSource (source : List Char) (options : Options) :
    (ofSource (String.ofList source) options).Follows (.ofSource source options) where
  stands := ⟨[], [], rfl, rfl, rfl⟩
  position_eq := rfl
  options_eq := rfl
  finished_eq := rfl

/--
However often two scans by byte offsets are pulled, of whatever sources, both have results.  The one
that is ahead yields the items of the other, shifted, and stands at the shifted place.
-/
def GoesOnLike (ahead other : ByteScanner) (bytes lines : Nat) : Prop :=
  ∀ count, ∃ items ahead_after other_after,
    Does (pulls count) other items other_after ∧
      Does (pulls count) ahead (items.map (Item.shift bytes lines)) ahead_after ∧
      ahead_after.position = other_after.position.shift bytes lines ∧
      ahead_after.finished = other_after.finished

/-- Scans by byte offsets are shifted as the scans by characters that they follow. -/
theorem Follows.goesOnLike {ahead other : ByteScanner} {scanner : Scanner} {bytes lines : Nat}
    (ahead_follows : Follows ahead (scanner.shift bytes lines)) (follows : Follows other scanner) :
    GoesOnLike ahead other bytes lines := by
  intro count
  obtain ⟨other_after, pulled, other_follows⟩ := follows.pulls count
  obtain ⟨ahead_after, ahead_pulled, ahead_follows⟩ := ahead_follows.pulls count
  rw [Scanner.take_shift] at ahead_pulled ahead_follows
  refine ⟨_, ahead_after, other_after, pulled, ahead_pulled, ?_, ?_⟩
  · rw [ahead_follows.position_eq, other_follows.position_eq]
    rfl
  · rw [ahead_follows.finished_eq, other_follows.finished_eq]
    rfl

end ByteScanner

/-! ## Restarts -/

/--
A scan that stands between two items goes on as a fresh scan of the text left would.  The byte
offset of the scan is added to the start of each token, and the number of lines before the line of
the scan to the line of each token and diagnostic.
-/
structure Restarts (source : List Char) (options : Options) (count : Nat) (scanner : Scanner) :
    Prop where
  /-- The byte offset and the line are those of the place behind the text read. -/
  place : ∃ before, source = before ++ scanner.rest ∧
    scanner.position.offset = byteSize before ∧
      scanner.position.line.toNat = 1 + before.count '\n'
  /-- The text left is the slice of the source from the byte offset on. -/
  slice_eq : ByteScanner.textFrom? (String.ofList source) scanner.position.offset =
    some scanner.rest
  /-- The items left are those of a fresh scan. -/
  items_eq : scanner.items =
    (Scanner.ofSource scanner.rest options).items.map
      (Item.shift scanner.position.offset (scanner.position.line.toNat - 1))
  /-- However often both scans are pulled, they stay at corresponding places. -/
  take_eq : ∀ more, scanner.take more =
    (((Scanner.ofSource scanner.rest options).take more).1.map
        (Item.shift scanner.position.offset (scanner.position.line.toNat - 1)),
      ((Scanner.ofSource scanner.rest options).take more).2.shift
        scanner.position.offset (scanner.position.line.toNat - 1))
  /-- No line that is raised wraps around. -/
  lines : ∀ item ∈ (Scanner.ofSource scanner.rest options).items,
    (item.shift scanner.position.offset (scanner.position.line.toNat - 1)).line.toNat =
      item.line.toNat + (scanner.position.line.toNat - 1)
  /-- A scan that keeps its source whole goes on from the same place like one of the slice. -/
  byOffsets : ∃ items reached,
    ByteScanner.Does (ByteScanner.pulls count) (.ofSource (String.ofList source) options) items
        reached ∧
      reached.position = scanner.position ∧
      reached.GoesOnLike (.ofSource (String.ofList scanner.rest) options) scanner.position.offset
        (scanner.position.line.toNat - 1)

namespace Scanner

/--
Restart at any boundary of items.  However many items were pulled, as long as the end of the source
is not among them, the scan goes on as a fresh scan of the text left.
-/
theorem restarts_take (source : List Char) (options : Options) (count : Nat)
    (bounded : source.count '\n' ≤ UInt32.size - 2)
    (unfinished : ((ofSource source options).take count).2.finished = false) :
    Restarts source options count ((ofSource source options).take count).2 := by
  obtain ⟨before, read⟩ := (HasRead.ofSource source options).take count
  obtain ⟨reached, does, follows⟩ := (ByteScanner.Follows.ofSource source options).pulls count
  generalize ((ofSource source options).take count).2 = scanner at *
  rw [List.nil_append] at read
  have source_eq := read.source_eq
  have scanner_eq := read.eq_shift unfinished
  have offset_eq : scanner.position.offset = byteSize before := by
    rw [read.position_eq, offset_origin]
  have line_eq : scanner.position.line.toNat = 1 + before.count '\n' := by
    rw [read.position_eq, line_origin bounded ⟨_, source_eq.symm⟩]
  have lines_eq : scanner.position.line.toNat - 1 = before.count '\n' := by
    rw [line_eq, Nat.add_sub_cancel_left]
  constructor
  case place => exact ⟨before, source_eq, offset_eq, line_eq⟩
  case slice_eq =>
    rw [offset_eq]
    exact ByteScanner.textFrom?_eq (congrArg String.ofList source_eq)
  case items_eq =>
    rw [offset_eq, lines_eq, ← items_shift, ← scanner_eq]
  case take_eq =>
    intro more
    have shifted := take_shift (ofSource scanner.rest options) (byteSize before)
      (before.count '\n') more
    rw [← scanner_eq] at shifted
    rw [offset_eq, lines_eq]
    exact shifted
  case lines =>
    rw [offset_eq, lines_eq]
    exact fun item member => line_shift_toNat (source_eq ▸ bounded) member
  case byOffsets =>
    rw [offset_eq, lines_eq]
    refine ⟨_, reached, does, follows.position_eq, ?_⟩
    rw [scanner_eq] at follows
    exact follows.goesOnLike (ByteScanner.Follows.ofSource scanner.rest options)

theorem restarts_take_openString :
    "\"a\né\" // b\n1.5 @\n \"open\n".toList.count '\n' ≤ UInt32.size - 2 ∧
      ((ofSource "\"a\né\" // b\n1.5 @\n \"open\n".toList {}).take 2).2.finished = false ∧
      Restarts "\"a\né\" // b\n1.5 @\n \"open\n".toList {} 2
        ((ofSource "\"a\né\" // b\n1.5 @\n \"open\n".toList {}).take 2).2 :=
  ⟨by decide, by decide +kernel, restarts_take _ _ 2 (by decide) (by decide +kernel)⟩

end Scanner
end LoxTokens
