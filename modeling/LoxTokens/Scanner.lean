import LoxTokens.Gap
import LoxTokens.Lexeme

/-!
# Scanners

A scanner holds the source text that is left and the position where it starts.  Each pull skips a
gap and yields the next item, a token or a diagnostic.  At the end of the source one token of kind
`eof` is yielded, and nothing after it.
-/

namespace LoxTokens

/-- What one pull yields. -/
inductive Item where
  /-- A token. -/
  | token (value : Token)
  /-- A report on text that is not a token. -/
  | diagnostic (value : Diagnostic)
  deriving DecidableEq

namespace Item

/-- The token of an item, if it is one. -/
def token? : Item → Option Token
  | token value => some value
  | diagnostic _ => none

/-- The diagnostic of an item, if it is one. -/
def diagnostic? : Item → Option Diagnostic
  | token _ => none
  | diagnostic value => some value

end Item

namespace Piece

/--
The item of a piece that lies between two positions.  A token belongs to the line on which it
starts, an error to the line on which it is detected, after the text it concerns.
-/
def item (piece : Piece) (start stop : Position) : Item :=
  match piece.verdict with
  | .token kind literal =>
      .token
        { kind
          lexeme := String.ofList piece.text
          literal
          line := start.line
          start := start.offset }
  | .error error => .diagnostic { line := stop.line, error }

end Piece

/-- The state of a scan. -/
structure Scanner where
  /-- The source text left. -/
  rest : List Char
  /-- Where the text left starts. -/
  position : Position
  /-- What is recognised. -/
  options : Options
  /-- Whether the end of the source was already yielded. -/
  finished : Bool
  deriving DecidableEq

namespace Scanner

/-- A scanner at the beginning of a source text. -/
def ofSource (source : List Char) (options : Options) : Scanner :=
  { rest := source, position := .origin, options, finished := false }

/-- Pull the next item, if the end of the source was not yet yielded. -/
def next? (scanner : Scanner) : Option (Item × Scanner) :=
  if scanner.finished then none
  else
    match skipGap false scanner.position scanner.rest with
    | (position, []) =>
        some
          (.token (Token.eof position.line position.offset),
            { scanner with rest := [], position, finished := true })
    | (start, first :: rest) =>
        let piece := readPiece scanner.options first rest
        let stop := start.advance piece.text
        some (piece.item start stop, { scanner with rest := piece.rest, position := stop })

/-- Bound on the number of items that can still be pulled. -/
def itemBound (scanner : Scanner) : Nat := if scanner.finished then 0 else scanner.rest.length + 1

/-- Every pull lowers the bound on the number of items left. -/
theorem itemBound_lt_of_next? {scanner after : Scanner} {item : Item}
    (pulled : scanner.next? = some (item, after)) : after.itemBound < scanner.itemBound := by
  have gap := length_skipGap_le false scanner.position scanner.rest
  unfold next? at pulled
  split at pulled
  · contradiction
  · rename_i unfinished
    split at pulled
    · simp only [Option.some.injEq, Prod.mk.injEq] at pulled
      obtain ⟨-, rfl⟩ := pulled
      simp [itemBound, unfinished]
    · rename_i start first rest skipped
      have piece := length_readPiece_rest_lt scanner.options first rest
      have left : (first :: rest).length ≤ scanner.rest.length := by
        rw [skipped] at gap
        exact gap
      simp only [Option.some.injEq, Prod.mk.injEq] at pulled
      obtain ⟨-, rfl⟩ := pulled
      simp only [itemBound, unfinished, if_false, Bool.false_eq_true]
      omega

/-- Pull all items after those already in `pulled`. -/
def pullAll (scanner : Scanner) (pulled : Array Item) : Array Item :=
  match _ : scanner.next? with
  | none => pulled
  | some (item, after) => after.pullAll (pulled.push item)
termination_by scanner.itemBound
decreasing_by exact itemBound_lt_of_next? ‹_›

/-- All items that are left. -/
def items (scanner : Scanner) : List Item := (scanner.pullAll #[]).toList

/-- Pull up to `count` items. -/
def take : (count : Nat) → Scanner → List Item × Scanner
  | 0, scanner => ([], scanner)
  | count + 1, scanner =>
      match scanner.next? with
      | none => ([], scanner)
      | some (item, after) =>
          let (items, last) := after.take count
          (item :: items, last)

private theorem toList_pullAll (scanner : Scanner) (pulled : Array Item) :
    (scanner.pullAll pulled).toList = pulled.toList ++ (scanner.pullAll #[]).toList := by
  generalize bound_eq : scanner.itemBound = bound
  induction bound using Nat.strongRecOn generalizing scanner pulled with
  | ind bound ih =>
      rw [pullAll, pullAll]
      split
      · simp
      · rename_i item after pulledItem
        have smaller := bound_eq ▸ itemBound_lt_of_next? pulledItem
        rw [ih _ smaller after (pulled.push item) rfl, ih _ smaller after (#[].push item) rfl]
        simp

/-- The items left are the next item and the items left after it. -/
theorem items_eq (scanner : Scanner) :
    scanner.items =
      match scanner.next? with
      | none => []
      | some (item, after) => item :: after.items := by
  unfold items
  rw [pullAll]
  split
  · simp_all
  · rename_i item after pulledItem
    rw [toList_pullAll]
    simp [pulledItem]

end Scanner
end LoxTokens
