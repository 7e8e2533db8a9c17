import LoxTokens.Pattern.Escape

/-!
# Sets in brackets

A set in brackets lists characters, ranges, classes and further sets in brackets.  Two lists can be
combined by an operation between them; operations bind equally and from the left.
-/

namespace LoxTokens
namespace Pattern
namespace Bracket

/-- The items of a list, the last one first, and the stretch that they take. -/
structure Items where
  /-- The stretch. -/
  span : Span
  /-- The items. -/
  reversed : List Bracket

namespace Items

/-- The empty list at a cursor. -/
def start (cursor : Cursor) : Items := { span := cursor.here, reversed := [] }

/-- Add an item at the end. -/
def push (items : Items) (item : Bracket) : Items :=
  let start := if items.reversed.isEmpty then item.span.start else items.span.start
  { span := { start, stop := item.span.stop }, reversed := item :: items.reversed }

/-- A list as a set. -/
def toBracket (items : Items) : Bracket :=
  match items.reversed with
  | [] => .empty items.span
  | [item] => item
  | _ => .union items.span items.reversed.reverse

end Items

/-- What was read before the innermost list began. -/
inductive Frame where
  /-- An opening bracket, after some items of an outer list. -/
  | opened (outer : Items) (span : Span) (negated : Bool)
  /-- The left side of an operation. -/
  | operand (operation : SetOperation) (left : Bracket)

/-- The classes of ASCII characters that have a name. -/
def asciiClasses : List (String × CodePoints) :=
  [("alnum", ⟨[(0x30, 0x39), (0x41, 0x5A), (0x61, 0x7A)]⟩),
    ("alpha", ⟨[(0x41, 0x5A), (0x61, 0x7A)]⟩),
    ("ascii", ⟨[(0x00, 0x7F)]⟩),
    ("blank", ⟨[(0x09, 0x09), (0x20, 0x20)]⟩),
    ("cntrl", ⟨[(0x00, 0x1F), (0x7F, 0x7F)]⟩),
    ("digit", ⟨[(0x30, 0x39)]⟩),
    ("graph", ⟨[(0x21, 0x7E)]⟩),
    ("lower", ⟨[(0x61, 0x7A)]⟩),
    ("print", ⟨[(0x20, 0x7E)]⟩),
    ("punct", ⟨[(0x21, 0x2F), (0x3A, 0x40), (0x5B, 0x60), (0x7B, 0x7E)]⟩),
    ("space", ⟨[(0x09, 0x0D), (0x20, 0x20)]⟩),
    ("upper", ⟨[(0x41, 0x5A)]⟩),
    ("word", ⟨[(0x30, 0x39), (0x41, 0x5A), (0x5F, 0x5F), (0x61, 0x7A)]⟩),
    ("xdigit", ⟨[(0x30, 0x39), (0x41, 0x46), (0x61, 0x66)]⟩)]

/-- Read the name of a class of ASCII characters, if there is one at a bracket. -/
def readAscii? (bracket : Cursor) : Option (Bracket × Cursor) := do
  let cursor ← bracket.stepWord? "[:"
  let negated := cursor.next? == some '^'
  let cursor := if negated then cursor.step else cursor
  let (name, cursor) := Cursor.collect (· != ':') Cursor.step cursor.rest cursor
  let cursor ← cursor.stepWord? ":]"
  let members ← asciiClasses.lookup (String.ofList name)
  return (.ascii (cursor.spanFrom bracket.point) members negated, cursor)

/--
Read hyphens that stand for themselves at the front of a set that was opened at `start`; `bound` is
at least as long as the text that follows.
-/
def readHyphens (start : Point) :
    (bound : List Char) → Items → Cursor → Except Blemish (Items × Cursor)
  | [], items, cursor => .ok (items, cursor)
  | _ :: bound, items, cursor =>
      if cursor.next? == some '-' then
        let item := Bracket.literal { span := cursor.nextSpan, character := '-', isByte := false }
        if cursor.stepSpace.next?.isNone then
          .error (blemishAt .classUnclosed (.emptyAt start))
        else readHyphens start bound (items.push item) cursor.stepSpace
      else .ok (items, cursor)

/-- Read an opening bracket, and what can only stand just behind it. -/
def readOpening (outer : Items) (bracket : Cursor) :
    Except Blemish ((Frame × Items) × Cursor) := do
  let start := bracket.point
  let unclosed (cursor : Cursor) : Blemish := blemishAt .classUnclosed (cursor.spanFrom start)
  let cursor := bracket.stepSpace
  if cursor.next?.isNone then throw (unclosed cursor)
  let negated := cursor.next? == some '^'
  let cursor := if negated then cursor.stepSpace else cursor
  if cursor.next?.isNone then throw (unclosed cursor)
  let (items, cursor) ← readHyphens start cursor.rest (.start cursor) cursor
  if items.reversed.isEmpty && cursor.next? == some ']' then
    let item := Bracket.literal { span := cursor.nextSpan, character := ']', isByte := false }
    let cursor := cursor.stepSpace
    if cursor.next?.isNone then throw (unclosed cursor)
    return ((.opened outer (cursor.spanFrom start) negated, items.push item), cursor)
  else return ((.opened outer (cursor.spanFrom start) negated, items), cursor)

/-- The blemish of a set without a closing bracket: the innermost opening one shows it. -/
def unclosed (here : Span) : List Frame → Blemish
  | [] => blemishAt .classUnclosed here
  | .opened _ span _ :: _ => blemishAt .classUnclosed span
  | .operand _ _ :: frames => unclosed here frames

/-- Read an escape or a single character. -/
def readPrimitive (cursor : Cursor) : Except Blemish (Primitive × Cursor) :=
  match cursor.next? with
  | some '\\' => Escape.read cursor
  | some character =>
      .ok (.literal { span := cursor.nextSpan, character, isByte := false }, cursor.step)
  | none => .error (blemishAt .escapeUnexpectedEnd cursor.here)

/-- Read a character, a class or a range. -/
def readItem (frames : List Frame) (cursor : Cursor) : Except Blemish (Bracket × Cursor) := do
  let (first, cursor) ← readPrimitive cursor
  let cursor := cursor.skipSpace
  let second := cursor.secondCounting?
  if cursor.next?.isNone then throw (unclosed cursor.here frames)
  if cursor.next? != some '-' || second == some ']' || second == some '-' then
    return (← first.toBracket, cursor)
  else
    let cursor := cursor.stepSpace
    if cursor.next?.isNone then throw (unclosed cursor.here frames)
    let (last, cursor) ← readPrimitive cursor
    let span : Span := { start := first.span.start, stop := last.span.stop }
    let low ← first.toLiteral
    let high ← last.toLiteral
    if low.character ≤ high.character then return (.range low high, cursor)
    else throw (blemishAt .classRangeInvalid span)

/-- Apply the operation that waits for its right side, if there is one. -/
def applyOperation (frames : List Frame) (right : Bracket) : Bracket × List Frame :=
  match frames with
  | .operand sign left :: frames =>
      let span : Span := { start := left.span.start, stop := right.span.stop }
      (.operation span sign left right, frames)
  | frames => (right, frames)

/-- The operation whose sign stands at a cursor. -/
def operationAt? (cursor : Cursor) : Option SetOperation :=
  match cursor.next?, cursor.second? with
  | some '&', some '&' => some .intersection
  | some '-', some '-' => some .difference
  | some '~', some '~' => some .symmetricDifference
  | _, _ => none

/--
Read the rest of a set in brackets.  Every round reads something, so that `bound`, which is at least
as long as the text that follows, bounds the rounds.
-/
def readFrom :
    (bound : List Char) → List Frame → Items → Cursor → Except Blemish (Expression × Cursor)
  | [], frames, _, cursor => .error (unclosed cursor.here frames)
  | _ :: bound, frames, items, cursor => do
      let cursor := cursor.skipSpace
      match cursor.next? with
      | none => throw (unclosed cursor.here frames)
      | some '[' =>
          match if frames.isEmpty then none else readAscii? cursor with
          | some (item, final) => readFrom bound frames (items.push item) final
          | none =>
              let ((frame, inner), final) ← readOpening items cursor
              readFrom bound (frame :: frames) inner final
      | some ']' =>
          let final := cursor.step
          let (body, frames) := applyOperation frames items.toBracket
          match frames with
          | .opened outer span negated :: frames =>
              let span := final.spanFrom span.start
              if frames.isEmpty then return (.bracketed span body negated, final)
              else readFrom bound frames (outer.push (.nested span body negated)) final
          | frames => throw (unclosed cursor.here frames)
      | some _ =>
          match operationAt? cursor with
          | some sign =>
              let (left, frames) := applyOperation frames items.toBracket
              let final := cursor.step.step
              readFrom bound (.operand sign left :: frames) (.start final) final
          | none =>
              let (item, final) ← readItem frames cursor
              readFrom bound frames (items.push item) final

/-- Read a set in brackets, at its bracket. -/
def read (bracket : Cursor) : Except Blemish (Expression × Cursor) :=
  readFrom bracket.rest [] (.start bracket) bracket

end Bracket
end Pattern
end LoxTokens
