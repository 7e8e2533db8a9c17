import LoxTokens.Pattern.Cursor
import LoxTokens.Pattern.Expression

/-!
# Escapes in patterns

A backslash takes away the special meaning of the punctuation that follows it, and gives a special
meaning to some letters.
-/

namespace LoxTokens
namespace Pattern

/-- What an escape, or a single character, stands for. -/
inductive Primitive where
  /-- A character. -/
  | literal (literal : Literal)
  /-- A dot. -/
  | dot (span : Span)
  /-- A condition. -/
  | anchor (span : Span) (anchor : Anchor)
  /-- A class with a letter of its own, or all other characters. -/
  | shorthand (span : Span) (kind : Shorthand) (negated : Bool)
  /-- The characters with a property, or all others. -/
  | property (span : Span) (query : Query) (negated : Bool)

namespace Primitive

/-- The stretch of a primitive. -/
def span : Primitive → Span
  | literal value => value.span
  | dot span => span
  | anchor span _ => span
  | shorthand span .. => span
  | property span .. => span

/-- A primitive as an expression. -/
def toExpression : Primitive → Expression
  | literal value => .literal value
  | dot span => .dot span
  | anchor span value => .anchor span value
  | shorthand span kind negated => .shorthand span kind negated
  | property span query negated => .property span query negated

/-- A primitive as a set in brackets. -/
def toBracket : Primitive → Except Blemish Bracket
  | literal value => .ok (.literal value)
  | shorthand span kind negated => .ok (.shorthand span kind negated)
  | property span query negated => .ok (.property span query negated)
  | dot span => .error (blemishAt .classEscapeInvalid span)
  | anchor span _ => .error (blemishAt .classEscapeInvalid span)

/-- A primitive as the end of a range. -/
def toLiteral : Primitive → Except Blemish Literal
  | literal value => .ok value
  | other => .error (blemishAt .classRangeLiteral other.span)

end Primitive

namespace Escape

/-- Characters with a special meaning. -/
def isMeta (character : Char) : Bool := "\\.+*?()|[]\x7b\x7d^$#&-~".contains character

/-- Whether a backslash before a character just stands for the character. -/
def isPlain (character : Char) : Bool :=
  isMeta character ||
    (decide (character.toNat < 0x80) && !character.isAlphanum && character != '<' &&
      character != '>')

/-- The value of a hexadecimal digit. -/
def hexDigit? (character : Char) : Option Nat :=
  if character.isDigit then some (character.toNat - '0'.toNat)
  else if 'a' ≤ character ∧ character ≤ 'f' then some (character.toNat - 'a'.toNat + 10)
  else if 'A' ≤ character ∧ character ≤ 'F' then some (character.toNat - 'A'.toNat + 10)
  else none

/-- The character with a given code point. -/
def charOfCode? (code : Nat) : Option Char :=
  if code.isValidChar then some (Char.ofNat code) else none

/-- Read a given number of hexadecimal digits after some that gave `value`. -/
def readHexDigits (cursor : Cursor) : (count value : Nat) → Except Blemish (Nat × Cursor)
  | 0, value => .ok (value, cursor)
  | count + 1, value =>
      match cursor.next? with
      | none => .error (blemishAt .escapeUnexpectedEnd cursor.here)
      | some character =>
          match hexDigit? character with
          | some digit => readHexDigits cursor.stepSpace count (16 * value + digit)
          | none => .error (blemishAt .escapeHexInvalidDigit cursor.nextSpan)

/-- Read hexadecimal digits up to a brace that was opened at `brace`. -/
def readHexBraces (brace : Cursor) : Except Blemish (Nat × Cursor) :=
  let isDigit (character : Char) : Bool := (hexDigit? character).isSome
  let (digits, cursor) := brace.stepSpace.takeWhile isDigit
  match cursor.next? with
  | none => .error (blemishAt .escapeUnexpectedEnd (cursor.spanFrom brace.point))
  | some '}' =>
      let final := cursor.stepSpace
      if digits.isEmpty then .error (blemishAt .escapeHexEmpty (final.spanFrom brace.point))
      else
        let value := digits.foldl (fun value digit => 16 * value + (hexDigit? digit).getD 0) 0
        if value.isValidChar then .ok (value, final)
        else .error (blemishAt .escapeHexInvalid (cursor.spanFrom brace.step.point))
  | some _ => .error (blemishAt .escapeHexInvalidDigit cursor.nextSpan)

/-- Read a code point, after a letter that says how many digits it has outside of braces. -/
def readHex (start : Point) (letter : Cursor) (count : Nat) :
    Except Blemish (Primitive × Cursor) := do
  let cursor := letter.stepSpace
  let inBraces := cursor.next? == some '{'
  let (value, final) ←
    if inBraces then readHexBraces cursor else readHexDigits cursor count 0
  match charOfCode? value with
  | some character =>
      let isByte := !inBraces && count == 2
      return (.literal { span := final.spanFrom start, character, isByte }, final)
  | none => throw (blemishAt .escapeHexInvalid (final.spanFrom cursor.point))

/-- The part of a text before a separator and the part after it, if the separator occurs. -/
def splitAt? (separator : List Char) : List Char → Option (List Char × List Char)
  | [] => none
  | character :: rest =>
      if separator.isPrefixOf (character :: rest) then
        some ([], (character :: rest).drop separator.length)
      else (splitAt? separator rest).map fun (front, back) => (character :: front, back)

/-- What the text between the braces of a property asks for, and whether it asks for the rest. -/
def queryOf (text : List Char) : Query × Bool :=
  let value (parts : List Char × List Char) : Query :=
    .value (String.ofList parts.1) (String.ofList parts.2)
  match splitAt? ['!', '='] text with
  | some parts => (value parts, true)
  | none =>
      match splitAt? [':'] text <|> splitAt? ['='] text with
      | some parts => (value parts, false)
      | none => (.name (String.ofList text), false)

/-- Read a property after its letter. -/
def readProperty (start : Point) (letter : Cursor) (negated : Bool) :
    Except Blemish (Primitive × Cursor) := do
  let cursor := letter.stepSpace
  match cursor.next? with
  | none => throw (blemishAt .escapeUnexpectedEnd cursor.here)
  | some '{' =>
      let (text, final) := cursor.stepSpace.takeWhile (· != '}')
      if final.next?.isNone then throw (blemishAt .escapeUnexpectedEnd final.here)
      else
        let (query, others) := queryOf text
        return (.property (final.step.spanFrom start) query (negated != others), final.step)
  | some '\\' => throw (blemishAt .propertyNameInvalid cursor.nextSpan)
  | some character =>
      let final := cursor.stepSpace
      return (.property (final.spanFrom start) (.name character.toString) negated, final)

/-- Whether a character may stand in the name of a condition on words. -/
def isBorderName (character : Char) : Bool := character.isAlpha || character == '-'

/--
Read the name in braces of a condition on words, at the brace.  A brace that is followed by
something else does not belong to the condition.
-/
def readWordBorder (start : Point) (brace : Cursor) : Except Blemish (Anchor × Cursor) := do
  let cursor := brace.stepSpace
  match cursor.next? with
  | none => throw (blemishAt .wordBorderUnexpectedEnd (cursor.spanFrom start))
  | some first =>
      if !isBorderName first then return (.wordBoundary, brace)
      let (name, final) := cursor.takeWhile isBorderName
      if final.next? != some '}' then
        throw (blemishAt .wordBorderUnclosed (final.spanFrom brace.point))
      match String.ofList name with
      | "start" => return (.wordStart, final.step)
      | "end" => return (.wordEnd, final.step)
      | "start-half" => return (.wordStartHalf, final.step)
      | "end-half" => return (.wordEndHalf, final.step)
      | _ => throw (blemishAt .wordBorderUnrecognized (final.spanFrom cursor.point))

/-- The character that a letter after a backslash stands for. -/
def control? (letter : Char) : Option Char :=
  match letter with
  | 'a' => some '\x07'
  | 'f' => some '\x0C'
  | 't' => some '\t'
  | 'n' => some '\n'
  | 'r' => some '\r'
  | 'v' => some '\x0B'
  | _ => none

/-- The condition that a character after a backslash stands for. -/
def anchor? (character : Char) : Option Anchor :=
  match character with
  | 'A' => some .textStart
  | 'z' => some .textEnd
  | 'B' => some .notWordBoundary
  | '<' => some .wordStart
  | '>' => some .wordEnd
  | _ => none

/-- The class that a letter after a backslash stands for, and whether it is the rest. -/
def shorthand? (letter : Char) : Option (Shorthand × Bool) :=
  match letter with
  | 'd' => some (.digit, false)
  | 'D' => some (.digit, true)
  | 's' => some (.space, false)
  | 'S' => some (.space, true)
  | 'w' => some (.word, false)
  | 'W' => some (.word, true)
  | _ => none

/-- Read an escape that is a single character after a backslash at `start`. -/
def readSimple (start : Point) (cursor : Cursor) (character : Char) :
    Except Blemish (Primitive × Cursor) :=
  let final := cursor.step
  let span := final.spanFrom start
  match shorthand? character, anchor? character, control? character with
  | some (kind, negated), _, _ => .ok (.shorthand span kind negated, final)
  | _, some anchor, _ => .ok (.anchor span anchor, final)
  | _, _, some control => .ok (.literal { span, character := control, isByte := false }, final)
  | _, _, _ =>
      if isPlain character then .ok (.literal { span, character, isByte := false }, final)
      else .error (blemishAt .escapeUnrecognized span)

/-- Read an escape, at its backslash. -/
def read (backslash : Cursor) : Except Blemish (Primitive × Cursor) := do
  let start := backslash.point
  let cursor := backslash.step
  match cursor.next? with
  | none => throw (blemishAt .escapeUnexpectedEnd (cursor.spanFrom start))
  | some 'x' => readHex start cursor 2
  | some 'u' => readHex start cursor 4
  | some 'U' => readHex start cursor 8
  | some 'p' => readProperty start cursor false
  | some 'P' => readProperty start cursor true
  | some 'b' =>
      if cursor.step.next? == some '{' then
        let (anchor, final) ← readWordBorder start cursor.step
        return (.anchor (final.spanFrom start) anchor, final)
      else return (.anchor (cursor.step.spanFrom start) .wordBoundary, cursor.step)
  | some character =>
      if character.isDigit then
        throw (blemishAt .backreference (cursor.step.spanFrom start))
      else readSimple start cursor character

end Escape
end Pattern
end LoxTokens
