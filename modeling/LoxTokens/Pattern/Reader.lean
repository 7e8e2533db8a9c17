import LoxTokens.Pattern.Bracket

/-!
# Reading expressions

An expression consists of alternatives, which are sequences of parts that may be repeated and
grouped.  The groups that are open while a text is read form a stack.
-/

namespace LoxTokens
namespace Pattern

/-- The alternatives that have been read so far in a group. -/
structure Branches where
  /-- Where the first alternative begins. -/
  start : Point
  /-- The alternatives before the current one, the last one first. -/
  earlier : List Expression
  /-- Where the current alternative begins. -/
  currentStart : Point
  /-- The parts of the current alternative, the last one first. -/
  parts : List Expression

namespace Branches

/-- No alternatives, at a point. -/
def startAt (point : Point) : Branches :=
  { start := point, earlier := [], currentStart := point, parts := [] }

/-- The current alternative as an expression, up to a point. -/
def current (branches : Branches) (stop : Point) : Expression :=
  let span : Span := { start := branches.currentStart, stop }
  match branches.parts with
  | [] => .empty span
  | [part] => part
  | parts => .sequence span parts.reverse

/-- Add a part to the current alternative. -/
def push (branches : Branches) (part : Expression) : Branches :=
  { branches with parts := part :: branches.parts }

/-- End the current alternative before a bar and begin another one behind it. -/
def next (branches : Branches) (bar : Cursor) : Branches :=
  { branches with
    earlier := branches.current bar.point :: branches.earlier
    currentStart := bar.step.point
    parts := [] }

/-- All alternatives as an expression, up to a point. -/
def toExpression (branches : Branches) (stop : Point) : Expression :=
  match branches.earlier with
  | [] => branches.current stop
  | earlier =>
      .alternatives { start := branches.start, stop } (branches.current stop :: earlier).reverse

end Branches

/-- A group that has been opened. -/
structure OpenGroup where
  /-- What was read before it. -/
  outer : Branches
  /-- The stretch of its opening parenthesis. -/
  span : Span
  /-- Whether the text that matches it is kept. -/
  captures : Bool
  /-- The change of flags that holds inside it. -/
  changes : List FlagChange
  /-- Whether white space and comments do not count behind it. -/
  verbose : Bool

/-- What has been read of a pattern. -/
structure Progress where
  /-- The groups that are open, the innermost one first. -/
  groups : List OpenGroup
  /-- The names of groups, with their stretches. -/
  names : List (String × Span)
  /-- What was read in the innermost group. -/
  branches : Branches
  /-- The text that follows. -/
  cursor : Cursor

namespace Reader

/-- The flag with a given letter. -/
def flag? (letter : Char) : Option Flag :=
  match letter with
  | 'i' => some .caseInsensitive
  | 'm' => some .multiLine
  | 's' => some .dotMatchesNewline
  | 'U' => some .swapGreed
  | 'u' => some .unicode
  | 'R' => some .carriageReturn
  | 'x' => some .verbose
  | _ => none

/-- A letter of a flag, or a hyphen, which has no flag, with its stretch. -/
abbrev FlagItem := Option Flag × Span

/-- The changes that letters of flags ask for: those behind a hyphen clear their flags. -/
def changesOf (enabled : Bool) : List FlagItem → List FlagChange
  | [] => []
  | (some flag, _) :: items => { flag, enabled } :: changesOf enabled items
  | (none, _) :: items => changesOf false items

/--
Read letters of flags up to a colon or a closing parenthesis, after some others; `bound` is at least
as long as the text that follows.
-/
def readFlags : (bound : List Char) → (earlier : List FlagItem) → Cursor →
    Except Blemish (List FlagItem × Cursor)
  | [], _, cursor => .error (blemishAt .flagUnexpectedEnd cursor.here)
  | _ :: bound, earlier, cursor => do
      match cursor.next? with
      | none => throw (blemishAt .flagUnexpectedEnd cursor.here)
      | some character =>
          let span := cursor.nextSpan
          if character = ':' ∨ character = ')' then
            match earlier with
            | (none, hyphen) :: _ => throw (blemishAt .flagDanglingNegation hyphen)
            | _ => return (earlier.reverse, cursor)
          let item ←
            if character = '-' then pure none
            else
              match flag? character with
              | some flag => pure (some flag)
              | none => throw (blemishAt .flagUnrecognized span)
          match earlier.find? fun other => decide (other.1 = item) with
          | some other =>
              let cause := if item.isNone then .flagRepeatedNegation else .flagDuplicate
              throw { cause, span, earlier := some other.2 }
          | none => readFlags bound ((item, span) :: earlier) cursor.step

/-- Whether a character may stand in the name of a group, perhaps as its first one. -/
def isNameCharacter (isFirst : Bool) (character : Char) : Bool :=
  character == '_' ||
    if isFirst then Unicode.alphabetic.contains character
    else
      character == '.' || character == '[' || character == ']' ||
        Unicode.alphanumeric.contains character

/-- Read the name of a group, up to its closing bracket. -/
def readName (names : List (String × Span)) (start : Cursor) :
    Except Blemish (List (String × Span) × Cursor) := do
  if start.next?.isNone then throw (blemishAt .groupNameUnexpectedEnd start.here)
  let first : List Char × Cursor :=
    match start.next? with
    | some character =>
        if isNameCharacter true character then ([character], start.step) else ([], start)
    | none => ([], start)
  let (others, cursor) :=
    if first.1.isEmpty then first
    else
      Cursor.collect (isNameCharacter false) Cursor.step first.2.rest first.2
  match cursor.next? with
  | none => throw (blemishAt .groupNameUnexpectedEnd cursor.here)
  | some '>' =>
      let name := String.ofList (if first.1.isEmpty then [] else first.1 ++ others)
      let span := cursor.spanFrom start.point
      if name.isEmpty then throw (blemishAt .groupNameEmpty span)
      match names.find? fun other => other.1 == name with
      | some other => throw { cause := .groupNameDuplicate, span, earlier := some other.2 }
      | none => return ((name, span) :: names, cursor.step)
  | some _ => throw (blemishAt .groupNameInvalid cursor.nextSpan)

/-- Whether a change of flags sets or clears verbose reading; otherwise it stays as it is. -/
def verboseAfter (verbose : Bool) (changes : List FlagChange) : Bool :=
  match changes.find? fun change => decide (change.flag = .verbose) with
  | some change => change.enabled
  | none => verbose

/-- Open a group that was announced at `opening`. -/
def openGroup (progress : Progress) (opening : Cursor) (captures : Bool)
    (changes : List FlagChange) (names : List (String × Span)) (cursor : Cursor) : Progress :=
  let verbose := verboseAfter opening.verbose changes
  { groups :=
      { outer := progress.branches
        span := opening.nextSpan
        captures
        changes
        verbose := opening.verbose } :: progress.groups
    names
    branches := .startAt cursor.point
    cursor := { cursor with verbose } }

/-- Read the beginning of a group, or a change of flags, at a parenthesis. -/
def readOpening (progress : Progress) : Except Blemish Progress := do
  let opening := progress.cursor
  let cursor := opening.stepSpace
  let lookAround := ["?=", "?!", "?<=", "?<!"].findSome? cursor.stepWord?
  if let some behind := lookAround then
    throw (blemishAt .lookAround (behind.spanFrom opening.point))
  match cursor.stepWord? "?P<" <|> cursor.stepWord? "?<" with
  | some name =>
      let (names, cursor) ← readName progress.names name
      return openGroup progress opening true [] names cursor
  | none =>
      match cursor.stepWord? "?" with
      | none => return openGroup progress opening true [] progress.names cursor
      | some flags =>
          if flags.next?.isNone then throw (blemishAt .groupUnclosed opening.nextSpan)
          let (items, closing) ← readFlags flags.rest [] flags
          let changes := changesOf true items
          let final := closing.step
          if closing.next? == some ')' then
            if items.isEmpty then throw (blemishAt .repetitionMissing cursor.here)
            let flags := Expression.flags (final.spanFrom opening.point) changes
            let verbose := verboseAfter opening.verbose changes
            return { progress with
              branches := progress.branches.push flags
              cursor := { final with verbose } }
          else return openGroup progress opening false changes progress.names final

/-- Close the innermost group, at a parenthesis. -/
def readClosing (progress : Progress) : Except Blemish Progress :=
  let closing := progress.cursor
  match progress.groups with
  | [] => .error (blemishAt .groupUnopened closing.nextSpan)
  | group :: groups =>
      let body := progress.branches.toExpression closing.point
      let final := closing.step
      let expression :=
        Expression.group (final.spanFrom group.span.start) group.captures group.changes body
      .ok { progress with
        groups
        branches := group.outer.push expression
        cursor := { final with verbose := group.verbose } }

/-- Take the last part of the current alternative in order to repeat it. -/
def takeRepeatable (progress : Progress) : Except Blemish (Expression × List Expression) :=
  match progress.branches.parts with
  | part :: parts =>
      if part.isRepeatable then .ok (part, parts)
      else .error (blemishAt .repetitionMissing progress.cursor.here)
  | [] => .error (blemishAt .repetitionMissing progress.cursor.here)

/-- Put back a part that is repeated, up to a cursor. -/
def pushRepetition (progress : Progress) (part : Expression) (parts : List Expression) (low : Nat)
    (high : Option Nat) (greedy : Bool) (cursor : Cursor) : Progress :=
  let span : Span := { start := part.span.start, stop := cursor.point }
  let repetition := Expression.repetition span low high greedy part
  { progress with branches := { progress.branches with parts := repetition :: parts }, cursor }

/--
Whether a repetition whose sign ends at a cursor is to be as long as possible, and the cursor behind
the question mark that says otherwise.
-/
def readGreed (cursor : Cursor) : Bool × Cursor :=
  if cursor.next? == some '?' then (false, cursor.step) else (true, cursor)

/-- Read a sign that repeats the part before it. -/
def readRepetition (progress : Progress) (low : Nat) (high : Option Nat) :
    Except Blemish Progress := do
  let (part, parts) ← takeRepeatable progress
  let (greedy, final) := readGreed progress.cursor.step
  return pushRepetition progress part parts low high greedy final

/-- Greatest number of repetitions that can be written. -/
def countLimit : Nat := 4294967295

/-- A count, or what is wrong with it, and the cursor behind it. -/
def readCount (cursor : Cursor) : Except Blemish Nat × Cursor :=
  let (_, start) := Cursor.collect Unicode.isWhiteSpace Cursor.step cursor.rest cursor
  let (digits, stop) := start.takeWhile Char.isDigit
  let (_, final) := stop.takeWhile Unicode.isWhiteSpace
  let span := stop.spanFrom start.point
  let value :=
    digits.foldl (fun value digit => 10 * value + (digit.toNat - '0'.toNat)) 0
  if digits.isEmpty then (.error (blemishAt .repetitionCountEmpty span), final)
  else if countLimit < value then (.error (blemishAt .decimalInvalid span), final)
  else (.ok value, final)

/-- Read the bounds of a repetition behind its brace, up to the closing one. -/
def readBounds (start : Point) (cursor : Cursor) :
    Except Blemish ((Nat × Option Nat) × Cursor) := do
  let unclosed (cursor : Cursor) : Blemish :=
    blemishAt .repetitionCountUnclosed (cursor.spanFrom start)
  if cursor.next?.isNone then throw (unclosed cursor)
  let (low, cursor) := readCount cursor
  if cursor.next?.isNone then throw (unclosed cursor)
  if cursor.next? == some ',' then
    let cursor := cursor.stepSpace
    if cursor.next?.isNone then throw (unclosed cursor)
    if cursor.next? == some '}' then return ((← low, none), cursor)
    let low ← low
    let (high, cursor) := readCount cursor
    return ((low, some (← high)), cursor)
  else
    let low ← low
    return ((low, some low), cursor)

/-- Read a repetition with bounds in braces, at its brace. -/
def readCountedRepetition (progress : Progress) : Except Blemish Progress := do
  let (part, parts) ← takeRepeatable progress
  let start := progress.cursor.point
  let ((low, high), cursor) ← readBounds start progress.cursor.stepSpace
  if cursor.next? != some '}' then
    throw (blemishAt .repetitionCountUnclosed (cursor.spanFrom start))
  let (greedy, final) := readGreed cursor.stepSpace
  if high.any (· < low) then throw (blemishAt .repetitionCountInvalid (final.spanFrom start))
  return pushRepetition progress part parts low high greedy final

/-- Add what a reading gave to the current alternative. -/
def pushReading (progress : Progress) (reading : Except Blemish (Expression × Cursor)) :
    Except Blemish Progress := do
  let (part, cursor) ← reading
  return { progress with branches := progress.branches.push part, cursor }

/-- Read an escape, a sign or a character. -/
def readPart (cursor : Cursor) (character : Char) : Except Blemish (Expression × Cursor) :=
  let final := cursor.step
  let span := cursor.nextSpan
  match character with
  | '\\' => (Escape.read cursor).map fun (primitive, final) => (primitive.toExpression, final)
  | '.' => .ok (.dot span, final)
  | '^' => .ok (.anchor span .start, final)
  | '$' => .ok (.anchor span .stop, final)
  | _ => .ok (.literal { span, character, isByte := false }, final)

/-- Read the next part of a pattern, which begins with a given character. -/
def readNext (progress : Progress) (character : Char) : Except Blemish Progress :=
  match character with
  | '(' => readOpening progress
  | ')' => readClosing progress
  | '|' =>
      .ok { progress with
        branches := progress.branches.next progress.cursor
        cursor := progress.cursor.step }
  | '[' => pushReading progress (Bracket.read progress.cursor)
  | '?' => readRepetition progress 0 (some 1)
  | '*' => readRepetition progress 0 none
  | '+' => readRepetition progress 1 none
  | '{' => readCountedRepetition progress
  | _ => pushReading progress (readPart progress.cursor character)

/-- Read the rest of a pattern; every round reads something, and `fuel` bounds the rounds. -/
def readFrom : (fuel : Nat) → Progress → Except Blemish Expression
  | 0, progress => .ok (progress.branches.toExpression progress.cursor.point)
  | fuel + 1, progress => do
      let progress := { progress with cursor := progress.cursor.skipSpace }
      match progress.cursor.next? with
      | some character => readFrom fuel (← readNext progress character)
      | none =>
          match progress.groups with
          | group :: _ => throw (blemishAt .groupUnclosed group.span)
          | [] => return progress.branches.toExpression progress.cursor.point

end Reader

namespace Bracket

/-- The stretch of the first set that is nested too deeply, given how deep the set itself is. -/
def tooDeep? (depth : Nat) : Bracket → Option Span
  | nested span body _ =>
      if nestingLimit < depth + 1 then some span else tooDeep? (depth + 1) body
  | union span items =>
      if nestingLimit < depth + 1 then some span else tooDeepIn? (depth + 1) items
  | operation span _ left right =>
      if nestingLimit < depth + 1 then some span
      else tooDeep? (depth + 1) left <|> tooDeep? (depth + 1) right
  | _ => none
where
  /-- The same for some sets, of which the first one counts. -/
  tooDeepIn? (depth : Nat) : List Bracket → Option Span
    | [] => none
    | item :: items => tooDeep? depth item <|> tooDeepIn? depth items

end Bracket

namespace Expression

/-- The stretch of the first part that is nested too deeply, given how deep the whole is. -/
def tooDeep? (depth : Nat) : Expression → Option Span
  | bracketed span body _ =>
      if nestingLimit < depth + 1 then some span else body.tooDeep? (depth + 1)
  | repetition span _ _ _ body =>
      if nestingLimit < depth + 1 then some span else tooDeep? (depth + 1) body
  | group span _ _ body =>
      if nestingLimit < depth + 1 then some span else tooDeep? (depth + 1) body
  | alternatives span branches =>
      if nestingLimit < depth + 1 then some span else tooDeepIn? (depth + 1) branches
  | sequence span parts =>
      if nestingLimit < depth + 1 then some span else tooDeepIn? (depth + 1) parts
  | _ => none
where
  /-- The same for some expressions, of which the first one counts. -/
  tooDeepIn? (depth : Nat) : List Expression → Option Span
    | [] => none
    | part :: parts => tooDeep? depth part <|> tooDeepIn? depth parts

/-- Read the text of a pattern. -/
def read (text : List Char) : Except Blemish Expression := do
  let progress : Progress :=
    { groups := [], names := [], branches := .startAt .start, cursor := .ofText text }
  let expression ← Reader.readFrom (text.length + 1) progress
  match expression.tooDeep? 0 with
  | some span => throw (blemishAt .tooDeeplyNested span)
  | none => return expression

end Expression
end Pattern
end LoxTokens
