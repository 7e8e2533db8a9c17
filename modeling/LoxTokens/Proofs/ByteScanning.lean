import LoxTokens.Scanner

/-!
# Scanning by byte offsets

The scan of a source that is kept whole, as bytes.  The scanner knows places by byte offsets alone,
and text only as slices between offsets.  A slice fails if its offsets are out of order, beyond the
end of the source or inside a character, and a scan that needs such a slice, or that does not end,
has no result.  What the scan does to the source is recorded with the offsets at that moment.
-/

namespace LoxTokens

/-- Whether an offset lies between characters of a source, or at one of its ends. -/
abbrev IsBoundary (source : String) (offset : Nat) : Prop :=
  String.Pos.Raw.IsValid source ⟨offset⟩

/-- What a scanner does to its source. -/
inductive Act where
  /-- Look at the text after the cursor. -/
  | look
  /-- Take the text of the lexeme. -/
  | takeLexeme
  /-- Take the text of the lexeme without its first and its last byte. -/
  | takeInside
  /-- Move the cursor by some bytes. -/
  | advance (width : Nat)

/-- A thing that is done to the source, and the offsets before it. -/
structure Moment where
  /-- Where the lexeme starts. -/
  start : Nat
  /-- Where the cursor stands. -/
  current : Nat
  /-- What is done. -/
  act : Act

/-- The state of a scan by byte offsets. -/
structure ByteScanner where
  /-- The whole source. -/
  source : String
  /-- What is recognised. -/
  options : Options
  /-- Where the lexeme starts. -/
  start : Nat
  /-- Where the cursor stands. -/
  current : Nat
  /-- Line of the cursor. -/
  line : UInt32
  /-- Line on which the lexeme starts. -/
  startLine : UInt32
  /-- Whether the end of the source was already yielded. -/
  finished : Bool

/-- A part of a scan: it changes the state, records moments, and may fail to have a result. -/
abbrev Reading := StateT ByteScanner (StateT (List Moment) Option)

namespace ByteScanner

/-- A scanner at the beginning of a source. -/
def ofSource (source : String) (options : Options) : ByteScanner where
  source := source
  options := options
  start := 0
  current := 0
  line := 1
  startLine := 1
  finished := false

instance : Inhabited ByteScanner := ⟨ofSource "" {}⟩

/-- The place at an offset, if it lies between characters or at one of the ends. -/
def place? (source : String) (offset : Nat) : Option source.Pos :=
  if boundary : IsBoundary source offset then some (source.pos ⟨offset⟩ boundary) else none

/-- The text from an offset on. -/
def textFrom? (source : String) (offset : Nat) : Option (List Char) := do
  let place ← place? source offset
  return (source.sliceFrom place).copy.toList

/-- The text between two offsets, if these are in order. -/
def textBetween? (source : String) (start stop : Nat) : Option (List Char) := do
  let first ← place? source start
  let last ← place? source stop
  let slice ← source.slice? first last
  return slice.copy.toList

/-! ## The cursor -/

/-- Record what is about to be done. -/
def record (act : Act) : Reading Unit := do
  let scanner ← get
  modifyThe (List Moment) ({ start := scanner.start, current := scanner.current, act } :: ·)

/-- The characters after the cursor. -/
def look : Reading (List Char) := do
  record .look
  let scanner ← get
  textFrom? scanner.source scanner.current

/-- The text of the lexeme. -/
def lexeme : Reading (List Char) := do
  record .takeLexeme
  let scanner ← get
  textBetween? scanner.source scanner.start scanner.current

/-- The text of the lexeme without its first and its last byte. -/
def inside : Reading (List Char) := do
  record .takeInside
  let scanner ← get
  textBetween? scanner.source (scanner.start + 1) (scanner.current - 1)

/-- The scanner with its cursor some bytes further on. -/
def moveBy (width : Nat) (scanner : ByteScanner) : ByteScanner :=
  { scanner with current := scanner.current + width }

/-- Move the cursor. -/
def advance (width : Nat) : Reading Unit := do
  record (.advance width)
  modify (moveBy width)

/-- Whether the cursor stands at the end of the source. -/
def isEnd : Reading Bool := do
  let scanner ← get
  return decide (scanner.source.utf8ByteSize ≤ scanner.current)

/-- The character after the cursor. -/
def peek : Reading Char := do
  let text ← look
  return text.headD '\x00'

/-- The second character after the cursor. -/
def peekNext : Reading Char := do
  let text ← look
  return text.tail.headD '\x00'

/-- Move the cursor over a character. -/
def nextChar : Reading Char := do
  if ← isEnd then return '\x00'
  let character ← peek
  advance character.utf8Size
  return character

/-- Move the cursor over a character, whichever it is. -/
def skipChar : Reading Unit := do
  let _ ← nextChar
  return ()

/-- Move the cursor over a character, if it is the expected one. -/
def matchNext (expected : Char) : Reading Bool := do
  if ← isEnd then return false
  let character ← peek
  if character ≠ expected then return false
  advance expected.utf8Size
  return true

/-- Begin a line. -/
def countLine : Reading Unit := modify fun scanner => { scanner with line := scanner.line + 1 }

/-- Do something as long as a condition holds. -/
def whileDo (condition : Reading Bool) (body : Reading Unit) : Reading Unit :=
  repeatM (fun _ => do
    if ← condition then
      body
      return .inl ()
    else return .inr ()) ()

/-- Whether the cursor stands before a character, and not before `stop`. -/
def goesOn (stop : Char) : Reading Bool := do
  let character ← peek
  if character = stop then return false
  return !(← isEnd)

/-- Move the cursor over one blank or one comment, and tell whether there was one. -/
def skipBlank : Reading Bool := do
  let character ← peek
  if character = ' ' ∨ character = '\r' ∨ character = '\t' then
    skipChar
    return true
  else if character = '\n' then
    countLine
    skipChar
    return true
  else if character = '/' then
    if (← peekNext) = '/' then
      whileDo (goesOn '\n') skipChar
      return true
    else return false
  else return false

/-- Move the cursor over blanks and comments. -/
def skipBlanks : Reading Unit := whileDo skipBlank (pure ())

/-! ## Items -/

/-- The token of the lexeme. -/
def makeToken (kind : Kind) (literal : Literal) : Reading Item := do
  let text ← lexeme
  let scanner ← get
  return .token
    { kind
      lexeme := String.ofList text
      literal
      line := scanner.startLine
      start := scanner.start }

/-- The report of an error on the line of the cursor. -/
def report (error : LexError) : Reading Item := do
  let scanner ← get
  return .diagnostic { line := scanner.line, error }

/-- An operator, after its first character. -/
def operator (alone joined : Kind) : Reading Item := do
  if ← matchNext '=' then makeToken joined .null
  else makeToken alone .null

/-- Move the cursor over a character, and begin a line after a newline. -/
def skipCounted : Reading Unit := do
  let character ← nextChar
  if character = '\n' then countLine

/-- A string, after its opening quote. -/
def string : Reading Item := do
  whileDo (goesOn '"') skipCounted
  if ← isEnd then report .unterminatedString
  else
    skipChar
    let value ← inside
    makeToken .string (.string (String.ofList value))

/-- Move the cursor over digits. -/
def skipDigits : Reading Unit :=
  whileDo (do return (← peek).isDigit) skipChar

/-- The value of the digits before and after a point. -/
def numeralValue (text : List Char) : Binary64 :=
  (Decimal.ofDigitRuns (text.takeWhile Char.isDigit)
    (text.dropWhile Char.isDigit).tail).toBinary64

/-- Move the cursor over a point and digits, if at least one digit follows the point. -/
def skipFraction : Reading Unit := do
  if (← peek) = '.' then
    if (← peekNext).isDigit then
      skipChar
      skipDigits

/-- A number, after its first digit. -/
def number : Reading Item := do
  skipDigits
  skipFraction
  let value := numeralValue (← lexeme)
  if value.isFinite then makeToken .number (.number value)
  else report (.invalidNumber (String.ofList (← lexeme)))

/-- Whether a word goes on. -/
def inWord : Reading Bool := do
  if (← peek).isAlphanum then return true
  return (← peek) == '_'

/-- A word, after its first character. -/
def word : Reading Item := do
  whileDo inWord skipChar
  let text ← lexeme
  makeToken (Kind.ofWord (String.ofList text)) .null

/-- The item that starts with a character, after that character. -/
def itemFrom (first : Char) : Reading Item := do
  let scanner ← get
  match Kind.ofPunctuation? first with
  | some kind => makeToken kind .null
  | none =>
      match Kind.ofOperator? first with
      | some (alone, joined) => operator alone joined
      | none =>
          if first = '"' then string
          else if first.isDigit then number
          else if scanner.options.identifiers && startsWord first then word
          else report (.unexpectedCharacter first)

/-- The scanner with a lexeme that begins at the cursor. -/
def atLexeme (scanner : ByteScanner) : ByteScanner :=
  { scanner with start := scanner.current, startLine := scanner.line }

/-- The token at the end of the source, after which there is nothing. -/
def finish : Reading Item := do
  modify fun scanner => { scanner with finished := true }
  let scanner ← get
  return .token (Token.eof scanner.line scanner.current)

/-- The item behind a gap. -/
def item : Reading Item := do
  if ← isEnd then finish
  else itemFrom (← nextChar)

/-- Pull the next item, if the end of the source was not yet yielded. -/
def pull : Reading (Option Item) := do
  let scanner ← get
  if scanner.finished then return none
  skipBlanks
  modify atLexeme
  return some (← item)

/-- Pull some number of times. -/
def pulls : (count : Nat) → Reading (List Item)
  | 0 => return []
  | count + 1 => do
      let item? ← pull
      let items ← pulls count
      return item?.toList ++ items

end ByteScanner
end LoxTokens
