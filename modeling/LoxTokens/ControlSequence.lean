/-!
# Control sequences

A text may hold sequences that a terminal obeys instead of showing them.  Such a sequence begins
with an escape character, and what follows decides of which kind it is and where it ends.  Plain
text is what is left when the sequences are taken out, and with them the control characters that
are not white space.  A sequence that never ends takes the rest of the text with it.
-/

namespace LoxTokens
namespace ControlSequence

/-- Whether a character is a control character that counts as white space. -/
def isBlankControl (character : Char) : Bool :=
  character == '\t' || character == '\n' || character == '\x0C' || character == '\r'

/-- Whether a character stands for itself in plain text. -/
def isPlain (character : Char) : Bool :=
  (0x20 ≤ character.toNat && character != '\x7F') || isBlankControl character

/-- What has been read of a sequence, as far as it decides how the sequence goes on. -/
inductive Part where
  /-- The escape character. -/
  | escape
  /-- The beginning of an escape sequence that only lacks its final character. -/
  | intermediate
  /-- The introducer of a control sequence, and perhaps some of its parameters. -/
  | introducer
  /-- The introducer of a device control string. -/
  | device
  /-- A device control string up to some of its parameters. -/
  | deviceParameters
  /-- A device control string up to some of the characters between parameters and content. -/
  | deviceIntermediate
  /-- The beginning of a string, up to some of its content. -/
  | content
  /-- The beginning of an operating system command, up to some of its content. -/
  | command
  deriving DecidableEq

namespace Part

/-- Whether white space in the middle of a sequence is shown. -/
def showsBlank : Part → Bool
  | escape | intermediate | introducer => true
  | device | deviceParameters | deviceIntermediate | content | command => false

/-- Whether the byte of a string terminator occurs in the encoding of a character. -/
def holdsTerminator (character : Char) : Bool := (String.utf8EncodeChar character).contains 0x9C

/-- What an escape character and one more character begin, unless they are a whole sequence. -/
def introduce? (character : Char) : Option Part :=
  match character with
  | '[' => some introducer
  | ']' => some command
  | 'P' => some device
  | 'X' | '^' | '_' => some content
  | _ =>
      if 0x30 ≤ character.toNat ∧ character.toNat < 0x7F then none
      else if 0x20 ≤ character.toNat ∧ character.toNat < 0x30 then some intermediate
      else some escape

/--
What has been read after one more character, or nothing if it ends the sequence.  The characters
CAN and SUB abandon any sequence, and an escape character begins another one.  A character that has
no place in a sequence is passed over.
-/
def extend? (part : Part) (character : Char) : Option Part :=
  let code := character.toNat
  if code = 0x18 ∨ code = 0x1A then none
  else if code = 0x1B then some escape
  else
    match part with
    | escape => introduce? character
    | intermediate => if 0x30 ≤ code ∧ code < 0x7F then none else some intermediate
    | introducer => if 0x40 ≤ code ∧ code < 0x7F then none else some introducer
    | device =>
        if 0x40 ≤ code ∧ code < 0x7F then some content
        else if 0x30 ≤ code ∧ code < 0x40 then some deviceParameters
        else if 0x20 ≤ code ∧ code < 0x30 then some deviceIntermediate
        else some device
    | deviceParameters =>
        if 0x3C ≤ code ∧ code < 0x7F then some content
        else if 0x20 ≤ code ∧ code < 0x30 then some deviceIntermediate
        else some deviceParameters
    | deviceIntermediate =>
        if 0x30 ≤ code ∧ code < 0x7F then some content else some deviceIntermediate
    | content => if holdsTerminator character then none else some content
    | command => if code = 7 then none else some command

end Part

/-- Where a reader of a text stands. -/
inductive Place where
  /-- Outside of all sequences. -/
  | text
  /-- Inside a sequence. -/
  | inside (part : Part)
  /-- In plain text that begins with white space in the middle of a sequence. -/
  | pause (part : Part)
  deriving DecidableEq

namespace Place

/-- Whether a character is shown at a place. -/
def shows (character : Char) : Place → Bool
  | text | pause _ => isPlain character
  | inside part => part.showsBlank && isBlankControl character

/-- The place at which a sequence goes on, or plain text if it has ended. -/
def resume : Option Part → Place
  | some part => inside part
  | none => text

/--
The place after a character.  White space that is shown pauses a sequence, a control character
resumes it, and a character beyond ASCII ends it for good.
-/
def next (character : Char) : Place → Place
  | text => if character = '\x1B' then inside .escape else text
  | inside part =>
      if (inside part).shows character then pause part else resume (part.extend? character)
  | pause part =>
      if isPlain character then if character.toNat < 0x80 then pause part else text
      else resume (part.extend? character)

end Place

/-- Plain text of the rest of a text whose beginning gave `shown`, in reverse. -/
def stripFrom (shown : List Char) : Place → List Char → List Char
  | _, [] => shown.reverse
  | place, character :: rest =>
      stripFrom (if place.shows character then character :: shown else shown)
        (place.next character) rest

/-- Plain text of a text: what is left of it without control sequences. -/
def strip (characters : List Char) : List Char := stripFrom [] .text characters

end ControlSequence
end LoxTokens
