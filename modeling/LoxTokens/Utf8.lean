/-!
# UTF-8 text

Bytes are decoded one character at a time.  A byte sequence that is not well formed is described
by where its well-formed beginning ends and by the length of the sequence that breaks it.  Lossy
decoding puts one replacement character in place of each such sequence.
-/

namespace LoxTokens
namespace Utf8

/-- What stands at the front of a non-empty byte sequence. -/
inductive Front where
  /-- A character and the number of bytes that encode it. -/
  | scalar (value : Char) (width : Nat)
  /-- So many bytes begin no character, whatever follows them. -/
  | invalid (width : Nat)
  /-- The bytes end inside the encoding of a character. -/
  | incomplete
  deriving DecidableEq

/-- What the first byte of an encoding says about the bytes after it. -/
structure Lead where
  /-- Bits of the code point that the first byte carries. -/
  payload : Nat
  /-- Number of continuation bytes. -/
  count : Nat
  /-- Least admissible first continuation byte. -/
  low : Nat
  /-- Greatest admissible first continuation byte. -/
  high : Nat

/--
Classify a first byte.  The bounds on its continuation exclude overlong forms, surrogates and code
points above the last one.
-/
def lead? (byte : Nat) : Option Lead :=
  if byte < 0x80 then some { payload := byte, count := 0, low := 0x80, high := 0xBF }
  else if byte < 0xC2 then none
  else if byte < 0xE0 then some { payload := byte - 0xC0, count := 1, low := 0x80, high := 0xBF }
  else if byte < 0xF0 then
    some
      { payload := byte - 0xE0
        count := 2
        low := if byte = 0xE0 then 0xA0 else 0x80
        high := if byte = 0xED then 0x9F else 0xBF }
  else if byte < 0xF5 then
    some
      { payload := byte - 0xF0
        count := 3
        low := if byte = 0xF0 then 0x90 else 0x80
        high := if byte = 0xF4 then 0x8F else 0xBF }
  else none

/-- Read `count` continuation bytes after `width` bytes that carry the code point so far. -/
def readContinuation : (count low high code width : Nat) → List UInt8 → Front
  | 0, _, _, code, width, _ => .scalar (Char.ofNat code) width
  | _ + 1, _, _, _, _, [] => .incomplete
  | count + 1, low, high, code, width, byte :: rest =>
      if low ≤ byte.toNat ∧ byte.toNat ≤ high then
        readContinuation count 0x80 0xBF (code * 64 + (byte.toNat - 0x80)) (width + 1) rest
      else .invalid width

/-- Classify the front of a non-empty byte sequence. -/
def front (byte : UInt8) (rest : List UInt8) : Front :=
  match lead? byte.toNat with
  | some lead => readContinuation lead.count lead.low lead.high lead.payload 1 rest
  | none => .invalid 1

/-- Where and how a byte sequence stops being well-formed UTF-8. -/
structure Fault where
  /-- Length in bytes of the longest well-formed beginning. -/
  validUpTo : Nat
  /-- Length of the sequence that breaks it, or nothing when the bytes end inside a character. -/
  errorLength : Option Nat
  deriving DecidableEq

private theorem length_drop_lt_cons (byte : UInt8) (rest : List UInt8) (count : Nat) :
    (rest.drop count).length < (byte :: rest).length := by
  rw [List.length_drop, List.length_cons]
  omega

/-- Decode the rest of a byte sequence after `offset` bytes that gave `decoded`, in reverse. -/
def decodeFrom (offset : Nat) (decoded : List Char) : List UInt8 → Except Fault (List Char)
  | [] => .ok decoded.reverse
  | byte :: rest =>
      match front byte rest with
      | .scalar value width =>
          decodeFrom (offset + width) (value :: decoded) (rest.drop (width - 1))
      | .invalid width => .error { validUpTo := offset, errorLength := some width }
      | .incomplete => .error { validUpTo := offset, errorLength := none }
termination_by bytes => bytes.length
decreasing_by exact length_drop_lt_cons ..

/-- Decode a byte sequence, or say where it is not well formed. -/
def decode (bytes : List UInt8) : Except Fault (List Char) := decodeFrom 0 [] bytes

/-- The character that stands for a sequence that encodes nothing. -/
def replacement : Char := '\uFFFD'

/-- Lossy decoding of the rest of a byte sequence whose beginning gave `decoded`, in reverse. -/
def decodeLossyFrom (decoded : List Char) : List UInt8 → List Char
  | [] => decoded.reverse
  | byte :: rest =>
      match front byte rest with
      | .scalar value width => decodeLossyFrom (value :: decoded) (rest.drop (width - 1))
      | .invalid width => decodeLossyFrom (replacement :: decoded) (rest.drop (width - 1))
      | .incomplete => (replacement :: decoded).reverse
termination_by bytes => bytes.length
decreasing_by all_goals exact length_drop_lt_cons ..

/-- Decode a byte sequence with one replacement character per maximal broken sequence. -/
def decodeLossy (bytes : List UInt8) : List Char := decodeLossyFrom [] bytes

/-- The bytes that encode a text. -/
def encode (characters : List Char) : List UInt8 := characters.flatMap String.utf8EncodeChar

end Utf8
end LoxTokens
