import LoxTokens.CodePoints
import LoxTokens.Utf8

/-!
# Characters as byte sequences

The encodings of the characters of a set are given by sequences of byte ranges: an encoding belongs
to a sequence when each of its bytes lies in the range at its place.  A run of code points is cut
until its encodings are all combinations of the bytes in such ranges.
-/

namespace LoxTokens
namespace Utf8

/-- The bytes from one to another. -/
structure ByteRange where
  /-- The first byte. -/
  first : Nat
  /-- The last byte. -/
  last : Nat
  deriving DecidableEq

namespace ByteRange

/-- Cut a run of code points in two at a border, if it contains code points on both sides. -/
def cutAt (border : Nat) (run : Nat × Nat) : List (Nat × Nat) :=
  if run.1 < border ∧ border ≤ run.2 then [(run.1, border - 1), (border, run.2)] else [run]

/--
Cut a run of code points at the borders of blocks, so that what lies between its ends consists of
whole blocks.  ASCII characters need no such cuts.
-/
def align (block : Nat) (run : Nat × Nat) : List (Nat × Nat) :=
  if run.2 < 0x80 ∨ run.1 / block = run.2 / block then [run]
  else
    let first := (run.1 + (block - 1)) / block * block
    let stop := (run.2 + 1) / block * block
    (if run.1 < first then [(run.1, first - 1)] else []) ++
      (if first < stop then [(first, stop - 1)] else []) ++
      (if stop ≤ run.2 then [(stop, run.2)] else [])

/-- The byte ranges between the encodings of two code points. -/
def between (run : Nat × Nat) : List ByteRange :=
  let bytes (code : Nat) : List UInt8 := String.utf8EncodeChar (Char.ofNat code)
  List.zipWith (fun first last => { first := first.toNat, last := last.toNat })
    (bytes run.1) (bytes run.2)

/--
The sequences of byte ranges for a set of characters, in order.  Encodings of one length are cut
where a byte begins to count anew.
-/
def sequences (set : CodePoints) : List (List ByteRange) :=
  let cuts := [cutAt 0x80, cutAt 0x800, cutAt 0x10000, align 0x40, align 0x1000, align 0x40000]
  (cuts.foldl (fun runs cut => runs.flatMap cut) set.runs).map between

end ByteRange
end Utf8
end LoxTokens
