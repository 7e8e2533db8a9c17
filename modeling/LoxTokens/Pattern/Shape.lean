import LoxTokens.Pattern
import LoxTokens.Utf8

/-!
# Shapes of patterns

A shape says what a pattern looks for, without flags and in as few parts as simple rules allow:
characters in a row are one part, alternatives that are single characters are a set, and
alternatives that begin alike share their beginning.
-/

namespace LoxTokens
namespace Pattern

/-- What a pattern looks for. -/
inductive Shape where
  /-- The empty text. -/
  | empty
  /-- A text. -/
  | literal (text : List Char)
  /-- A character of a set, perhaps one that was given as a set of bytes. -/
  | set (ofBytes : Bool) (members : CodePoints)
  /-- The empty text at a border that meets a condition. -/
  | border (condition : Condition)
  /-- A shape between `low` and `high` times, or any number of times from `low` on. -/
  | repeated (low : Nat) (high : Option Nat) (greedy : Bool) (body : Shape)
  /-- A shape the text of which is kept. -/
  | capture (body : Shape)
  /-- Shapes one after another. -/
  | sequence (parts : List Shape)
  /-- One of some shapes. -/
  | alternatives (branches : List Shape)

/-- Bounds on the length in bytes of texts, as far as they are known. -/
structure Extent where
  /-- No text is shorter. -/
  least : Option Nat
  /-- No text is longer. -/
  greatest : Option Nat
  deriving DecidableEq

namespace Extent

/-- The extent of texts of one length. -/
def exactly (length : Nat) : Extent := { least := some length, greatest := some length }

/-- The extent of texts of which nothing is known. -/
def unknown : Extent := { least := none, greatest := none }

/-- Combine what is known of two numbers. -/
def combine (operation : Nat → Nat → Nat) : Option Nat → Option Nat → Option Nat
  | some left, some right => some (operation left right)
  | _, _ => none

/-- The extent of texts one after another. -/
def followedBy (first second : Extent) : Extent :=
  { least := combine (· + ·) first.least second.least
    greatest := combine (· + ·) first.greatest second.greatest }

/-- The extent of texts of two kinds. -/
def orElse (left right : Extent) : Extent :=
  { least := combine min left.least right.least
    greatest := combine max left.greatest right.greatest }

/-- The extent of texts that are repeated. -/
def times (low : Nat) (high : Option Nat) (extent : Extent) : Extent :=
  { least := extent.least.map (low * ·), greatest := combine (· * ·) high extent.greatest }

/-- The extent of texts in a row. -/
def inTurn (extents : List Extent) : Extent := extents.foldl followedBy (exactly 0)

/-- The extent of texts of any of some kinds. -/
def anyOf : List Extent → Extent
  | [] => unknown
  | first :: others => others.foldl orElse first

/-- The extent of the characters of a set. -/
def ofMembers (members : CodePoints) : Extent :=
  let width (code : Nat) : Nat := (Char.ofNat code).utf8Size
  { least := members.runs.head?.map fun run => width run.1
    greatest := members.runs.getLast?.map fun run => width run.2 }

end Extent

namespace Shape

/-- The extent of the texts that a shape stands for. -/
def extent : Shape → Extent
  | empty | border _ => .exactly 0
  | literal text => .exactly (Utf8.encode text).length
  | set _ members => .ofMembers members
  | repeated low high _ body => (extent body).times low high
  | capture body => extent body
  | sequence parts => .inTurn (extents parts)
  | alternatives branches => .anyOf (extents branches)
where
  /-- The extents of some shapes. -/
  extents : List Shape → List Extent
    | [] => []
    | part :: parts => extent part :: extents parts

/-- Whether two shapes are the same; texts that are kept are kept apart. -/
def same : Shape → Shape → Bool
  | empty, empty => true
  | literal left, literal right => left == right
  | set ofBytes left, set ofBytes' right => ofBytes == ofBytes' && decide (left = right)
  | border left, border right => decide (left = right)
  | repeated low high greedy left, repeated low' high' greedy' right =>
      low == low' && high == high' && greedy == greedy' && same left right
  | sequence left, sequence right => allSame left right
  | alternatives left, alternatives right => allSame left right
  | _, _ => false
where
  /-- Whether two lists of shapes are the same. -/
  allSame : List Shape → List Shape → Bool
    | [], [] => true
    | left :: lefts, right :: rights => same left right && allSame lefts rights
    | _, _ => false

/-- The code points that are kept for other encodings and belong to no character. -/
def surrogates : CodePoints := .between 0xD800 0xDFFF

/-- A character of a set, in its simplest form. -/
def ofSet (ofBytes : Bool) (members : CodePoints) : Shape :=
  let members := members.difference surrogates
  match members.runs with
  | [] => set true members
  | [(low, high)] => if low = high then literal [Char.ofNat low] else set ofBytes members
  | _ => set ofBytes members

/--
A shape as often as a range of counts allows, in its simplest form.  The empty text need not be
repeated, because it is found again at the same border.
-/
def repetition (low : Nat) (high : Option Nat) (greedy : Bool) (body : Shape) : Shape :=
  let isEmpty := body.extent.greatest == some 0
  let low := if isEmpty then min low 1 else low
  let high := if isEmpty then some (min 1 (high.getD 1)) else high
  if low = 0 ∧ high = some 0 then empty
  else if low = 1 ∧ high = some 1 then body
  else repeated low high greedy body

/-- The parts of a shape that has its place in a sequence. -/
def parts : Shape → List Shape
  | empty => []
  | sequence parts => parts
  | part => [part]

/-- Put a part in front of others; texts that meet become one. -/
def join (part : Shape) (others : List Shape) : List Shape :=
  match part, others with
  | literal front, literal back :: others => literal (front ++ back) :: others
  | part, others => part :: others

/-- Shapes one after another, in their simplest form. -/
def concat (shapes : List Shape) : Shape :=
  match (shapes.flatMap parts).foldr join [] with
  | [] => empty
  | [part] => part
  | parts => sequence parts

/-- The branches of a shape that has its place among alternatives. -/
def branches : Shape → List Shape
  | alternatives branches => branches
  | branch => [branch]

/-- The set of the one character that a shape stands for, if it is a text of that kind. -/
def single? : Shape → Option CodePoints
  | literal [character] => some (.between character.toNat character.toNat)
  | _ => none

/-- The set that a shape stands for, if it is one. -/
def members? : Shape → Option CodePoints
  | set _ members => some members
  | _ => none

/-- One of some alternatives, if they come down to less than that. -/
def merge? (branches : List Shape) : Option Shape :=
  match branches with
  | [] => some (ofSet true .empty)
  | [branch] => some branch
  | _ =>
      let sets := branches.mapM single? <|> branches.mapM members?
      sets.map fun sets => ofSet false (.unions sets)

/-- The number of parts at the front of two sequences that are the same. -/
def sharedLength : List Shape → List Shape → Nat
  | left :: lefts, right :: rights => if same left right then sharedLength lefts rights + 1 else 0
  | _, _ => 0

/-- The parts of a sequence. -/
def sequence? : Shape → Option (List Shape)
  | sequence parts => some parts
  | _ => none

/-- The parts at the front of some alternatives that are the same, and what is left of them. -/
def shareFront? (branches : List Shape) : Option (List Shape × List Shape) :=
  match branches.mapM sequence? with
  | none | some [] => none
  | some (first :: others) =>
      let count :=
        others.foldl (fun count parts => min count (sharedLength first parts)) first.length
      if count = 0 then none
      else some (first.take count, (first :: others).map fun parts => concat (parts.drop count))

/--
One of some shapes, in its simplest form.  When alternatives share their front, nothing more is
shared by what is left of them.
-/
def alternation (shapes : List Shape) : Shape :=
  let plain (shapes : List Shape) : Shape :=
    let branches := shapes.flatMap branches
    (merge? branches).getD (alternatives branches)
  let branches := shapes.flatMap branches
  match merge? branches with
  | some shape => shape
  | none =>
      match shareFront? branches with
      | some (front, rest) => concat (front ++ [plain rest])
      | none => alternatives branches

/-- A shape that is read from behind. -/
def reversed : Shape → Shape
  | repeated low high greedy body => repeated low high greedy (reversed body)
  | capture body => capture (reversed body)
  | sequence parts => sequence (reversedAll parts).reverse
  | alternatives branches => alternatives (reversedAll branches)
  | shape => shape
where
  /-- Some shapes, each of which is read from behind. -/
  reversedAll : List Shape → List Shape
    | [] => []
    | part :: parts => reversed part :: reversedAll parts

/-- Whether the texts of a shape can only begin at a border that meets a condition. -/
def beginsAt (condition : Condition) : Shape → Bool
  | border other => decide (other = condition)
  | repeated low _ _ body => decide (0 < low) && beginsAt condition body
  | capture body => beginsAt condition body
  | sequence parts => firstBeginsAt parts
  | alternatives branches => allBeginAt branches
  | empty | literal _ | set .. => false
where
  /-- The same for some shapes in a row: those in front that take no room count. -/
  firstBeginsAt : List Shape → Bool
    | [] => false
    | part :: parts =>
        beginsAt condition part || (part.extent.greatest == some 0 && firstBeginsAt parts)
  /-- The same for all of some shapes. -/
  allBeginAt : List Shape → Bool
    | [] => true
    | branch :: branches => beginsAt condition branch && allBeginAt branches

/-- The pattern that looks for a shape. -/
def toPattern : Shape → Pattern
  | empty => .empty
  | literal text =>
      .inTurn (text.map fun character => .ofCharacters (.between character.toNat character.toNat))
  | set _ members => .ofCharacters members
  | border condition => .border condition
  | repeated low none _ body =>
      if low = 0 then .optional (.repeated (toPattern body))
      else .both (.power (toPattern body) (low - 1)) (.repeated (toPattern body))
  | repeated low (some high) _ body =>
      .both (.power (toPattern body) low) (.power (.optional (toPattern body)) (high - low))
  | capture body => toPattern body
  | sequence parts => .inTurn (patterns parts)
  | alternatives branches => .anyOf (patterns branches)
where
  /-- The patterns that look for some shapes. -/
  patterns : List Shape → List Pattern
    | [] => []
    | part :: parts => toPattern part :: patterns parts

end Shape
end Pattern
end LoxTokens
