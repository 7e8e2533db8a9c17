import LoxTokens.Pattern.Fault
import LoxTokens.Pattern.Shape
import LoxTokens.Utf8.ByteRange
import Std.Data.HashMap

/-!
# The room that a pattern takes

The room of a pattern is that of two automata, one of which reads the bytes of a text from the
front and the other from behind.  Both are measured state by state, in the order in which their
states would be numbered, and measuring stops as soon as the limit is exceeded.  Nothing is built:
all that matters of a part is whether it ends in a fork, because a fork takes room for each state
that it leads to.
-/

namespace LoxTokens
namespace Pattern

/-- The room that the first states of an automaton take. -/
structure Room where
  /-- The number of the states. -/
  states : Nat
  /-- The bytes for the links of those states that have room for more than one. -/
  links : Nat
  deriving DecidableEq

namespace Room

/-- No states. -/
def empty : Room := { states := 0, links := 0 }

/-- The bytes that a state takes apart from its links. -/
def stateBytes : Nat := 32

/-- The bytes that a link from a fork takes. -/
def forkBytes : Nat := 4

/-- The bytes that a link for a range of bytes takes in a state with several of them. -/
def rangeBytes : Nat := 8

/-- All bytes that the states take. -/
def bytes (room : Room) : Nat := stateBytes * room.states + room.links

/-- The room of two groups of states. -/
def add (left right : Room) : Room :=
  { states := left.states + right.states, links := left.links + right.links }

/-- A measurement, which comes to nothing when the limit is exceeded. -/
abbrev Measure : Type → Type := StateT Room Option

/-- Take room. -/
def take (more : Room) : Measure Unit := fun room =>
  if roomLimit < (room.add more).bytes then none else some ((), room.add more)

/-- Take room for a state with some bytes for links; gives its number. -/
def takeState (links : Nat) : Measure Nat := do
  let room ← get
  take { states := 1, links }
  return room.states

/-- Take room for a link from the end of a part, which counts if the part ends in a fork. -/
def takeLink (fork : Bool) : Measure Unit :=
  take { states := 0, links := if fork then forkBytes else 0 }

/--
States that may be used again, by what they lead to.  Each of them has a slot, and a later one takes
the slot of an earlier one.
-/
structure Cache where
  /-- The number of the slots. -/
  size : Nat
  /-- What was put into the slots last. -/
  slots : Std.HashMap Nat (List Nat × Nat)

namespace Cache

/-- The cache without states. -/
def empty (size : Nat) : Cache := { size, slots := ∅ }

/-- The slot for a key. -/
def slot (cache : Cache) (key : List Nat) : Nat :=
  let mix (hash : UInt64) (value : Nat) : UInt64 := (hash ^^^ value.toUInt64) * 1099511628211
  (key.foldl mix 14695981039346656037).toNat % cache.size

/-- The state with a key, or a new one with some bytes for links. -/
def state (cache : Cache) (key : List Nat) (links : Nat) : Measure (Nat × Cache) := do
  let slot := cache.slot key
  match cache.slots[slot]? with
  | some (other, state) => if other = key then return (state, cache)
  | none => pure ()
  let state ← takeState links
  return (state, { cache with slots := cache.slots.insert slot (key, state) })

end Cache

/-- Gather the sequences of byte ranges that begin with the same range. -/
def gather (sequences : List (List Utf8.ByteRange)) :
    List (Utf8.ByteRange × List (List Utf8.ByteRange)) :=
  let put (sequence : List Utf8.ByteRange)
      (groups : List (Utf8.ByteRange × List (List Utf8.ByteRange))) :=
    match sequence, groups with
    | [], groups => groups
    | range :: rest, (first, others) :: groups =>
        if range = first then (first, (rest :: others)) :: groups
        else (range, [rest]) :: (first, others) :: groups
    | range :: rest, [] => [(range, [rest])]
  sequences.foldr put []

/--
Take room for sequences of byte ranges that lead to a state and have at most `length` ranges.
Sequences that begin alike share their beginning, and states that lead to the same are one.
-/
def takeForward (target : Nat) :
    (length : Nat) → Cache → List (List Utf8.ByteRange) → Measure (Nat × Cache)
  | 0, cache, _ => return (target, cache)
  | length + 1, cache, sequences => do
      if sequences.all List.isEmpty then return (target, cache)
      let groups := gather sequences
      let (keys, cache) ← groups.foldlM (fun (keys, cache) (range, rest) => do
        let (next, cache) ← takeForward target length cache rest
        return ([range.first, range.last, next] :: keys, cache)) ([], cache)
      cache.state keys.reverse.flatten (rangeBytes * groups.length)

/--
Take room for a sequence of byte ranges that is read from behind and leads to a state.  States that
lead to the same are one.
-/
def takeBackward (target : Nat) (cache : Cache) (sequence : List Utf8.ByteRange) :
    Measure Cache := do
  let (_, cache) ← sequence.foldlM (fun (state, cache) range =>
    cache.state [state, range.first, range.last] 0) (target, cache)
  takeLink true
  return cache

/-- Take room for a character of a set. -/
def takeSet (backward : Bool) (members : CodePoints) : Measure Unit := do
  if members.isBelow 0x80 then take { states := 2, links := rangeBytes * members.runs.length }
  else if backward then
    take { states := 1, links := 0 }
    let target ← takeState 0
    let _ ← (Utf8.ByteRange.sequences members).foldlM (takeBackward target) (.empty 1000)
  else
    let target ← takeState 0
    let _ ← takeForward target 4 (.empty 10000) (Utf8.ByteRange.sequences members)

/--
What is left of some words behind what they have in common, cut where a word ends.  Words that end
in a row before any other goes on count once.
-/
def cutWords (words : List (List UInt8)) : List (List (UInt8 × List UInt8)) :=
  let put (word : List UInt8) (chunks : List (List (UInt8 × List UInt8))) :=
    match word, chunks with
    | [], chunks => [] :: chunks
    | byte :: rest, chunk :: chunks => ((byte, rest) :: chunk) :: chunks
    | byte :: rest, [] => [[(byte, rest)]]
  let later := words.dropWhile List.isEmpty
  let words := if later.length < words.length then [] :: later else words
  words.foldr put [[]]

/-- The room of a state from which words go on: a fork over states for the bytes that follow. -/
def ofWords (words : List (List UInt8)) : Room :=
  let chunks := cutWords words
  let ofChunk (chunk : List (UInt8 × List UInt8)) : Room :=
    match (chunk.map Prod.fst).eraseDups.length with
    | 0 => empty
    | 1 => { states := 1, links := forkBytes }
    | count => { states := 1, links := forkBytes + rangeBytes * count }
  let ends : Room := { states := 1, links := forkBytes * (chunks.length - 1) }
  chunks.foldl (fun room chunk => room.add (ofChunk chunk)) ends

/-- What is left of some words after each byte with which words go on, unless all of them end. -/
def nextWords (words : List (List UInt8)) : List (List (List UInt8)) :=
  (cutWords words).flatMap fun chunk =>
    let after (byte : UInt8) : List (List UInt8) :=
      chunk.filterMap fun (first, rest) => if first == byte then some rest else none
    ((chunk.map Prod.fst).eraseDups.map after).filter fun rest => !rest.all List.isEmpty

/-- Take room for words of at most `length` bytes, and for what is left of other words. -/
def takeWords : (length : Nat) → List (List (List UInt8)) → Measure Unit
  | 0, _ => return
  | length + 1, groups => do
      take (groups.foldl (fun room words => room.add (ofWords words)) empty)
      takeWords length (groups.flatMap nextWords)

/-- The text that a shape stands for, if it is one. -/
def text? : Shape → Option (List Char)
  | .literal text => some text
  | _ => none

/--
Take room for parts in a row, the first of which follows a part that perhaps ends in a fork; says
whether the last one does.
-/
def takeTimes (part : Measure Bool) : (count : Nat) → (fork : Bool) → Measure Bool
  | 0, fork => return fork
  | count + 1, fork => do
      let next ← part
      takeLink fork
      takeTimes part count next

/-- Take room for a part a given number of times. -/
def takeExactly (part : Measure Bool) (count : Nat) : Measure Bool := do
  if count = 0 then
    take { states := 1, links := 0 }
    return false
  else takeTimes part count false

/-- Take room for parts each of which can be left out together with those that follow it. -/
def takeOptional (part : Measure Bool) : (count : Nat) → (fork : Bool) → Measure Unit
  | 0, fork => takeLink fork
  | count + 1, fork => do
      take { states := 1, links := 2 * forkBytes }
      let next ← part
      takeLink fork
      takeOptional part count next

/-- Take room for a part that is repeated; `takesText` says that it is never the empty text. -/
def takeRepeated (takesText : Bool) (part : Measure Bool) (low : Nat) (high : Option Nat) :
    Measure Bool := do
  match low, high with
  | 0, some 1 =>
      take { states := 1, links := 2 * forkBytes }
      let fork ← part
      take { states := 1, links := 0 }
      takeLink fork
      return false
  | 0, none =>
      if takesText then
        take { states := 1, links := forkBytes }
        takeLink (← part)
        return true
      else
        takeLink (← part)
        take { states := 3, links := 4 * forkBytes }
        return false
  | low, none =>
      let fork ← if low = 1 then pure false else takeExactly part (low - 1)
      takeLink fork
      takeLink (← part)
      take { states := 1, links := forkBytes }
      return true
  | low, some high =>
      let fork ← takeExactly part low
      if low = high then return fork
      else
        take { states := 1, links := 0 }
        takeOptional part (high - low) fork
        return false

/-- Take room for a shape; says whether it ends in a fork. -/
def takeShape (backward : Bool) : Shape → Measure Bool
  | .empty | .border _ => do
      take { states := 1, links := 0 }
      return false
  | .literal text => do
      take { states := (Utf8.encode text).length, links := 0 }
      return false
  | .set _ members => do
      takeSet backward members
      return false
  | .repeated low high _ body =>
      takeRepeated (body.extent.least.any (0 < ·)) (takeShape backward body) low high
  | .capture body =>
      if backward then takeShape backward body
      else do
        take { states := 1, links := 0 }
        let fork ← takeShape backward body
        take { states := 1, links := 0 }
        takeLink fork
        return false
  | .sequence parts => takeParts false parts
  | .alternatives branches =>
      match branches.mapM text? with
      | some texts => do
          let words := texts.map fun text =>
            if backward then (Utf8.encode text).reverse else Utf8.encode text
          take { states := 1, links := 0 }
          takeWords (words.foldl (fun length word => max length word.length) 0) [words]
          return false
      | none => do
          takeBranches 0 branches
          return false
where
  /-- Take room for shapes in a row, after a part that perhaps ends in a fork. -/
  takeParts (fork : Bool) : List Shape → Measure Bool
    | [] => return fork
    | part :: parts => do
        let next ← takeShape backward part
        takeLink fork
        takeParts next parts
  /-- Take room for alternatives after `count` others; the second one brings a fork and its end. -/
  takeBranches (count : Nat) : List Shape → Measure Unit
    | [] => return
    | branch :: branches => do
        takeLink (← takeShape backward branch)
        take { states := if count = 1 then 2 else 0, links := forkBytes }
        takeBranches (count + 1) branches

/--
Take room for the automaton of a shape that is to be read in a direction.  Unless the shape can only
begin at one end of the text, a loop in front of it passes over what comes before.
-/
def takeAll (backward anchored : Bool) (shape : Shape) : Measure Unit := do
  if anchored then take { states := 1, links := 0 }
  else take { states := 3, links := 2 * forkBytes + rangeBytes }
  if backward then
    takeLink (← takeShape backward shape)
    take { states := 1, links := 0 }
  else
    take { states := 1, links := 0 }
    takeLink (← takeShape backward shape)
    take { states := 2, links := 0 }

end Room

namespace Shape

/-- Whether the room that a shape takes keeps the limit. -/
def fits (shape : Shape) : Bool :=
  let reversed := shape.reversed
  let forward := Room.takeAll false (shape.beginsAt .textStart) shape
  let backward := Room.takeAll true (reversed.beginsAt .textEnd) reversed
  (forward.run .empty).isSome && (backward.run .empty).isSome

end Shape
end Pattern
end LoxTokens
