/-!
# Sets of code points

A set of code points is a list of runs, each given by its first and its last member.  A list is
brought into order, with runs that touch joined, before anything is done with it that depends on
that.
-/

namespace LoxTokens

/-- A set of code points. -/
structure CodePoints where
  /-- Its runs, in order and apart. -/
  runs : List (Nat × Nat)
  deriving DecidableEq

namespace CodePoints

/-- The last code point. -/
def last : Nat := 0x10FFFF

/-- Join a run with the ordered runs that follow it and touch it. -/
def joinFrom (low high : Nat) : List (Nat × Nat) → List (Nat × Nat)
  | [] => [(low, high)]
  | (first, final) :: rest =>
      if first ≤ high + 1 then joinFrom low (max high final) rest
      else (low, high) :: joinFrom first final rest

/-- The set with the given runs, which need neither be in order nor apart. -/
def ofRuns (runs : List (Nat × Nat)) : CodePoints :=
  match runs.mergeSort fun left right => decide (left.1 ≤ right.1) with
  | [] => ⟨[]⟩
  | (low, high) :: rest => ⟨joinFrom low high rest⟩

/-- The set without members. -/
def empty : CodePoints := ⟨[]⟩

/-- The set of all code points. -/
def full : CodePoints := ⟨[(0, last)]⟩

/-- The code points from one to another, both included. -/
def between (low high : Nat) : CodePoints := ⟨[(low, high)]⟩

/-- The set of some characters. -/
def ofString (text : String) : CodePoints :=
  ofRuns (text.toList.map fun character => (character.toNat, character.toNat))

/-- Whether a code point is a member of a set. -/
def containsCode (set : CodePoints) (code : Nat) : Bool :=
  set.runs.any fun run => decide (run.1 ≤ code ∧ code ≤ run.2)

/-- Whether a character is a member of a set. -/
def contains (set : CodePoints) (character : Char) : Bool := set.containsCode character.toNat

/-- The members of either of two sets. -/
def union (left right : CodePoints) : CodePoints := ofRuns (left.runs ++ right.runs)

/-- The members of any of some sets. -/
def unions (sets : List CodePoints) : CodePoints := ofRuns (sets.flatMap runs)

/-- The runs between ordered runs, from `low` to `limit`. -/
def gapsFrom (limit low : Nat) : List (Nat × Nat) → List (Nat × Nat)
  | [] => if low ≤ limit then [(low, limit)] else []
  | (first, final) :: rest =>
      if low < first then (low, first - 1) :: gapsFrom limit (final + 1) rest
      else gapsFrom limit (final + 1) rest

/-- The code points up to `limit` that are not in a set. -/
def complement (set : CodePoints) (limit : Nat) : CodePoints := ⟨gapsFrom limit 0 set.runs⟩

/-- The members that two sets share. -/
def intersection (left right : CodePoints) : CodePoints :=
  ((left.complement last).union (right.complement last)).complement last

/-- The members of the first set that are not in the second. -/
def difference (left right : CodePoints) : CodePoints :=
  left.intersection (right.complement last)

/-- The members of exactly one of two sets. -/
def symmetricDifference (left right : CodePoints) : CodePoints :=
  (left.union right).difference (left.intersection right)

/-- Whether all members of a set are below a code point. -/
def isBelow (set : CodePoints) (limit : Nat) : Bool :=
  set.runs.all fun run => decide (run.2 < limit)

end CodePoints
end LoxTokens
