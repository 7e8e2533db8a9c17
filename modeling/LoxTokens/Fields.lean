/-!
# Fields of a text

Cutting a text at a separator gives one field more than there are separators.
-/

namespace LoxTokens
namespace Fields

/-- Cut a text at every occurrence of a separator. -/
def cutAt (separator : Char) : List Char → List (List Char)
  | [] => [[]]
  | character :: rest =>
      if character = separator then [] :: cutAt separator rest
      else
        match cutAt separator rest with
        | [] => [[character]]
        | field :: fields => (character :: field) :: fields

variable {separator : Char} {field : List Char}

/-- A text without the separator is one field. -/
theorem cutAt_of_notMem (closed : separator ∉ field) : cutAt separator field = [field] := by
  induction field with
  | nil => rfl
  | cons character field ih =>
      obtain ⟨different, closed⟩ := List.ne_and_not_mem_of_not_mem_cons closed
      rw [cutAt, if_neg (Ne.symm different), ih closed]

/-- The first field ends where the separator first stands. -/
theorem cutAt_append (closed : separator ∉ field) (rest : List Char) :
    cutAt separator (field ++ separator :: rest) = field :: cutAt separator rest := by
  induction field with
  | nil => rw [List.nil_append, cutAt, if_pos rfl]
  | cons character field ih =>
      obtain ⟨different, closed⟩ := List.ne_and_not_mem_of_not_mem_cons closed
      rw [List.cons_append, cutAt, if_neg (Ne.symm different), ih closed]

end Fields
end LoxTokens
