/-!
# Lines of a text

A text is cut at its newlines.  A carriage return just before a newline belongs to the line ending;
anywhere else, also at the very end of the text, it is an ordinary character.
-/

namespace LoxTokens
namespace Lines

/-- Drop a carriage return from the front of a line that is held in reverse. -/
def dropReturn : List Char → List Char
  | '\r' :: reversed => reversed
  | reversed => reversed

/-- Cut the rest of a text into lines; the beginning of the current line is held in reverse. -/
def cutFrom : (reversed : List Char) → List Char → List (List Char)
  | [], [] => []
  | first :: reversed, [] => [(first :: reversed).reverse]
  | reversed, character :: rest =>
      if character = '\n' then (dropReturn reversed).reverse :: cutFrom [] rest
      else cutFrom (character :: reversed) rest

/-- The lines of a text without their endings; a final newline starts no further line. -/
def cut (text : List Char) : List (List Char) := cutFrom [] text

/-- The lines of a text as strings. -/
def ofText (text : List Char) : List String := (cut text).map String.ofList

end Lines
end LoxTokens
