import LoxTokens.Unicode.Property

/-!
# Search patterns

A pattern describes texts.  It is read along a text one character at a time: every place in the
pattern at which a single character can be read carries a mark that says whether reading may have
got as far as just behind it.  A text holds a pattern when, at some border between its characters,
a reading that began there or earlier can be complete.
-/

namespace LoxTokens

/-- A border between two characters of a text, or one of its ends. -/
structure Border where
  /-- The character before the border, unless the text begins there. -/
  before : Option Char
  /-- The character after the border, unless the text ends there. -/
  after : Option Char
  deriving DecidableEq

/-- What can be said of a border with regard to words. -/
inductive WordBorder where
  /-- A word begins or ends there. -/
  | boundary
  /-- No word begins or ends there. -/
  | interior
  /-- A word begins there. -/
  | start
  /-- A word ends there. -/
  | stop
  /-- No character of a word is before it. -/
  | startHalf
  /-- No character of a word is after it. -/
  | stopHalf
  deriving DecidableEq

namespace WordBorder

/-- Whether a statement is true, given whether the characters around the border belong to words. -/
def holds (before after : Bool) : WordBorder → Bool
  | boundary => before != after
  | interior => before == after
  | start => !before && after
  | stop => before && !after
  | startHalf => !before
  | stopHalf => !after

end WordBorder

/-- A condition on a border. -/
inductive Condition where
  /-- The text begins there. -/
  | textStart
  /-- The text ends there. -/
  | textEnd
  /-- A line begins there; perhaps a carriage return ends lines, too. -/
  | lineStart (carriageReturn : Bool)
  /-- A line ends there; perhaps a carriage return ends lines, too. -/
  | lineEnd (carriageReturn : Bool)
  /-- A statement about words of given characters. -/
  | word (characters : CodePoints) (border : WordBorder)
  deriving DecidableEq

namespace Condition

/-- Whether a condition is met at a border. -/
def isMet (border : Border) : Condition → Bool
  | textStart => border.before.isNone
  | textEnd => border.after.isNone
  | lineStart carriageReturn =>
      border.before.all fun before =>
        before == '\n' || (carriageReturn && before == '\r' && border.after != some '\n')
  | lineEnd carriageReturn =>
      border.after.all fun after =>
        if carriageReturn then after == '\r' || (after == '\n' && border.before != some '\r')
        else after == '\n'
  | word characters statement =>
      statement.holds (border.before.any characters.contains) (border.after.any characters.contains)

end Condition

/-- A pattern, together with how far it has been read. -/
inductive Pattern where
  /-- The empty text. -/
  | empty
  /-- The empty text at a border that meets a condition. -/
  | border (condition : Condition)
  /-- One of some characters, with a mark that says whether one has just been read here. -/
  | one (characters : CodePoints) (reached : Bool)
  /-- One pattern and then another. -/
  | both (first second : Pattern)
  /-- One of two patterns. -/
  | either (left right : Pattern)
  /-- A pattern once or more often. -/
  | repeated (body : Pattern)
  deriving DecidableEq

namespace Pattern

/-- Whether the empty text at a border matches. -/
def skips (place : Border) : Pattern → Bool
  | empty => true
  | border condition => condition.isMet place
  | one _ _ => false
  | both first second => skips place first && skips place second
  | either left right => skips place left || skips place right
  | repeated body => skips place body

/-- Whether a reading that has begun can be complete at a border. -/
def ends (place : Border) : Pattern → Bool
  | empty => false
  | border _ => false
  | one _ reached => reached
  | both first second => (ends place first && skips place second) || ends place second
  | either left right => ends place left || ends place right
  | repeated body => ends place body

/--
Read a character after a border.  Readings that have begun go on, and new ones begin if `begins`.
-/
def advance (place : Border) (character : Char) (begins : Bool) : Pattern → Pattern
  | empty => empty
  | border condition => border condition
  | one characters _ => one characters (begins && characters.contains character)
  | both first second =>
      both (advance place character begins first)
        (advance place character ((begins && skips place first) || ends place first) second)
  | either left right =>
      either (advance place character begins left) (advance place character begins right)
  | repeated body => repeated (advance place character (begins || ends place body) body)

/-- Whether a pattern occurs in the rest of a text, after a character if there is one before. -/
def occursFrom (before : Option Char) (pattern : Pattern) : List Char → Bool
  | [] =>
      let place : Border := { before, after := none }
      pattern.skips place || pattern.ends place
  | character :: rest =>
      let place : Border := { before, after := some character }
      pattern.skips place || pattern.ends place ||
        occursFrom (some character) (pattern.advance place character true) rest

/-- Whether a pattern that has not been read occurs somewhere in a text. -/
def occursIn (pattern : Pattern) (text : List Char) : Bool := pattern.occursFrom none text

/-- One of some characters. -/
def ofCharacters (characters : CodePoints) : Pattern := one characters false

/-- A pattern, or nothing. -/
def optional (body : Pattern) : Pattern := either empty body

/-- Combine patterns by a balanced tree. -/
def balance (combine : Pattern → Pattern → Pattern) (neutral : Pattern) (parts : List Pattern) :
    Pattern :=
  match parts with
  | [] => neutral
  | [part] => part
  | first :: second :: rest =>
      let half := (rest.length + 2) / 2
      combine (balance combine neutral ((first :: second :: rest).take half))
        (balance combine neutral ((first :: second :: rest).drop half))
termination_by parts.length
decreasing_by
  all_goals simp only [List.length_take, List.length_drop, List.length_cons]
  all_goals omega

/-- Patterns one after another. -/
def inTurn (parts : List Pattern) : Pattern := balance both empty parts

/-- One of some patterns; of none, one that is never found. -/
def anyOf (branches : List Pattern) : Pattern := balance either (ofCharacters .empty) branches

/-- A pattern a given number of times. -/
def power (body : Pattern) (count : Nat) : Pattern := inTurn (List.replicate count body)

end Pattern
end LoxTokens
