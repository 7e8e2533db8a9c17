import LoxTokens.Pattern
import LoxTokens.Pattern.Cursor
import LoxTokens.Pattern.Expression
import LoxTokens.Unicode.CaseFold

/-!
# Sets of characters under flags

Which characters a class stands for depends on the flags that are set.  Without Unicode there are
only ASCII characters, and what would take in anything else is refused: texts are never read as
bytes.
-/

namespace LoxTokens
namespace Pattern

/-- The flags at some place of a pattern, as far as they bear on its meaning. -/
structure Setting where
  /-- Letters that differ in case only are the same. -/
  caseInsensitive : Bool
  /-- Lines have beginnings and ends. -/
  multiLine : Bool
  /-- A dot stands for a line ending, too. -/
  dotMatchesNewline : Bool
  /-- Repetitions prefer to be short. -/
  swapGreed : Bool
  /-- Characters are not taken for bytes. -/
  unicode : Bool
  /-- Carriage returns end lines. -/
  carriageReturn : Bool
  deriving DecidableEq

namespace Setting

/-- The flags at the beginning of a pattern. -/
def initial : Setting :=
  { caseInsensitive := false
    multiLine := false
    dotMatchesNewline := false
    swapGreed := false
    unicode := true
    carriageReturn := false }

/-- The flags after a change of one. -/
def change (setting : Setting) (change : FlagChange) : Setting :=
  match change.flag with
  | .caseInsensitive => { setting with caseInsensitive := change.enabled }
  | .multiLine => { setting with multiLine := change.enabled }
  | .dotMatchesNewline => { setting with dotMatchesNewline := change.enabled }
  | .swapGreed => { setting with swapGreed := change.enabled }
  | .unicode => { setting with unicode := change.enabled }
  | .carriageReturn => { setting with carriageReturn := change.enabled }
  | .verbose => setting

/-- The flags after some changes. -/
def changeAll (setting : Setting) (changes : List FlagChange) : Setting :=
  changes.foldl change setting

/-- The characters that count as members of a set. -/
def fold (setting : Setting) (set : CodePoints) : CodePoints :=
  if setting.caseInsensitive then
    if setting.unicode then Unicode.CasePairs.close set else Unicode.CasePairs.closeLatin set
  else set

/-- All characters that are not in a set; without Unicode they cannot be told. -/
def negate (setting : Setting) (span : Span) (set : CodePoints) : Except Blemish CodePoints :=
  if setting.unicode then .ok (set.complement CodePoints.last) else .error (blemishAt .notText span)

/-- The characters that count as members of a set, or all others. -/
def members (setting : Setting) (span : Span) (negated : Bool) (set : CodePoints) :
    Except Blemish CodePoints :=
  if negated then setting.negate span (setting.fold set) else .ok (setting.fold set)

/-- A character as it is written, unless it is a byte that is no character. -/
def character (setting : Setting) (literal : Literal) : Except Blemish Char :=
  if !setting.unicode && literal.isByte && decide (0x7F < literal.character.toNat) then
    .error (blemishAt .notText literal.span)
  else .ok literal.character

/-- The characters that a single one stands for outside of brackets. -/
def literal (setting : Setting) (literal : Literal) : Except Blemish CodePoints := do
  let code := (← setting.character literal).toNat
  if setting.caseInsensitive && !setting.unicode && decide (0x7F < code) then
    throw (blemishAt .unicodeNotAllowed literal.span)
  else return setting.fold (.between code code)

/-- The code point of a character in brackets. -/
def member (setting : Setting) (literal : Literal) : Except Blemish Nat := do
  let code := (← setting.character literal).toNat
  if !setting.unicode && decide (0x7F < code) then
    throw (blemishAt .unicodeNotAllowed literal.span)
  else return code

/-- The characters of words. -/
def word (setting : Setting) : CodePoints :=
  if setting.unicode then Unicode.word
  else ⟨[(0x30, 0x39), (0x41, 0x5A), (0x5F, 0x5F), (0x61, 0x7A)]⟩

/-- The characters of a class with a letter of its own. -/
def classOf (setting : Setting) : Shorthand → CodePoints
  | .digit => if setting.unicode then Unicode.decimalDigits else ⟨[(0x30, 0x39)]⟩
  | .space => if setting.unicode then Unicode.whiteSpace else ⟨[(0x09, 0x0D), (0x20, 0x20)]⟩
  | .word => setting.word

/-- The characters of a class with a letter of its own, or all others. -/
def shorthand (setting : Setting) (span : Span) (kind : Shorthand) (negated : Bool) :
    Except Blemish CodePoints :=
  if negated then setting.negate span (setting.classOf kind) else .ok (setting.classOf kind)

/-- The characters that a query asks for. -/
def find : Query → Except Unicode.PropertyFault CodePoints
  | .name name => Unicode.named name
  | .value property value => Unicode.withValue property value

/-- The characters with a property, or all others. -/
def property (setting : Setting) (span : Span) (query : Query) (negated : Bool) :
    Except Blemish CodePoints :=
  if setting.unicode then
    match find query with
    | .ok set => setting.members span negated set
    | .error .property => .error (blemishAt .propertyUnknown span)
    | .error .value => .error (blemishAt .propertyValueUnknown span)
  else .error (blemishAt .unicodeNotAllowed span)

/-- The characters that a dot stands for. -/
def dot (setting : Setting) (span : Span) : Except Blemish CodePoints :=
  if setting.unicode then
    if setting.dotMatchesNewline then .ok .full
    else
      let ends := if setting.carriageReturn then CodePoints.ofString "\n\r" else .ofString "\n"
      .ok (ends.complement CodePoints.last)
  else .error (blemishAt .notText span)

/-- The condition that an anchor stands for. -/
def condition (setting : Setting) : Anchor → Condition
  | .start => if setting.multiLine then .lineStart setting.carriageReturn else .textStart
  | .stop => if setting.multiLine then .lineEnd setting.carriageReturn else .textEnd
  | .textStart => .textStart
  | .textEnd => .textEnd
  | .wordBoundary => .word setting.word .boundary
  | .notWordBoundary => .word setting.word .interior
  | .wordStart => .word setting.word .start
  | .wordEnd => .word setting.word .stop
  | .wordStartHalf => .word setting.word .startHalf
  | .wordEndHalf => .word setting.word .stopHalf

end Setting

namespace SetOperation

/-- The combination of two sets. -/
def apply : SetOperation → CodePoints → CodePoints → CodePoints
  | intersection => .intersection
  | difference => .difference
  | symmetricDifference => .symmetricDifference

end SetOperation

namespace Bracket

/-- The members of a set as it is written in brackets. -/
def members (setting : Setting) : Bracket → Except Blemish CodePoints
  | empty _ => .ok .empty
  | literal value => do
      let code ← setting.member value
      return .between code code
  | range first last => do
      let low ← setting.member first
      return .between low (← setting.member last)
  | ascii span set negated => setting.members span negated set
  | shorthand span kind negated => setting.shorthand span kind negated
  | property span query negated => setting.property span query negated
  | nested span body negated => do setting.members span negated (← members setting body)
  | union _ items => membersOfAll setting items
  | operation _ sign left right => do
      let left ← members setting left
      let right ← members setting right
      return sign.apply (setting.fold left) (setting.fold right)
where
  /-- The members of any of some sets. -/
  membersOfAll (setting : Setting) : List Bracket → Except Blemish CodePoints
    | [] => .ok .empty
    | item :: items => do
        let set ← members setting item
        return set.union (← membersOfAll setting items)

end Bracket
end Pattern
end LoxTokens
