import LoxTokens.Pattern.Reader
import LoxTokens.Pattern.Room
import LoxTokens.Pattern.Setting

/-!
# What expressions mean

The shape of an expression depends on the flags that are set where the expression stands, and flags
change from left to right.  A pattern that would take too much room is refused before it is built.
-/

namespace LoxTokens
namespace Pattern
namespace Expression

/-- The shape of a character from a set, under flags. -/
def shapeOfSet (setting : Setting) (members : CodePoints) : Shape :=
  .ofSet (!setting.unicode) members

/-- The shape of an expression, and the flags behind it. -/
def shape (setting : Setting) : Expression → Except Blemish (Shape × Setting)
  | empty _ => .ok (.empty, setting)
  | flags _ changes => .ok (.empty, setting.changeAll changes)
  | literal value => do return (shapeOfSet setting (← setting.literal value), setting)
  | dot span => do return (shapeOfSet setting (← setting.dot span), setting)
  | anchor _ kind => .ok (.border (setting.condition kind), setting)
  | shorthand span kind negated => do
      return (shapeOfSet setting (← setting.shorthand span kind negated), setting)
  | property span query negated => do
      return (shapeOfSet setting (← setting.property span query negated), setting)
  | bracketed span body negated => do
      let set ← body.members setting
      return (shapeOfSet setting (← setting.members span negated set), setting)
  | repetition _ low high greedy body => do
      let (body, setting) ← shape setting body
      return (.repetition low high (greedy != setting.swapGreed) body, setting)
  | group _ captures changes body => do
      let (body, _) ← shape (setting.changeAll changes) body
      return (if captures then .capture body else body, setting)
  | alternatives _ branches => do
      let (shapes, setting) ← shapes setting branches
      return (.alternation shapes, setting)
  | sequence _ parts => do
      let (shapes, setting) ← shapes setting parts
      return (.concat shapes, setting)
where
  /-- The shapes of some expressions, and the flags behind them. -/
  shapes (setting : Setting) : List Expression → Except Blemish (List Shape × Setting)
    | [] => .ok ([], setting)
    | part :: parts => do
        let (first, setting) ← shape setting part
        let (others, setting) ← shapes setting parts
        return (first :: others, setting)

end Expression

/-- Read the text of a pattern. -/
def read (text : List Char) : Except Fault Pattern :=
  match do (← Expression.read text).shape .initial with
  | .error blemish => .error (.blemish blemish)
  | .ok (shape, _) => if shape.fits then .ok shape.toPattern else .error .tooLarge

end Pattern
end LoxTokens
