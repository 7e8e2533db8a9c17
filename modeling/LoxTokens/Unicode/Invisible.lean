import LoxTokens.CodePoints

/-!
# White space and invisible characters

Sets of characters that have no shape of their own.
-/

namespace LoxTokens
namespace Unicode

/-- The characters that are white space. -/
def whiteSpace : CodePoints :=
  ⟨[(0x9, 0xD), (0x20, 0x20), (0x85, 0x85), (0xA0, 0xA0), (0x1680, 0x1680), (0x2000, 0x200A),
    (0x2028, 0x2029), (0x202F, 0x202F), (0x205F, 0x205F), (0x3000, 0x3000)]⟩

/-- Whether a character is white space. -/
def isWhiteSpace (character : Char) : Bool := whiteSpace.contains character

/-- The white space that is kept for the syntax of patterns. -/
def patternWhiteSpace : CodePoints :=
  ⟨[(0x9, 0xD), (0x20, 0x20), (0x85, 0x85), (0x200E, 0x200F), (0x2028, 0x2029)]⟩

/-- The characters that control the direction of writing. -/
def bidiControls : CodePoints :=
  ⟨[(0x61C, 0x61C), (0x200E, 0x200F), (0x202A, 0x202E), (0x2066, 0x2069)]⟩

/-- The characters that join their neighbours, or keep them apart, and are not shown. -/
def joiners : CodePoints := ⟨[(0x200C, 0x200D)]⟩

/-- The format characters that enclose what follows them. -/
def prependedMarks : CodePoints :=
  ⟨[(0x600, 0x605), (0x6DD, 0x6DD), (0x70F, 0x70F), (0x890, 0x891), (0x8E2, 0x8E2),
    (0x110BD, 0x110BD), (0x110CD, 0x110CD)]⟩

/-- The characters that select a variant of the character before them. -/
def variationSelectors : CodePoints :=
  ⟨[(0x180B, 0x180D), (0x180F, 0x180F), (0xFE00, 0xFE0F), (0xE0100, 0xE01EF)]⟩

/-- The characters that are ignored in display without being so by their category. -/
def otherDefaultIgnorable : CodePoints :=
  ⟨[(0x34F, 0x34F), (0x115F, 0x1160), (0x17B4, 0x17B5), (0x2065, 0x2065), (0x3164, 0x3164),
    (0xFFA0, 0xFFA0), (0xFFF0, 0xFFF8), (0xE0000, 0xE0000), (0xE0002, 0xE001F),
    (0xE0080, 0xE00FF), (0xE01F0, 0xE0FFF)]⟩

/-- The format characters that are not ignored in display. -/
def shownFormats : CodePoints := ⟨[(0xFFF9, 0xFFFB), (0x13430, 0x13440)]⟩

/-- The characters that should not be used. -/
def deprecated : CodePoints :=
  ⟨[(0x149, 0x149), (0x673, 0x673), (0xF77, 0xF77), (0xF79, 0xF79), (0x17A3, 0x17A4),
    (0x206A, 0x206F), (0x2329, 0x232A), (0xE0001, 0xE0001)]⟩

/-- The code points that are kept for internal use. -/
def nonCharacters : CodePoints :=
  ⟨[(0xFDD0, 0xFDEF), (0xFFFE, 0xFFFF), (0x1FFFE, 0x1FFFF), (0x2FFFE, 0x2FFFF),
    (0x3FFFE, 0x3FFFF), (0x4FFFE, 0x4FFFF), (0x5FFFE, 0x5FFFF), (0x6FFFE, 0x6FFFF),
    (0x7FFFE, 0x7FFFF), (0x8FFFE, 0x8FFFF), (0x9FFFE, 0x9FFFF), (0xAFFFE, 0xAFFFF),
    (0xBFFFE, 0xBFFFF), (0xCFFFE, 0xCFFFF), (0xDFFFE, 0xDFFFF), (0xEFFFE, 0xEFFFF),
    (0xFFFFE, 0xFFFFF), (0x10FFFE, 0x10FFFF)]⟩

end Unicode
end LoxTokens
