import LoxTokens.Unicode.Derived
import LoxTokens.Unicode.Script

/-!
# Classes of characters at boundaries

Where a text may be cut between what readers take for a character, a word or a sentence depends on
the classes of the characters around the place.  Characters without a class have no set here.
-/

namespace LoxTokens
namespace Unicode

/-- A set of characters with names. -/
structure NamedSet where
  /-- Its names. -/
  names : List String
  /-- Its members. -/
  members : CodePoints

/-- The set of some code points. -/
def listed (codes : List Nat) : CodePoints := .ofRuns (codes.map fun code => (code, code))

/-- The characters of a script, by its name. -/
def ofScript (name : String) : CodePoints :=
  match Script.all.find? fun script => script.name == name with
  | some script => .ofRuns script.runs
  | none => .empty

/-- The marks that take room. -/
def spacingMarks : CodePoints := ofCategories [.spacingMark]

/-- The format characters. -/
def formats : CodePoints := ofCategories [.format]

namespace Grapheme

/-- The characters that extend the one before them. -/
def extend : CodePoints := .unions [graphemeExtend, emojiModifiers]

/-- The characters that go with the one after them. -/
def prepend : CodePoints :=
  .unions
    [prependedMarks,
      ⟨[(0xD4E, 0xD4E), (0x111C2, 0x111C3), (0x113D1, 0x113D1), (0x1193F, 0x1193F),
        (0x11941, 0x11941), (0x11A3A, 0x11A3A), (0x11A84, 0x11A89), (0x11D46, 0x11D46),
        (0x11F02, 0x11F02)]⟩]

/-- The characters that stand alone. -/
def control : CodePoints :=
  (CodePoints.unions
    [ofCategories [.lineSeparator, .paragraphSeparator, .control, .format],
      unassigned.intersection defaultIgnorable]).difference
    (.unions [listed [0x0A, 0x0D, 0x200C, 0x200D], prependedMarks, extend])

/-- The marks that take room but do not go with the character before them. -/
def looseMarks : CodePoints :=
  ⟨[(0x102B, 0x102C), (0x1038, 0x1038), (0x1062, 0x1064), (0x1067, 0x106D), (0x1083, 0x1083),
    (0x1087, 0x108C), (0x108F, 0x108F), (0x109A, 0x109C), (0x1A61, 0x1A61), (0x1A63, 0x1A64),
    (0xAA7B, 0xAA7B), (0xAA7D, 0xAA7D), (0x11720, 0x11721)]⟩

/-- The vowels of syllables that are written as several characters. -/
def vowels : CodePoints :=
  ⟨[(0x1160, 0x11A7), (0xD7B0, 0xD7C6), (0x16D63, 0x16D63), (0x16D67, 0x16D6A)]⟩

/-- The characters that go with the one before them and take room. -/
def spacing : CodePoints :=
  .unions
    [spacingMarks.difference (.unions [graphemeExtend, looseMarks, vowels]), listed [0xE33, 0xEB3]]

/-- The code points of the syllables of the Hangul script without a final consonant. -/
def openSyllables : List Nat := (List.range 399).map fun index => 0xAC00 + 28 * index

/-- The classes of characters that matter for readers' characters. -/
def classes : List NamedSet :=
  [⟨["Control", "CN"], control⟩,
    ⟨["CR"], listed [0x0D]⟩,
    ⟨["Extend", "EX"], extend⟩,
    ⟨["L"], ⟨[(0x1100, 0x115F), (0xA960, 0xA97C)]⟩⟩,
    ⟨["LF"], listed [0x0A]⟩,
    ⟨["LV"], listed openSyllables⟩,
    ⟨["LVT"], .ofRuns (openSyllables.map fun code => (code + 1, code + 27))⟩,
    ⟨["Prepend", "PP"], prepend⟩,
    ⟨["Regional_Indicator", "RI"], regionalIndicators⟩,
    ⟨["SpacingMark", "SM"], spacing⟩,
    ⟨["T"], ⟨[(0x11A8, 0x11FF), (0xD7CB, 0xD7FB)]⟩⟩,
    ⟨["V"], vowels⟩,
    ⟨["ZWJ"], listed [0x200D]⟩]

end Grapheme

/-- The format characters that stand before numbers. -/
def numberSigns : CodePoints := prependedMarks.difference (listed [0x70F])

namespace WordClass

/-- The characters that extend the one before them. -/
def extend : CodePoints := .unions [graphemeExtend, spacingMarks, emojiModifiers]

/-- The characters of the Katakana script, and those that stand with them. -/
def katakana : CodePoints :=
  .unions
    [ofScript "Katakana",
      ⟨[(0x3031, 0x3035), (0x309B, 0x309C), (0x30A0, 0x30A0), (0x30FC, 0x30FC), (0xFF70, 0xFF70)]⟩]

/-- The letters of the Hebrew script. -/
def hebrew : CodePoints := (ofScript "Hebrew").intersection (ofCategories [.otherLetter])

/-- The characters that count as letters of words without being alphabetic. -/
def letterLike : CodePoints :=
  ⟨[(0x2C2, 0x2C5), (0x2D2, 0x2D7), (0x2DE, 0x2DF), (0x2E5, 0x2EB), (0x2ED, 0x2ED), (0x2EF, 0x2FF),
    (0x55A, 0x55C), (0x55E, 0x55E), (0x58A, 0x58A), (0x5F3, 0x5F3), (0x70F, 0x70F),
    (0xA708, 0xA716), (0xA720, 0xA721), (0xA789, 0xA78A), (0xAB5B, 0xAB5B)]⟩

/-- The scripts that are written without spaces between words. -/
def unspaced : List String :=
  ["Thai", "Lao", "Myanmar", "Khmer", "Tai_Le", "New_Tai_Lue", "Tai_Tham", "Tai_Viet", "Ahom",
    "Hiragana"]

/-- The letters of words. -/
def letter : CodePoints :=
  (CodePoints.unions [alphabetic, letterLike]).difference
    (.unions ([ideographs, katakana, extend, hebrew] ++ unspaced.map ofScript))

/-- The digits and signs of numbers. -/
def numeric : CodePoints := .unions [decimalDigits, listed [0x66B], numberSigns]

/-- The characters that are not shown and do not separate. -/
def format : CodePoints :=
  formats.difference (.unions [.between 0x200B 0x200D, graphemeExtend, prependedMarks])

/-- The classes of characters that matter for words. -/
def classes : List NamedSet :=
  [⟨["ALetter", "LE"], letter⟩,
    ⟨["CR"], listed [0x0D]⟩,
    ⟨["Double_Quote", "DQ"], listed [0x22]⟩,
    ⟨["Extend"], extend⟩,
    ⟨["ExtendNumLet", "EX"], .unions [ofCategories [.connectorPunctuation], listed [0x202F]]⟩,
    ⟨["Format", "FO"], format⟩,
    ⟨["Hebrew_Letter", "HL"], hebrew⟩,
    ⟨["Katakana", "KA"], katakana⟩,
    ⟨["LF"], listed [0x0A]⟩,
    ⟨["MidLetter", "ML"],
      listed [0x3A, 0xB7, 0x387, 0x55F, 0x5F4, 0x2027, 0xFE13, 0xFE55, 0xFF1A]⟩,
    ⟨["MidNum", "MN"],
      listed [0x2C, 0x3B, 0x37E, 0x589, 0x60C, 0x60D, 0x66C, 0x7F8, 0x2044, 0xFE10, 0xFE14, 0xFE50,
        0xFE54, 0xFF0C, 0xFF1B]⟩,
    ⟨["MidNumLet", "MB"], listed [0x2E, 0x2018, 0x2019, 0x2024, 0xFE52, 0xFF07, 0xFF0E]⟩,
    ⟨["Newline", "NL"], listed [0x0B, 0x0C, 0x85, 0x2028, 0x2029]⟩,
    ⟨["Numeric", "NU"], numeric⟩,
    ⟨["Regional_Indicator", "RI"], regionalIndicators⟩,
    ⟨["Single_Quote", "SQ"], listed [0x27]⟩,
    ⟨["WSegSpace"],
      ⟨[(0x20, 0x20), (0x1680, 0x1680), (0x2000, 0x2006), (0x2008, 0x200A), (0x205F, 0x205F),
        (0x3000, 0x3000)]⟩⟩,
    ⟨["ZWJ"], listed [0x200D]⟩]

end WordClass

namespace SentenceClass

/-- The characters that extend the one before them. -/
def extend : CodePoints := .unions [graphemeExtend, spacingMarks, listed [0x200D]]

/-- The separators of paragraphs. -/
def separator : CodePoints := listed [0x85, 0x2028, 0x2029]

/-- The lowercase letters. -/
def lower : CodePoints := lowercase.difference (.unions [graphemeExtend, georgianLowercase])

/-- The uppercase letters. -/
def upper : CodePoints :=
  (CodePoints.unions [titlecase, uppercase]).difference ⟨[(0x1C90, 0x1CBA), (0x1CBD, 0x1CBF)]⟩

/-- The other letters. -/
def otherLetter : CodePoints :=
  .unions
    [(CodePoints.unions [alphabetic, listed [0x5F3]]).difference (.unions [lower, upper, extend]),
      listed [0x70F]]

/-- The full stops, which need not end a sentence. -/
def stop : CodePoints := listed [0x2E, 0x2024, 0xFE52, 0xFF0E]

/-- The characters that are not shown and do not separate. -/
def format : CodePoints :=
  formats.difference (.unions [extend, prependedMarks])

/-- The brackets and quotation marks that go with a sentence. -/
def close : CodePoints :=
  .unions
    [ofCategories [.openPunctuation, .closePunctuation, .initialPunctuation, .finalPunctuation],
      ⟨[(0x22, 0x22), (0x27, 0x27), (0x275B, 0x2760), (0x2E00, 0x2E01), (0x2E06, 0x2E08),
        (0x2E0B, 0x2E0B), (0x1F676, 0x1F678)]⟩]

/-- The classes of characters that matter for sentences. -/
def classes : List NamedSet :=
  [⟨["ATerm", "AT"], stop⟩,
    ⟨["CR"], listed [0x0D]⟩,
    ⟨["Close", "CL"], close⟩,
    ⟨["Extend", "EX"], extend⟩,
    ⟨["Format", "FO"], format⟩,
    ⟨["LF"], listed [0x0A]⟩,
    ⟨["Lower", "LO"], lower⟩,
    ⟨["Numeric", "NU"], .unions [WordClass.numeric, listed [0x66C]]⟩,
    ⟨["OLetter", "LE"], otherLetter⟩,
    ⟨["SContinue", "SC"],
      ⟨[(0x2C, 0x2D), (0x3A, 0x3B), (0x37E, 0x37E), (0x55D, 0x55D), (0x60C, 0x60D), (0x7F8, 0x7F8),
        (0x1802, 0x1802), (0x1808, 0x1808), (0x2013, 0x2014), (0x3001, 0x3001), (0xFE10, 0xFE11),
        (0xFE13, 0xFE14), (0xFE31, 0xFE32), (0xFE50, 0xFE51), (0xFE54, 0xFE55), (0xFE58, 0xFE58),
        (0xFE63, 0xFE63), (0xFF0C, 0xFF0D), (0xFF1A, 0xFF1B), (0xFF64, 0xFF64)]⟩⟩,
    ⟨["STerm", "ST"], sentenceTerminals.difference stop⟩,
    ⟨["Sep", "SE"], separator⟩,
    ⟨["Sp", "SP"], whiteSpace.difference (.unions [separator, listed [0x0A, 0x0D]])⟩,
    ⟨["Upper", "UP"], upper⟩]

end SentenceClass
end Unicode
end LoxTokens
