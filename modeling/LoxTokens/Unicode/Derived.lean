import LoxTokens.Unicode.Category
import LoxTokens.Unicode.Invisible
import LoxTokens.Unicode.Letter
import LoxTokens.Unicode.Symbol

/-!
# Sets derived from general categories

Most sets of characters are those of some general categories, together with a list of others, and
without some more.
-/

namespace LoxTokens
namespace Unicode

/-- The characters of some general categories. -/
def ofCategories (categories : List Category) : CodePoints :=
  .ofRuns (categories.flatMap Category.runs)

/-- The categories of cased letters. -/
def casedLetters : List Category := [.uppercaseLetter, .lowercaseLetter, .titlecaseLetter]

/-- The categories of letters. -/
def letters : List Category := casedLetters ++ [.modifierLetter, .otherLetter]

/-- The categories of marks. -/
def marks : List Category := [.nonspacingMark, .spacingMark, .enclosingMark]

/-- The categories of numbers. -/
def numbers : List Category := [.decimalNumber, .letterNumber, .otherNumber]

/-- The categories of punctuation. -/
def punctuation : List Category :=
  [.connectorPunctuation, .dashPunctuation, .openPunctuation, .closePunctuation,
    .initialPunctuation, .finalPunctuation, .otherPunctuation]

/-- The categories of symbols. -/
def symbols : List Category := [.mathSymbol, .currencySymbol, .modifierSymbol, .otherSymbol]

/-- The categories of separators. -/
def separators : List Category := [.spaceSeparator, .lineSeparator, .paragraphSeparator]

/-- The code points that are surrogates; no character is. -/
def surrogates : CodePoints := .between 0xD800 0xDFFF

/-- The code points without a category. -/
def unassigned : CodePoints :=
  (CodePoints.unions [ofCategories Category.all, surrogates]).complement CodePoints.last

/-- The characters that are neither letters, marks, numbers, punctuation, symbols nor separators. -/
def others : CodePoints :=
  .unions [ofCategories [.control, .format, .privateUse], unassigned]

/-- The lowercase characters. -/
def lowercase : CodePoints := .unions [ofCategories [.lowercaseLetter], otherLowercase]

/-- The uppercase characters. -/
def uppercase : CodePoints := .unions [ofCategories [.uppercaseLetter], otherUppercase]

/-- The alphabetic characters. -/
def alphabetic : CodePoints :=
  .unions [ofCategories (letters ++ [.letterNumber]), otherAlphabetic]

/-- The decimal digits. -/
def decimalDigits : CodePoints := ofCategories [.decimalNumber]

/-- The characters of words. -/
def word : CodePoints :=
  .unions [alphabetic, ofCategories (marks ++ [.decimalNumber, .connectorPunctuation]), joiners]

/-- The characters of names in patterns that are not punctuation. -/
def alphanumeric : CodePoints := .unions [alphabetic, ofCategories numbers]

/-- The mathematical characters. -/
def math : CodePoints := .unions [ofCategories [.mathSymbol], otherMath]

/-- The titlecase characters. -/
def titlecase : CodePoints := ofCategories [.titlecaseLetter]

/-- The characters with a case. -/
def cased : CodePoints := .unions [uppercase, lowercase, titlecase]

/-- The punctuation marks that may stand inside a word. -/
def midWord : CodePoints :=
  ⟨[(0x27, 0x27), (0x2E, 0x2E), (0x3A, 0x3A), (0xB7, 0xB7), (0x387, 0x387), (0x55F, 0x55F),
    (0x5F4, 0x5F4), (0x2018, 0x2019), (0x2024, 0x2024), (0x2027, 0x2027), (0xFE13, 0xFE13),
    (0xFE52, 0xFE52), (0xFE55, 0xFE55), (0xFF07, 0xFF07), (0xFF0E, 0xFF0E), (0xFF1A, 0xFF1A)]⟩

/-- The characters that are passed over where the case of their neighbours matters. -/
def caseIgnorable : CodePoints :=
  .unions
    [ofCategories [.nonspacingMark, .enclosingMark, .format, .modifierLetter, .modifierSymbol],
      midWord]

/-- The characters that change when they are lowercased. -/
def changesLowercased : CodePoints :=
  (CodePoints.unions [uppercase, titlecase]).difference loneUppercase

/-- The characters that change when they are uppercased. -/
def changesUppercased : CodePoints := .unions [lowercase.difference loneLowercase, titlecase]

/-- The letters of the Georgian script that have no titlecase counterpart. -/
def georgianLowercase : CodePoints := ⟨[(0x10D0, 0x10FA), (0x10FD, 0x10FF)]⟩

/-- The uppercase digraphs of the Latin script that have a titlecase counterpart. -/
def latinDigraphs : CodePoints :=
  ⟨[(0x1C4, 0x1C4), (0x1C7, 0x1C7), (0x1CA, 0x1CA), (0x1F1, 0x1F1)]⟩

/-- The characters that change when they are titlecased. -/
def changesTitlecased : CodePoints :=
  .unions [(lowercase.difference loneLowercase).difference georgianLowercase, latinDigraphs]

/-- The letters of the Cherokee script that stay as they are when case is ignored. -/
def cherokeeUppercase : CodePoints := .between 0x13A0 0x13F5

/-- The characters that change when case is ignored. -/
def changesCasefolded : CodePoints :=
  .unions [changesLowercased.difference cherokeeUppercase, foldedLowercase]

/-- The characters that change when their case is changed in some way. -/
def changesCasemapped : CodePoints :=
  .unions [changesLowercased, changesUppercased, changesTitlecased]

/-- The characters that identifiers do not contain because they belong to the syntax. -/
def syntactic : CodePoints := .unions [patternSyntax, patternWhiteSpace]

/-- The characters that begin identifiers. -/
def idStart : CodePoints :=
  (CodePoints.unions [ofCategories (letters ++ [.letterNumber]), otherIdStart]).difference syntactic

/-- The characters that identifiers contain. -/
def idContinue : CodePoints :=
  .unions
    [idStart,
      ofCategories [.nonspacingMark, .spacingMark, .decimalNumber, .connectorPunctuation],
      otherIdContinue]

/-- The characters that begin identifiers, normalized or not. -/
def xidStart : CodePoints := idStart.difference openingCompatibility

/-- The characters that identifiers contain, normalized or not. -/
def xidContinue : CodePoints := idContinue.difference innerCompatibility

/-- The characters that are ignored in display when they are not supported. -/
def defaultIgnorable : CodePoints :=
  (CodePoints.unions [otherDefaultIgnorable, ofCategories [.format], variationSelectors]).difference
    (.unions [whiteSpace, shownFormats, prependedMarks])

/-- The characters that extend the one before them. -/
def graphemeExtend : CodePoints :=
  .unions [ofCategories [.nonspacingMark, .enclosingMark], otherGraphemeExtend]

/-- The characters that stand for themselves, and may be extended. -/
def graphemeBase : CodePoints :=
  (CodePoints.unions
    [others, surrogates, ofCategories [.lineSeparator, .paragraphSeparator],
      graphemeExtend]).complement CodePoints.last

end Unicode
end LoxTokens
