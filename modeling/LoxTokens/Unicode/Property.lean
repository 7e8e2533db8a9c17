import LoxTokens.Unicode.Age
import LoxTokens.Unicode.Boundary
import LoxTokens.Unicode.ScriptExtension

/-!
# Properties of characters

Sets of characters are known by name: properties that characters have or have not, general
categories and their groups, and scripts.  Other properties have values, each of which has a set.
Case, blanks, hyphens, low lines and a leading `is` do not count in a name.
-/

namespace LoxTokens
namespace Unicode

/-- A name without what does not count in it. -/
def normalizeName (name : String) : String :=
  let plain (text : List Char) : List Char :=
    (text.filter fun character =>
      character.toNat < 0x80 && character != ' ' && character != '_' && character != '-').map
      Char.toLower
  match name.toList with
  | first :: second :: rest =>
      if first.toLower = 'i' ∧ second.toLower = 's' then
        let rest := plain rest
        String.ofList (if rest = ['c'] then ['i', 's', 'c'] else rest)
      else String.ofList (plain (first :: second :: rest))
  | short => String.ofList (plain short)

/-- Whether a normalized name is one of some names. -/
def isAmong (name : String) (names : List String) : Bool :=
  names.any fun candidate => normalizeName candidate == name

/-- The members of the set with a normalized name. -/
def lookUp? (name : String) (sets : List NamedSet) : Option CodePoints :=
  (sets.find? fun set => isAmong name set.names).map NamedSet.members

/-- The properties that characters have or have not. -/
def binaryProperties : List NamedSet :=
  [⟨["ASCII_Hex_Digit", "AHex"], asciiHexDigits⟩,
    ⟨["Alphabetic", "Alpha"], alphabetic⟩,
    ⟨["Bidi_Control", "Bidi_C"], bidiControls⟩,
    ⟨["Case_Ignorable", "CI"], caseIgnorable⟩,
    ⟨["Cased"], cased⟩,
    ⟨["Changes_When_Casefolded", "CWCF"], changesCasefolded⟩,
    ⟨["Changes_When_Casemapped", "CWCM"], changesCasemapped⟩,
    ⟨["Changes_When_Lowercased", "CWL"], changesLowercased⟩,
    ⟨["Changes_When_Titlecased", "CWT"], changesTitlecased⟩,
    ⟨["Changes_When_Uppercased", "CWU"], changesUppercased⟩,
    ⟨["Dash"], dashes⟩,
    ⟨["Default_Ignorable_Code_Point", "DI"], defaultIgnorable⟩,
    ⟨["Deprecated", "Dep"], deprecated⟩,
    ⟨["Diacritic", "Dia"], diacritics⟩,
    ⟨["Emoji"], emoji⟩,
    ⟨["Emoji_Component", "EComp"], emojiComponents⟩,
    ⟨["Emoji_Modifier", "EMod"], emojiModifiers⟩,
    ⟨["Emoji_Modifier_Base", "EBase"], emojiModifierBases⟩,
    ⟨["Emoji_Presentation", "EPres"], emojiPresentation⟩,
    ⟨["Extended_Pictographic", "ExtPict"], pictographs⟩,
    ⟨["Extender", "Ext"], extenders⟩,
    ⟨["Grapheme_Base", "Gr_Base"], graphemeBase⟩,
    ⟨["Grapheme_Extend", "Gr_Ext"], graphemeExtend⟩,
    ⟨["Grapheme_Link", "Gr_Link"], graphemeLinks⟩,
    ⟨["Hex_Digit", "Hex"], hexDigits⟩,
    ⟨["Hyphen"], hyphens⟩,
    ⟨["IDS_Binary_Operator", "IDSB"], binaryDescriptions⟩,
    ⟨["IDS_Trinary_Operator", "IDST"], trinaryDescriptions⟩,
    ⟨["IDS_Unary_Operator", "IDSU"], unaryDescriptions⟩,
    ⟨["ID_Compat_Math_Continue"], mathIdContinue⟩,
    ⟨["ID_Compat_Math_Start"], mathIdStart⟩,
    ⟨["ID_Continue", "IDC"], idContinue⟩,
    ⟨["ID_Start", "IDS"], idStart⟩,
    ⟨["Ideographic", "Ideo"], ideographs⟩,
    ⟨["Join_Control", "Join_C"], joiners⟩,
    ⟨["Logical_Order_Exception", "LOE"], logicalOrderExceptions⟩,
    ⟨["Lowercase", "Lower"], lowercase⟩,
    ⟨["Math"], math⟩,
    ⟨["Modifier_Combining_Mark", "MCM"], modifierCombiningMarks⟩,
    ⟨["Noncharacter_Code_Point", "NChar"], nonCharacters⟩,
    ⟨["Other_Alphabetic", "OAlpha"], otherAlphabetic⟩,
    ⟨["Other_Default_Ignorable_Code_Point", "ODI"], otherDefaultIgnorable⟩,
    ⟨["Other_Grapheme_Extend", "OGr_Ext"], otherGraphemeExtend⟩,
    ⟨["Other_ID_Continue", "OIDC"], otherIdContinue⟩,
    ⟨["Other_ID_Start", "OIDS"], otherIdStart⟩,
    ⟨["Other_Lowercase", "OLower"], otherLowercase⟩,
    ⟨["Other_Math", "OMath"], otherMath⟩,
    ⟨["Other_Uppercase", "OUpper"], otherUppercase⟩,
    ⟨["Pattern_Syntax", "Pat_Syn"], patternSyntax⟩,
    ⟨["Pattern_White_Space", "Pat_WS"], patternWhiteSpace⟩,
    ⟨["Prepended_Concatenation_Mark", "PCM"], prependedMarks⟩,
    ⟨["Quotation_Mark", "QMark"], quotationMarks⟩,
    ⟨["Radical"], radicals⟩,
    ⟨["Regional_Indicator", "RI"], regionalIndicators⟩,
    ⟨["Sentence_Terminal", "STerm"], sentenceTerminals⟩,
    ⟨["Soft_Dotted", "SD"], softDotted⟩,
    ⟨["Terminal_Punctuation", "Term"], terminalPunctuation⟩,
    ⟨["Unified_Ideograph", "UIdeo"], unifiedIdeographs⟩,
    ⟨["Uppercase", "Upper"], uppercase⟩,
    ⟨["Variation_Selector", "VS"], variationSelectors⟩,
    ⟨["White_Space", "WSpace", "space"], whiteSpace⟩,
    ⟨["XID_Continue", "XIDC"], xidContinue⟩,
    ⟨["XID_Start", "XIDS"], xidStart⟩]

/-- The names of the properties with values that have sets. -/
def valuedProperties : List String :=
  ["Age", "General_Category", "gc", "Grapheme_Cluster_Break", "GCB", "Script", "sc",
    "Script_Extensions", "scx", "Sentence_Break", "SB", "Word_Break", "WB"]

/-- The names of the properties for which there are no sets. -/
def otherProperties : List String :=
  ["Bidi_Class", "bc", "Bidi_Mirrored", "Bidi_M", "Bidi_Mirroring_Glyph", "bmg",
    "Bidi_Paired_Bracket", "bpb", "Bidi_Paired_Bracket_Type", "bpt", "Block", "blk",
    "Canonical_Combining_Class", "ccc", "Case_Folding", "cf", "Changes_When_NFKC_Casefolded",
    "CWKCF", "Composition_Exclusion", "CE", "Decomposition_Mapping", "dm", "Decomposition_Type",
    "dt", "East_Asian_Width", "ea", "Equivalent_Unified_Ideograph", "EqUIdeo", "Expands_On_NFC",
    "XO_NFC", "Expands_On_NFD", "XO_NFD", "Expands_On_NFKC", "XO_NFKC", "Expands_On_NFKD",
    "XO_NFKD", "FC_NFKC_Closure", "FC_NFKC", "Full_Composition_Exclusion", "Comp_Ex",
    "Hangul_Syllable_Type", "hst", "ISO_Comment", "isc", "Indic_Conjunct_Break", "InCB",
    "Indic_Positional_Category", "InPC", "Indic_Syllabic_Category", "InSC", "Jamo_Short_Name",
    "JSN", "Joining_Group", "jg", "Joining_Type", "jt", "Line_Break", "lb", "Lowercase_Mapping",
    "lc", "NFC_Quick_Check", "NFC_QC", "NFD_Quick_Check", "NFD_QC", "NFKC_Casefold", "NFKC_CF",
    "NFKC_Quick_Check", "NFKC_QC", "NFKC_Simple_Casefold", "NFKC_SCF", "NFKD_Quick_Check",
    "NFKD_QC", "Name", "na", "Name_Alias", "Numeric_Type", "nt", "Numeric_Value", "nv",
    "Simple_Case_Folding", "scf", "sfc", "Simple_Lowercase_Mapping", "slc",
    "Simple_Titlecase_Mapping", "stc", "Simple_Uppercase_Mapping", "suc", "Titlecase_Mapping",
    "tc", "Unicode_1_Name", "na1", "Unicode_Radical_Stroke", "kRSUnicode", "cjkRSUnicode", "URS",
    "Uppercase_Mapping", "uc", "Vertical_Orientation", "vo", "kAccountingNumeric",
    "cjkAccountingNumeric", "kCompatibilityVariant", "cjkCompatibilityVariant", "kEH_Cat",
    "kEH_Desc", "kEH_HG", "kEH_IFAO", "kEH_JSesh", "kEH_NoMirror", "kEH_NoRotate", "kIICore",
    "cjkIICore", "kIRG_GSource", "cjkIRG_GSource", "kIRG_HSource", "cjkIRG_HSource",
    "kIRG_JSource", "cjkIRG_JSource", "kIRG_KPSource", "cjkIRG_KPSource", "kIRG_KSource",
    "cjkIRG_KSource", "kIRG_MSource", "cjkIRG_MSource", "kIRG_SSource", "cjkIRG_SSource",
    "kIRG_TSource", "cjkIRG_TSource", "kIRG_UKSource", "cjkIRG_UKSource", "kIRG_USource",
    "cjkIRG_USource", "kIRG_VSource", "cjkIRG_VSource", "kOtherNumeric", "cjkOtherNumeric",
    "kPrimaryNumeric", "cjkPrimaryNumeric"]

/-- The names of all properties. -/
def propertyNames : List String :=
  binaryProperties.flatMap NamedSet.names ++ valuedProperties ++ otherProperties

/-- Why a name stands for no set of characters. -/
inductive PropertyFault where
  /-- There is no such property, or no set for it. -/
  | property
  /-- The property has no such value, or no set for it. -/
  | value
  deriving DecidableEq

/-- The characters of a group of general categories, by its normalized name. -/
def group? (name : String) : Option CodePoints :=
  if name = "any" then some .full
  else if name = "assigned" then some (unassigned.complement CodePoints.last)
  else if name = "ascii" then some (.between 0 0x7F)
  else if isAmong name ["L", "Letter"] then some (ofCategories letters)
  else if isAmong name ["LC", "Cased_Letter"] then some (ofCategories casedLetters)
  else if isAmong name ["M", "Mark", "Combining_Mark"] then some (ofCategories marks)
  else if isAmong name ["N", "Number"] then some (ofCategories numbers)
  else if isAmong name ["P", "Punctuation", "punct"] then some (ofCategories punctuation)
  else if isAmong name ["S", "Symbol"] then some (ofCategories symbols)
  else if isAmong name ["Z", "Separator"] then some (ofCategories separators)
  else if isAmong name ["C", "Other"] then some others
  else if isAmong name ["Cn", "Unassigned"] then some unassigned
  else if name = "digit" then some decimalDigits
  else if name = "cntrl" then some (ofCategories [.control])
  else none

/-- The characters of a general category or a group of them, by its normalized name. -/
def category? (name : String) : Option CodePoints :=
  match Category.all.find? fun category => isAmong name [category.abbreviation, category.name] with
  | some category => some (ofCategories [category])
  | none => group? name

/-- The script with a normalized name. -/
def findScript? (name : String) : Option Script :=
  Script.all.find? fun script => isAmong name (script.name :: script.abbreviations)

/-- The characters of a script, by its normalized name. -/
def script? (name : String) : Option CodePoints :=
  (findScript? name).map fun script => .ofRuns script.runs

/-- The characters that are used in a script. -/
def extendedScript (script : Script) : CodePoints :=
  let shared := CodePoints.ofRuns (ScriptExtension.all.map fun entry => (entry.first, entry.last))
  let used := ScriptExtension.all.filter fun entry =>
    script.abbreviations.any entry.scripts.contains
  .unions
    [(CodePoints.ofRuns script.runs).difference shared,
      .ofRuns (used.map fun entry => (entry.first, entry.last))]

/-- The characters that are used in a script, by its normalized name. -/
def extendedScript? (name : String) : Option CodePoints := (findScript? name).map extendedScript

/-- The characters that a version of the standard contains, by its normalized name. -/
def age? (name : String) : Option CodePoints :=
  let isNamed (version : Version) : Bool := isAmong name [version.number, version.name]
  if Version.all.any isNamed then
    let earlier := Version.all.takeWhile fun version => !isNamed version
    some (.unions ((earlier ++ (Version.all.find? isNamed).toList).map Version.added))
  else none

/-- The names of general categories and scripts that have no characters. -/
def emptyValues : List String :=
  ["Cs", "Surrogate", "Hrkt", "Katakana_Or_Hiragana", "Zzzz", "Unknown"]

/-- The abbreviations of categories that are not taken for properties of the same name. -/
def categoriesFirst : List String := ["Cf", "Sc", "LC"]

/-- The characters of a general category or a script, by a normalized name. -/
def classified (name : String) : Except PropertyFault CodePoints :=
  match category? name <|> script? name with
  | some set => .ok set
  | none => .error (if isAmong name emptyValues then .value else .property)

/-- The characters that a single name stands for. -/
def named (name : String) : Except PropertyFault CodePoints :=
  let name := normalizeName name
  if isAmong name propertyNames && !isAmong name categoriesFirst then
    match lookUp? name binaryProperties with
    | some set => .ok set
    | none => .error .property
  else classified name

/-- The set of a value of a property, both by their normalized names. -/
def valueSet? (property value : String) : Option CodePoints :=
  if isAmong property ["General_Category", "gc"] then category? value
  else if isAmong property ["Script", "sc"] then script? value
  else if isAmong property ["Script_Extensions", "scx"] then extendedScript? value
  else if isAmong property ["Age"] then age? value
  else if isAmong property ["Grapheme_Cluster_Break", "GCB"] then lookUp? value Grapheme.classes
  else if isAmong property ["Word_Break", "WB"] then lookUp? value WordClass.classes
  else if isAmong property ["Sentence_Break", "SB"] then lookUp? value SentenceClass.classes
  else none

/-- The characters for which a property has a value. -/
def withValue (property value : String) : Except PropertyFault CodePoints :=
  let property := normalizeName property
  match valueSet? property (normalizeName value) with
  | some set => .ok set
  | none => .error (if isAmong property propertyNames then .value else .property)

end Unicode
end LoxTokens
