import LoxTokens.Proofs.Markers
import LoxTokens.Proofs.NumberTexts
import LoxTokens.Proofs.Printing

/-!
# Texts in printed lines

What the lines of a scan hold comes from the source, but for the names and numbers in them.  So a
carriage return, or the beginning of a marker for expectations, can only be printed if the source
holds it.  Descriptions of errors hold no slash, and neither newlines nor carriage returns.
-/

namespace LoxTokens

/-! ## Tokens -/

private theorem null_loose : ∀ character ∈ Literal.null.text.toList, isLoose character :=
  List.all_eq_true.mp (by decide)

/-- What a value prints stands in its lexeme, or it is a word or a number. -/
theorem Lexeme.literal_text {options : Options} {text : List Char} {kind : Kind}
    {literal : Literal} (lexeme : Lexeme options text (.token kind literal)) :
    literal.text.toList <:+: text ∨ ∀ character ∈ literal.text.toList, isLoose character := by
  cases lexeme with
  | symbol | reserved | identifier => exact .inr null_loose
  | @string body => exact .inl ⟨['"'], ['"'], by simp [Literal.text]⟩
  | @number _ decimal _ finite =>
      have positive : decimal.toBinary64.negative = false := Binary64.nearest_nonnegative _ _
      have numeral := Decimal.numeral_text (Decimal.places_ofMagnitude_pos decimal.toBinary64)
      rw [← Binary64.toList_text_nonnegative finite positive] at numeral
      exact .inr numeral.loose

private theorem symbols_slashes : ∀ entry ∈ symbols, ¬ ['/', '/'] <:+ entry.1 := by decide

/-- No lexeme ends in two slashes. -/
theorem Lexeme.slashes_not_suffix {options : Options} {text : List Char} {verdict : Verdict}
    (lexeme : Lexeme options text verdict) : ¬ ['/', '/'] <:+ text := by
  have loose_text {text : List Char} (loose : ∀ character ∈ text, isLoose character) :
      ¬ ['/', '/'] <:+ text :=
    fun suffix => Bool.noConfusion (loose '/' (suffix.subset List.mem_cons_self))
  cases lexeme with
  | symbol known => exact symbols_slashes _ known
  | @string body =>
      intro suffix
      have last : ['/'] <:+ '"' :: (body ++ ['"']) := (List.suffix_cons '/' ['/']).trans suffix
      simp at last
  | number numeral | overflow numeral => exact loose_text numeral.loose
  | reserved _ isWord | identifier _ isWord => exact loose_text isWord.loose

namespace Scanner

variable {source : List Char} {options : Options} {token : Token}

theorem lexeme_isInfix (member : .token token ∈ (ofSource source options).items) :
    token.lexeme.toList <:+: source := by
  obtain ⟨tiles, closing, tiled⟩ := exists_tiled options source
  rw [items_ofSource tiled] at member
  obtain ⟨before, after, source_eq, -⟩ := tiled.token_place member
  exact ⟨before, after, by rw [source_eq, List.append_assoc]⟩

theorem literal_text (member : .token token ∈ (ofSource source options).items) :
    token.literal.text.toList <:+: source ∨
      ∀ character ∈ token.literal.text.toList, isLoose character := by
  obtain ⟨line, start, rfl⟩ | lexeme := lexeme_of_mem member
  · exact .inr null_loose
  · rcases lexeme.literal_text with inside | loose
    · exact .inl (inside.trans (lexeme_isInfix member))
    · exact .inr loose

theorem slashes_not_suffix_lexeme (member : .token token ∈ (ofSource source options).items) :
    ¬ ['/', '/'] <:+ token.lexeme.toList := by
  obtain ⟨line, start, rfl⟩ | lexeme := lexeme_of_mem member
  · intro suffix
    exact List.cons_ne_nil _ _ (List.suffix_nil.mp suffix)
  · exact lexeme.slashes_not_suffix

end Scanner

/-! ## Markers in printed tokens -/

open Expectations

/-- The only blank of the stem stands behind its slashes. -/
theorem markerStem_split {front back : List Char} (split : markerStem = front ++ ' ' :: back) :
    front = ['/', '/'] := by
  have slashes : markerStem = ['/', '/'] ++ ' ' :: "expect".toList := by decide
  rw [slashes] at split
  exact ((List.append_cons_inj_of_notMem (by decide) (by decide)).mp split).1.symm

/-- The stem holds a slash, and loose characters are none. -/
theorem markerStem_not_infix {text : List Char} (loose : ∀ character ∈ text, isLoose character) :
    ¬ markerStem <:+: text := by
  intro inside
  have slash : '/' ∈ markerStem := by decide
  exact Bool.noConfusion (loose '/' (inside.subset slash))

namespace Scanner

variable {source : List Char} {options : Options}

/-- A marker is printed only if the source holds it. -/
theorem markerStem_not_infix_tokenLines (unmarked : ¬ markerStem <:+: source) :
    ¬ markerStem <:+: (CommandLine.tokenLines (tokens source options)).toList := by
  rw [toList_tokenLines]
  have scanned : ∀ token ∈ tokens source options,
      .token token ∈ (ofSource source options).items := fun token => mem_tokens.mp
  generalize tokens source options = printed at scanned
  induction printed with
  | nil => decide
  | cons token later ih =>
      obtain ⟨member, scanned⟩ := List.forall_mem_cons.mp scanned
      rw [List.flatMap_cons, Token.printed_append]
      intro inside
      rcases infix_append_cons inside with inside | inside | ⟨front, back, split, ends, -⟩
      · exact markerStem_not_infix token.kind.isLoose_name inside
      · rcases infix_append_cons inside with inside | inside | ⟨front, back, split, ends, -⟩
        · exact unmarked (inside.trans (lexeme_isInfix member))
        · rcases infix_append_cons inside with inside | inside | ⟨front, back, split, -, -⟩
          · rcases literal_text member with stands | loose
            · exact unmarked (inside.trans stands)
            · exact markerStem_not_infix loose inside
          · exact ih scanned inside
          · -- The stem does not go over the end of a line.
            have closed : '\n' ∉ markerStem := by decide
            exact closed (split ▸ List.mem_append_right front List.mem_cons_self)
        · obtain rfl := markerStem_split split
          exact slashes_not_suffix_lexeme member ends
      · obtain rfl := markerStem_split split
        exact Bool.noConfusion (token.kind.isLoose_name '/' (ends.subset List.mem_cons_self))

/-- A carriage return is printed only if the source holds it. -/
theorem return_notMem_tokenLines (absent : '\r' ∉ source) :
    '\r' ∉ (CommandLine.tokenLines (tokens source options)).toList := by
  rw [toList_tokenLines, List.mem_flatMap]
  rintro ⟨token, scanned, inside⟩
  have member := mem_tokens.mp scanned
  rw [← List.append_nil token.printed, Token.printed_append] at inside
  simp only [List.mem_append, List.mem_cons, List.not_mem_nil, or_false] at inside
  rcases inside with inside | same | inside | same | inside | same
  · exact Bool.noConfusion (token.kind.isLoose_name '\r' inside)
  · contradiction
  · exact absent ((lexeme_isInfix member).subset inside)
  · contradiction
  · rcases literal_text member with stands | loose
    · exact absent (stands.subset inside)
    · exact Bool.noConfusion (loose '\r' inside)
  · contradiction

end Scanner

/-! ## Diagnostics -/

/-- Whether a character neither is a slash nor can belong to the ending of a line. -/
def isInert (character : Char) : Bool :=
  character != '/' && character != '\n' && character != '\r'

theorem isInert_of_isLoose {character : Char} (loose : isLoose character) : isInert character := by
  simp only [isInert, Bool.and_eq_true, bne_iff_ne]
  refine ⟨⟨?_, ?_⟩, ?_⟩ <;> rintro rfl <;> contradiction

/-- The text of an error on a line of a given number. -/
def errorText (line : Nat) (error : LexError) : String :=
  "[line " ++ line.repr ++ "] Error: " ++ error.message

theorem Diagnostic.text_eq (diagnostic : Diagnostic) :
    diagnostic.text = errorText diagnostic.line.toNat diagnostic.error := by
  simp [text, pieces, errorText, LexError.message, String.append_assoc]

namespace Scanner

variable {source : List Char} {options : Options} {diagnostic : Diagnostic}

/-- A character that is reported is not a slash, which is a lexeme, nor a blank. -/
theorem isInert_message (member : .diagnostic diagnostic ∈ (ofSource source options).items) :
    ∀ character ∈ diagnostic.error.message.toList, isInert character := by
  obtain ⟨gap, text, rest, longest, munches⟩ := munches_of_mem member
  generalize diagnostic.error = error at munches
  cases munches with
  | lexeme _ lexeme =>
      obtain rfl := lexeme.error_eq
      have numeral_loose : ∀ character ∈ text, isLoose character := by
        cases lexeme with
        | overflow numeral => exact numeral.loose
      have message_eq : (LexError.invalidNumber (String.ofList text)).message.toList =
          "Invalid number: ".toList ++ text := by
        simp [LexError.message, LexError.pieces]
      rw [message_eq, List.forall_mem_append]
      refine ⟨List.all_eq_true.mp (by decide), ?_⟩
      exact fun character member => isInert_of_isLoose (numeral_loose character member)
  | openString => exact List.all_eq_true.mp (by decide)
  | @unexpected first _ _ none =>
      have message_eq : (LexError.unexpectedCharacter first).message.toList =
          "Unexpected character: ".toList ++ [first] := by
        simp [LexError.message, LexError.pieces]
      rw [message_eq, List.forall_mem_append, List.forall_mem_singleton]
      refine ⟨List.all_eq_true.mp (by decide), ?_⟩
      have visible := longest.not_gap.1
      simp only [isInert, Bool.and_eq_true, bne_iff_ne]
      refine ⟨⟨?_, ?_⟩, ?_⟩
      · rintro rfl
        have slash : (['/'], Kind.slash) ∈ symbols := by decide
        exact none ['/'] ⟨rest, rfl⟩ ⟨_, .symbol slash⟩
      · rintro rfl
        exact visible rfl
      · rintro rfl
        exact visible rfl

theorem isInert_errorText (member : .diagnostic diagnostic ∈ (ofSource source options).items)
    (line : Nat) :
    ∀ character ∈ (errorText line diagnostic.error).toList, isInert character := by
  have digits : ∀ character ∈ line.repr.toList, isInert character := by
    intro character digit
    rw [Nat.toList_repr] at digit
    exact isInert_of_isLoose (isLoose_of_isDigit (Decimal.isDigit_toDigits line character digit))
  simp only [errorText, String.toList_append, List.forall_mem_append]
  exact ⟨⟨⟨List.all_eq_true.mp (by decide), digits⟩, List.all_eq_true.mp (by decide)⟩,
    isInert_message member⟩

end Scanner

end LoxTokens
