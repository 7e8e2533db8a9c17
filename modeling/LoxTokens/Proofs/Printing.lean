import LoxTokens.CommandLine
import LoxTokens.Proofs.Words
import Mathlib.Data.List.Nodup

/-!
# Printed lines

The lines of the tokens of a scan tell the kinds, lexemes and values of the tokens, and the lines
of its diagnostics tell the diagnostics.  Nothing in a line is escaped, and a string may hold blanks
and newlines, even text that looks like the line of a token.  Each part still says where it ends: a
name at the first blank, a string at its second quote, any other lexeme at the first blank, and then
the value is known.
-/

namespace LoxTokens

/-- The line of a proper value tells a key of the value and where the line ends. -/
structure SelfDelimiting {α κ : Type} (proper : α → Prop) (line : α → List Char) (key : α → κ) :
    Prop where
  /-- No line is empty. -/
  nonempty : ∀ value, line value ≠ []
  /-- A line tells its key and where it ends, whatever follows. -/
  tells : ∀ {left right : α} {after other : List Char}, proper left → proper right →
    line left ++ after = line right ++ other → key left = key right ∧ after = other

/-- Lines that tell their keys and ends tell the keys of a whole list. -/
theorem SelfDelimiting.map_key_eq {α κ : Type} {proper : α → Prop} {line : α → List Char}
    {key : α → κ} (delimits : SelfDelimiting proper line key) {left right : List α}
    (left_proper : ∀ value ∈ left, proper value) (right_proper : ∀ value ∈ right, proper value)
    (same : left.flatMap line = right.flatMap line) : left.map key = right.map key := by
  induction left generalizing right with
  | nil =>
      cases right with
      | nil => rfl
      | cons head right =>
          rw [List.flatMap_nil, List.flatMap_cons] at same
          exact (delimits.nonempty head (List.append_eq_nil_iff.mp same.symm).1).elim
  | cons first left ih =>
      cases right with
      | nil =>
          rw [List.flatMap_nil, List.flatMap_cons] at same
          exact (delimits.nonempty first (List.append_eq_nil_iff.mp same).1).elim
      | cons head right =>
          obtain ⟨first_proper, left_proper⟩ := List.forall_mem_cons.mp left_proper
          obtain ⟨head_proper, right_proper⟩ := List.forall_mem_cons.mp right_proper
          rw [List.flatMap_cons, List.flatMap_cons] at same
          obtain ⟨key_eq, later⟩ := delimits.tells first_proper head_proper same
          rw [List.map_cons, List.map_cons, key_eq, ih left_proper right_proper later]

/-- The text in front of a stop that it does not hold is told apart from what comes later. -/
theorem eq_of_append_stop {stop : Char} {left right after other : List Char}
    (left_closed : stop ∉ left) (right_closed : stop ∉ right)
    (same : left ++ stop :: after = right ++ stop :: other) : left = right ∧ after = other := by
  have fronts := congrArg (List.takeWhile (· != stop)) same
  rw [takeWhile_append_stop (bne_of_notMem left_closed) (by simp),
    takeWhile_append_stop (bne_of_notMem right_closed) (by simp)] at fronts
  subst fronts
  exact ⟨rfl, (List.cons.inj (List.append_cancel_left same)).2⟩

/-! ## Kinds -/

theorem Keyword.mem_all (word : Keyword) : word ∈ all := by
  cases word <;> decide

theorem Kind.mem_all (kind : Kind) : kind ∈ all := by
  cases kind with
  | keyword word =>
      have listed := List.mem_map_of_mem (f := keyword) word.mem_all
      exact List.mem_append_left _ (List.mem_append_right _ listed)
  | _ => decide

theorem Kind.name_injective {left right : Kind} (same : left.name = right.name) : left = right :=
  List.inj_on_of_nodup_map (by decide +kernel : (all.map name).Nodup) left.mem_all right.mem_all
    same

private theorem names_loose : Kind.all.all fun kind => kind.name.toList.all isLoose := by
  decide +kernel

/-- The name of a kind is made of letters and underscores. -/
theorem Kind.isLoose_name (kind : Kind) : ∀ character ∈ kind.name.toList, isLoose character :=
  List.all_eq_true.mp (List.all_eq_true.mp names_loose kind kind.mem_all)

theorem Kind.blank_notMem_name (kind : Kind) : ' ' ∉ kind.name.toList :=
  fun member => Bool.noConfusion (kind.isLoose_name ' ' member)

/-! ## Tokens -/

private theorem symbols_ne_string : ∀ entry ∈ symbols, entry.2 ≠ .string := by decide

/-- A lexeme of the grammar without words is one of the grammar with words. -/
theorem Lexeme.withWords {options : Options} {text : List Char} {verdict : Verdict}
    (lexeme : Lexeme options text verdict) : Lexeme { identifiers := true } text verdict := by
  cases lexeme with
  | symbol known => exact .symbol known
  | string closed => exact .string closed
  | number numeral finite => exact .number numeral finite
  | overflow numeral infinite => exact .overflow numeral infinite
  | reserved _ isWord spelled => exact .reserved rfl isWord spelled
  | identifier _ isWord free => exact .identifier rfl isWord free

/-- What the rules say of a text does not depend on words. -/
theorem Lexeme.agree {left right : Options} {text : List Char} {verdict other : Verdict}
    (isLeft : Lexeme left text verdict) (isRight : Lexeme right text other) : verdict = other :=
  isLeft.withWords.unique isRight.withWords

theorem Lexeme.blank_notMem {options : Options} {text : List Char} {kind : Kind}
    {literal : Literal} (lexeme : Lexeme options text (.token kind literal))
    (other : kind ≠ .string) : ' ' ∉ text := by
  rcases lexeme.string_or_visible with ⟨body, closed, rfl⟩ | visible
  · have verdict_eq := lexeme.unique (.string closed)
    exact (other (Verdict.token.inj verdict_eq).1).elim
  · exact fun member => visible ' ' member rfl

theorem Lexeme.exists_body {options : Options} {text : List Char} {literal : Literal}
    (lexeme : Lexeme options text (.token .string literal)) :
    ∃ body, '"' ∉ body ∧ text = '"' :: (body ++ ['"']) := by
  cases lexeme with
  | symbol known => exact (symbols_ne_string _ known rfl).elim
  | string closed => exact ⟨_, closed, rfl⟩

namespace Token

/-- A token that some scan makes. -/
def Scanned (token : Token) : Prop :=
  ∃ source options, .token token ∈ (Scanner.ofSource source options).items

/-- The printed line of a token. -/
def printed (token : Token) : List Char := token.text.toList ++ ['\n']

/-- What a line of a token tells. -/
def content (token : Token) : Kind × String × Literal :=
  (token.kind, token.lexeme, token.literal)

theorem printed_append (token : Token) (after : List Char) :
    token.printed ++ after =
      token.kind.name.toList ++ ' ' ::
        (token.lexeme.toList ++ ' ' :: (token.literal.text.toList ++ '\n' :: after)) := by
  simp [printed, text]

namespace Scanned

variable {token left right : Token}

theorem blank_notMem (scanned : token.Scanned) (other : token.kind ≠ .string) :
    ' ' ∉ token.lexeme.toList := by
  obtain ⟨source, options, member⟩ := scanned
  obtain ⟨line, start, rfl⟩ | lexeme := Scanner.lexeme_of_mem member
  · simp [eof]
  · exact lexeme.blank_notMem other

theorem exists_body (scanned : token.Scanned) (isString : token.kind = .string) :
    ∃ body, '"' ∉ body ∧ token.lexeme.toList = '"' :: (body ++ ['"']) := by
  obtain ⟨source, options, member⟩ := scanned
  obtain ⟨line, start, rfl⟩ | lexeme := Scanner.lexeme_of_mem member
  · contradiction
  · rw [isString] at lexeme
    exact lexeme.exists_body

/-- The kind of a token tells where its lexeme ends. -/
theorem lexeme_eq (isLeft : left.Scanned) (isRight : right.Scanned)
    (kind_eq : left.kind = right.kind) {after other : List Char}
    (same : left.lexeme.toList ++ ' ' :: after = right.lexeme.toList ++ ' ' :: other) :
    left.lexeme = right.lexeme ∧ after = other := by
  by_cases isString : left.kind = .string
  · obtain ⟨body, closed, left_eq⟩ := isLeft.exists_body isString
    obtain ⟨otherBody, other_closed, right_eq⟩ := isRight.exists_body (kind_eq ▸ isString)
    have bodies : body ++ '"' :: ' ' :: after = otherBody ++ '"' :: ' ' :: other := by
      simpa [left_eq, right_eq] using same
    obtain ⟨rfl, later⟩ := eq_of_append_stop closed other_closed bodies
    exact ⟨String.toList_inj.mp (left_eq.trans right_eq.symm), (List.cons.inj later).2⟩
  · obtain ⟨lexeme_eq, later⟩ := eq_of_append_stop (isLeft.blank_notMem isString)
      (isRight.blank_notMem (kind_eq ▸ isString)) same
    exact ⟨String.toList_inj.mp lexeme_eq, later⟩

/-- The kind and the lexeme of a token tell its value. -/
theorem literal_eq (isLeft : left.Scanned) (isRight : right.Scanned)
    (kind_eq : left.kind = right.kind) (lexeme_eq : left.lexeme = right.lexeme) :
    left.literal = right.literal := by
  obtain ⟨source, options, member⟩ := isLeft
  obtain ⟨otherSource, otherOptions, otherMember⟩ := isRight
  obtain ⟨line, start, rfl⟩ | lexeme := Scanner.lexeme_of_mem member
  · obtain ⟨otherLine, otherStart, rfl⟩ | otherLexeme := Scanner.lexeme_of_mem otherMember
    · rfl
    · exact (otherLexeme.ne_eof kind_eq.symm).elim
  · obtain ⟨otherLine, otherStart, rfl⟩ | otherLexeme := Scanner.lexeme_of_mem otherMember
    · exact (lexeme.ne_eof kind_eq).elim
    · rw [lexeme_eq] at lexeme
      exact (Verdict.token.inj (lexeme.agree otherLexeme)).2

end Scanned

/-- The line of a token with a given content. -/
def lineOf (content : Kind × String × Literal) : List Char :=
  (content.1.name ++ " " ++ content.2.1 ++ " " ++ content.2.2.text).toList ++ ['\n']

/-- Nothing but its content shows in the line of a token. -/
theorem flatMap_printed (tokens : List Token) :
    tokens.flatMap printed = (tokens.map content).flatMap lineOf :=
  (List.flatMap_map content lineOf tokens).symm

/-- The line of a token tells its kind, its lexeme and its value. -/
theorem selfDelimiting_printed : SelfDelimiting Scanned printed content where
  nonempty token := by simp [printed]
  tells := by
    intro left right after other isLeft isRight same
    rw [printed_append, printed_append] at same
    obtain ⟨name_eq, same⟩ :=
      eq_of_append_stop left.kind.blank_notMem_name right.kind.blank_notMem_name same
    have kind_eq := Kind.name_injective (String.toList_inj.mp name_eq)
    obtain ⟨lexeme_eq, same⟩ := isLeft.lexeme_eq isRight kind_eq same
    have literal_eq := isLeft.literal_eq isRight kind_eq lexeme_eq
    rw [literal_eq] at same
    refine ⟨?_, (List.cons.inj (List.append_cancel_left same)).2⟩
    rw [content, kind_eq, lexeme_eq, literal_eq, content]

end Token

/-- The lines of tokens one after another. -/
theorem toList_tokenLines (tokens : List Token) :
    (CommandLine.tokenLines tokens).toList = tokens.flatMap Token.printed := by
  rw [CommandLine.tokenLines, String.toList_join, List.flatMap_map]
  exact List.flatMap_congr fun token _ => String.toList_append

/-! ## Diagnostics -/

namespace LexError

/-- An error whose description stays on its line. -/
def OnOneLine : LexError → Prop
  | unexpectedCharacter _ => True
  | unterminatedString => True
  | invalidNumber lexeme => '\n' ∉ lexeme.toList

/-- A description tells the error and where it ends. -/
theorem tells_message {left right : LexError} {after other : List Char} (isLeft : left.OnOneLine)
    (isRight : right.OnOneLine)
    (same : left.message.toList ++ '\n' :: after = right.message.toList ++ '\n' :: other) :
    left = right ∧ after = other := by
  -- Descriptions of different errors have different beginnings.
  cases left <;> cases right <;> simp [message, pieces] at same
  case unexpectedCharacter.unexpectedCharacter =>
    obtain ⟨rfl, rfl⟩ := same
    exact ⟨rfl, rfl⟩
  case unterminatedString.unterminatedString => exact ⟨rfl, same⟩
  case invalidNumber.invalidNumber =>
    obtain ⟨lexeme_eq, rfl⟩ := eq_of_append_stop isLeft isRight same
    rw [String.toList_inj.mp lexeme_eq]
    exact ⟨rfl, rfl⟩

end LexError

/-- An error about what the grammar takes has a description without newlines. -/
theorem Munches.onOneLine {options : Options} {text rest : List Char} {error : LexError}
    (munches : Munches options text (.error error) rest) : error.OnOneLine := by
  cases munches with
  | lexeme _ lexeme =>
      obtain rfl := lexeme.error_eq
      intro member
      exact lexeme.visible_error '\n' (by simpa using member) rfl
  | openString | unexpected => trivial

namespace Diagnostic

/-- The line of a diagnostic. -/
def printed (diagnostic : Diagnostic) : List Char := diagnostic.text.toList ++ ['\n']

theorem printed_append (diagnostic : Diagnostic) (after : List Char) :
    diagnostic.printed ++ after =
      "[line ".toList ++
        (Nat.toDigits 10 diagnostic.line.toNat ++ ']' ::
          (" Error: ".toList ++ (diagnostic.error.message.toList ++ '\n' :: after))) := by
  simp [printed, text, pieces, LexError.message]

theorem bracket_notMem_toDigits (number : Nat) : ']' ∉ Nat.toDigits 10 number := by
  intro member
  have digit := Nat.isDigit_of_mem_toDigits (by decide) (by decide) member
  contradiction

/-- The line of a diagnostic tells the diagnostic. -/
theorem selfDelimiting_printed :
    SelfDelimiting (fun diagnostic => diagnostic.error.OnOneLine) printed id where
  nonempty diagnostic := by simp [printed]
  tells := by
    rintro ⟨line, error⟩ ⟨otherLine, otherError⟩ after other isLeft isRight same
    rw [printed_append, printed_append] at same
    obtain ⟨digits_eq, same⟩ := eq_of_append_stop (bracket_notMem_toDigits _)
      (bracket_notMem_toDigits _) (List.append_cancel_left same)
    have line_eq := congrArg (Nat.ofDigitChars 10 · 0) digits_eq
    simp only [Nat.ofDigitChars_ten_toDigits] at line_eq
    obtain rfl := UInt32.toNat_inj.mp line_eq
    obtain ⟨rfl, later⟩ := LexError.tells_message isLeft isRight (List.append_cancel_left same)
    exact ⟨rfl, later⟩

end Diagnostic

/-- The lines of diagnostics one after another. -/
def diagnosticLines (diagnostics : List Diagnostic) : String :=
  String.join (diagnostics.map fun diagnostic => diagnostic.text ++ "\n")

theorem toList_diagnosticLines (diagnostics : List Diagnostic) :
    (diagnosticLines diagnostics).toList = diagnostics.flatMap Diagnostic.printed := by
  rw [diagnosticLines, String.toList_join, List.flatMap_map]
  exact List.flatMap_congr fun diagnostic _ => String.toList_append

namespace Scanner

/-- Each diagnostic is about text that the grammar takes behind a gap without a token. -/
theorem munches_of_mem {source : List Char} {options : Options} {diagnostic : Diagnostic}
    (member : .diagnostic diagnostic ∈ (ofSource source options).items) :
    ∃ gap text rest, IsLongestPrefix GapText (gap ++ (text ++ rest)) gap ∧
      Munches options text (.error diagnostic.error) rest := by
  obtain ⟨tiles, closing, tiled⟩ := exists_tiled options source
  rw [items_ofSource tiled] at member
  rcases Tile.mem_items.mp member with ⟨front, tile, back, tiles_eq, item_eq⟩ | item_eq
  · obtain ⟨error, verdict_eq, rfl⟩ := Tile.item_diagnostic item_eq.symm
    obtain ⟨longest, munches⟩ := tiled.munches tiles_eq
    exact ⟨tile.gap, tile.text, _, longest, verdict_eq ▸ munches⟩
  · contradiction

/-- The tokens of a scan. -/
def tokens (source : List Char) (options : Options) : List Token :=
  (ofSource source options).items.filterMap Item.token?

/-- The diagnostics of a scan. -/
def diagnostics (source : List Char) (options : Options) : List Diagnostic :=
  (ofSource source options).items.filterMap Item.diagnostic?

theorem scanned_of_mem {source : List Char} {options : Options} :
    ∀ token ∈ tokens source options, token.Scanned :=
  fun _ member => ⟨source, options, mem_tokens.mp member⟩

theorem onOneLine_of_mem {source : List Char} {options : Options} :
    ∀ diagnostic ∈ diagnostics source options, diagnostic.error.OnOneLine := by
  intro diagnostic member
  obtain ⟨gap, text, rest, -, munches⟩ := munches_of_mem (mem_diagnostics.mp member)
  exact munches.onOneLine

/--
Printing loses nothing.  Whatever the two sources and options, their tokens print the same lines
exactly if they have the same kinds, lexemes and values, one after another, and their diagnostics
print the same lines exactly if they are the same.
-/
theorem printedLines_inj (left right : List Char) (leftOptions rightOptions : Options) :
    (CommandLine.tokenLines (tokens left leftOptions) =
        CommandLine.tokenLines (tokens right rightOptions) ↔
      (tokens left leftOptions).map Token.content = (tokens right rightOptions).map Token.content) ∧
    (diagnosticLines (diagnostics left leftOptions) =
        diagnosticLines (diagnostics right rightOptions) ↔
      diagnostics left leftOptions = diagnostics right rightOptions) := by
  rw [← String.toList_inj, ← String.toList_inj, toList_tokenLines, toList_tokenLines,
    toList_diagnosticLines, toList_diagnosticLines]
  refine ⟨⟨?_, ?_⟩, ⟨?_, ?_⟩⟩
  · exact Token.selfDelimiting_printed.map_key_eq scanned_of_mem scanned_of_mem
  · intro same
    rw [Token.flatMap_printed, same, Token.flatMap_printed]
  · intro same
    simpa using Diagnostic.selfDelimiting_printed.map_key_eq onOneLine_of_mem onOneLine_of_mem same
  · exact congrArg (List.flatMap Diagnostic.printed)

end Scanner

end LoxTokens
