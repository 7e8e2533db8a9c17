import LoxTokens.Proofs.Gaps

/-!
# Reading lexemes

Reading a piece takes the longest lexeme in front, if there is one, with the verdict of its rule.
The proof goes reader by reader: a lexeme on its own is read whole, and a reader never takes less
than a lexeme in front.
-/

namespace LoxTokens

/-! ## Symbols -/

private theorem symbols_read (identifiers : Bool) :
    ∀ entry ∈ symbols,
      entry.1.head?.map (readPiece { identifiers } · entry.1.tail) =
        some { text := entry.1, verdict := .token entry.2 .null, rest := [] } := by
  cases identifiers <;> decide

private theorem symbols_shape :
    ∀ entry ∈ symbols,
      entry.1.tail = [] ∨
        entry.1.tail = ['='] ∧ entry.1.head?.bind Kind.ofPunctuation? = none ∧
          (entry.1.head?.bind Kind.ofOperator?).isSome := by
  decide

private theorem symbols_ne_nil : ∀ entry ∈ symbols, entry.1 ≠ [] := by decide

private theorem ofPunctuation?_eq_none {first : Char}
    (other : first = '"' ∨ first.isDigit ∨ startsWord first) :
    Kind.ofPunctuation? first = none := by
  unfold Kind.ofPunctuation?
  split <;> first | rfl | (revert other; decide)

private theorem ofOperator?_eq_none {first : Char}
    (other : first = '"' ∨ first.isDigit ∨ startsWord first) : Kind.ofOperator? first = none := by
  unfold Kind.ofOperator?
  split <;> first | rfl | (revert other; decide)

theorem readPiece_quote (options : Options) (rest : List Char) :
    readPiece options '"' rest = readString rest := rfl

theorem readPiece_digit (options : Options) {first : Char} (digit : first.isDigit)
    (rest : List Char) : readPiece options first rest = readNumber first rest := by
  have other : first = '"' ∨ first.isDigit ∨ startsWord first := .inr (.inl digit)
  have quote : first ≠ '"' := by
    rintro rfl
    contradiction
  simp [readPiece, ofPunctuation?_eq_none other, ofOperator?_eq_none other, quote, digit]

private theorem isDigit_eq_false {first : Char} (starts : startsWord first) :
    first.isDigit = false := by
  rcases (by simpa [startsWord] using starts : first.isAlpha ∨ first = '_') with letter | rfl
  · -- Every letter comes after the last digit.
    have after : 57 < first.val := by
      rcases Bool.or_eq_true_iff.mp letter with upper | lower
      · have bounds : 65 ≤ first.val ∧ first.val ≤ 90 := of_decide_eq_true upper
        exact UInt32.lt_of_lt_of_le (by decide) bounds.1
      · have bounds : (decide (97 ≤ first.val) && decide (first.val ≤ 122)) = true := lower
        have bound := of_decide_eq_true (Bool.and_eq_true_iff.mp bounds).1
        exact UInt32.lt_of_lt_of_le (by decide) bound
    simp [Char.isDigit, after]
  · rfl

theorem readPiece_word {options : Options} (enabled : options.identifiers) {first : Char}
    (starts : startsWord first) (rest : List Char) :
    readPiece options first rest = readWord first rest := by
  have other : first = '"' ∨ first.isDigit ∨ startsWord first := .inr (.inr starts)
  have quote : first ≠ '"' := by
    rintro rfl
    contradiction
  have digit : first.isDigit = false := isDigit_eq_false starts
  simp [readPiece, ofPunctuation?_eq_none other, ofOperator?_eq_none other, quote, digit, enabled,
    starts]

theorem numeral_iff {text : List Char} {decimal : Decimal} :
    Numeral text decimal ↔
      ∃ whole fraction, IsDigits whole ∧ (∀ character ∈ fraction, character.isDigit) ∧
        text = numeralText whole fraction ∧ decimal = Decimal.ofDigitRuns whole fraction := by
  constructor
  · rintro (digits | ⟨whole, fraction⟩)
    · exact ⟨text, [], digits, by simp, by simp [numeralText], by simp [Decimal.ofDigitRuns]⟩
    · rename_i before after
      refine ⟨before, after, whole, fraction.2, ?_, rfl⟩
      simp [numeralText, fraction.1]
  · rintro ⟨whole, fraction, whole_digits, fraction_digits, rfl, rfl⟩
    cases fraction with
    | nil => simpa [numeralText, Decimal.ofDigitRuns] using Numeral.whole whole_digits
    | cons first fraction =>
        exact .fraction whole_digits ⟨List.cons_ne_nil first fraction, fraction_digits⟩

/-- A number takes the digits in front and then the fraction in front. -/
theorem readNumber_whole (first : Char) {whole : List Char}
    (digits : ∀ character ∈ whole, character.isDigit) (more : List Char) :
    readNumber first (whole ++ more) =
      { text := numeralText (first :: (whole ++ more.takeWhile Char.isDigit))
          (readFraction (more.dropWhile Char.isDigit)).1
        verdict := numeralVerdict (first :: (whole ++ more.takeWhile Char.isDigit))
          (readFraction (more.dropWhile Char.isDigit)).1
        rest := (readFraction (more.dropWhile Char.isDigit)).2 } := by
  simp [readNumber, List.takeWhile_append_of_pos digits, List.dropWhile_append_of_pos digits]

/-- A fraction that has a digit is read to the end of its digits. -/
theorem readFraction_digits {fraction : List Char} (digits : IsDigits fraction)
    (more : List Char) :
    readFraction ('.' :: (fraction ++ more)) =
      (fraction ++ more.takeWhile Char.isDigit, more.dropWhile Char.isDigit) := by
  obtain ⟨nonempty, digits⟩ := digits
  cases fraction with
  | nil => contradiction
  | cons first fraction =>
      have digit := digits first List.mem_cons_self
      have later : ∀ character ∈ fraction, character.isDigit := by
        intro character member
        exact digits character (List.mem_cons_of_mem first member)
      simp [readFraction, digit, List.takeWhile_append_of_pos later,
        List.dropWhile_append_of_pos later]

theorem readNumber_fraction (first : Char) {whole fraction : List Char}
    (whole_digits : ∀ character ∈ whole, character.isDigit) (fraction_digits : IsDigits fraction)
    (more : List Char) :
    readNumber first (whole ++ '.' :: (fraction ++ more)) =
      { text := numeralText (first :: whole) (fraction ++ more.takeWhile Char.isDigit)
        verdict := numeralVerdict (first :: whole) (fraction ++ more.takeWhile Char.isDigit)
        rest := more.dropWhile Char.isDigit } := by
  simp [readNumber, takeWhile_append_stop whole_digits, dropWhile_append_stop whole_digits,
    readFraction_digits fraction_digits]

private theorem numeral_split {first : Char} {rest whole fraction more : List Char}
    (whole_digits : IsDigits whole) (fraction_digits : ∀ character ∈ fraction, character.isDigit)
    (text_eq : first :: rest = numeralText whole fraction ++ more) :
    ∃ tail, whole = first :: tail ∧ (∀ character ∈ tail, character.isDigit) ∧
      (fraction = [] ∧ rest = tail ++ more ∨
        IsDigits fraction ∧ rest = tail ++ '.' :: (fraction ++ more)) := by
  obtain ⟨nonempty, digits⟩ := whole_digits
  cases whole with
  | nil => contradiction
  | cons head tail =>
      have tail_digits : ∀ character ∈ tail, character.isDigit := by
        intro character member
        exact digits character (List.mem_cons_of_mem head member)
      cases fraction with
      | nil =>
          obtain ⟨rfl, rfl⟩ : first = head ∧ rest = tail ++ more := by
            simpa [numeralText] using text_eq
          exact ⟨tail, rfl, tail_digits, .inl ⟨rfl, rfl⟩⟩
      | cons next fraction =>
          obtain ⟨rfl, rfl⟩ : first = head ∧ rest = tail ++ '.' :: (next :: fraction ++ more) := by
            simpa [numeralText] using text_eq
          exact ⟨tail, rfl, tail_digits,
            .inr ⟨⟨List.cons_ne_nil next fraction, fraction_digits⟩, rfl⟩⟩

/-- A numeral on its own is read whole. -/
theorem readNumber_alone {first : Char} {rest whole fraction : List Char}
    (whole_digits : IsDigits whole) (fraction_digits : ∀ character ∈ fraction, character.isDigit)
    (text_eq : first :: rest = numeralText whole fraction) :
    readNumber first rest =
      { text := first :: rest, verdict := numeralVerdict whole fraction, rest := [] } := by
  obtain ⟨tail, rfl, tail_digits, ⟨rfl, rfl⟩ | ⟨digits, rfl⟩⟩ :=
    numeral_split whole_digits fraction_digits (text_eq.trans (List.append_nil _).symm)
  · simpa [readFraction, numeralText] using readNumber_whole first tail_digits []
  · have nonempty := digits.1
    simpa [numeralText, nonempty] using readNumber_fraction first tail_digits digits []

/-- A number that is read is no shorter than any numeral in front. -/
theorem length_le_readNumber {first : Char} {rest whole fraction more : List Char}
    (whole_digits : IsDigits whole) (fraction_digits : ∀ character ∈ fraction, character.isDigit)
    (text_eq : first :: rest = numeralText whole fraction ++ more) :
    (numeralText whole fraction).length ≤ (readNumber first rest).text.length := by
  obtain ⟨tail, rfl, tail_digits, ⟨rfl, rfl⟩ | ⟨digits, rfl⟩⟩ :=
    numeral_split whole_digits fraction_digits text_eq
  · have text_split := numeralText_eq_append (first :: (tail ++ more.takeWhile Char.isDigit))
      (readFraction (more.dropWhile Char.isDigit)).1
    have alone : numeralText (first :: tail) [] = first :: tail := rfl
    simp only [readNumber_whole first tail_digits, text_split, alone, List.length_append,
      List.length_cons]
    omega
  · have nonempty := digits.1
    simp [readNumber_fraction first tail_digits digits, numeralText, nonempty]

/-- A string ends at the first quote after its opening quote. -/
theorem readString_closed {body : List Char} (closed : '"' ∉ body) (more : List Char) :
    readString (body ++ '"' :: more) =
      { text := '"' :: (body ++ ['"'])
        verdict := .token .string (.string (String.ofList body))
        rest := more } := by
  have inside := bne_of_notMem closed
  simp [readString, takeWhile_append_stop inside, dropWhile_append_stop inside]

/-- A string that does not close takes all that is left. -/
theorem readString_open {body : List Char} (closed : '"' ∉ body) :
    readString body =
      { text := '"' :: body, verdict := .error .unterminatedString, rest := [] } := by
  have taken := List.takeWhile_eq_self_iff.mpr (bne_of_notMem closed)
  have dropped := List.dropWhile_eq_nil_iff.mpr (bne_of_notMem closed)
  simp [readString, taken, dropped]

private theorem continuesWord_iff {character : Char} :
    continuesWord character ↔ character.isAlphanum ∨ character = '_' := by
  simp [continuesWord]

private theorem startsWord_iff {character : Char} :
    startsWord character ↔ character.isAlpha ∨ character = '_' := by
  simp [startsWord]

theorem readWord_append {first : Char} {word : List Char} (isWord : IsWord (first :: word))
    (more : List Char) :
    readWord first (word ++ more) =
      { text := first :: (word ++ more.takeWhile continuesWord)
        verdict :=
          .token (Kind.ofWord (String.ofList (first :: (word ++ more.takeWhile continuesWord))))
            .null
        rest := more.dropWhile continuesWord } := by
  have continues : ∀ character ∈ word, continuesWord character := by
    intro character member
    exact continuesWord_iff.mpr (isWord.2 character member)
  simp [readWord, List.takeWhile_append_of_pos continues, List.dropWhile_append_of_pos continues]

private theorem readWord_alone {first : Char} {word : List Char} (isWord : IsWord (first :: word)) :
    readWord first word =
      { text := first :: word
        verdict := .token (Kind.ofWord (String.ofList (first :: word))) .null
        rest := [] } := by
  have read := readWord_append isWord []
  simp only [List.takeWhile_nil, List.dropWhile_nil, List.append_nil] at read
  exact read

/-- A word that spells a reserved word is that word. -/
theorem ofWord_reserved {word : Keyword} : Kind.ofWord word.spelling = .keyword word := by
  cases word <;> decide

theorem ofWord_identifier {text : String} (free : ∀ word : Keyword, text ≠ word.spelling) :
    Kind.ofWord text = .identifier := by
  have none : Keyword.ofSpelling? text = none := by
    rw [Keyword.ofSpelling?, List.find?_eq_none]
    intro word _ same
    exact free word (beq_iff_eq.mp same).symm
  simp [Kind.ofWord, none]

/-- A numeral starts with a digit. -/
theorem Numeral.first_digit {first : Char} {rest : List Char} {decimal : Decimal}
    (numeral : Numeral (first :: rest) decimal) : first.isDigit := by
  obtain ⟨whole, fraction, whole_digits, fraction_digits, text_eq, -⟩ := numeral_iff.mp numeral
  obtain ⟨tail, rfl, -⟩ :=
    numeral_split whole_digits fraction_digits (text_eq.trans (List.append_nil _).symm)
  exact whole_digits.2 first List.mem_cons_self

theorem Lexeme.ne_nil {options : Options} {text : List Char} {verdict : Verdict}
    (lexeme : Lexeme options text verdict) : text ≠ [] := by
  rintro rfl
  cases lexeme with
  | symbol member => exact symbols_ne_nil _ member rfl
  | number numeral | overflow numeral =>
      obtain ⟨whole, fraction, whole_digits, -, text_eq, -⟩ := numeral_iff.mp numeral
      rw [numeralText_eq_append] at text_eq
      exact whole_digits.1 (List.append_eq_nil_iff.mp text_eq.symm).1
  | reserved _ isWord | identifier _ isWord => exact isWord

/-- A lexeme on its own is read whole, and with the verdict of its rule. -/
theorem readPiece_alone {options : Options} {first : Char} {rest : List Char} {verdict : Verdict}
    (lexeme : Lexeme options (first :: rest) verdict) :
    readPiece options first rest = { text := first :: rest, verdict, rest := [] } := by
  generalize text_eq : first :: rest = text at lexeme
  cases lexeme with
  | symbol member =>
      subst text_eq
      exact Option.some.inj (symbols_read options.identifiers _ member)
  | string closed =>
      obtain ⟨rfl, rfl⟩ := List.cons.inj text_eq
      rw [readPiece_quote, readString_closed closed []]
  | number numeral finite =>
      subst text_eq
      obtain ⟨whole, fraction, whole_digits, fraction_digits, text_eq, rfl⟩ :=
        numeral_iff.mp numeral
      rw [readPiece_digit options numeral.first_digit,
        readNumber_alone whole_digits fraction_digits text_eq]
      simp [numeralVerdict, finite]
  | overflow numeral infinite =>
      subst text_eq
      obtain ⟨whole, fraction, whole_digits, fraction_digits, text_eq, rfl⟩ :=
        numeral_iff.mp numeral
      rw [readPiece_digit options numeral.first_digit,
        readNumber_alone whole_digits fraction_digits text_eq]
      simp [numeralVerdict, infinite, text_eq]
  | reserved enabled isWord spelled =>
      subst text_eq
      rw [readPiece_word enabled (startsWord_iff.mpr isWord.1)]
      rw [readWord_alone isWord, spelled, ofWord_reserved]
  | identifier enabled isWord free =>
      subst text_eq
      rw [readPiece_word enabled (startsWord_iff.mpr isWord.1)]
      rw [readWord_alone isWord, ofWord_identifier free]

/-- The grammar leaves no choice: a lexeme has one verdict. -/
theorem Lexeme.unique {options : Options} {text : List Char} {left right : Verdict}
    (isLeft : Lexeme options text left) (isRight : Lexeme options text right) : left = right := by
  cases text with
  | nil => exact (isLeft.ne_nil rfl).elim
  | cons first rest =>
      have same := (readPiece_alone isLeft).symm.trans (readPiece_alone isRight)
      exact congrArg Piece.verdict same

/-- The piece that is read is no shorter than any lexeme in front. -/
theorem length_le_readPiece {options : Options} {first : Char} {front : List Char}
    (lexeme : IsLexeme options (first :: front)) (more : List Char) :
    (first :: front).length ≤ (readPiece options first (front ++ more)).text.length := by
  obtain ⟨verdict, lexeme⟩ := lexeme
  generalize text_eq : first :: front = text at lexeme
  cases lexeme with
  | symbol member =>
      subst text_eq
      rcases symbols_shape _ member with alone | ⟨joined, punctuation, operator⟩
      · obtain rfl : front = [] := alone
        exact List.length_pos_iff.mpr (readPiece_text_ne_nil options first _)
      · obtain rfl : front = ['='] := joined
        have punctuation : Kind.ofPunctuation? first = none := punctuation
        have operator : (Kind.ofOperator? first).isSome := operator
        obtain ⟨kinds, operator⟩ := Option.isSome_iff_exists.mp operator
        simp [readPiece, punctuation, operator, readOperator]
  | string closed =>
      obtain ⟨rfl, rfl⟩ := List.cons.inj text_eq
      simp [readPiece_quote, readString_closed closed]
  | number numeral | overflow numeral =>
      subst text_eq
      obtain ⟨whole, fraction, whole_digits, fraction_digits, text_eq, rfl⟩ :=
        numeral_iff.mp numeral
      rw [readPiece_digit options numeral.first_digit, text_eq]
      exact length_le_readNumber whole_digits fraction_digits
        (congrArg (· ++ more) text_eq)
  | reserved enabled isWord | identifier enabled isWord =>
      subst text_eq
      rw [readPiece_word enabled (startsWord_iff.mpr isWord.1), readWord_append isWord]
      simp

private theorem symbol_of_punctuation {first : Char} {kind : Kind}
    (known : Kind.ofPunctuation? first = some kind) : ([first], kind) ∈ symbols := by
  unfold Kind.ofPunctuation? at known
  split at known <;> first | contradiction | (obtain rfl := Option.some.inj known; decide)

private theorem symbol_of_operator {first : Char} {alone joined : Kind}
    (known : Kind.ofOperator? first = some (alone, joined)) :
    ([first], alone) ∈ symbols ∧ ([first, '='], joined) ∈ symbols := by
  unfold Kind.ofOperator? at known
  split at known <;>
    first
    | contradiction
    | (obtain ⟨rfl, rfl⟩ := Prod.mk.inj (Option.some.inj known); decide)

private theorem readOperator_lexeme (options : Options) {first : Char} {alone joined : Kind}
    (known : Kind.ofOperator? first = some (alone, joined)) (rest : List Char) :
    Lexeme options (readOperator first alone joined rest).text
      (readOperator first alone joined rest).verdict := by
  obtain ⟨isAlone, isJoined⟩ := symbol_of_operator known
  unfold readOperator
  split
  · exact .symbol isJoined
  · exact .symbol isAlone

private theorem lexeme_numeral (options : Options) {whole fraction : List Char}
    (whole_digits : IsDigits whole) (fraction_digits : ∀ character ∈ fraction, character.isDigit) :
    Lexeme options (numeralText whole fraction) (numeralVerdict whole fraction) := by
  have numeral := numeral_iff.mpr ⟨whole, fraction, whole_digits, fraction_digits, rfl, rfl⟩
  cases finite : (Decimal.ofDigitRuns whole fraction).toBinary64.isFinite with
  | true => simpa [numeralVerdict, finite] using Lexeme.number numeral finite
  | false => simpa [numeralVerdict, finite] using Lexeme.overflow numeral finite

/-- Every numeral is a lexeme, be its value finite or not. -/
theorem Numeral.isLexeme {text : List Char} {decimal : Decimal} (numeral : Numeral text decimal)
    (options : Options) : IsLexeme options text := by
  cases finite : decimal.toBinary64.isFinite with
  | true => exact ⟨_, .number numeral finite⟩
  | false => exact ⟨_, .overflow numeral finite⟩

private theorem symbols_not_digits :
    ∀ entry ∈ symbols, entry.1.all (!·.isDigit) := by decide

/-- A lexeme that starts with a digit is a numeral. -/
theorem Lexeme.numeral_of_digit {options : Options} {first : Char} {rest : List Char}
    {verdict : Verdict} (digit : first.isDigit) (lexeme : Lexeme options (first :: rest) verdict) :
    ∃ decimal, Numeral (first :: rest) decimal := by
  have not_word : ¬ startsWord first := by
    intro starts
    exact Bool.false_ne_true ((isDigit_eq_false starts).symm.trans digit)
  generalize text_eq : first :: rest = text at lexeme
  cases lexeme with
  | symbol known =>
      subst text_eq
      simpa [digit] using symbols_not_digits _ known
  | string =>
      obtain ⟨rfl, -⟩ := List.cons.inj text_eq
      contradiction
  | number numeral | overflow numeral => exact ⟨_, numeral⟩
  | reserved _ isWord | identifier _ isWord =>
      subst text_eq
      exact (not_word (startsWord_iff.mpr isWord.1)).elim

private theorem readFraction_isDigit {rest : List Char} :
    ∀ character ∈ (readFraction rest).1, character.isDigit := by
  unfold readFraction
  split
  · split
    · exact fun character member => List.all_eq_true.mp List.all_takeWhile character member
    · simp
  · simp

private theorem readNumber_lexeme (options : Options) {first : Char} (digit : first.isDigit)
    (rest : List Char) :
    Lexeme options (readNumber first rest).text (readNumber first rest).verdict := by
  apply lexeme_numeral options _ readFraction_isDigit
  refine ⟨List.cons_ne_nil _ _, ?_⟩
  intro character member
  rcases List.mem_cons.mp member with rfl | member
  · exact digit
  · exact List.all_eq_true.mp List.all_takeWhile character member

private theorem lexeme_word {options : Options} (enabled : options.identifiers) {text : List Char}
    (isWord : IsWord text) :
    Lexeme options text (.token (Kind.ofWord (String.ofList text)) .null) := by
  by_cases spelled : ∃ word : Keyword, String.ofList text = word.spelling
  · obtain ⟨word, spelled⟩ := spelled
    rw [spelled, ofWord_reserved]
    exact .reserved enabled isWord spelled
  · have free : ∀ word : Keyword, String.ofList text ≠ word.spelling := by
      intro word same
      exact spelled ⟨word, same⟩
    rw [ofWord_identifier free]
    exact .identifier enabled isWord free

private theorem readWord_lexeme {options : Options} (enabled : options.identifiers) {first : Char}
    (starts : startsWord first) (rest : List Char) :
    Lexeme options (readWord first rest).text (readWord first rest).verdict := by
  refine lexeme_word enabled ⟨startsWord_iff.mp starts, ?_⟩
  intro character member
  exact continuesWord_iff.mp (List.all_eq_true.mp List.all_takeWhile character member)

/-- Among the errors, only a number that is too large is the verdict on a lexeme. -/
theorem Lexeme.error_eq {options : Options} {text : List Char} {error : LexError}
    (lexeme : Lexeme options text (.error error)) :
    error = .invalidNumber (String.ofList text) := by
  cases lexeme
  rfl

private theorem munches_of_lexeme {options : Options} {first : Char} {rest : List Char}
    (lexeme : Lexeme options (readPiece options first rest).text
      (readPiece options first rest).verdict) :
    Munches options (readPiece options first rest).text (readPiece options first rest).verdict
      (readPiece options first rest).rest := by
  refine .lexeme ⟨List.prefix_append _ _, ⟨_, lexeme⟩, ?_⟩ lexeme
  intro other stands accepted
  rw [readPiece_append] at stands
  cases other with
  | nil => exact Nat.zero_le _
  | cons head front =>
      obtain ⟨more, text_eq⟩ := stands
      obtain ⟨rfl, rfl⟩ := List.cons.inj text_eq
      exact length_le_readPiece accepted more

private theorem not_isLexeme_of_error {options : Options} {first : Char} {rest : List Char}
    (error : LexError) (invalid : ∀ text, error ≠ .invalidNumber text)
    (read : ∀ front, front <+: rest → (readPiece options first front).verdict = .error error) :
    ∀ front, front <+: first :: rest → ¬ IsLexeme options front := by
  rintro front stands ⟨verdict, lexeme⟩
  cases front with
  | nil => exact lexeme.ne_nil rfl
  | cons head front =>
      obtain ⟨rfl, later⟩ := List.cons_prefix_cons.mp stands
      have verdict_eq := read front later
      rw [readPiece_alone lexeme] at verdict_eq
      obtain rfl : verdict = .error error := verdict_eq
      exact invalid _ lexeme.error_eq

/-- No lexeme stands in front of a quote that is never answered. -/
theorem not_isLexeme_open (options : Options) {body : List Char} (closed : '"' ∉ body) :
    ∀ front, front <+: '"' :: body → ¬ IsLexeme options front := by
  refine not_isLexeme_of_error .unterminatedString (by simp) ?_
  intro front stands
  have front_closed : '"' ∉ front := fun member => closed (stands.subset member)
  rw [readPiece_quote, readString_open front_closed]

/-- Reading a piece takes from the front of a text what the grammar says. -/
theorem readPiece_munches (options : Options) (first : Char) (rest : List Char) :
    Munches options (readPiece options first rest).text (readPiece options first rest).verdict
      (readPiece options first rest).rest := by
  by_cases quote : first = '"'
  · subst quote
    by_cases answered : '"' ∈ rest
    · obtain ⟨body, more, rfl, closed⟩ := List.eq_append_cons_of_mem answered
      apply munches_of_lexeme
      rw [readPiece_quote, readString_closed closed]
      exact .string closed
    · rw [readPiece_quote, readString_open answered]
      exact .openString answered
  by_cases digit : first.isDigit
  · apply munches_of_lexeme
    rw [readPiece_digit options digit]
    exact readNumber_lexeme options digit rest
  by_cases word : options.identifiers ∧ startsWord first
  · apply munches_of_lexeme
    rw [readPiece_word word.1 word.2]
    exact readWord_lexeme word.1 word.2 rest
  cases punctuation : Kind.ofPunctuation? first with
  | some kind =>
      apply munches_of_lexeme
      simpa [readPiece, punctuation] using Lexeme.symbol (symbol_of_punctuation punctuation)
  | none =>
      cases operator : Kind.ofOperator? first with
      | some kinds =>
          apply munches_of_lexeme
          simpa [readPiece, punctuation, operator] using readOperator_lexeme options operator rest
      | none =>
          have alone : ∀ later, readPiece options first later =
              { text := [first]
                verdict := .error (.unexpectedCharacter first)
                rest := later } := by
            intro later
            simp [readPiece, punctuation, operator, quote, digit, word]
          rw [alone]
          refine .unexpected quote (not_isLexeme_of_error (.unexpectedCharacter first) (by simp) ?_)
          intro front _
          rw [alone]

theorem Munches.ne_nil {options : Options} {text rest : List Char} {verdict : Verdict}
    (munches : Munches options text verdict rest) : text ≠ [] := by
  cases munches with
  | lexeme _ lexeme => exact lexeme.ne_nil
  | openString | unexpected => exact List.cons_ne_nil _ _

/-- An open string takes everything. -/
theorem Munches.rest_openString {options : Options} {text rest : List Char}
    (munches : Munches options text (.error .unterminatedString) rest) : rest = [] := by
  cases munches with
  | lexeme _ lexeme => exact absurd lexeme.error_eq (by simp)
  | openString => rfl

theorem Munches.closed {options : Options} {text rest : List Char} {verdict : Verdict}
    (munches : Munches options text verdict rest) (left : rest ≠ []) :
    verdict ≠ .error .unterminatedString := by
  rintro rfl
  exact left munches.rest_openString

/-- From the front of a text that is not empty, its first character is taken, and maybe more. -/
theorem exists_munches (options : Options) (first : Char) (tail : List Char) :
    ∃ more verdict rest, tail = more ++ rest ∧ Munches options (first :: more) verdict rest := by
  have munches := readPiece_munches options first tail
  have piece := readPiece_append options first tail
  cases text_eq : (readPiece options first tail).text with
  | nil => exact (munches.ne_nil text_eq).elim
  | cons head more =>
      rw [text_eq] at munches piece
      obtain ⟨rfl, tail_eq⟩ := List.cons.inj piece
      exact ⟨more, _, _, tail_eq.symm, munches⟩

private theorem Munches.eq_of_lexeme {options : Options} {text other rest left : List Char}
    {verdict otherVerdict : Verdict}
    (longest : IsLongestPrefix (IsLexeme options) (text ++ rest) text)
    (lexeme : Lexeme options text verdict) (munches : Munches options other otherVerdict left)
    (same : text ++ rest = other ++ left) :
    text = other ∧ verdict = otherVerdict ∧ rest = left := by
  have stands := longest.stands
  rw [same] at stands
  cases munches with
  | lexeme otherLongest otherLexeme =>
      rw [← same] at otherLongest
      obtain rfl := longest.unique otherLongest
      exact ⟨rfl, lexeme.unique otherLexeme, List.append_cancel_left same⟩
  | openString closed =>
      rw [List.append_nil] at stands
      exact (not_isLexeme_open options closed text stands ⟨_, lexeme⟩).elim
  | unexpected _ none => exact (none text stands ⟨_, lexeme⟩).elim

/-- The grammar says of every text in only one way what is taken from its front. -/
theorem Munches.unique {options : Options} {text other rest left : List Char}
    {verdict otherVerdict : Verdict} (munches : Munches options text verdict rest)
    (otherMunches : Munches options other otherVerdict left)
    (same : text ++ rest = other ++ left) :
    text = other ∧ verdict = otherVerdict ∧ rest = left := by
  cases munches with
  | lexeme longest lexeme => exact Munches.eq_of_lexeme longest lexeme otherMunches same
  | openString closed =>
      cases otherMunches with
      | lexeme longest lexeme =>
          obtain ⟨rfl, rfl, rfl⟩ :=
            Munches.eq_of_lexeme longest lexeme (.openString closed) same.symm
          exact ⟨rfl, rfl, rfl⟩
      | openString => simpa using same
      | unexpected quote => exact (quote (List.cons.inj same).1.symm).elim
  | unexpected quote none =>
      cases otherMunches with
      | lexeme longest lexeme =>
          obtain ⟨rfl, rfl, rfl⟩ :=
            Munches.eq_of_lexeme longest lexeme (.unexpected quote none) same.symm
          exact ⟨rfl, rfl, rfl⟩
      | openString => exact (quote (List.cons.inj same).1).elim
      | unexpected =>
          obtain ⟨rfl, rfl⟩ := List.cons.inj same
          exact ⟨rfl, rfl, rfl⟩

theorem Munches.readPiece_eq {options : Options} {text rest later : List Char} {verdict : Verdict}
    {first : Char} (munches : Munches options text verdict rest)
    (text_eq : text ++ rest = first :: later) :
    readPiece options first later = { text, verdict, rest } := by
  obtain ⟨sameText, sameVerdict, sameRest⟩ :=
    munches.unique (readPiece_munches options first later)
      (text_eq.trans (readPiece_append options first later).symm)
  rw [sameText, sameVerdict, sameRest]

/-- A text is a gap, or the grammar says what is taken after the longest gap. -/
theorem gap_or_munches (options : Options) (text : List Char) :
    GapText text ∨
      ∃ gap front rest verdict, text = gap ++ (front ++ rest) ∧
        IsLongestPrefix GapText text gap ∧ Munches options front verdict rest := by
  obtain ⟨gap, rest, rfl, longest, -⟩ := exists_skipGap .origin text
  cases rest with
  | nil => exact .inl (by simpa using longest.accepted)
  | cons first rest =>
      refine .inr ⟨gap, _, _, _, ?_, longest, readPiece_munches options first rest⟩
      rw [readPiece_append]

/-! ## Extensions of lexemes -/

private theorem symbols_visible :
    ∀ entry ∈ symbols, entry.1.all (!isBlank ·) := by decide

private theorem not_isBlank {character : Char}
    (other : character.isAlphanum ∨ character = '_' ∨ character = '.') :
    ¬ isBlank character := by
  rw [isBlank_iff]
  intro blank
  simp only [List.mem_cons, List.not_mem_nil, or_false] at blank
  rcases blank with rfl | rfl | rfl | rfl <;> revert other <;> decide

theorem Numeral.digit_or_point {text : List Char} {decimal : Decimal}
    (numeral : Numeral text decimal) :
    ∀ character ∈ text, character.isDigit ∨ character = '.' := by
  intro character member
  cases numeral with
  | whole digits => exact .inl (digits.2 character member)
  | fraction whole fraction =>
      rcases List.mem_append.mp member with member | member
      · exact .inl (whole.2 character member)
      · rcases List.mem_cons.mp member with rfl | member
        · exact .inr rfl
        · exact .inl (fraction.2 character member)

theorem IsWord.alphanum_or_underscore {text : List Char} (isWord : IsWord text) :
    ∀ character ∈ text, character.isAlphanum ∨ character = '_' := by
  cases text with
  | nil => exact isWord.elim
  | cons first rest =>
      obtain ⟨starts, continues⟩ := isWord
      refine List.forall_mem_cons.mpr ⟨?_, continues⟩
      exact starts.imp_left fun letter => by simp [Char.isAlphanum, letter]

theorem Numeral.visible {text : List Char} {decimal : Decimal}
    (numeral : Numeral text decimal) : ∀ character ∈ text, ¬ isBlank character := by
  intro character member
  rcases numeral.digit_or_point character member with digit | point
  · exact not_isBlank (.inl (by simp [Char.isAlphanum, digit]))
  · exact not_isBlank (.inr (.inr point))

private theorem IsWord.visible {text : List Char} (isWord : IsWord text) :
    ∀ character ∈ text, ¬ isBlank character := by
  intro character member
  exact not_isBlank ((isWord.alphanum_or_underscore character member).imp_right .inl)

/-- A lexeme that starts with a quote has another one. -/
theorem Lexeme.mem_quote {options : Options} {tail : List Char} {verdict : Verdict}
    (lexeme : Lexeme options ('"' :: tail) verdict) : '"' ∈ tail := by
  by_contra closed
  exact not_isLexeme_open options closed _ List.prefix_rfl ⟨verdict, lexeme⟩

/-- Nothing can be added to a string. -/
theorem eq_nil_of_string {tail more body : List Char} (closed : '"' ∉ body) (quote : '"' ∈ tail)
    (whole_eq : tail ++ more = body ++ ['"']) : more = [] := by
  rcases List.eq_nil_or_concat more with rfl | ⟨front, last, rfl⟩
  · rfl
  · rw [List.concat_eq_append, ← List.append_assoc] at whole_eq
    obtain ⟨rfl, -⟩ := List.append_inj' whole_eq rfl
    exact (closed (List.mem_append_left front quote)).elim

/-- A lexeme is a string, or it holds no blank. -/
theorem Lexeme.string_or_visible {options : Options} {text : List Char} {verdict : Verdict}
    (lexeme : Lexeme options text verdict) :
    (∃ body, '"' ∉ body ∧ text = '"' :: (body ++ ['"'])) ∨
      ∀ character ∈ text, ¬ isBlank character := by
  cases lexeme with
  | symbol known =>
      refine .inr fun character member => ?_
      simpa using List.all_eq_true.mp (symbols_visible _ known) character member
  | string closed => exact .inl ⟨_, closed, rfl⟩
  | number numeral | overflow numeral => exact .inr numeral.visible
  | reserved _ isWord | identifier _ isWord => exact .inr isWord.visible

/-- What makes a lexeme out of a shorter one holds no blank. -/
theorem Lexeme.visible_extension {options : Options} {text more : List Char} {verdict : Verdict}
    (lexeme : Lexeme options text verdict) (extended : IsLexeme options (text ++ more)) :
    ∀ character ∈ more, ¬ isBlank character := by
  obtain ⟨other, extended⟩ := extended
  intro character member
  rcases extended.string_or_visible with ⟨body, closed, whole_eq⟩ | visible
  · -- The shorter lexeme starts with the same quote, so that it is the same string.
    cases text with
    | nil => exact (lexeme.ne_nil rfl).elim
    | cons first tail =>
        obtain ⟨rfl, tail_eq⟩ := List.cons.inj whole_eq
        obtain rfl := eq_nil_of_string closed lexeme.mem_quote tail_eq
        simp at member
  · exact visible character (List.mem_append_right text member)

/-- Text that is a lexeme but no token holds no blank. -/
theorem Lexeme.visible_error {options : Options} {text : List Char} {error : LexError}
    (lexeme : Lexeme options text (.error error)) : ∀ character ∈ text, ¬ isBlank character := by
  cases lexeme with
  | overflow numeral => exact numeral.visible

/-- A lexeme does not end in a blank. -/
theorem Lexeme.last_visible {options : Options} {front : List Char} {last : Char}
    {verdict : Verdict} (lexeme : Lexeme options (front ++ [last]) verdict) : ¬ isBlank last := by
  rcases lexeme.string_or_visible with ⟨body, -, text_eq⟩ | visible
  · rw [← List.cons_append] at text_eq
    obtain ⟨-, last_eq⟩ := List.append_inj' text_eq rfl
    obtain rfl := List.singleton_inj.mp last_eq
    decide
  · exact visible last (List.mem_append_right front List.mem_cons_self)

/-! ## What follows a lexeme -/

/-- What stands behind a lexeme matters only up to the first blank. -/
theorem IsLongestPrefix.lexeme_of_shows {options : Options} {text rest other : List Char}
    {verdict : Verdict} (lexeme : Lexeme options text verdict) (shows : ShowsNoMore rest other)
    (longest : IsLongestPrefix (IsLexeme options) (text ++ rest) text) :
    IsLongestPrefix (IsLexeme options) (text ++ other) text where
  stands := List.prefix_append text other
  accepted := longest.accepted
  longest := by
    intro longer stands accepted
    rcases Nat.le_total longer.length text.length with shorter | more_taken
    · exact shorter
    · obtain ⟨more, rfl⟩ :=
        List.prefix_of_prefix_length_le (List.prefix_append text other) stands more_taken
      -- What the longer lexeme adds is visible, so that it stood behind the lexeme before.
      have remains := (List.prefix_append_right_inj text).mp stands
      have stood := shows more (lexeme.visible_extension accepted) remains
      exact longest.longest _ ((List.prefix_append_right_inj text).mpr stood) accepted

/-- What is taken from the front of a text depends on what follows only up to the first blank. -/
theorem Munches.of_shows {options : Options} {text rest other : List Char} {verdict : Verdict}
    (shows : ShowsNoMore rest other)
    (closed : verdict ≠ .error .unterminatedString) (munches : Munches options text verdict rest) :
    Munches options text verdict other := by
  cases munches with
  | lexeme longest lexeme => exact .lexeme (longest.lexeme_of_shows lexeme shows) lexeme
  | openString => contradiction
  | @unexpected first _ quote none =>
      refine .unexpected quote ?_
      rintro front stands ⟨verdict, lexeme⟩
      rcases lexeme.string_or_visible with ⟨body, -, rfl⟩ | visible
      · exact quote (List.cons_prefix_cons.mp stands).1.symm
      · cases front with
        | nil => exact lexeme.ne_nil rfl
        | cons head front =>
            obtain ⟨rfl, remains⟩ := List.cons_prefix_cons.mp stands
            have stood := shows front (List.forall_mem_cons.mp visible).2 remains
            exact none _ (List.cons_prefix_cons.mpr ⟨rfl, stood⟩) ⟨verdict, lexeme⟩

end LoxTokens
