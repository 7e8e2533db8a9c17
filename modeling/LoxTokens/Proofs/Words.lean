import LoxTokens.Proofs.Pulling

/-!
# Scans with and without words

Whether letters make words matters only inside runs of letters, digits, underscores and points.
There two scans of one source can come apart, but every item that they yield comes from the run
alone, so that both leave the run at its end.  Outside of runs they do the same.
-/

namespace LoxTokens

/-- Whether a character can stand in a word or in a number. -/
def isLoose (character : Char) : Bool := continuesWord character || character == '.'

/-- Whether an item can be there or not according to whether letters make words. -/
def Item.mayDiffer : Item → Bool
  | token value =>
      match value.kind with
      | .identifier | .keyword _ | .number | .dot => true
      | _ => false
  | diagnostic value =>
      match value.error with
      | .invalidNumber _ => true
      | .unexpectedCharacter character => startsWord character
      | .unterminatedString => false

/-- Whether an item is a word. -/
def Item.isWord : Item → Bool
  | token value =>
      match value.kind with
      | .identifier | .keyword _ => true
      | _ => false
  | diagnostic _ => false

/-! ## Loose characters -/

theorem isLoose_of_isDigit {character : Char} (digit : character.isDigit) : isLoose character := by
  simp [isLoose, continuesWord, Char.isAlphanum, digit]

theorem isLoose_of_startsWord {character : Char} (starts : startsWord character) :
    isLoose character := by
  rcases Bool.or_eq_true_iff.mp starts with letter | underscore
  · simp [isLoose, continuesWord, Char.isAlphanum, letter]
  · simp [isLoose, continuesWord, underscore]

/-- A loose character is a point or a digit, or it starts a word. -/
theorem isLoose_cases {character : Char} (loose : isLoose character) :
    character = '.' ∨ character.isDigit ∨ startsWord character := by
  rcases Bool.or_eq_true_iff.mp loose with continues | point
  · rcases Bool.or_eq_true_iff.mp continues with letter_or_digit | underscore
    · rcases Bool.or_eq_true_iff.mp letter_or_digit with letter | digit
      · exact .inr (.inr (by simp [startsWord, letter]))
      · exact .inr (.inl digit)
    · exact .inr (.inr (by simp [startsWord, underscore]))
  · exact .inl (beq_iff_eq.mp point)

/-- A loose character neither is a blank nor starts a comment. -/
theorem longest_nil_of_isLoose {first : Char} (loose : isLoose first) (rest : List Char) :
    IsLongestPrefix GapText (first :: rest) [] := by
  apply longest_nil
  · rw [isBlank_iff]
    intro blank
    simp only [List.mem_cons, List.not_mem_nil, or_false] at blank
    rcases blank with rfl | rfl | rfl | rfl <;> contradiction
  · rw [startsComment_iff]
    rintro ⟨rfl, -⟩
    contradiction

private theorem symbols_loose :
    ∀ entry ∈ symbols, entry.1.head?.any isLoose → entry = (['.'], .dot) := by
  decide

theorem Numeral.loose {text : List Char} {decimal : Decimal}
    (numeral : Numeral text decimal) : ∀ character ∈ text, isLoose character := by
  intro character member
  cases numeral with
  | whole digits => exact isLoose_of_isDigit (digits.2 character member)
  | fraction whole fraction =>
      rcases List.mem_append.mp member with member | member
      · exact isLoose_of_isDigit (whole.2 character member)
      · rcases List.mem_cons.mp member with rfl | member
        · rfl
        · exact isLoose_of_isDigit (fraction.2 character member)

theorem IsWord.loose {text : List Char} (isWord : IsWord text) :
    ∀ character ∈ text, isLoose character := by
  cases text with
  | nil => exact isWord.elim
  | cons first rest =>
      obtain ⟨starts, continues⟩ := isWord
      rw [List.forall_mem_cons]
      constructor
      · exact isLoose_of_startsWord (by simpa [startsWord] using starts)
      · intro character member
        have continued := continues character member
        simp [isLoose, continuesWord, continued]

/-- Text that is taken from a loose character on is loose, and its item is one that may differ. -/
theorem Munches.loose {options : Options} {first : Char} {tail rest : List Char}
    {verdict : Verdict} (munches : Munches options (first :: tail) verdict rest)
    (loose : isLoose first) (start : Position) :
    (∀ character ∈ first :: tail, isLoose character) ∧
      (verdict.item (first :: tail) start).mayDiffer := by
  generalize text_eq : first :: tail = text at munches
  cases munches with
  | lexeme longest lexeme =>
      cases lexeme with
      | symbol known =>
          subst text_eq
          obtain ⟨text_eq, rfl⟩ := Prod.mk.inj (symbols_loose _ known loose)
          rw [text_eq]
          exact ⟨List.forall_mem_singleton.mpr rfl, rfl⟩
      | string =>
          obtain ⟨rfl, -⟩ := List.cons.inj text_eq
          contradiction
      | number numeral | overflow numeral => exact ⟨numeral.loose, rfl⟩
      | reserved _ isWord | identifier _ isWord => exact ⟨isWord.loose, rfl⟩
  | openString =>
      obtain ⟨rfl, -⟩ := List.cons.inj text_eq
      contradiction
  | unexpected _ none =>
      obtain ⟨rfl, rfl⟩ := List.cons.inj text_eq
      refine ⟨List.forall_mem_singleton.mpr loose, ?_⟩
      -- Points and digits are lexemes, so that only a letter or an underscore is unexpected.
      rcases isLoose_cases loose with rfl | digit | starts
      · have point : (['.'], Kind.dot) ∈ symbols := by decide
        exact (none ['.'] ⟨rest, rfl⟩ ⟨_, .symbol point⟩).elim
      · have digits : IsDigits [first] :=
          ⟨List.cons_ne_nil _ _, List.forall_mem_singleton.mpr digit⟩
        exact (none [first] ⟨rest, rfl⟩ ((Numeral.whole digits).isLexeme options)).elim
      · exact starts

/-- What is taken from the front of a text that starts no word does not depend on words. -/
theorem Munches.of_no_word {left : Options} {first : Char} {more rest : List Char}
    {verdict : Verdict} (no_word : startsWord first = false)
    (munches : Munches left (first :: more) verdict rest) (right : Options) :
    Munches right (first :: more) verdict rest := by
  have read : readPiece right first (more ++ rest) =
      { text := first :: more, verdict, rest } := by
    rw [← munches.readPiece_eq rfl]
    simp [readPiece, no_word]
  have again := readPiece_munches right first (more ++ rest)
  rw [read] at again
  exact again

/-- Where letters make words, what starts a word is a word. -/
theorem Munches.isWord_item {options : Options} {first : Char} {more rest : List Char}
    {verdict : Verdict} (munches : Munches options (first :: more) verdict rest)
    (enabled : options.identifiers) (starts : startsWord first) (position : Position) :
    (verdict.item (first :: more) position).isWord := by
  have read := munches.readPiece_eq rfl
  rw [readPiece_word enabled starts] at read
  obtain rfl := congrArg Piece.verdict read
  simp only [readWord, Verdict.item, Item.isWord, Kind.ofWord]
  cases Keyword.ofSpelling? _ <;> rfl

/-! ## Two scans of one source -/

namespace Scanner

/-- Items that cannot differ come from behind the run of loose characters in front. -/
theorem filter_items_run (options : Options) (position : Position) (text : List Char) :
    (resume options position text).items.filter (!·.mayDiffer) =
      (resume options (position.advance (text.takeWhile isLoose))
        (text.dropWhile isLoose)).items.filter (!·.mayDiffer) := by
  generalize length_eq : text.length = length
  induction length using Nat.strongRecOn generalizing position text with
  | ind length ih =>
      cases text with
      | nil => rfl
      | cons first tail =>
          by_cases loose : isLoose first
          · obtain ⟨more, verdict, rest, rfl, munches⟩ := exists_munches options first tail
            have nothing := longest_nil_of_isLoose loose (more ++ rest)
            obtain ⟨inside, differs⟩ := munches.loose loose position
            have shorter : rest.length < length := by
              rw [← length_eq, List.length_cons, List.length_append]
              omega
            have later := ih rest.length shorter (position.advance (first :: more)) rest rfl
            rw [← List.cons_append] at nothing ⊢
            rw [items_resume_munches nothing munches, List.filter_cons_of_neg (by simp [differs]),
              later, List.takeWhile_append_of_pos inside, List.dropWhile_append_of_pos inside,
              Position.advance_append]
          · simp [loose]

/-- Whether letters make words changes only items that may differ. -/
theorem filter_items_resume (left right : Options) (position : Position) (text : List Char) :
    (resume left position text).items.filter (!·.mayDiffer) =
      (resume right position text).items.filter (!·.mayDiffer) := by
  induction text using gap_induction generalizing position with
  | nil => rw [items_resume_end .nil, items_resume_end .nil]
  | skip gap rest longest ih => rw [items_resume_skip longest, items_resume_skip longest, ih]
  | cons first tail nothing ih =>
      by_cases loose : isLoose first
      · -- The scans come apart at most up to the end of the run.
        have shorter := (tail.dropWhile_suffix isLoose).length_le
        rw [filter_items_run left, filter_items_run right, List.dropWhile_cons_of_pos loose,
          ih _ shorter]
      · obtain ⟨more, verdict, rest, rfl, munches⟩ := exists_munches left first tail
        have no_word : startsWord first = false :=
          Bool.eq_false_iff.mpr fun starts => loose (isLoose_of_startsWord starts)
        have shorter : rest.length ≤ (more ++ rest).length := by simp
        rw [← List.cons_append] at nothing ⊢
        rw [items_resume_munches nothing munches,
          items_resume_munches nothing (munches.of_no_word no_word right), List.filter_cons,
          List.filter_cons, ih rest shorter]

/-- If no item of a scan is a word, the scan does not depend on whether letters make words. -/
theorem items_resume_of_no_word {left right : Options} (enabled : right.identifiers)
    (position : Position) (text : List Char)
    (no_words : ∀ item ∈ (resume right position text).items, item.isWord = false) :
    (resume left position text).items = (resume right position text).items := by
  induction text using gap_induction generalizing position with
  | nil => rw [items_resume_end .nil, items_resume_end .nil]
  | skip gap rest longest ih =>
      rw [items_resume_skip longest] at no_words
      rw [items_resume_skip longest, items_resume_skip longest, ih _ no_words]
  | cons first tail nothing ih =>
      obtain ⟨more, verdict, rest, rfl, munches⟩ := exists_munches right first tail
      rw [← List.cons_append] at nothing no_words ⊢
      rw [items_resume_munches nothing munches, List.forall_mem_cons] at no_words
      have no_word : startsWord first = false := by
        apply Bool.eq_false_iff.mpr
        intro starts
        have word := munches.isWord_item enabled starts position
        rw [no_words.1] at word
        contradiction
      have shorter : rest.length ≤ (more ++ rest).length := by simp
      rw [items_resume_munches nothing munches,
        items_resume_munches nothing (munches.of_no_word no_word left),
        ih rest shorter _ no_words.2]

/--
Words change nothing but words.  A scan with words and one without share all items that cannot
differ, and if the scan with words yields no word, they share all items.
-/
theorem items_identifiers (source : List Char) :
    (ofSource source { identifiers := false }).items.filter (!·.mayDiffer) =
        (ofSource source { identifiers := true }).items.filter (!·.mayDiffer) ∧
      ((∀ item ∈ (ofSource source { identifiers := true }).items, item.isWord = false) →
        (ofSource source { identifiers := false }).items =
          (ofSource source { identifiers := true }).items) :=
  ⟨filter_items_resume _ _ .origin source, items_resume_of_no_word rfl .origin source⟩

/-- Numbers, strings and unexpected characters alone are scanned in the same way. -/
theorem items_identifiers_numbers :
    (∀ item ∈ (ofSource "1.5.2 \"a\"@ // b".toList { identifiers := true }).items,
        item.isWord = false) ∧
      (ofSource "1.5.2 \"a\"@ // b".toList { identifiers := false }).items =
        (ofSource "1.5.2 \"a\"@ // b".toList { identifiers := true }).items := by
  have no_words : ∀ item ∈ (ofSource "1.5.2 \"a\"@ // b".toList { identifiers := true }).items,
      item.isWord = false := by
    rw [items_of_take 6 (by decide +kernel)]
    decide +kernel
  exact ⟨no_words, (items_identifiers _).2 no_words⟩

end Scanner
end LoxTokens
