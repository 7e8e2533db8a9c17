import LoxTokens.Proofs.Pulling

/-!
# Lookahead

Whether a lexeme goes on is decided by the next two characters at most.  A pull that leaves two
characters or more is therefore the same whatever is appended to the source, and so are all pulls
before it.
-/

namespace LoxTokens

/-! ## Pieces -/

/-- The same piece, with more text behind what it leaves. -/
def Piece.followedBy (piece : Piece) (more : List Char) : Piece :=
  { piece with rest := piece.rest ++ more }

section readers

variable {text : List Char}

theorem takeWhile_append_of_stop {p : Char → Bool} (stops : text.dropWhile p ≠ [])
    (more : List Char) : (text ++ more).takeWhile p = text.takeWhile p := by
  rw [List.takeWhile_append, if_neg]
  intro whole
  have split := congrArg List.length (@List.takeWhile_append_dropWhile _ p text)
  rw [List.length_append, whole] at split
  exact stops (List.eq_nil_of_length_eq_zero (Nat.add_eq_left.mp split))

theorem dropWhile_append_of_stop {p : Char → Bool} (stops : text.dropWhile p ≠ [])
    (more : List Char) : (text ++ more).dropWhile p = text.dropWhile p ++ more := by
  simp [List.dropWhile_append, stops]

theorem readOperator_followedBy {first : Char} {alone joined : Kind}
    (left : (readOperator first alone joined text).rest ≠ []) (more : List Char) :
    readOperator first alone joined (text ++ more) =
      (readOperator first alone joined text).followedBy more := by
  cases text with
  | nil => exact (left rfl).elim
  | cons next text =>
      by_cases equals : next = '='
      · subst equals
        rfl
      · simp [readOperator, equals, Piece.followedBy]

theorem readString_followedBy (left : (readString text).rest ≠ []) (more : List Char) :
    readString (text ++ more) = (readString text).followedBy more := by
  by_cases answered : '"' ∈ text
  · obtain ⟨body, later, rfl, closed⟩ := List.eq_append_cons_of_mem answered
    rw [List.append_assoc, List.cons_append, readString_closed closed, readString_closed closed]
    rfl
  · rw [readString_open answered] at left
    contradiction

/-- A point belongs to a number only if a digit follows it, which takes two characters to see. -/
theorem readFraction_followedBy (left : 2 ≤ (readFraction text).2.length) (more : List Char) :
    readFraction (text ++ more) = ((readFraction text).1, (readFraction text).2 ++ more) := by
  cases text with
  | nil => simp [readFraction] at left
  | cons next after =>
      by_cases point : next = '.'
      · subst point
        cases after with
        | nil => simp [readFraction] at left
        | cons digit after =>
            by_cases isDigit : digit.isDigit
            · have stops : (digit :: after).dropWhile Char.isDigit ≠ [] := by
                intro nothing
                simp [readFraction, isDigit, nothing] at left
              have taken := takeWhile_append_of_stop stops more
              have dropped := dropWhile_append_of_stop stops more
              rw [List.cons_append] at taken dropped
              simp [readFraction, isDigit, taken, dropped]
            · simp [readFraction, isDigit]
      · simp [readFraction, point]

theorem readNumber_followedBy {first : Char} (left : 2 ≤ (readNumber first text).rest.length)
    (more : List Char) :
    readNumber first (text ++ more) = (readNumber first text).followedBy more := by
  have stops : text.dropWhile Char.isDigit ≠ [] := by
    intro nothing
    simp [readNumber, nothing, readFraction] at left
  have fraction := @readFraction_followedBy (text.dropWhile Char.isDigit) left more
  simp [readNumber, takeWhile_append_of_stop stops, dropWhile_append_of_stop stops, fraction,
    Piece.followedBy]

theorem readWord_followedBy {first : Char} (left : (readWord first text).rest ≠ [])
    (more : List Char) :
    readWord first (text ++ more) = (readWord first text).followedBy more := by
  simp [readWord, takeWhile_append_of_stop left, dropWhile_append_of_stop left, Piece.followedBy]

/-- A piece that leaves two characters is the same whatever is appended. -/
theorem readPiece_followedBy {options : Options} {first : Char}
    (left : 2 ≤ (readPiece options first text).rest.length) (more : List Char) :
    readPiece options first (text ++ more) = (readPiece options first text).followedBy more := by
  have some_left : (readPiece options first text).rest ≠ [] := by
    rintro nothing
    simp [nothing] at left
  cases punctuation : Kind.ofPunctuation? first with
  | some kind => simp [readPiece, punctuation, Piece.followedBy]
  | none =>
      cases operator : Kind.ofOperator? first with
      | some kinds =>
          simp only [readPiece, punctuation, operator] at some_left ⊢
          exact readOperator_followedBy some_left more
      | none =>
          simp only [readPiece, punctuation, operator] at left some_left ⊢
          split_ifs at left some_left ⊢
          · exact readString_followedBy some_left more
          · exact readNumber_followedBy left more
          · exact readWord_followedBy some_left more
          · rfl

end readers

/-! ## Pulls -/

/-- What is taken from the front of a text stays the same if two characters are left behind it. -/
theorem Munches.append {options : Options} {text rest : List Char} {verdict : Verdict}
    (munches : Munches options text verdict rest) (left : 2 ≤ rest.length) (more : List Char) :
    Munches options text verdict (rest ++ more) := by
  cases text with
  | nil => exact (munches.ne_nil rfl).elim
  | cons first tail =>
      have piece : readPiece options first (tail ++ rest) =
          { text := first :: tail, verdict, rest } := munches.readPiece_eq rfl
      have again := readPiece_munches options first (tail ++ rest ++ more)
      rw [readPiece_followedBy (by rw [piece]; exact left), piece] at again
      exact again

/-- The longest gap stays the longest when two characters are left behind the text after it. -/
theorem IsLongestPrefix.gap_append {gap text rest : List Char} (nonempty : text ≠ [])
    (longest : IsLongestPrefix GapText (gap ++ (text ++ rest)) gap) (left : rest ≠ [])
    (more : List Char) :
    IsLongestPrefix GapText (gap ++ (text ++ (rest ++ more))) gap := by
  have closed := longest.closedGap (List.append_ne_nil_of_left_ne_nil nonempty rest)
  cases text with
  | nil => contradiction
  | cons first tail =>
      have visible : ¬ isBlank first := longest.not_gap.1
      have lone : ¬ startsComment first (tail ++ rest) := longest.not_gap.2
      obtain ⟨next, later, later_eq⟩ :=
        List.exists_cons_of_ne_nil (List.append_ne_nil_of_right_ne_nil tail left)
      have still_lone : ¬ startsComment first (tail ++ (rest ++ more)) := by
        rw [← List.append_assoc]
        rw [later_eq] at lone ⊢
        exact lone
      simpa using closed.longest_append (longest_nil visible still_lone)

namespace Scanner

/-- The same scanner, with more text behind what is left. -/
def followedBy (scanner : Scanner) (more : List Char) : Scanner :=
  { scanner with rest := scanner.rest ++ more }

/-- A pull that leaves two characters is the same whatever is appended. -/
theorem next?_followedBy {scanner after : Scanner} {item : Item}
    (pulled : scanner.next? = some (item, after)) (left : 2 ≤ after.rest.length)
    (more : List Char) : (scanner.followedBy more).next? = some (item, after.followedBy more) := by
  have unfinished := unfinished_of_next? pulled
  rcases gap_or_munches scanner.options scanner.rest with
    gap | ⟨gap, text, rest, verdict, rest_eq, longest, munches⟩
  · rw [next?_gap unfinished gap] at pulled
    obtain ⟨-, rfl⟩ := Prod.mk.inj (Option.some.inj pulled)
    contradiction
  · rw [next?_munches unfinished rest_eq longest munches] at pulled
    obtain ⟨rfl, rfl⟩ := Prod.mk.inj (Option.some.inj pulled)
    rw [rest_eq] at longest
    have rest_append : (scanner.followedBy more).rest = gap ++ (text ++ (rest ++ more)) := by
      simp [followedBy, rest_eq]
    have left_some : rest ≠ [] := List.ne_nil_of_length_pos (Nat.zero_lt_of_lt left)
    have longest_append := longest.gap_append munches.ne_nil left_some more
    rw [← rest_append] at longest_append
    exact @next?_munches (scanner.followedBy more) unfinished _ _ _ _ rest_append longest_append
      (munches.append left more)

/-! ## Runs -/

/-- What a pull leaves is the end of what was left. -/
theorem suffix_of_next? {scanner after : Scanner} {item : Item}
    (pulled : scanner.next? = some (item, after)) : after.rest <:+ scanner.rest := by
  obtain ⟨-, rfl⟩ | ⟨gap, text, verdict, rest_eq, -, -, -⟩ := cases_next? pulled
  · exact List.nil_suffix
  · exact ⟨gap ++ text, by rw [rest_eq, List.append_assoc]⟩

theorem suffix_take (scanner : Scanner) (count : Nat) :
    (scanner.take count).2.rest <:+ scanner.rest := by
  induction count generalizing scanner with
  | zero => exact List.suffix_rfl
  | succ count ih =>
      cases pulled : scanner.next? with
      | none => simp [take, pulled]
      | some pull => simpa [take, pulled] using (ih pull.2).trans (suffix_of_next? pulled)

/-- A scan that has not ended yields an item for each pull. -/
theorem length_take_of_unfinished {scanner : Scanner} {count : Nat}
    (unfinished : (scanner.take count).2.finished = false) :
    (scanner.take count).1.length = count := by
  induction count generalizing scanner with
  | zero => rfl
  | succ count ih =>
      cases pulled : scanner.next? with
      | none =>
          have finished := next?_eq_none_iff.mp pulled
          simp [take, pulled, finished] at unfinished
      | some pull =>
          simp only [take, pulled] at unfinished ⊢
          rw [List.length_cons, ih unfinished]

theorem getElem?_items {scanner last : Scanner} {count : Nat} {earlier : List Item} {item : Item}
    (taken : scanner.take count = (earlier ++ [item], last)) :
    scanner.items[earlier.length]? = some item := by
  rw [items_take scanner count, taken]
  simp

/-- Pulls that leave two characters are the same whatever is appended. -/
theorem take_followedBy {scanner : Scanner} {count : Nat}
    (left : 2 ≤ (scanner.take count).2.rest.length) (more : List Char) :
    (scanner.followedBy more).take count =
      ((scanner.take count).1, (scanner.take count).2.followedBy more) := by
  induction count generalizing scanner with
  | zero => rfl
  | succ count ih =>
      cases pulled : scanner.next? with
      | none =>
          have finished := next?_eq_none_iff.mp pulled
          have ended : (scanner.followedBy more).finished := finished
          rw [take_finished finished, take_finished ended]
      | some pull =>
          obtain ⟨item, after⟩ := pull
          simp only [take, pulled] at left ⊢
          have after_left := left.trans (suffix_take after count).length_le
          rw [next?_followedBy pulled after_left]
          dsimp only
          rw [ih left]

/--
Prefix stability.  An item behind which two characters are left is yielded at the same place of the
scan whatever is appended to the source.  So are all items before it, and the scan goes on from the
same place.
-/
theorem items_append_stable {source : List Char} {options : Options} {count : Nat} {item : Item}
    {after : Scanner}
    (pulled : ((ofSource source options).take count).2.next? = some (item, after))
    (left : 2 ≤ after.rest.length) (more : List Char) :
    (ofSource source options).items[count]? = some item ∧
      (ofSource (source ++ more) options).items[count]? = some item ∧
      (ofSource (source ++ more) options).take (count + 1) =
        (((ofSource source options).take (count + 1)).1, after.followedBy more) := by
  have length_eq := length_take_of_unfinished (unfinished_of_next? pulled)
  have taken : (ofSource source options).take (count + 1) =
      (((ofSource source options).take count).1 ++ [item], after) := by
    rw [take_add]
    simp [take, pulled]
  have taken_append : (ofSource (source ++ more) options).take (count + 1) =
      (((ofSource source options).take count).1 ++ [item], after.followedBy more) := by
    have stable := @take_followedBy (ofSource source options) (count + 1) (by rwa [taken]) more
    rwa [taken] at stable
  have here := getElem?_items taken
  have there := getElem?_items taken_append
  rw [length_eq] at here there
  exact ⟨here, there, by rw [taken_append, taken]⟩

theorem items_append_stable_point :
    ∃ item after,
      ((ofSource "a+12.b".toList { identifiers := true }).take 2).2.next? = some (item, after) ∧
        2 ≤ after.rest.length ∧
        (ofSource "a+12.b".toList { identifiers := true }).items[2]? = some item ∧
        (ofSource ("a+12.b".toList ++ "5".toList) { identifiers := true }).items[2]? = some item ∧
        (ofSource ("a+12.b".toList ++ "5".toList) { identifiers := true }).take (2 + 1) =
          (((ofSource "a+12.b".toList { identifiers := true }).take (2 + 1)).1,
            after.followedBy "5".toList) := by
  have pulled :
      ((ofSource "a+12.b".toList { identifiers := true }).take 2).2.next? =
        some
          (.token
            { kind := .number
              lexeme := "12"
              literal := .number (Binary64.ofFields false 1026 2251799813685248)
              line := 1
              start := 2 },
            { rest := ['.', 'b']
              position := { offset := 4, line := 1 }
              options := { identifiers := true }
              finished := false }) := by
    decide +kernel
  exact ⟨_, _, pulled, by decide, items_append_stable pulled (by decide) _⟩

end Scanner
end LoxTokens
