import LoxTokens.Proofs.Lexemes
import LoxTokens.Scanner

/-!
# Maximal munch

Every pull of a scan takes the longest gap and then the longest lexeme from the place that the scan
has reached.
-/

namespace LoxTokens

/-- The item that a verdict on a text makes of it, given where the text starts. -/
def Verdict.item : Verdict → List Char → Position → Item
  | token kind literal, text, start =>
      .token
        { kind
          lexeme := String.ofList text
          literal
          line := start.line
          start := start.offset }
  | error cause, text, start => .diagnostic { line := (start.advance text).line, error := cause }

namespace Scanner

/-- Move a scanner over the text in front of `rest`. -/
def moveOver (scanner : Scanner) (text rest : List Char) : Scanner :=
  { scanner with rest, position := scanner.position.advance text }

/-- A pull behind which only a gap is left yields the end of the source. -/
theorem next?_gap {scanner : Scanner} (unfinished : scanner.finished = false)
    (gap : GapText scanner.rest) :
    scanner.next? =
      some
        (.token (Token.eof (scanner.position.advance scanner.rest).line
            (scanner.position.advance scanner.rest).offset),
          { scanner.moveOver scanner.rest [] with finished := true }) := by
  have skipped := skipGap_gap gap scanner.position
  simp [next?, unfinished, skipped, moveOver]

/-- A pull takes the longest gap, and then from the text after it what the grammar says. -/
theorem next?_munches {scanner : Scanner} (unfinished : scanner.finished = false)
    {gap text rest : List Char} {verdict : Verdict} (rest_eq : scanner.rest = gap ++ (text ++ rest))
    (longest : IsLongestPrefix GapText scanner.rest gap)
    (munches : Munches scanner.options text verdict rest) :
    scanner.next? =
      some
        (verdict.item text (scanner.position.advance gap),
          scanner.moveOver (gap ++ text) rest) := by
  rw [rest_eq] at longest
  have skipped := skipGap_eq longest scanner.position
  rw [← rest_eq] at skipped
  cases text_eq : text ++ rest with
  | nil => exact (munches.ne_nil (List.append_eq_nil_iff.mp text_eq).1).elim
  | cons first later =>
      rw [text_eq] at skipped
      cases verdict <;>
        simp [next?, unfinished, skipped, munches.readPiece_eq text_eq, moveOver, Piece.item,
          Verdict.item]

/-- A pull yields nothing only after the end of the source. -/
theorem next?_eq_none_iff {scanner : Scanner} : scanner.next? = none ↔ scanner.finished := by
  constructor
  · intro nothing
    by_contra unfinished
    rw [Bool.not_eq_true] at unfinished
    rcases gap_or_munches scanner.options scanner.rest with
      gap | ⟨gap, text, rest, verdict, rest_eq, longest, munches⟩
    · simp [next?_gap unfinished gap] at nothing
    · simp [next?_munches unfinished rest_eq longest munches] at nothing
  · intro finished
    simp [next?, finished]

theorem unfinished_of_next? {scanner after : Scanner} {item : Item}
    (pulled : scanner.next? = some (item, after)) : scanner.finished = false := by
  rw [← Bool.not_eq_true, ← next?_eq_none_iff, pulled]
  exact Option.some_ne_none _

/-- What a pull can do: it yields the end behind a last gap, or what the grammar says. -/
theorem cases_next? {scanner after : Scanner} {item : Item}
    (pulled : scanner.next? = some (item, after)) :
    (item =
          .token
            (Token.eof (scanner.position.advance scanner.rest).line
              (scanner.position.advance scanner.rest).offset) ∧
        after = { scanner.moveOver scanner.rest [] with finished := true }) ∨
      ∃ gap text verdict, scanner.rest = gap ++ (text ++ after.rest) ∧
        Munches scanner.options text verdict after.rest ∧
        item = verdict.item text (scanner.position.advance gap) ∧
        after = scanner.moveOver (gap ++ text) after.rest := by
  have unfinished := unfinished_of_next? pulled
  rcases gap_or_munches scanner.options scanner.rest with
    gap | ⟨gap, text, rest, verdict, rest_eq, longest, munches⟩
  · rw [next?_gap unfinished gap] at pulled
    obtain ⟨rfl, rfl⟩ := Prod.mk.inj (Option.some.inj pulled)
    exact .inl ⟨rfl, rfl⟩
  · rw [next?_munches unfinished rest_eq longest munches] at pulled
    obtain ⟨rfl, rfl⟩ := Prod.mk.inj (Option.some.inj pulled)
    exact .inr ⟨gap, text, verdict, rest_eq, munches, rfl, rfl⟩

/-- A scanner of a source has read the text in front of what is left. -/
structure HasRead (source : List Char) (options : Options) (before : List Char)
    (scanner : Scanner) : Prop where
  /-- The text that was read and the text that is left make up the source. -/
  source_eq : source = before ++ scanner.rest
  /-- The text that was read was counted. -/
  position_eq : scanner.position = Position.origin.advance before
  /-- The options are those of the scan. -/
  options_eq : scanner.options = options

namespace HasRead

variable {source before : List Char} {options : Options} {scanner after : Scanner}

theorem ofSource (source : List Char) (options : Options) :
    HasRead source options [] (Scanner.ofSource source options) :=
  ⟨rfl, rfl, rfl⟩

theorem moveOver (read : HasRead source options before scanner) {text rest : List Char}
    (rest_eq : scanner.rest = text ++ rest) :
    HasRead source options (before ++ text) (scanner.moveOver text rest) where
  source_eq := by
    rw [read.source_eq, rest_eq, List.append_assoc]
    rfl
  position_eq := by
    rw [Position.advance_append, ← read.position_eq]
    rfl
  options_eq := read.options_eq

/-- A pull reads on from where the scanner stands. -/
theorem next? (read : HasRead source options before scanner) {item : Item}
    (pulled : scanner.next? = some (item, after)) :
    ∃ text, HasRead source options (before ++ text) after := by
  obtain ⟨-, rfl⟩ | ⟨gap, front, verdict, rest_eq, -, -, after_eq⟩ := cases_next? pulled
  · have moved := read.moveOver (List.append_nil scanner.rest).symm
    exact ⟨scanner.rest, moved.source_eq, moved.position_eq, moved.options_eq⟩
  · rw [← List.append_assoc] at rest_eq
    rw [after_eq]
    exact ⟨gap ++ front, read.moveOver rest_eq⟩

/-- However often a scanner is pulled, it reads on from where it stands. -/
theorem take (read : HasRead source options before scanner) (count : Nat) :
    ∃ text, HasRead source options (before ++ text) (scanner.take count).2 := by
  induction count generalizing before scanner with
  | zero => exact ⟨[], by simpa [Scanner.take] using read⟩
  | succ count ih =>
      cases pulled : scanner.next? with
      | none => exact ⟨[], by simpa [Scanner.take, pulled] using read⟩
      | some pull =>
          obtain ⟨first, moved⟩ := read.next? pulled
          obtain ⟨text, later⟩ := ih moved
          refine ⟨first ++ text, ?_⟩
          simpa [Scanner.take, pulled] using later

/-- The item that a pull yields, and the scanner after it, counted from the beginning. -/
theorem next?_munches (read : HasRead source options before scanner)
    (unfinished : scanner.finished = false) {gap text rest : List Char} {verdict : Verdict}
    (rest_eq : scanner.rest = gap ++ (text ++ rest))
    (longest : IsLongestPrefix GapText (gap ++ (text ++ rest)) gap)
    (munches : Munches options text verdict rest) :
    scanner.next? =
      some
        (verdict.item text (Position.origin.advance (before ++ gap)),
          { scanner with
            rest
            position := Position.origin.advance (before ++ gap ++ text) }) := by
  rw [← read.options_eq] at munches
  rw [← rest_eq] at longest
  have pulled := Scanner.next?_munches unfinished rest_eq longest munches
  simpa [Scanner.moveOver, read.position_eq] using pulled

end HasRead

/--
The next pull of a scanner that has read `before` and has `gap ++ rest` left is decided by the
grammar.  The gap is the longest one.  Behind it the source may end.  If lexemes stand in front of
the text after the gap, the longest one is taken and only its own rule gives the verdict.  Otherwise
a string that does not close takes everything, and any other character is unexpected and taken by
itself.
-/
structure PullsLongestLexeme (source : List Char) (options : Options) (scanner : Scanner)
    (before gap rest : List Char) : Prop where
  /-- The source is what was read and what is left. -/
  source_eq : source = before ++ (gap ++ rest)
  /-- What is left starts with the gap. -/
  rest_eq : scanner.rest = gap ++ rest
  /-- The gap is the longest one. -/
  longest_gap : IsLongestPrefix GapText (gap ++ rest) gap
  /-- Behind the last gap the source ends. -/
  ends : rest = [] →
    scanner.next? =
      some
        (.token
          (Token.eof (Position.origin.advance (before ++ gap)).line
            (Position.origin.advance (before ++ gap)).offset),
          { scanner with
            rest := []
            position := Position.origin.advance (before ++ gap)
            finished := true })
  /-- The longest lexeme is taken, with the verdict of its rule. -/
  lexeme : (∃ front, front <+: rest ∧ IsLexeme options front) →
    ∃ text left verdict,
      rest = text ++ left ∧ IsLongestPrefix (IsLexeme options) rest text ∧
        Lexeme options text verdict ∧
        (∀ other, Lexeme options text other → other = verdict) ∧
        scanner.next? =
          some
            (verdict.item text (Position.origin.advance (before ++ gap)),
              { scanner with
                rest := left
                position := Position.origin.advance (before ++ gap ++ text) })
  /-- A string that does not close takes all that is left. -/
  openString : ∀ body, rest = '"' :: body →
    (∀ front, front <+: rest → ¬ IsLexeme options front) →
      scanner.next? =
        some
          (.diagnostic
            { line := (Position.origin.advance (before ++ gap ++ rest)).line
              error := .unterminatedString },
            { scanner with
              rest := []
              position := Position.origin.advance (before ++ gap ++ rest) })
  /-- Any other character that starts no lexeme is taken by itself. -/
  unexpected : ∀ first left, rest = first :: left → first ≠ '"' →
    (∀ front, front <+: rest → ¬ IsLexeme options front) →
      scanner.next? =
        some
          (.diagnostic
            { line := (Position.origin.advance (before ++ gap ++ [first])).line
              error := .unexpectedCharacter first },
            { scanner with
              rest := left
              position := Position.origin.advance (before ++ gap ++ [first]) })

namespace HasRead

variable {source before : List Char} {options : Options} {scanner : Scanner}

theorem pulls_end (read : HasRead source options before scanner)
    (unfinished : scanner.finished = false) (gap : GapText scanner.rest) :
    PullsLongestLexeme source options scanner before scanner.rest [] where
  source_eq := by simpa using read.source_eq
  rest_eq := (List.append_nil scanner.rest).symm
  longest_gap := by simpa using gap.longest
  ends := by
    intro _
    simp [next?_gap unfinished gap, Scanner.moveOver, read.position_eq]
  lexeme := by
    rintro ⟨front, stands, verdict, lexeme⟩
    exact (lexeme.ne_nil (List.prefix_nil.mp stands)).elim
  openString := by simp
  unexpected := by simp

theorem pulls_munches (read : HasRead source options before scanner)
    (unfinished : scanner.finished = false) {gap text left : List Char} {verdict : Verdict}
    (rest_eq : scanner.rest = gap ++ (text ++ left))
    (longest : IsLongestPrefix GapText (gap ++ (text ++ left)) gap)
    (munches : Munches options text verdict left) :
    PullsLongestLexeme source options scanner before gap (text ++ left) where
  source_eq := rest_eq ▸ read.source_eq
  rest_eq := rest_eq
  longest_gap := longest
  ends := fun none => (munches.ne_nil (List.append_eq_nil_iff.mp none).1).elim
  lexeme := by
    rintro ⟨front, stands, isLexeme⟩
    have pulled := read.next?_munches unfinished rest_eq longest munches
    cases munches with
    | lexeme longest lexeme =>
        refine ⟨text, left, verdict, rfl, longest, lexeme, ?_, pulled⟩
        exact fun _ other => other.unique lexeme
    | openString closed =>
        rw [List.append_nil] at stands
        exact (not_isLexeme_open _ closed front stands isLexeme).elim
    | unexpected _ none => exact (none front stands isLexeme).elim
  openString := by
    intro body text_eq none
    have pulled := read.next?_munches unfinished rest_eq longest munches
    cases munches with
    | lexeme longest lexeme => exact (none text longest.stands ⟨verdict, lexeme⟩).elim
    | openString => simpa [Verdict.item] using pulled
    | unexpected quote => exact (quote (List.cons.inj text_eq).1).elim
  unexpected := by
    intro first later text_eq quote none
    have pulled := read.next?_munches unfinished rest_eq longest munches
    cases munches with
    | lexeme longest lexeme => exact (none text longest.stands ⟨verdict, lexeme⟩).elim
    | openString => exact (quote (List.cons.inj text_eq).1.symm).elim
    | unexpected =>
        obtain ⟨rfl, rfl⟩ := List.cons.inj text_eq
        simpa [Verdict.item] using pulled

end HasRead

/--
Maximal munch: at every pull of a scan that has not reached the end, the grammar decides what is
taken and what is yielded.
-/
theorem pullsLongestLexeme (source : List Char) (options : Options) (count : Nat)
    (unfinished : ((ofSource source options).take count).2.finished = false) :
    ∃ before gap rest,
      PullsLongestLexeme source options ((ofSource source options).take count).2 before gap
        rest := by
  obtain ⟨before, read⟩ := (HasRead.ofSource source options).take count
  generalize ((ofSource source options).take count).2 = scanner at *
  rw [List.nil_append] at read
  rcases gap_or_munches options scanner.rest with
    gap | ⟨gap, text, left, verdict, rest_eq, longest, munches⟩
  · exact ⟨before, scanner.rest, [], read.pulls_end unfinished gap⟩
  · rw [rest_eq] at longest
    exact ⟨before, gap, text ++ left, read.pulls_munches unfinished rest_eq longest munches⟩

theorem pullsLongestLexeme_orchid :
    ((ofSource "1.2.3 orchid".toList { identifiers := true }).take 3).2.finished = false ∧
      ∃ before gap rest,
        PullsLongestLexeme "1.2.3 orchid".toList { identifiers := true }
          ((ofSource "1.2.3 orchid".toList { identifiers := true }).take 3).2 before gap rest :=
  ⟨by decide, pullsLongestLexeme _ _ 3 (by decide)⟩

end Scanner
end LoxTokens
