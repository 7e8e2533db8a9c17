import LoxTokens.Proofs.MaximalMunch
import LoxTokens.Proofs.NearestNumbers

/-!
# Number decoding

Where a digit follows a gap, a pull takes the longest numeral.  If the value of the numeral is below
the threshold of overflow, the pull yields a token with the nearest number.  Otherwise it yields a
diagnostic with the whole numeral.  In both cases the scan goes on right behind the numeral.
-/

namespace LoxTokens

/-- Whether a text is a numeral. -/
def IsNumeral (text : List Char) : Prop := ∃ decimal, Numeral text decimal

/-- Where a digit stands, the longest numeral is taken. -/
theorem exists_munches_numeral (options : Options) {first : Char} (digit : first.isDigit)
    (later : List Char) :
    ∃ text rest decimal verdict, first :: later = text ++ rest ∧
      IsLongestPrefix IsNumeral (text ++ rest) text ∧ Numeral text decimal ∧
        Lexeme options text verdict ∧ Munches options text verdict rest := by
  obtain ⟨tail, verdict, rest, text_eq, munches⟩ := exists_munches options first later
  cases munches with
  | lexeme longest lexeme =>
      obtain ⟨decimal, numeral⟩ := lexeme.numeral_of_digit digit
      refine ⟨_, rest, decimal, verdict, congrArg (first :: ·) text_eq, ?_, numeral, lexeme,
        .lexeme longest lexeme⟩
      refine ⟨longest.stands, ⟨decimal, numeral⟩, ?_⟩
      rintro other stands ⟨_, accepted⟩
      exact longest.longest other stands (accepted.isLexeme options)
  | openString => contradiction
  | unexpected _ none =>
      have digits : IsDigits [first] := ⟨List.cons_ne_nil _ _, by simpa using digit⟩
      exact (none [first] (List.prefix_append _ _) ((Numeral.whole digits).isLexeme options)).elim

namespace Scanner

open Binary64

/-- The next pull of a scanner decodes the numeral `text`, which stands behind a gap. -/
structure DecodesNumeral (scanner : Scanner) (gap text rest : List Char) (decimal : Decimal) :
    Prop where
  /-- The numeral stands behind the gap. -/
  rest_eq : scanner.rest = gap ++ (text ++ rest)
  /-- It is the longest numeral there. -/
  longest : IsLongestPrefix IsNumeral (text ++ rest) text
  /-- It writes the decimal. -/
  numeral : Numeral text decimal
  /--
  Below the threshold of overflow, the pull yields a token with the nearest number that is not
  negative.  There is one such number, and it is zero only for values that underflow.
  -/
  nearest : decimal.value < overflowThreshold →
    ∃ number, IsNearest decimal.value number ∧ number.negative = false ∧ number.isNaN = false ∧
      (∀ other, IsNearest decimal.value other → other.negative = false → other = number) ∧
      (number = zero ↔ decimal.value ≤ 2 ^ (-1075 : ℤ)) ∧
      scanner.next? =
        some
          (.token
            { kind := .number
              lexeme := String.ofList text
              literal := .number number
              line := (scanner.position.advance gap).line
              start := (scanner.position.advance gap).offset },
            { scanner with rest, position := scanner.position.advance (gap ++ text) })
  /-- From the threshold on, the pull yields no token but an error with the whole numeral. -/
  overflow : overflowThreshold ≤ decimal.value →
    scanner.next? =
      some
        (.diagnostic
          { line := (scanner.position.advance (gap ++ text)).line
            error := .invalidNumber (String.ofList text) },
          { scanner with rest, position := scanner.position.advance (gap ++ text) })

/--
Where a digit follows the longest gap, the next pull decodes the numeral that starts with it: to the
nearest number, or to an error if the value is too large.
-/
theorem decodesNumeral {scanner : Scanner} (unfinished : scanner.finished = false)
    {gap later : List Char} {first : Char} (rest_eq : scanner.rest = gap ++ first :: later)
    (longest_gap : IsLongestPrefix GapText scanner.rest gap) (digit : first.isDigit) :
    ∃ text rest decimal, first :: later = text ++ rest ∧
      DecodesNumeral scanner gap text rest decimal := by
  obtain ⟨text, rest, decimal, verdict, text_eq, longest, numeral, lexeme, munches⟩ :=
    exists_munches_numeral scanner.options digit later
  rw [text_eq] at rest_eq
  have pulled := next?_munches unfinished rest_eq longest_gap munches
  refine ⟨text, rest, decimal, text_eq, rest_eq, longest, numeral, ?_, ?_⟩
  · intro below
    have nearest := decimal.isNearest_toBinary64 below
    have positive : decimal.toBinary64.negative = false := nearest_nonnegative _ _
    obtain rfl := lexeme.unique (.number numeral nearest.finite)
    refine ⟨decimal.toBinary64, nearest, positive, isNaN_of_isFinite nearest.finite, ?_, ?_, pulled⟩
    · intro other other_nearest other_positive
      exact other_nearest.unique nearest other_positive positive
    · exact nearest.eq_zero_iff positive Decimal.value_nonneg
  · intro above
    have infinite : decimal.toBinary64.isFinite = false := by
      rw [← Bool.not_eq_true, Decimal.isFinite_toBinary64]
      exact above.not_gt
    obtain rfl := lexeme.unique (.overflow numeral infinite)
    rw [Verdict.item, ← Position.advance_append] at pulled
    exact pulled

theorem decodesNumeral_halfway :
    (ofSource "\n9007199254740993.".toList {}).finished = false ∧
      (ofSource "\n9007199254740993.".toList {}).rest =
        ['\n'] ++ '9' :: "007199254740993.".toList ∧
      IsLongestPrefix GapText (ofSource "\n9007199254740993.".toList {}).rest ['\n'] ∧
      '9'.isDigit ∧
      ∃ text rest decimal, '9' :: "007199254740993.".toList = text ++ rest ∧
        DecodesNumeral (ofSource "\n9007199254740993.".toList {}) ['\n'] text rest decimal := by
  have longest_gap :
      IsLongestPrefix GapText (ofSource "\n9007199254740993.".toList {}).rest ['\n'] :=
    (ClosedGap.blank (by decide) .nil).longest_append (longest_nil (by decide) (by decide))
  exact ⟨rfl, rfl, longest_gap, rfl, decodesNumeral rfl rfl longest_gap rfl⟩

end Scanner
end LoxTokens
