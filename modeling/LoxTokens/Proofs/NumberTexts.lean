import LoxTokens.Proofs.LineNumbers
import LoxTokens.Proofs.Pulling
import LoxTokens.Proofs.Rounding

/-!
# Texts of numbers

The text of a finite number is a numeral that reads back to it: the digits of a whole number are
exact, and otherwise the search for few places ends with a decimal that was read back or that is
exact.  Scanned as a source of its own, the text is one token, which carries the same number.
-/

namespace LoxTokens

/-! ## Decimals that read back -/

namespace Decimal

open Binary64 in
/-- A decimal of exactly so many units as a finite number reads back to it. -/
theorem toBinary64_of_exact {decimal : Decimal} {number : Binary64} (finite : number.isFinite)
    (positive : number.negative = false)
    (exact : decimal.digits * unitsPerOne = number.units * powerOfTen decimal.places) :
    decimal.toBinary64 = number := by
  have scale : 0 < powerOfTen decimal.places := Nat.pow_pos (by decide)
  rw [toBinary64, exact, nearest_units finite positive scale]

theorem toBinary64_ofWhole {number : Binary64} (finite : number.isFinite)
    (positive : number.negative = false) (whole : number.isWhole) :
    (ofWhole (number.units / Binary64.unitsPerOne)).toBinary64 = number := by
  apply toBinary64_of_exact finite positive
  have divides : Binary64.unitsPerOne ∣ number.units :=
    Nat.dvd_of_mod_eq_zero (beq_iff_eq.mp whole)
  have tenth : powerOfTen 1 = 10 := rfl
  rw [ofWhole, tenth, Nat.mul_right_comm, Nat.div_mul_cancel divides]

/-- What is found on a grid reads back to the number, and has as many places as the grid. -/
theorem atPlaces?_eq_some {magnitude : Binary64} {places : Nat} {decimal : Decimal}
    (found : atPlaces? magnitude places = some decimal) :
    decimal.toBinary64 = magnitude ∧ decimal.places = places := by
  unfold atPlaces? at found
  dsimp only at found
  split at found
  · rename_i below
    split at found
    · rename_i both
      obtain rfl := Option.some.inj found
      exact ⟨both.1, rfl⟩
    · obtain rfl := Option.some.inj found
      exact ⟨below, rfl⟩
  · split at found
    · rename_i above
      obtain rfl := Option.some.inj found
      exact ⟨above, rfl⟩
    · contradiction

theorem powerOfTen_eq (exponent : Nat) :
    powerOfTen exponent = 5 ^ exponent * Binary64.powerOfTwo exponent :=
  Nat.mul_pow 5 2 exponent

/-- The search for few places ends with a decimal that reads back. -/
theorem toBinary64_shortestFrom {number : Binary64} (finite : number.isFinite)
    (positive : number.negative = false) {attempts places : Nat}
    (enough : attempts + places = 1074) :
    (shortestFrom number attempts places).toBinary64 = number := by
  induction attempts generalizing places with
  | zero =>
      -- On the last grid every unit is a whole number of steps.
      obtain rfl : places = 1074 := (Nat.zero_add places).symm.trans enough
      apply toBinary64_of_exact finite positive
      have divides : Binary64.unitsPerOne ∣ number.units * powerOfTen 1074 := by
        rw [powerOfTen_eq, ← Nat.mul_assoc]
        exact Nat.dvd_mul_left _ _
      exact Nat.div_mul_cancel divides
  | succ attempts ih =>
      cases found : atPlaces? number places with
      | some decimal =>
          rw [shortestFrom, found]
          exact (atPlaces?_eq_some found).1
      | none =>
          rw [shortestFrom, found]
          exact ih (by omega)

theorem le_places_shortestFrom (magnitude : Binary64) (attempts places : Nat) :
    places ≤ (shortestFrom magnitude attempts places).places := by
  induction attempts generalizing places with
  | zero => exact Nat.le_refl places
  | succ attempts ih =>
      cases found : atPlaces? magnitude places with
      | some decimal =>
          rw [shortestFrom, found]
          exact (atPlaces?_eq_some found).2.ge
      | none =>
          rw [shortestFrom, found]
          exact Nat.le_of_succ_le (ih (places + 1))

/-- The decimal that is written for a number reads back to it. -/
theorem toBinary64_ofMagnitude {number : Binary64} (finite : number.isFinite)
    (positive : number.negative = false) : (ofMagnitude number).toBinary64 = number := by
  unfold ofMagnitude
  split
  · rename_i whole
    exact toBinary64_ofWhole finite positive whole
  · exact toBinary64_shortestFrom finite positive rfl

theorem places_ofMagnitude_pos (magnitude : Binary64) : 0 < (ofMagnitude magnitude).places := by
  unfold ofMagnitude
  split
  · exact Nat.one_pos
  · exact le_places_shortestFrom magnitude 1073 1

/-! ## Texts of decimals -/

theorem length_paddedDigits {width number : Nat} (positive : 0 < width)
    (fits : number < powerOfTen width) : (paddedDigits width number).length = width := by
  have shorter : (Nat.toDigits 10 number).length ≤ width :=
    (Nat.length_toDigits_le_iff (by decide) positive).mpr fits
  simp only [paddedDigits, List.length_append, List.length_replicate]
  omega

theorem ofDigitChars_paddedDigits (width number initial : Nat) :
    Nat.ofDigitChars 10 (paddedDigits width number) initial =
      10 ^ (paddedDigits width number).length * initial + number := by
  have padded : Nat.ofDigitChars 10 (paddedDigits width number) 0 = number := by
    simp [paddedDigits, Nat.ofDigitChars_append]
  rw [Nat.ofDigitChars_eq_ofDigitChars_zero, padded]

theorem isDigit_toDigits (number : Nat) : ∀ digit ∈ Nat.toDigits 10 number, digit.isDigit :=
  fun _ => Nat.isDigit_of_mem_toDigits (by decide) (by decide)

theorem isDigit_paddedDigits (width number : Nat) :
    ∀ digit ∈ paddedDigits width number, digit.isDigit := by
  refine List.forall_mem_append.mpr ⟨?_, isDigit_toDigits number⟩
  intro digit member
  obtain rfl := List.eq_of_mem_replicate member
  rfl

/-- The text of a decimal with places after the point is made of the two runs of its digits. -/
theorem exists_digitRuns {decimal : Decimal} (positive : 0 < decimal.places) :
    ∃ whole fraction, IsDigits whole ∧ IsDigits fraction ∧
      decimal.text = whole ++ '.' :: fraction ∧ ofDigitRuns whole fraction = decimal := by
  have scale : 0 < powerOfTen decimal.places := Nat.pow_pos (by decide)
  have length_eq := length_paddedDigits positive (Nat.mod_lt decimal.digits scale)
  have fraction_ne :
      paddedDigits decimal.places (decimal.digits % powerOfTen decimal.places) ≠ [] :=
    List.ne_nil_of_length_pos (length_eq.symm ▸ positive)
  have digits_eq : Nat.ofDigitChars 10
      (Nat.toDigits 10 (decimal.digits / powerOfTen decimal.places) ++
        paddedDigits decimal.places (decimal.digits % powerOfTen decimal.places)) 0 =
      decimal.digits := by
    rw [Nat.ofDigitChars_append, Nat.ofDigitChars_ten_toDigits, ofDigitChars_paddedDigits,
      length_eq]
    exact Nat.div_add_mod decimal.digits (powerOfTen decimal.places)
  refine ⟨_, _, ⟨Nat.toDigits_ne_nil, isDigit_toDigits _⟩,
    ⟨fraction_ne, isDigit_paddedDigits decimal.places _⟩, rfl, ?_⟩
  rw [ofDigitRuns, digits_eq, length_eq]

/-- A decimal with places after the point is what its text writes. -/
theorem numeral_text {decimal : Decimal} (positive : 0 < decimal.places) :
    Numeral decimal.text decimal := by
  obtain ⟨whole, fraction, whole_digits, fraction_digits, text_eq, decimal_eq⟩ :=
    exists_digitRuns positive
  have numeral := Numeral.fraction whole_digits fraction_digits
  rw [← text_eq] at numeral
  exact decimal_eq ▸ numeral

end Decimal

/-- The text of a finite number is that of its magnitude, behind a minus sign if there is one. -/
theorem Binary64.toList_text {number : Binary64} (finite : number.isFinite) :
    number.text.toList =
      (if number.negative then ['-'] else []) ++ (Decimal.ofMagnitude number.magnitude).text := by
  cases sign : number.negative <;> simp [text, isNaN_of_isFinite finite, finite, sign]

theorem Binary64.magnitude_eq {number : Binary64} (positive : number.negative = false) :
    number.magnitude = number := by
  rw [magnitude, ← positive]

theorem Binary64.toList_text_nonnegative {number : Binary64} (finite : number.isFinite)
    (positive : number.negative = false) :
    number.text.toList = (Decimal.ofMagnitude number).text := by
  simp [toList_text finite, magnitude_eq positive, positive]

/-! ## Numbers scanned again -/

/-- A numeral on its own is scanned as one token, if its number is finite. -/
theorem Scanner.items_numeral (options : Options) {text : List Char} {decimal : Decimal}
    (numeral : Numeral text decimal) (finite : decimal.toBinary64.isFinite) :
    (ofSource text options).items =
      [.token
          { kind := .number
            lexeme := String.ofList text
            literal := .number decimal.toBinary64
            line := 1
            start := 0 },
        .token (Token.eof 1 (byteSize text))] := by
  have no_newline : text.count '\n' = 0 := count_newline_visible numeral.visible
  have room : Position.origin.line.toNat + text.count '\n' < UInt32.size := by
    rw [no_newline]
    decide
  have last_line : (Position.origin.advance text).line = 1 := by
    rw [← UInt32.toNat_inj, line_advance room, no_newline]
    rfl
  rw [items_lexeme (.number numeral finite), last_line]
  rfl

/-- A token that is a number carries the number that its lexeme writes. -/
theorem Lexeme.exists_numeral {options : Options} {text : List Char} {literal : Literal}
    (lexeme : Lexeme options text (.token .number literal)) :
    ∃ decimal, Numeral text decimal ∧ decimal.toBinary64.isFinite ∧
      literal = .number decimal.toBinary64 := by
  have no_symbol : ∀ entry ∈ symbols, entry.2 ≠ .number := by decide
  cases lexeme with
  | symbol known => exact (no_symbol _ known rfl).elim
  | number numeral finite => exact ⟨_, numeral, finite, rfl⟩

/--
Numbers survive being written.  The text of the number of a token, scanned as a source of its own,
is one token that covers the whole text and carries the same number, bit for bit.
-/
theorem Scanner.items_numberText {source : List Char} {options : Options} {token : Token}
    (member : .token token ∈ (ofSource source options).items) (isNumber : token.kind = .number) :
    ∃ number, token.literal = .number number ∧ ∀ other : Options,
      (ofSource token.literal.text.toList other).items =
        [.token
            { kind := .number
              lexeme := token.literal.text
              literal := .number number
              line := 1
              start := 0 },
          .token (Token.eof 1 token.literal.text.utf8ByteSize)] := by
  obtain ⟨line, start, rfl⟩ | lexeme := lexeme_of_mem member
  · contradiction
  · rw [isNumber] at lexeme
    obtain ⟨decimal, -, finite, literal_eq⟩ := lexeme.exists_numeral
    rw [literal_eq]
    refine ⟨decimal.toBinary64, rfl, fun other => ?_⟩
    generalize number_eq : decimal.toBinary64 = number at finite
    have positive : number.negative = false := number_eq ▸ Binary64.nearest_nonnegative _ _
    have reads_back := Decimal.toBinary64_ofMagnitude finite positive
    have numeral := Decimal.numeral_text (Decimal.places_ofMagnitude_pos number)
    rw [← Binary64.toList_text_nonnegative finite positive] at numeral
    have scanned := items_numeral other numeral (reads_back.symm ▸ finite)
    rw [reads_back] at scanned
    simpa [Literal.text, byteSize] using scanned

theorem Scanner.items_numberText_rounded :
    .token
        { kind := .number
          lexeme := "9007199254740993.5"
          literal := .number (Binary64.ofFields false 1076 1)
          line := 1
          start := 2 } ∈
        (ofSource "+ 9007199254740993.5.".toList {}).items ∧
      ∃ number, Literal.number (Binary64.ofFields false 1076 1) = .number number ∧
        ∀ other : Options,
          (ofSource (Literal.number (Binary64.ofFields false 1076 1)).text.toList other).items =
            [.token
                { kind := .number
                  lexeme := (Literal.number (Binary64.ofFields false 1076 1)).text
                  literal := .number number
                  line := 1
                  start := 0 },
              .token
                (Token.eof 1
                  (Literal.number (Binary64.ofFields false 1076 1)).text.utf8ByteSize)] := by
  have member : .token
      { kind := .number
        lexeme := "9007199254740993.5"
        literal := .number (Binary64.ofFields false 1076 1)
        line := 1
        start := 2 } ∈
      (ofSource "+ 9007199254740993.5.".toList {}).items := by
    rw [items_of_take 4 (by decide +kernel)]
    decide +kernel
  exact ⟨member, items_numberText member rfl⟩

end LoxTokens
