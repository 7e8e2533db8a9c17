import LoxTokens.Proofs.NearestNumbers
import LoxTokens.Proofs.Pulling
import Mathlib.Data.List.Forall2

/-!
# Equality of tokens

Tokens are compared field by field, and numbers as numbers.  In general that is no identity: a NaN
differs from itself, and the two zeros are the same.  No scan makes a NaN or a minus zero, so that
the tokens of scans are the same only if they agree in every field and every bit.
-/

namespace LoxTokens

/-! ## Numbers -/

namespace Binary64

theorem toNat_toBits (number : Binary64) :
    number.toBits.toNat =
      (if number.negative then signValue else 0) + number.exponent.val * fractionCount +
        number.fraction.val := by
  have exponent_lt := number.exponent.isLt
  have fraction_lt := number.fraction.isLt
  refine UInt64.toNat_ofNat_of_lt ?_
  simp only [signValue, fractionCount, UInt64.size]
  split <;> omega

/-- A word holds all fields of a number. -/
theorem ofBits_toBits (number : Binary64) : ofBits number.toBits = number := by
  have word := number.toNat_toBits
  obtain ⟨negative, ⟨exponent, exponent_lt⟩, ⟨fraction, fraction_lt⟩⟩ := number
  simp only [signValue, fractionCount] at word
  simp only [ofBits, ofFields, signValue, fractionCount, exponentCount, mk.injEq, Fin.mk.injEq,
    word]
  cases negative with
  | false =>
      simp only [Bool.false_eq_true, if_false, Nat.zero_add]
      exact ⟨decide_eq_false (by omega), by omega, by omega⟩
  | true =>
      simp only [if_true]
      exact ⟨decide_eq_true (by omega), by omega, by omega⟩

theorem toBits_inj {left right : Binary64} : left.toBits = right.toBits ↔ left = right := by
  constructor
  · intro same
    rw [← ofBits_toBits left, same, ofBits_toBits]
  · rintro rfl
    rfl

/-- A finite number that is not negative is the same number as another such one in one way only. -/
theorem sameNumber_iff {left right : Binary64} (left_finite : left.isFinite)
    (left_positive : left.negative = false) (right_finite : right.isFinite)
    (right_positive : right.negative = false) : left.sameNumber right ↔ left = right := by
  have zeros : left.isZero → right.isZero → left = right := by
    obtain ⟨_, ⟨_, _⟩, ⟨_, _⟩⟩ := left
    obtain ⟨_, ⟨_, _⟩, ⟨_, _⟩⟩ := right
    simp_all [isZero]
  simp only [sameNumber, isNaN_of_isFinite left_finite, isNaN_of_isFinite right_finite,
    Bool.not_false, Bool.true_and, Bool.or_eq_true, decide_eq_true_iff, Bool.and_eq_true]
  exact ⟨fun same => same.elim id fun both => zeros both.1 both.2, .inl⟩

end Binary64

/-! ## Identity -/

/-- Two values are identical, numbers bit for bit. -/
inductive Literal.IsIdentical : Literal → Literal → Prop where
  | null : IsIdentical .null .null
  | string {value : String} : IsIdentical (.string value) (.string value)
  | number {left right : Binary64} :
      left.toBits = right.toBits → IsIdentical (.number left) (.number right)

/-- Two tokens are identical in every field. -/
structure Token.IsIdentical (left right : Token) : Prop where
  kind : left.kind = right.kind
  lexeme : left.lexeme = right.lexeme
  line : left.line = right.line
  start : left.start = right.start
  literal : left.literal.IsIdentical right.literal

theorem Literal.isIdentical_iff {left right : Literal} : left.IsIdentical right ↔ left = right := by
  constructor
  · rintro (_ | _ | bits)
    · rfl
    · rfl
    · rw [Binary64.toBits_inj.mp bits]
  · rintro rfl
    cases left with
    | null => exact .null
    | string => exact .string
    | number => exact .number rfl

theorem Token.isIdentical_iff {left right : Token} : left.IsIdentical right ↔ left = right := by
  constructor
  · intro identical
    obtain ⟨kind_eq, lexeme_eq, line_eq, start_eq, identical⟩ := identical
    have literal_eq := Literal.isIdentical_iff.mp identical
    cases left
    cases right
    simp_all
  · rintro rfl
    exact ⟨rfl, rfl, rfl, rfl, Literal.isIdentical_iff.mpr rfl⟩

/-! ## Values of scans -/

/-- A value that a lexeme can have: its number, if it is one, is finite and not negative. -/
def Literal.IsRegular : Literal → Prop
  | number value => value.isFinite ∧ value.negative = false
  | null | string _ => True

/-- Every rule for lexemes gives regular values, however many digits there are. -/
theorem Lexeme.isRegular {options : Options} {text : List Char} {kind : Kind} {literal : Literal}
    (lexeme : Lexeme options text (.token kind literal)) : literal.IsRegular := by
  cases lexeme with
  | number _ finite => exact ⟨finite, Binary64.nearest_nonnegative _ _⟩
  | symbol | string | reserved | identifier => trivial

/-- Regular values are the same only if they are identical. -/
theorem Literal.sameValue_iff {left right : Literal} (left_regular : left.IsRegular)
    (right_regular : right.IsRegular) : left.sameValue right ↔ left = right := by
  cases left <;> cases right <;> simp only [sameValue, reduceCtorEq, Bool.false_eq_true, beq_iff_eq,
    string.injEq, number.injEq]
  exact Binary64.sameNumber_iff left_regular.1 left_regular.2 right_regular.1 right_regular.2

theorem Token.sameToken_iff {left right : Token} (left_regular : left.literal.IsRegular)
    (right_regular : right.literal.IsRegular) : left.sameToken right ↔ left = right := by
  cases left
  cases right
  simp [sameToken, Literal.sameValue_iff left_regular right_regular, and_assoc]

/-- A token that some scan returns. -/
def Token.IsScanned (token : Token) : Prop :=
  ∃ source options, .token token ∈ (Scanner.ofSource source options).items

/-- No scan makes a value that is not regular. -/
theorem Token.IsScanned.isRegular {token : Token} (scanned : token.IsScanned) :
    token.literal.IsRegular := by
  obtain ⟨source, options, member⟩ := scanned
  obtain ⟨line, start, rfl⟩ | lexeme := Scanner.lexeme_of_mem member
  · trivial
  · exact lexeme.isRegular

/-! ## Equality on scans -/

namespace Token

/-- The token with a number in place of its value. -/
def withNumber (token : Token) (number : Binary64) : Token :=
  { token with literal := .number number }

/-- What equality of tokens is on scans of any sources with any options, and what it is not. -/
structure EqualityIsIdentity : Prop where
  /-- Tokens of scans are the same only if they are identical in every field. -/
  same_iff : ∀ left right : Token, left.IsScanned → right.IsScanned →
    (left.sameToken right ↔ left.IsIdentical right)
  /-- On the tokens of all scans, equality is an equivalence relation. -/
  equivalence : Equivalence fun left right : { token : Token // token.IsScanned } =>
    left.val.sameToken right.val
  /-- A source that is scanned again returns the same tokens, wherever its diagnostics go. -/
  rescan : ∀ (source : List Char) (options : Options) (σ τ : Type) [Sink σ] [Sink τ]
    (collector : Collector σ) (other : Collector τ),
    List.Forall₂ (fun left right => left.sameToken right)
      ((Scanner.ofSource source options).drain collector).tokens.toList
      ((Scanner.ofSource source options).drain other).tokens.toList
  /-- A token with a NaN, which no scan returns, is not the same as itself. -/
  not_reflexive : ∀ (token : Token) (number : Binary64), number.isNaN →
    ¬ (token.withNumber number).sameToken (token.withNumber number)
  /-- There is a NaN. -/
  exists_isNaN : ∃ number : Binary64, number.isNaN
  /-- Tokens that differ in the sign of a zero are the same. -/
  zeros : ∀ token : Token,
    (token.withNumber .zero).sameToken (token.withNumber Binary64.zero.opposite) ∧
      ¬ (token.withNumber .zero).IsIdentical (token.withNumber Binary64.zero.opposite)

theorem sameToken_iff_of_isScanned {left right : Token} (left_scanned : left.IsScanned)
    (right_scanned : right.IsScanned) : left.sameToken right ↔ left = right :=
  sameToken_iff left_scanned.isRegular right_scanned.isRegular

/-- No scan returns a number on which equality is not identity. -/
theorem equalityIsIdentity : EqualityIsIdentity where
  same_iff left right left_scanned right_scanned := by
    rw [sameToken_iff_of_isScanned left_scanned right_scanned, isIdentical_iff]
  equivalence := by
    have same_iff : ∀ left right : { token : Token // token.IsScanned },
        left.val.sameToken right.val ↔ left = right := by
      intro left right
      rw [sameToken_iff_of_isScanned left.property right.property, Subtype.ext_iff]
    simp only [same_iff]
    exact eq_equivalence
  rescan source options σ τ _ _ collector other := by
    rw [Scanner.tokens_drain, Scanner.tokens_drain, List.forall₂_same]
    intro token member
    have scanned : token.IsScanned := ⟨source, options, mem_tokens.mp member⟩
    exact (sameToken_iff_of_isScanned scanned scanned).mpr rfl
  not_reflexive token number isNaN := by
    simp [sameToken, withNumber, Literal.sameValue, Binary64.sameNumber, isNaN]
  exists_isNaN := ⟨.ofFields false 2047 1, rfl⟩
  zeros token := by
    have zeros : Binary64.zero.sameNumber Binary64.zero.opposite := rfl
    constructor
    · simp [sameToken, withNumber, Literal.sameValue, zeros]
    · intro identical
      have literal_eq := Literal.number.inj (Literal.isIdentical_iff.mp identical.literal)
      exact Bool.false_ne_true (congrArg Binary64.negative literal_eq)

end Token
end LoxTokens
