import LoxTokens.Proofs.Encoding

/-!
# Bytes that are not a text

Decoding succeeds exactly on the encodings of texts.  Where it fails, the fault tells the longest
text in front, and behind it either that the bytes end inside the encoding of a character or how
long the broken sequence is.
-/

namespace LoxTokens
namespace Utf8

/-- Bytes with which the encoding of some character begins. -/
def BeginsCharacter (bytes : List UInt8) : Prop :=
  ∃ character, bytes <+: String.utf8EncodeChar character

/--
The length of the longest sequence in front that begins the encoding of a character, or of one byte
if not even the first byte does.
-/
structure Breaks (bytes : List UInt8) (length : Nat) : Prop where
  /-- At least one byte is broken. -/
  positive : 0 < length
  /-- The broken sequence lies within the bytes. -/
  le_length : length ≤ bytes.length
  /-- The broken sequence is a single byte or begins a character. -/
  begins : length = 1 ∨ BeginsCharacter (bytes.take length)
  /-- No longer sequence begins a character. -/
  longest : ∀ other ≤ bytes.length, BeginsCharacter (bytes.take other) → other ≤ length

/-- What a fault says of the bytes in which it was found. -/
structure Fault.Locates (fault : Fault) (bytes : List UInt8) : Prop where
  /-- Something is left behind the valid part. -/
  lt_length : fault.validUpTo < bytes.length
  /-- The valid part is a text. -/
  valid : ∃ text, encode text = bytes.take fault.validUpTo
  /-- No longer text stands in front. -/
  longest : ∀ text, encode text <+: bytes → (encode text).length ≤ fault.validUpTo
  /-- No length is given exactly when the bytes end inside the encoding of a character. -/
  incomplete : fault.errorLength = none ↔ BeginsCharacter (bytes.drop fault.validUpTo)
  /-- The length that is given is that of the broken sequence. -/
  broken : ∀ length, fault.errorLength = some length → Breaks (bytes.drop fault.validUpTo) length

/-! ## Continuation bytes -/

/-- Reading goes on with a byte within the bounds. -/
theorem readContinuation_eq_scalar {count low high code width : Nat} {rest : List UInt8}
    {value : Char} {total : Nat}
    (read : readContinuation (count + 1) low high code width rest = .scalar value total) :
    ∃ byte later, rest = byte :: later ∧ low ≤ byte.toNat ∧ byte.toNat ≤ high ∧
      readContinuation count 0x80 0xBF (code * 64 + (byte.toNat - 0x80)) (width + 1) later =
        .scalar value total := by
  cases rest with
  | nil => simp [readContinuation] at read
  | cons byte later =>
      rw [readContinuation] at read
      split at read
      · rename_i bounds
        exact ⟨byte, later, rfl, bounds.1, bounds.2, read⟩
      · contradiction

/-- What was decided is not changed by the bytes behind. -/
theorem readContinuation_append {count low high code width : Nat} {rest : List UInt8}
    (decided : readContinuation count low high code width rest ≠ .incomplete)
    (more : List UInt8) :
    readContinuation count low high code width (rest ++ more) =
      readContinuation count low high code width rest := by
  induction count generalizing low high code width rest with
  | zero => rfl
  | succ count ih =>
      cases rest with
      | nil => exact (decided rfl).elim
      | cons byte rest =>
          rw [List.cons_append, readContinuation, readContinuation]
          rw [readContinuation] at decided
          split at decided
          · rename_i bounds
            rw [if_pos bounds, if_pos bounds, ih decided]
          · rename_i outside
            rw [if_neg outside, if_neg outside]

/-- Bytes that are not broken can be completed to the encoding of a character. -/
theorem exists_readContinuation {count low high code width : Nat} {rest : List UInt8}
    (intact : ∀ total, readContinuation count low high code width rest ≠ .invalid total)
    (low_le : low ≤ high) (le_high : high < 256) :
    ∃ more value, readContinuation count low high code width (rest ++ more) =
      .scalar value (width + count) := by
  induction count generalizing low high code width rest with
  | zero => exact ⟨[], _, rfl⟩
  | succ count ih =>
      cases rest with
      | nil =>
          have byte_eq : (UInt8.ofNat low).toNat = low := toNat_ofNat_of_lt (by omega)
          have nothing_broken (code width total : Nat) :
              readContinuation count 0x80 0xBF code width [] ≠ .invalid total := by
            cases count <;> simp [readContinuation]
          obtain ⟨more, value, completed⟩ :=
            @ih 0x80 0xBF (code * 64 + (low - 0x80)) (width + 1) [] (nothing_broken _ _)
              (by decide) (by decide)
          refine ⟨UInt8.ofNat low :: more, value, ?_⟩
          rw [List.nil_append, readContinuation, byte_eq, if_pos ⟨Nat.le_refl low, low_le⟩,
            ← List.nil_append more, completed, Nat.add_right_comm, Nat.add_assoc]
      | cons byte rest =>
          rw [readContinuation] at intact
          split at intact
          · rename_i bounds
            obtain ⟨more, value, completed⟩ := ih intact (by decide) (by decide)
            refine ⟨more, value, ?_⟩
            rw [List.cons_append, readContinuation, if_pos bounds, completed, Nat.add_right_comm,
              Nat.add_assoc]
          · exact (intact width rfl).elim

/-- Reading stops short only where the bytes do. -/
theorem length_lt_of_incomplete {count low high code width : Nat} {rest : List UInt8}
    (short : readContinuation count low high code width rest = .incomplete) :
    rest.length < count := by
  induction count generalizing low high code width rest with
  | zero => contradiction
  | succ count ih =>
      cases rest with
      | nil => exact Nat.succ_pos count
      | cons byte rest =>
          rw [readContinuation] at short
          split at short
          · exact Nat.succ_lt_succ (ih short)
          · contradiction

/-- The broken sequence has the bytes read before it was found broken. -/
theorem le_of_invalid {count low high code width total : Nat} {rest : List UInt8}
    (broken : readContinuation count low high code width rest = .invalid total) :
    width ≤ total ∧ total ≤ width + rest.length := by
  induction count generalizing low high code width rest with
  | zero => contradiction
  | succ count ih =>
      cases rest with
      | nil => contradiction
      | cons byte rest =>
          rw [readContinuation] at broken
          rw [List.length_cons]
          split at broken
          · have := ih broken
            omega
          · obtain rfl := Front.invalid.inj broken
            omega

/-- Up to the byte that is out of bounds, bytes are only incomplete. -/
theorem readContinuation_take {count low high code width total : Nat} {rest : List UInt8}
    (broken : readContinuation count low high code width rest = .invalid total) (taken : Nat) :
    readContinuation count low high code width (rest.take taken) =
      if width + taken ≤ total then .incomplete else .invalid total := by
  induction count generalizing low high code width rest taken with
  | zero => contradiction
  | succ count ih =>
      have bounds := le_of_invalid broken
      cases rest with
      | nil => contradiction
      | cons byte rest =>
          cases taken with
          | zero => rw [List.take_zero, readContinuation, if_pos (by omega)]
          | succ taken =>
              rw [List.take_succ_cons, readContinuation]
              rw [readContinuation] at broken
              split at broken
              · rename_i inside
                rw [if_pos inside, ih broken, Nat.add_right_comm, Nat.add_assoc]
              · rename_i outside
                obtain rfl := Front.invalid.inj broken
                rw [if_neg outside, if_neg (by omega)]

/-! ## Encodings of characters -/

theorem utf8EncodeChar_ofNat {code : Nat} (valid : code.isValidChar) :
    String.utf8EncodeChar (Char.ofNat code) =
      if code ≤ 0x7F then [UInt8.ofNat code]
      else if code ≤ 0x7FF then
        [UInt8.ofNat (code / 64 % 32 + 0xC0), UInt8.ofNat (code % 64 + 0x80)]
      else if code ≤ 0xFFFF then
        [UInt8.ofNat (code / 4096 % 16 + 0xE0), UInt8.ofNat (code / 64 % 64 + 0x80),
          UInt8.ofNat (code % 64 + 0x80)]
      else
        [UInt8.ofNat (code / 262144 % 8 + 0xF0), UInt8.ofNat (code / 4096 % 64 + 0x80),
          UInt8.ofNat (code / 64 % 64 + 0x80), UInt8.ofNat (code % 64 + 0x80)] := by
  have value_eq : (Char.ofNat code).val.toNat = code := by
    unfold Char.ofNat
    rw [dif_pos valid]
    rfl
  unfold String.utf8EncodeChar
  rw [value_eq]

theorem ofNat_eq {value : Nat} {byte : UInt8} (value_eq : value = byte.toNat) :
    UInt8.ofNat value = byte := by
  rw [value_eq, UInt8.ofNat_toNat]

section encodings

variable {first second third fourth : UInt8}

theorem utf8EncodeChar_one (bound : first.toNat < 0x80) :
    String.utf8EncodeChar (Char.ofNat first.toNat) = [first] := by
  rw [utf8EncodeChar_ofNat (.inl (by omega)), if_pos (by omega), ofNat_eq rfl]

theorem utf8EncodeChar_two (low : 0xC2 ≤ first.toNat) (high : first.toNat < 0xE0)
    (low_second : 0x80 ≤ second.toNat) (high_second : second.toNat ≤ 0xBF) :
    String.utf8EncodeChar
        (Char.ofNat ((first.toNat - 0xC0) * 64 + (second.toNat - 0x80))) =
      [first, second] := by
  rw [utf8EncodeChar_ofNat (.inl (by omega)), if_neg (by omega), if_pos (by omega),
    @ofNat_eq _ first (by omega), @ofNat_eq _ second (by omega)]

theorem utf8EncodeChar_three (low : 0xE0 ≤ first.toNat) (high : first.toNat < 0xF0)
    (low_second : (if first.toNat = 0xE0 then 0xA0 else 0x80) ≤ second.toNat)
    (high_second : second.toNat ≤ if first.toNat = 0xED then 0x9F else 0xBF)
    (low_third : 0x80 ≤ third.toNat) (high_third : third.toNat ≤ 0xBF) :
    String.utf8EncodeChar
        (Char.ofNat
          (((first.toNat - 0xE0) * 64 + (second.toNat - 0x80)) * 64 + (third.toNat - 0x80))) =
      [first, second, third] := by
  have valid :
      (((first.toNat - 0xE0) * 64 + (second.toNat - 0x80)) * 64 +
        (third.toNat - 0x80)).isValidChar := by
    unfold Nat.isValidChar
    split at low_second <;> split at high_second <;> omega
  have second_bounds : 0x80 ≤ second.toNat ∧ second.toNat ≤ 0xBF := by
    split at low_second <;> split at high_second <;> omega
  have long : 0x7FF < ((first.toNat - 0xE0) * 64 + (second.toNat - 0x80)) * 64 +
      (third.toNat - 0x80) := by
    split at low_second <;> omega
  rw [utf8EncodeChar_ofNat valid, if_neg (by omega), if_neg (by omega), if_pos (by omega),
    @ofNat_eq _ first (by omega), @ofNat_eq _ second (by omega),
    @ofNat_eq _ third (by omega)]

theorem utf8EncodeChar_four (low : 0xF0 ≤ first.toNat) (high : first.toNat < 0xF5)
    (low_second : (if first.toNat = 0xF0 then 0x90 else 0x80) ≤ second.toNat)
    (high_second : second.toNat ≤ if first.toNat = 0xF4 then 0x8F else 0xBF)
    (low_third : 0x80 ≤ third.toNat) (high_third : third.toNat ≤ 0xBF)
    (low_fourth : 0x80 ≤ fourth.toNat) (high_fourth : fourth.toNat ≤ 0xBF) :
    String.utf8EncodeChar
        (Char.ofNat
          ((((first.toNat - 0xF0) * 64 + (second.toNat - 0x80)) * 64 + (third.toNat - 0x80)) * 64 +
            (fourth.toNat - 0x80))) =
      [first, second, third, fourth] := by
  have valid :
      ((((first.toNat - 0xF0) * 64 + (second.toNat - 0x80)) * 64 + (third.toNat - 0x80)) * 64 +
        (fourth.toNat - 0x80)).isValidChar := by
    unfold Nat.isValidChar
    split at low_second <;> split at high_second <;> omega
  have second_bounds : 0x80 ≤ second.toNat ∧ second.toNat ≤ 0xBF := by
    split at low_second <;> split at high_second <;> omega
  have long : 0xFFFF < (((first.toNat - 0xF0) * 64 + (second.toNat - 0x80)) * 64 +
      (third.toNat - 0x80)) * 64 + (fourth.toNat - 0x80) := by
    split at low_second <;> omega
  rw [utf8EncodeChar_ofNat valid, if_neg (by omega), if_neg (by omega), if_neg (by omega),
    @ofNat_eq _ first (by omega),
    @ofNat_eq _ second (by omega), @ofNat_eq _ third (by omega), @ofNat_eq _ fourth (by omega)]

end encodings

/-- A character is read from its encoding only. -/
theorem utf8EncodeChar_of_front {byte : UInt8} {rest : List UInt8} {value : Char} {width : Nat}
    (read : front byte rest = .scalar value width) :
    ∃ later, byte :: rest = String.utf8EncodeChar value ++ later ∧
      width = (String.utf8EncodeChar value).length := by
  unfold front at read
  split at read
  case h_2 => contradiction
  rename_i lead lead_eq
  unfold lead? at lead_eq
  -- One case for each class of first bytes, with the bounds on the bytes that follow.
  split at lead_eq
  · rename_i bound
    obtain rfl := Option.some.inj lead_eq
    obtain ⟨rfl, rfl⟩ := Front.scalar.inj read
    rw [utf8EncodeChar_one bound]
    exact ⟨rest, rfl, rfl⟩
  split at lead_eq
  · contradiction
  split at lead_eq
  · obtain rfl := Option.some.inj lead_eq
    obtain ⟨second, later, rfl, low, high, read⟩ := readContinuation_eq_scalar read
    obtain ⟨rfl, rfl⟩ := Front.scalar.inj read
    rw [utf8EncodeChar_two (by omega) (by omega) low high]
    exact ⟨later, rfl, rfl⟩
  split at lead_eq
  · obtain rfl := Option.some.inj lead_eq
    obtain ⟨second, later, rfl, low, high, read⟩ := readContinuation_eq_scalar read
    obtain ⟨third, later, rfl, low_third, high_third, read⟩ := readContinuation_eq_scalar read
    obtain ⟨rfl, rfl⟩ := Front.scalar.inj read
    rw [utf8EncodeChar_three (by omega) (by omega) low high low_third high_third]
    exact ⟨later, rfl, rfl⟩
  split at lead_eq
  · obtain rfl := Option.some.inj lead_eq
    obtain ⟨second, later, rfl, low, high, read⟩ := readContinuation_eq_scalar read
    obtain ⟨third, later, rfl, low_third, high_third, read⟩ := readContinuation_eq_scalar read
    obtain ⟨fourth, later, rfl, low_fourth, high_fourth, read⟩ := readContinuation_eq_scalar read
    obtain ⟨rfl, rfl⟩ := Front.scalar.inj read
    rw [utf8EncodeChar_four (by omega) (by omega) low high low_third high_third low_fourth
      high_fourth]
    exact ⟨later, rfl, rfl⟩
  · contradiction

/-- What is left of the bytes stands behind the character that was read. -/
theorem utf8EncodeChar_append_drop {byte : UInt8} {rest : List UInt8} {value : Char} {width : Nat}
    (read : front byte rest = .scalar value width) :
    String.utf8EncodeChar value ++ rest.drop (width - 1) = byte :: rest := by
  obtain ⟨later, bytes_eq, rfl⟩ := utf8EncodeChar_of_front read
  obtain ⟨first, tail, encoded, -⟩ := front_utf8EncodeChar value []
  rw [encoded] at bytes_eq ⊢
  obtain ⟨rfl, rfl⟩ := List.cons.inj bytes_eq
  exact congrArg (byte :: tail ++ ·) List.drop_left

/-! ## The front of a sequence -/

section front

variable {byte : UInt8} {rest : List UInt8}

theorem lead?_bounds {value : Nat} {lead : Lead} (lead_eq : lead? value = some lead) :
    lead.low ≤ lead.high ∧ lead.high < 256 := by
  unfold lead? at lead_eq
  split at lead_eq
  · obtain rfl := Option.some.inj lead_eq
    exact ⟨by simp, by simp⟩
  split at lead_eq
  · contradiction
  split at lead_eq
  · obtain rfl := Option.some.inj lead_eq
    exact ⟨by simp, by simp⟩
  split at lead_eq
  · obtain rfl := Option.some.inj lead_eq
    dsimp only
    split <;> split <;> omega
  split at lead_eq
  · obtain rfl := Option.some.inj lead_eq
    dsimp only
    split <;> split <;> omega
  · contradiction

theorem front_append (decided : front byte rest ≠ .incomplete) (more : List UInt8) :
    front byte (rest ++ more) = front byte rest := by
  unfold front at decided ⊢
  cases lead_eq : lead? byte.toNat with
  | none => rfl
  | some lead =>
      simp only [lead_eq] at decided ⊢
      exact readContinuation_append decided more

/-- Bytes that are incomplete begin the encoding of a character. -/
theorem beginsCharacter_of_incomplete (short : front byte rest = .incomplete) :
    BeginsCharacter (byte :: rest) := by
  obtain ⟨more, value, width, completed, longer⟩ : ∃ more value width,
      front byte (rest ++ more) = .scalar value width ∧ rest.length < width := by
    unfold front at short ⊢
    cases lead_eq : lead? byte.toNat with
    | none => simp [lead_eq] at short
    | some lead =>
        simp only [lead_eq] at short ⊢
        obtain ⟨low_le, le_high⟩ := lead?_bounds lead_eq
        have intact (total : Nat) :
            readContinuation lead.count lead.low lead.high lead.payload 1 rest ≠
              .invalid total := by
          simp [short]
        obtain ⟨more, value, completed⟩ := exists_readContinuation intact low_le le_high
        have shorter := length_lt_of_incomplete short
        exact ⟨more, value, _, completed, by omega⟩
  obtain ⟨later, bytes_eq, rfl⟩ := utf8EncodeChar_of_front completed
  have stands : byte :: rest <+: byte :: (rest ++ more) :=
    (List.prefix_cons_inj byte).mpr (List.prefix_append rest more)
  exact ⟨value, List.prefix_of_prefix_length_le stands ⟨later, bytes_eq.symm⟩ longer⟩

/-- Bytes that begin the encoding of a character are not broken. -/
theorem front_of_beginsCharacter (begins : BeginsCharacter (byte :: rest)) :
    front byte rest = .incomplete ∨ ∃ value width, front byte rest = .scalar value width := by
  obtain ⟨character, more, whole⟩ := begins
  obtain ⟨first, later, encoded, front_eq⟩ := front_utf8EncodeChar character []
  rw [encoded, List.cons_append] at whole
  obtain ⟨rfl, rfl⟩ := List.cons.inj whole
  rw [List.append_nil] at front_eq
  by_cases short : front byte rest = .incomplete
  · exact .inl short
  · rw [front_append short] at front_eq
    exact .inr ⟨_, _, front_eq⟩

/-- What is broken stays broken when it is cut off behind the broken sequence. -/
theorem front_take {width : Nat} (broken : front byte rest = .invalid width) :
    0 < width ∧ width ≤ rest.length + 1 ∧
      (∀ taken, width ≤ taken → front byte (rest.take taken) = .invalid width) ∧
      (1 < width → front byte (rest.take (width - 1)) = .incomplete) := by
  unfold front at broken ⊢
  cases lead_eq : lead? byte.toNat with
  | none =>
      simp only [lead_eq] at broken ⊢
      obtain rfl := Front.invalid.inj broken
      exact ⟨by omega, by omega, fun _ _ => rfl, fun long => (Nat.lt_irrefl 1 long).elim⟩
  | some lead =>
      simp only [lead_eq] at broken ⊢
      obtain ⟨positive, le_length⟩ := le_of_invalid broken
      refine ⟨by omega, by omega, ?_, ?_⟩
      · intro taken longer
        rw [readContinuation_take broken, if_neg (by omega)]
      · intro long
        rw [readContinuation_take broken, if_pos (by omega)]

/-- The width of what is invalid is the length of the broken sequence. -/
theorem breaks_of_invalid {width : Nat} (broken : front byte rest = .invalid width) :
    Breaks (byte :: rest) width := by
  obtain ⟨positive, le_length, behind, before⟩ := front_take broken
  refine ⟨positive, le_length, ?_, ?_⟩
  · rcases Nat.lt_or_ge 1 width with long | short
    · obtain ⟨count, rfl⟩ := Nat.exists_eq_add_of_lt long
      exact .inr (beginsCharacter_of_incomplete (before long))
    · exact .inl (by omega)
  · intro other _ begins
    refine Nat.le_of_not_lt fun longer => ?_
    obtain ⟨taken, rfl⟩ := Nat.exists_eq_add_of_lt longer
    have still := behind (width + taken) (Nat.le_add_right width taken)
    rcases front_of_beginsCharacter begins with short | ⟨value, total, whole⟩
    · simp [still] at short
    · simp [still] at whole

end front

/-! ## Whole sequences -/

/-- What decoding stops at, and the length that it gives. -/
def Stops (byte : UInt8) (rest : List UInt8) : Option Nat → Prop
  | none => front byte rest = .incomplete
  | some width => front byte rest = .invalid width

/-- Decoding reads a text, and stops where no character stands in front. -/
theorem decodeFrom_cases (offset : Nat) (decoded : List Char) (bytes : List UInt8) :
    (∃ text, bytes = encode text ∧
      decodeFrom offset decoded bytes = .ok (decoded.reverse ++ text)) ∨
    ∃ text byte rest length, bytes = encode text ++ byte :: rest ∧ Stops byte rest length ∧
      decodeFrom offset decoded bytes =
        .error { validUpTo := offset + (encode text).length, errorLength := length } := by
  fun_induction decodeFrom offset decoded bytes with
  | case1 offset decoded => exact .inl ⟨[], rfl, by simp⟩
  | case2 offset decoded byte rest value width read ih =>
      have bytes_eq := utf8EncodeChar_append_drop read
      obtain ⟨-, -, rfl⟩ := utf8EncodeChar_of_front read
      rcases ih with
        ⟨text, rest_eq, decoded_eq⟩ | ⟨text, next, more, length, rest_eq, stops, failed⟩
      · refine .inl ⟨value :: text, ?_, ?_⟩
        · rw [encode_cons, ← rest_eq, bytes_eq]
        · rw [decoded_eq]
          simp
      · refine .inr ⟨value :: text, next, more, length, ?_, stops, ?_⟩
        · rw [encode_cons, List.append_assoc, ← rest_eq, bytes_eq]
        · rw [failed, encode_cons, List.length_append, Nat.add_assoc]
  | case3 offset decoded byte rest width read =>
      exact .inr ⟨[], byte, rest, some width, rfl, read, rfl⟩
  | case4 offset decoded byte rest read => exact .inr ⟨[], byte, rest, none, rfl, read, rfl⟩

/-- Decoding undoes encoding, and nothing else can be decoded. -/
theorem decode_eq_ok_iff {bytes : List UInt8} {text : List Char} :
    decode bytes = .ok text ↔ encode text = bytes := by
  constructor
  · intro read
    rcases decodeFrom_cases 0 [] bytes with
      ⟨other, rfl, decoded_eq⟩ | ⟨other, byte, rest, length, -, -, failed⟩
    · rw [decode, decoded_eq] at read
      obtain rfl := Except.ok.inj read
      rfl
    · rw [decode, failed] at read
      contradiction
  · rintro rfl
    exact decode_encode text

/-- Decoding fails exactly on what does not encode a text. -/
theorem exists_decode_error_iff {bytes : List UInt8} :
    (∃ fault, decode bytes = .error fault) ↔ ∀ text, encode text ≠ bytes := by
  simp only [Ne, ← decode_eq_ok_iff]
  cases decode bytes with
  | ok text => simp
  | error fault => simp

/-- No text reaches over the place where decoding stops. -/
theorem length_encode_le {text other : List Char} {byte : UInt8} {rest : List UInt8}
    {length : Option Nat} (stops : Stops byte rest length)
    (stands : encode other <+: encode text ++ byte :: rest) :
    (encode other).length ≤ (encode text).length := by
  refine Nat.le_of_not_lt fun longer => ?_
  have shorter := List.prefix_of_prefix_length_le (List.prefix_append _ _) stands
    (Nat.le_of_lt longer)
  obtain ⟨tail, other_eq⟩ := shorter
  rw [← other_eq, List.prefix_append_right_inj] at stands
  have read := decode_encode other
  rw [← other_eq, decode, decodeFrom_encode_append] at read
  cases tail with
  | nil => simp [← other_eq] at longer
  | cons first tail =>
      obtain ⟨rfl, more, rfl⟩ := List.cons_prefix_cons.mp stands
      -- The longer text has a character where decoding stops.
      cases front_eq : front first tail with
      | scalar value width =>
          rw [← front_append (by simp [front_eq]) more] at front_eq
          cases length <;> simp [Stops, front_eq] at stops
      | invalid | incomplete => simp [decodeFrom, front_eq] at read

/-- Decoding tells where and how bytes stop being a text. -/
theorem locates_of_decode {bytes : List UInt8} {fault : Fault}
    (failed : decode bytes = .error fault) : fault.Locates bytes := by
  rcases decodeFrom_cases 0 [] bytes with
    ⟨text, rfl, decoded_eq⟩ | ⟨text, byte, rest, length, rfl, stops, failed_eq⟩
  · rw [decode, decoded_eq] at failed
    contradiction
  rw [decode, failed_eq] at failed
  obtain rfl := Except.error.inj failed
  have dropped : (encode text ++ byte :: rest).drop (0 + (encode text).length) = byte :: rest := by
    rw [Nat.zero_add, List.drop_left]
  constructor
  · simp
  · exact ⟨text, by rw [Nat.zero_add, List.take_left]⟩
  · intro other stands
    rw [Nat.zero_add]
    exact length_encode_le stops stands
  · rw [dropped]
    cases length with
    | none => exact ⟨fun _ => beginsCharacter_of_incomplete stops, fun _ => rfl⟩
    | some width =>
        refine ⟨fun given => (Option.some_ne_none width given).elim, fun begins => ?_⟩
        have broken : front byte rest = .invalid width := stops
        rcases front_of_beginsCharacter begins with short | ⟨value, total, whole⟩
        · simp [broken] at short
        · simp [broken] at whole
  · intro width length_eq
    obtain rfl : length = some width := length_eq
    rw [dropped]
    exact breaks_of_invalid stops

/-- Sequences are broken at one length. -/
theorem Breaks.le {bytes : List UInt8} {length other : Nat} (breaks : Breaks bytes length)
    (otherwise : Breaks bytes other) : other ≤ length := by
  rcases otherwise.begins with rfl | begins
  · exact breaks.positive
  · exact breaks.longest other otherwise.le_length begins

theorem Fault.Locates.validUpTo_le {bytes : List UInt8} {fault other : Fault}
    (locates : fault.Locates bytes) (otherwise : other.Locates bytes) :
    other.validUpTo ≤ fault.validUpTo := by
  obtain ⟨text, text_eq⟩ := otherwise.valid
  have stands : encode text <+: bytes := text_eq ▸ List.take_prefix _ _
  have length_eq : (encode text).length = other.validUpTo := by
    rw [text_eq, List.length_take_of_le (Nat.le_of_lt otherwise.lt_length)]
  exact length_eq ▸ locates.longest text stands

/-- Bytes have one fault at most. -/
theorem Fault.Locates.unique {bytes : List UInt8} {fault other : Fault}
    (locates : fault.Locates bytes) (otherwise : other.Locates bytes) : fault = other := by
  obtain ⟨place, length⟩ := fault
  obtain ⟨other_place, other_length⟩ := other
  obtain rfl : place = other_place :=
    Nat.le_antisymm (otherwise.validUpTo_le locates) (locates.validUpTo_le otherwise)
  have absent_iff : length = none ↔ other_length = none :=
    locates.incomplete.trans otherwise.incomplete.symm
  cases length with
  | none => rw [absent_iff.mp rfl]
  | some length =>
      cases other_length with
      | none => exact (Option.some_ne_none _ (absent_iff.mpr rfl)).elim
      | some other_length =>
          have breaks := locates.broken length rfl
          have otherwise_breaks := otherwise.broken other_length rfl
          rw [Nat.le_antisymm (otherwise_breaks.le breaks) (breaks.le otherwise_breaks)]

/-- Decoding fails exactly with the fault that the bytes have. -/
theorem decode_eq_error_iff {bytes : List UInt8} {fault : Fault} :
    decode bytes = .error fault ↔ fault.Locates bytes := by
  constructor
  · exact locates_of_decode
  · intro locates
    cases decoded : decode bytes with
    | ok text =>
        obtain rfl := decode_eq_ok_iff.mp decoded
        have whole := locates.longest text (List.prefix_refl _)
        exact (Nat.not_lt_of_le whole locates.lt_length).elim
    | error other => rw [(locates_of_decode decoded).unique locates]

end Utf8
end LoxTokens
