import LoxTokens.Utf8

/-!
# Encoded texts

The encoding of a text decodes to the text, strictly and lossily.  The bounds on the first
continuation byte, which exclude overlong forms and surrogates, let every character through.
-/

namespace LoxTokens
namespace Utf8

theorem lead?_one {value : Nat} (bound : value < 0x80) :
    lead? value = some { payload := value, count := 0, low := 0x80, high := 0xBF } :=
  if_pos bound

theorem lead?_two {value : Nat} (long : 2 ≤ value) (bound : value < 32) :
    lead? (value + 0xC0) = some { payload := value, count := 1, low := 0x80, high := 0xBF } := by
  unfold lead?
  rw [if_neg (by omega), if_neg (by omega), if_pos (by omega), Nat.add_sub_cancel]

theorem lead?_three {value : Nat} (bound : value < 16) :
    lead? (value + 0xE0) =
      some
        { payload := value
          count := 2
          low := if value = 0 then 0xA0 else 0x80
          high := if value = 13 then 0x9F else 0xBF } := by
  unfold lead?
  rw [if_neg (by omega), if_neg (by omega), if_neg (by omega), if_pos (by omega),
    Nat.add_sub_cancel]
  simp

theorem lead?_four {value : Nat} (bound : value < 5) :
    lead? (value + 0xF0) =
      some
        { payload := value
          count := 3
          low := if value = 0 then 0x90 else 0x80
          high := if value = 4 then 0x8F else 0xBF } := by
  unfold lead?
  rw [if_neg (by omega), if_neg (by omega), if_neg (by omega), if_neg (by omega),
    if_pos (by omega), Nat.add_sub_cancel]
  simp

theorem toNat_ofNat_of_lt {value : Nat} (bound : value < 256) : (UInt8.ofNat value).toNat = value :=
  Nat.mod_eq_of_lt bound

/-- A continuation byte within its bounds adds six bits to the code point. -/
theorem readContinuation_byte {low high value : Nat} (count code width : Nat) (rest : List UInt8)
    (low_le : low ≤ value + 0x80) (le_high : value + 0x80 ≤ high) (bits : value < 64) :
    readContinuation (count + 1) low high code width (UInt8.ofNat (value + 0x80) :: rest) =
      readContinuation count 0x80 0xBF (code * 64 + value) (width + 1) rest := by
  rw [readContinuation, toNat_ofNat_of_lt (by omega), if_pos ⟨low_le, le_high⟩,
    Nat.add_sub_cancel]

/-- The last continuation bytes of an encoding are not bounded further. -/
theorem readContinuation_tail {value : Nat} (count code width : Nat) (rest : List UInt8)
    (bits : value < 64) :
    readContinuation (count + 1) 0x80 0xBF code width (UInt8.ofNat (value + 0x80) :: rest) =
      readContinuation count 0x80 0xBF (code * 64 + value) (width + 1) rest :=
  readContinuation_byte count code width rest (by omega) (by omega) bits

/-- What the encoding of a character begins with is that character. -/
theorem front_utf8EncodeChar (character : Char) (rest : List UInt8) :
    ∃ first later, String.utf8EncodeChar character = first :: later ∧
      front first (later ++ rest) = .scalar character (later.length + 1) := by
  have valid : character.val.toNat < 0xD800 ∨
      0xDFFF < character.val.toNat ∧ character.val.toNat < 0x110000 := character.valid
  have char_eq {code : Nat} (code_eq : code = character.val.toNat) : Char.ofNat code = character :=
    code_eq ▸ Char.ofNat_toNat character
  unfold String.utf8EncodeChar
  dsimp only
  generalize character.val.toNat = value at char_eq valid
  split
  · refine ⟨_, [], rfl, ?_⟩
    rw [front, toNat_ofNat_of_lt (by omega), lead?_one (by omega)]
    simp only [readContinuation, char_eq rfl, List.length_nil]
  · split
    · refine ⟨_, [_], rfl, ?_⟩
      rw [front, toNat_ofNat_of_lt (by omega), lead?_two (by omega) (by omega)]
      simp only [List.cons_append, List.nil_append]
      rw [readContinuation_tail _ _ _ _ (by omega), readContinuation, char_eq (by omega)]
      rfl
    · split
      · refine ⟨_, [_, _], rfl, ?_⟩
        rw [front, toNat_ofNat_of_lt (by omega), lead?_three (by omega)]
        simp only [List.cons_append, List.nil_append]
        rw [readContinuation_byte _ _ _ _ (by split <;> omega) (by split <;> omega) (by omega),
          readContinuation_tail _ _ _ _ (by omega), readContinuation, char_eq (by omega)]
        rfl
      · refine ⟨_, [_, _, _], rfl, ?_⟩
        rw [front, toNat_ofNat_of_lt (by omega), lead?_four (by omega)]
        simp only [List.cons_append, List.nil_append]
        rw [readContinuation_byte _ _ _ _ (by split <;> omega) (by split <;> omega) (by omega),
          readContinuation_tail _ _ _ _ (by omega), readContinuation_tail _ _ _ _ (by omega),
          readContinuation, char_eq (by omega)]
        rfl

theorem encode_nil : encode [] = [] := rfl

theorem encode_cons (character : Char) (text : List Char) :
    encode (character :: text) = String.utf8EncodeChar character ++ encode text := rfl

/-- Decoding goes on behind what was encoded. -/
theorem decodeFrom_encode_append (offset : Nat) (decoded text : List Char) (more : List UInt8) :
    decodeFrom offset decoded (encode text ++ more) =
      decodeFrom (offset + (encode text).length) (text.reverse ++ decoded) more := by
  induction text generalizing offset decoded with
  | nil => rfl
  | cons character text ih =>
      obtain ⟨first, later, bytes_eq, front_eq⟩ :=
        front_utf8EncodeChar character (encode text ++ more)
      have size : offset + (encode (character :: text)).length =
          offset + (later.length + 1) + (encode text).length := by
        rw [encode_cons, bytes_eq, List.length_append, List.length_cons]
        omega
      rw [size, encode_cons, bytes_eq, List.append_assoc, List.cons_append, decodeFrom, front_eq]
      simp only [Nat.add_sub_cancel, List.drop_left, ih, List.reverse_cons, List.append_assoc,
        List.singleton_append]

/-- Lossy decoding goes on behind a character. -/
theorem decodeLossyFrom_utf8EncodeChar_append (decoded : List Char) (character : Char)
    (rest : List UInt8) :
    decodeLossyFrom decoded (String.utf8EncodeChar character ++ rest) =
      decodeLossyFrom (character :: decoded) rest := by
  obtain ⟨first, later, bytes_eq, front_eq⟩ := front_utf8EncodeChar character rest
  rw [bytes_eq, List.cons_append, decodeLossyFrom, front_eq]
  simp only [Nat.add_sub_cancel, List.drop_left]

theorem decodeLossyFrom_encode (decoded text : List Char) :
    decodeLossyFrom decoded (encode text) = decoded.reverse ++ text := by
  induction text generalizing decoded with
  | nil => rw [encode_nil, decodeLossyFrom, List.append_nil]
  | cons character text ih =>
      rw [encode_cons, decodeLossyFrom_utf8EncodeChar_append, ih]
      simp

/-- Decoding gives back what was encoded. -/
theorem decode_encode (text : List Char) : decode (encode text) = .ok text := by
  have decoded := decodeFrom_encode_append 0 [] text []
  rw [List.append_nil, List.append_nil, decodeFrom, List.reverse_reverse] at decoded
  exact decoded

/-- No replacement character is put into what was encoded. -/
theorem decodeLossy_encode (text : List Char) : decodeLossy (encode text) = text :=
  decodeLossyFrom_encode [] text

end Utf8
end LoxTokens
