import LoxTokens.Proofs.Decoding

/-!
# Bytes decoded with replacements

Lossy decoding reads every character that stands in the bytes and puts one replacement character in
place of each broken sequence, whether the bytes go on behind it or end inside a character.
-/

namespace LoxTokens
namespace Utf8

/-- Bytes are a text in which a replacement character stands for each broken sequence. -/
inductive Replaces : List UInt8 → List Char → Prop
  /-- Nothing is left. -/
  | nil : Replaces [] []
  /-- A character stands in front. -/
  | character {rest : List UInt8} {text : List Char} (value : Char) (later : Replaces rest text) :
      Replaces (String.utf8EncodeChar value ++ rest) (value :: text)
  /-- No character stands in front, and the broken sequence is replaced. -/
  | broken {bytes : List UInt8} {text : List Char} {length : Nat}
      (unread : ∀ value, ¬ String.utf8EncodeChar value <+: bytes) (breaks : Breaks bytes length)
      (later : Replaces (bytes.drop length) text) : Replaces bytes ('\uFFFD' :: text)

section front

variable {byte : UInt8} {rest : List UInt8}

/-- Where a character stands in front, that character is read. -/
theorem exists_front_eq_scalar {value : Char}
    (stands : String.utf8EncodeChar value <+: byte :: rest) :
    ∃ width, front byte rest = .scalar value width := by
  obtain ⟨more, whole⟩ := stands
  obtain ⟨first, later, encoded, front_eq⟩ := front_utf8EncodeChar value more
  rw [encoded, List.cons_append] at whole
  obtain ⟨rfl, rfl⟩ := List.cons.inj whole
  exact ⟨_, front_eq⟩

theorem unread_of_front (unread : ∀ value width, front byte rest ≠ .scalar value width)
    (value : Char) : ¬ String.utf8EncodeChar value <+: byte :: rest := by
  intro stands
  obtain ⟨width, read⟩ := exists_front_eq_scalar stands
  exact unread value width read

/-- Bytes that end inside a character are one broken sequence. -/
theorem breaks_of_incomplete (short : front byte rest = .incomplete) :
    Breaks (byte :: rest) (byte :: rest).length where
  positive := Nat.succ_pos _
  le_length := Nat.le_refl _
  begins := by
    rw [List.take_length]
    exact .inr (beginsCharacter_of_incomplete short)
  longest other le_length _ := le_length

end front

/-- Lossy decoding replaces the broken sequences. -/
theorem decodeLossyFrom_of_replaces {bytes : List UInt8} {text : List Char}
    (replaces : Replaces bytes text) (decoded : List Char) :
    decodeLossyFrom decoded bytes = decoded.reverse ++ text := by
  induction replaces generalizing decoded with
  | nil => rw [decodeLossyFrom, List.append_nil]
  | character value later ih =>
      rw [decodeLossyFrom_utf8EncodeChar_append, ih]
      simp
  | @broken bytes text length unread breaks later ih =>
      cases bytes with
      | nil => exact (Nat.not_lt_of_le breaks.le_length breaks.positive).elim
      | cons byte rest =>
          have same {other : Nat} (otherwise : Breaks (byte :: rest) other) : length = other :=
            Nat.le_antisymm (otherwise.le breaks) (breaks.le otherwise)
          cases front_eq : front byte rest with
          | scalar value width =>
              have stands : String.utf8EncodeChar value <+: byte :: rest :=
                ⟨_, utf8EncodeChar_append_drop front_eq⟩
              exact (unread value stands).elim
          | invalid width =>
              have breaks_width := breaks_of_invalid front_eq
              obtain rfl := same breaks_width
              obtain ⟨count, rfl⟩ := Nat.exists_eq_add_of_lt breaks_width.positive
              have replaced := ih (replacement :: decoded)
              rw [decodeLossyFrom, front_eq]
              simpa [replacement] using replaced
          | incomplete =>
              obtain rfl := same (breaks_of_incomplete front_eq)
              have replaced := ih (replacement :: decoded)
              rw [List.drop_length, decodeLossyFrom] at replaced
              rw [decodeLossyFrom, front_eq]
              simpa [replacement] using replaced

/-- All bytes can be decoded with replacements. -/
theorem exists_replaces (bytes : List UInt8) : ∃ text, Replaces bytes text := by
  induction length_eq : bytes.length using Nat.strongRecOn generalizing bytes with
  | ind length ih =>
      cases bytes with
      | nil => exact ⟨[], .nil⟩
      | cons byte rest =>
          have shorter (count : Nat) : (rest.drop count).length < length := by
            rw [← length_eq, List.length_drop, List.length_cons]
            omega
          cases front_eq : front byte rest with
          | scalar value width =>
              obtain ⟨text, later⟩ := ih _ (shorter (width - 1)) _ rfl
              exact ⟨value :: text, utf8EncodeChar_append_drop front_eq ▸ .character value later⟩
          | invalid width =>
              have breaks := breaks_of_invalid front_eq
              obtain ⟨count, rfl⟩ := Nat.exists_eq_add_of_lt breaks.positive
              obtain ⟨text, later⟩ := ih _ (shorter (0 + count)) _ rfl
              exact ⟨_, .broken (unread_of_front (by simp [front_eq])) breaks later⟩
          | incomplete =>
              have nothing_left : Replaces ((byte :: rest).drop (byte :: rest).length) [] := by
                rw [List.drop_length]
                exact .nil
              exact ⟨_, .broken (unread_of_front (by simp [front_eq]))
                (breaks_of_incomplete front_eq) nothing_left⟩

/-- Lossy decoding is decoding with replacements. -/
theorem decodeLossy_eq_iff {bytes : List UInt8} {text : List Char} :
    decodeLossy bytes = text ↔ Replaces bytes text := by
  have decoded_eq {other : List Char} (replaces : Replaces bytes other) :
      decodeLossy bytes = other := decodeLossyFrom_of_replaces replaces []
  refine ⟨?_, decoded_eq⟩
  rintro rfl
  obtain ⟨text, replaces⟩ := exists_replaces bytes
  rwa [decoded_eq replaces]

end Utf8
end LoxTokens
