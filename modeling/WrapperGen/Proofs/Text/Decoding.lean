import Mathlib.Order.Bounds.Defs
import WrapperGen.Proofs.Text.Utf8

/-!
What can be decoded. A sequence of bytes spells a character if it is the shortest one that spells
the character's number; decoding accepts the bytes that are such sequences one after the other, and
on all others it tells how long the longest beginning is that it accepts.
-/

namespace WrapperGen.Text

/-! ## Well-formed bytes -/

/-- The bytes that spell a number. The first one tells by its high bits how many follow, and each of
those adds six bits to the number. -/
inductive Spells : List UInt8 → Nat → Prop
  | one {code : Nat} : code < 0x80 → Spells [.ofNat code] code
  | two {first second : Nat} : first < 0x20 → second < 0x40 →
      Spells [.ofNat (0xC0 + first), .ofNat (0x80 + second)] (first * 0x40 + second)
  | three {first second third : Nat} : first < 0x10 → second < 0x40 → third < 0x40 →
      Spells [.ofNat (0xE0 + first), .ofNat (0x80 + second), .ofNat (0x80 + third)]
        ((first * 0x40 + second) * 0x40 + third)
  | four {first second third fourth : Nat} : first < 0x8 → second < 0x40 → third < 0x40 →
      fourth < 0x40 →
      Spells [.ofNat (0xF0 + first), .ofNat (0x80 + second), .ofNat (0x80 + third),
        .ofNat (0x80 + fourth)] (((first * 0x40 + second) * 0x40 + third) * 0x40 + fourth)

/-- The bytes spell a number that a character can have, and no fewer bytes do. -/
structure SpellsCharacter (bytes : List UInt8) (code : Nat) : Prop where
  spelled : Spells bytes code
  shortest : ∀ others, Spells others code → bytes.length ≤ others.length
  noSurrogate : ¬ (0xD800 ≤ code ∧ code ≤ 0xDFFF)
  withinRange : code ≤ 0x10FFFF

/-- The bytes are those of characters, one after the other and with nothing behind the last. -/
def IsWellFormed (bytes : List UInt8) : Prop :=
  ∃ characters : List (List UInt8), characters.flatten = bytes ∧
    ∀ character ∈ characters, ∃ code, SpellsCharacter character code

/-- The more bytes, the larger the numbers for which there is room. -/
theorem Spells.bound {bytes : List UInt8} {code : Nat} (spelled : Spells bytes code) :
    (bytes.length = 1 ∧ code < 0x80) ∨ (bytes.length = 2 ∧ code < 0x800) ∨
      (bytes.length = 3 ∧ code < 0x10000) ∨ (bytes.length = 4 ∧ code < 0x200000) := by
  cases spelled with
  | one => exact Or.inl ⟨rfl, by omega⟩
  | two => exact Or.inr (Or.inl ⟨rfl, by omega⟩)
  | three => exact Or.inr (Or.inr (Or.inl ⟨rfl, by omega⟩))
  | four => exact Or.inr (Or.inr (Or.inr ⟨rfl, by omega⟩))

theorem Spells.eq_of_length {bytes others : List UInt8} {code : Nat} (spelled : Spells bytes code)
    (spelledToo : Spells others code) (length : bytes.length = others.length) : bytes = others := by
  generalize same : code = number at spelledToo
  cases spelled with
  | one below =>
      cases spelledToo with
      | one => rw [same]
      | _ => simp at length
  | @two first second _ _ =>
      cases spelledToo with
      | @two firstToo secondToo _ _ =>
          obtain ⟨rfl, rfl⟩ : first = firstToo ∧ second = secondToo := by omega
          rfl
      | _ => simp at length
  | @three first second third _ _ _ =>
      cases spelledToo with
      | @three firstToo secondToo thirdToo _ _ _ =>
          obtain ⟨rfl, rfl, rfl⟩ : first = firstToo ∧ second = secondToo ∧ third = thirdToo := by
            omega
          rfl
      | _ => simp at length
  | @four first second third fourth _ _ _ _ =>
      cases spelledToo with
      | @four firstToo secondToo thirdToo fourthToo _ _ _ _ =>
          obtain ⟨rfl, rfl, rfl, rfl⟩ : first = firstToo ∧ second = secondToo ∧
              third = thirdToo ∧ fourth = fourthToo := by omega
          rfl
      | _ => simp at length

theorem spells_utf8EncodeChar (char : Char) : Spells (String.utf8EncodeChar char) char.toNat := by
  have valid : char.val.toNat < 0xD800 ∨ 0xDFFF < char.val.toNat ∧ char.val.toNat < 0x110000 :=
    char.valid
  rw [String.utf8EncodeChar.eq_1, Char.toNat]
  generalize char.val.toNat = code at valid ⊢
  have last : code % 64 + 128 = 0x80 + code % 64 := by omega
  have third : code / 64 % 64 + 128 = 0x80 + code / 64 % 64 := by omega
  split
  · exact .one (by omega)
  split
  · have spelled := @Spells.two (code / 64) (code % 64) (by omega) (by omega)
    have whole : code / 64 * 0x40 + code % 64 = code := by omega
    have first : code / 64 % 32 + 192 = 0xC0 + code / 64 := by omega
    rw [whole] at spelled
    rw [first, last]
    exact spelled
  split
  · have spelled := @Spells.three (code / 4096) (code / 64 % 64) (code % 64) (by omega) (by omega)
      (by omega)
    have whole : (code / 4096 * 0x40 + code / 64 % 64) * 0x40 + code % 64 = code := by omega
    have first : code / 4096 % 16 + 224 = 0xE0 + code / 4096 := by omega
    rw [whole] at spelled
    rw [first, third, last]
    exact spelled
  · have spelled := @Spells.four (code / 262144) (code / 4096 % 64) (code / 64 % 64) (code % 64)
      (by omega) (by omega) (by omega) (by omega)
    have whole : ((code / 262144 * 0x40 + code / 4096 % 64) * 0x40 + code / 64 % 64) * 0x40 +
        code % 64 = code := by omega
    have first : code / 262144 % 8 + 240 = 0xF0 + code / 262144 := by omega
    have second : code / 4096 % 64 + 128 = 0x80 + code / 4096 % 64 := by omega
    rw [whole] at spelled
    rw [first, second, third, last]
    exact spelled

theorem length_utf8EncodeChar_le {char : Char} {others : List UInt8}
    (spelled : Spells others char.toNat) :
    (String.utf8EncodeChar char).length ≤ others.length := by
  have bound := spelled.bound
  have size : (String.utf8EncodeChar char).length =
      if char.toNat ≤ 127 then 1 else if char.toNat ≤ 2047 then 2
      else if char.toNat ≤ 65535 then 3 else 4 := by
    rw [String.utf8EncodeChar.eq_1, Char.toNat]
    split
    · rfl
    split
    · rfl
    split <;> rfl
  rw [size]
  split
  · omega
  split
  · omega
  split <;> omega

theorem spellsCharacter_iff {bytes : List UInt8} {code : Nat} :
    SpellsCharacter bytes code ↔
      ∃ char : Char, char.toNat = code ∧ bytes = String.utf8EncodeChar char := by
  constructor
  · rintro ⟨spelled, shortest, noSurrogate, withinRange⟩
    have valid : code.isValidChar := by
      change code < 0xD800 ∨ 0xDFFF < code ∧ code < 0x110000
      omega
    have same : (Char.ofNat code).toNat = code := by
      rw [Char.ofNat, dif_pos valid]
      rfl
    have encoded := spells_utf8EncodeChar (Char.ofNat code)
    rw [same] at encoded
    refine ⟨Char.ofNat code, same, spelled.eq_of_length encoded (Nat.le_antisymm ?_ ?_)⟩
    · exact shortest _ encoded
    · exact length_utf8EncodeChar_le (same.symm ▸ spelled)
  · rintro ⟨char, rfl, rfl⟩
    have valid : char.toNat < 0xD800 ∨ 0xDFFF < char.toNat ∧ char.toNat < 0x110000 := char.valid
    exact ⟨spells_utf8EncodeChar char, fun _ spelled => length_utf8EncodeChar_le spelled,
      by omega, by omega⟩

theorem isWellFormed_iff {bytes : List UInt8} :
    IsWellFormed bytes ↔ ∃ text : Text, text.utf8 = bytes := by
  constructor
  · rintro ⟨characters, rfl, spelled⟩
    induction characters with
    | nil => exact ⟨[], rfl⟩
    | cons character characters ih =>
        simp only [List.forall_mem_cons] at spelled
        obtain ⟨⟨code, first⟩, others⟩ := spelled
        obtain ⟨char, -, rfl⟩ := spellsCharacter_iff.mp first
        obtain ⟨text, same⟩ := ih others
        exact ⟨char :: text, by rw [utf8_cons, same, List.flatten_cons]⟩
  · rintro ⟨text, rfl⟩
    refine ⟨text.map String.utf8EncodeChar, (List.flatMap_def ..).symm, ?_⟩
    intro character listed
    obtain ⟨char, -, rfl⟩ := List.mem_map.mp listed
    exact ⟨char.toNat, spellsCharacter_iff.mpr ⟨char, rfl, rfl⟩⟩

/-! ## Decoding -/

theorem prefix_of_leadingChar? {bytes : List UInt8} {char : Char}
    (leading : leadingChar? bytes = some char) : String.utf8EncodeChar char <+: bytes := by
  obtain ⟨rest, same⟩ := ByteArray.exists_of_utf8DecodeChar?_eq_some leading
  have listed := congrArg (·.data.toList) same
  simp only [ByteArray.toList_data_append, List.toList_data_toByteArray] at listed
  exact List.IsPrefix.trans ⟨rest.data.toList, listed.symm⟩ (List.take_prefix 4 bytes)

theorem decodeFrom_of_unread {rest : List UInt8} (remains : rest ≠ [])
    (unread : leadingChar? rest = none) (offset : Nat) :
    decodeFrom offset rest = .error offset := by
  obtain ⟨first, later, rfl⟩ := List.exists_cons_of_ne_nil remains
  rw [decodeFrom, unread]

/-- All bytes start with the bytes of some text behind which no character starts. -/
theorem exists_text_in_front (bytes : List UInt8) :
    ∃ (text : Text) (rest : List UInt8), bytes = text.utf8 ++ rest ∧ leadingChar? rest = none := by
  induction size : bytes.length using Nat.strongRecOn generalizing bytes with
  | ind count ih =>
      cases leading : leadingChar? bytes with
      | none => exact ⟨[], bytes, rfl, leading⟩
      | some char =>
          obtain ⟨later, rfl⟩ := prefix_of_leadingChar? leading
          have shorter : later.length < count := by
            have positive := char.utf8Size_pos
            rw [List.length_append, String.length_utf8EncodeChar] at size
            omega
          obtain ⟨text, rest, rfl, unread⟩ := ih later.length shorter later rfl
          exact ⟨char :: text, rest, by rw [utf8_cons, List.append_assoc], unread⟩

theorem decode_eq_ok_iff {bytes : List UInt8} {text : Text} :
    decode bytes = .ok text ↔ text.utf8 = bytes := by
  constructor
  · intro decoded
    obtain ⟨front, rest, rfl, unread⟩ := exists_text_in_front bytes
    rw [decode, decodeFrom_utf8_append] at decoded
    by_cases remains : rest = []
    · subst remains
      rw [decodeFrom] at decoded
      obtain rfl : front ++ [] = text := Except.ok.inj decoded
      rw [List.append_nil, List.append_nil]
    · rw [decodeFrom_of_unread remains unread] at decoded
      contradiction
  · rintro rfl
    exact decode_utf8 text

theorem decode_eq_error_of_unread (text : Text) {rest : List UInt8} (remains : rest ≠ [])
    (unread : leadingChar? rest = none) :
    decode (text.utf8 ++ rest) = .error text.utf8.length := by
  rw [decode, decodeFrom_utf8_append, decodeFrom_of_unread remains unread, Nat.zero_add]
  rfl

/-- No text reaches beyond the place at which no character starts. -/
theorem length_utf8_le_of_unread {text other : Text} {rest : List UInt8}
    (unread : leadingChar? rest = none) (begins : other.utf8 <+: text.utf8 ++ rest) :
    other.utf8.length ≤ text.utf8.length := by
  induction other generalizing text with
  | nil => exact Nat.zero_le _
  | cons first others ih =>
      obtain ⟨behind, same⟩ := begins
      have leading := leadingChar?_utf8EncodeChar_append first (utf8 others ++ behind)
      rw [← List.append_assoc, ← utf8_cons, same] at leading
      cases text with
      | nil =>
          rw [utf8_nil, List.nil_append, unread] at leading
          contradiction
      | cons char text =>
          have leadingToo := leadingChar?_utf8EncodeChar_append char (utf8 text ++ rest)
          rw [← List.append_assoc, ← utf8_cons, leading] at leadingToo
          obtain rfl : first = char := Option.some.inj leadingToo
          rw [utf8_cons, utf8_cons, List.append_assoc, List.append_assoc] at same
          have later := ih ⟨behind, List.append_cancel_left same⟩
          rw [utf8_cons, utf8_cons, List.length_append, List.length_append]
          omega

/-- The lengths of the beginnings of the bytes that can be decoded. -/
def decodableLengths (bytes : List UInt8) : Set Nat :=
  {length | ∃ front text, front <+: bytes ∧ front.length = length ∧ decode front = .ok text}

theorem isGreatest_of_unread (text : Text) {rest : List UInt8} (unread : leadingChar? rest = none) :
    IsGreatest (decodableLengths (text.utf8 ++ rest)) text.utf8.length := by
  constructor
  · exact ⟨text.utf8, text, List.prefix_append _ _, rfl, decode_utf8 text⟩
  · rintro length ⟨front, other, begins, rfl, decoded⟩
    obtain rfl := decode_eq_ok_iff.mp decoded
    exact length_utf8_le_of_unread unread begins

/-- Bytes that are not well-formed are refused at the end of their longest decodable beginning. -/
theorem decode_of_not_isWellFormed {bytes : List UInt8} (illFormed : ¬ IsWellFormed bytes) :
    ∃ offset, decode bytes = .error offset ∧ IsGreatest (decodableLengths bytes) offset := by
  obtain ⟨text, rest, rfl, unread⟩ := exists_text_in_front bytes
  have remains : rest ≠ [] := by
    rintro rfl
    exact illFormed (isWellFormed_iff.mpr ⟨text, (List.append_nil _).symm⟩)
  exact ⟨text.utf8.length, decode_eq_error_of_unread text remains unread,
    isGreatest_of_unread text unread⟩

end WrapperGen.Text
