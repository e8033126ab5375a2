import WrapperGen.Text.Utf8

/-!
Texts and their bytes. Decoding gives back the text whose bytes it reads, so no two texts have the
same bytes, and texts sorted by their bytes stand in an order that only their number and their
contents decide.
-/

namespace WrapperGen.Text

@[simp] theorem utf8_nil : utf8 [] = [] := rfl

@[simp] theorem utf8_cons (first : Char) (rest : Text) :
    utf8 (first :: rest) = String.utf8EncodeChar first ++ utf8 rest := rfl

theorem leadingChar?_utf8EncodeChar_append (char : Char) (rest : List UInt8) :
    leadingChar? (String.utf8EncodeChar char ++ rest) = some char := by
  have length : (String.utf8EncodeChar char).length ≤ 4 := by
    rw [String.length_utf8EncodeChar]
    exact char.utf8Size_le_four
  rw [leadingChar?, List.take_append, List.take_of_length_le length, List.toByteArray_append]
  exact ByteArray.utf8DecodeChar?_utf8EncodeChar_append

/-- Decoding gets through the bytes of a text and goes on behind them. -/
theorem decodeFrom_utf8_append (offset : Nat) (text : Text) (rest : List UInt8) :
    decodeFrom offset (text.utf8 ++ rest) =
      (decodeFrom (offset + text.utf8.length) rest).map (text ++ ·) := by
  induction text generalizing offset with
  | nil =>
      rw [utf8_nil, List.nil_append, List.length_nil, Nat.add_zero]
      cases decodeFrom offset rest <;> rfl
  | cons first later ih =>
      obtain ⟨byte, bytes, encoded⟩ :=
        List.exists_cons_of_ne_nil (String.utf8EncodeChar_ne_nil (c := first))
      have size := String.length_utf8EncodeChar first
      have leading := leadingChar?_utf8EncodeChar_append first (utf8 later ++ rest)
      have behind : (String.utf8EncodeChar first ++ (utf8 later ++ rest)).drop first.utf8Size =
          utf8 later ++ rest := List.drop_left' size
      rw [utf8_cons, List.append_assoc, List.length_append, size]
      rw [encoded, List.cons_append] at leading behind ⊢
      rw [decodeFrom, leading]
      simp only [behind, ih, Nat.add_assoc]
      cases decodeFrom (offset + (first.utf8Size + (utf8 later).length)) rest <;> rfl

theorem decode_utf8 (text : Text) : decode text.utf8 = .ok text := by
  have decoded := decodeFrom_utf8_append 0 text []
  rw [List.append_nil, decodeFrom] at decoded
  rw [decode, decoded, Except.map, List.append_nil]

theorem utf8_injective {left right : Text} (same : left.utf8 = right.utf8) : left = right := by
  have decoded := decode_utf8 left
  rw [same, decode_utf8, Except.ok.injEq] at decoded
  exact decoded.symm

theorem bytewiseLE_iff {left right : Text} :
    bytewiseLE left right = true ↔ left.utf8 ≤ right.utf8 := by
  rw [bytewiseLE, decide_eq_true_eq]

theorem pairwise_mergeSort_bytewiseLE (texts : List Text) :
    (texts.mergeSort bytewiseLE).Pairwise fun left right => left.utf8 ≤ right.utf8 := by
  have transitive (first second third : Text) (below : bytewiseLE first second = true)
      (above : bytewiseLE second third = true) : bytewiseLE first third = true := by
    rw [bytewiseLE_iff] at below above ⊢
    exact List.le_trans below above
  have total (left right : Text) : (bytewiseLE left right || bytewiseLE right left) = true := by
    rw [Bool.or_eq_true, bytewiseLE_iff, bytewiseLE_iff]
    exact List.le_total left.utf8 right.utf8
  simpa only [bytewiseLE_iff] using List.pairwise_mergeSort transitive total texts

theorem mergeSort_bytewiseLE_eq_of_perm {texts others : List Text} (same : texts.Perm others) :
    texts.mergeSort bytewiseLE = others.mergeSort bytewiseLE := by
  have antisymmetric (left right : Text) (below : left.utf8 ≤ right.utf8)
      (above : right.utf8 ≤ left.utf8) : left = right :=
    utf8_injective (List.le_antisymm below above)
  apply List.Perm.eq_of_pairwise fun left right _ _ => antisymmetric left right
  · exact pairwise_mergeSort_bytewiseLE texts
  · exact pairwise_mergeSort_bytewiseLE others
  · exact (List.mergeSort_perm texts _).trans (same.trans (List.mergeSort_perm others _).symm)

end WrapperGen.Text
