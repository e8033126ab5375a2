import Mathlib.Tactic.SplitIfs
import WrapperGen.Json.Printer
import WrapperGen.Json.Token

/-!
Printed strings read back. Every character is read from what it is printed as, and what follows the
string is left alone.
-/

namespace WrapperGen.Json

theorem hexDigit?_digitChar : ∀ digit < 16, hexDigit? (Nat.digitChar digit) = some digit := by
  decide

theorem readHex_digits (high low : Nat) (highBound : high < 16) (lowBound : low < 16)
    (rest : Text) :
    readHex ('0' :: '0' :: Nat.digitChar high :: Nat.digitChar low :: rest) =
      .ok (16 * high + low, rest) := by
  have zero : hexDigit? '0' = some 0 := rfl
  simp [readHex, zero, hexDigit?_digitChar high highBound, hexDigit?_digitChar low lowBound]

theorem readEscape_control {char : Char} (control : char < ' ') (rest : Text) :
    readEscape ('u' :: '0' :: '0' :: Nat.digitChar (char.toNat / 16) ::
      Nat.digitChar (char.toNat % 16) :: rest) = .ok (char, rest) := by
  have bound : char.toNat < 32 := control
  have code : 16 * (char.toNat / 16) + char.toNat % 16 = char.toNat := by omega
  have read := readHex_digits (char.toNat / 16) (char.toNat % 16) (by omega) (by omega) rest
  rw [code] at read
  -- the code of a control character is far below those of surrogates
  have whole : ¬ (0xDC00 ≤ char.toNat ∧ char.toNat ≤ 0xDFFF) := by omega
  have short : char.toNat < 0xD800 ∨ 0xDBFF < char.toNat := by omega
  simp only [readEscape, ↓reduceIte, readCodeEscape, read, whole, short, Char.ofNat_toNat]

theorem readString_escape {text rest : Text} {char : Char}
    (escape : readEscape text = .ok (char, rest)) :
    readString ('\\' :: text) =
      (readString rest).map fun (chars, rest) => (char :: chars, rest) := by
  rw [readString, if_neg (by decide), if_pos rfl]
  split
  · rename_i failed
    rw [escape] at failed
    cases failed
  · rename_i read
    rw [escape] at read
    cases read
    rfl

theorem readString_escapeChar (char : Char) (text : Text) :
    readString (escapeChar char ++ text) =
      (readString text).map fun (chars, rest) => (char :: chars, rest) := by
  unfold escapeChar
  split_ifs with quote backslash lineFeed carriageReturn tab backspace formFeed control
  -- each of the first seven has a letter of its own
  iterate 7
    · subst_vars
      exact readString_escape rfl
  · exact readString_escape (readEscape_control control text)
  · rw [List.singleton_append, readString, if_neg quote, if_neg backslash, if_neg control]

/-- The string that a text was printed as ends where the text does. -/
theorem readString_escaped (value rest : Text) :
    readString (value.flatMap escapeChar ++ '"' :: rest) = .ok (value, rest) := by
  induction value with
  | nil => rw [List.flatMap_nil, List.nil_append, readString, if_pos rfl]
  | cons char chars ih =>
      rw [List.flatMap_cons, List.append_assoc, readString_escapeChar, ih]
      rfl

end WrapperGen.Json
