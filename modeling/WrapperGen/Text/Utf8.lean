import WrapperGen.Text.Basic

/-!
Text as UTF-8 bytes. Decoding stops at the first byte that starts no well-formed character and
tells its offset; the tolerant decoder puts a replacement character for each ill-formed part.
-/

namespace WrapperGen.Text

/-- The UTF-8 bytes of the text. -/
def utf8 (text : Text) : List UInt8 := text.flatMap String.utf8EncodeChar

/-- The character that the bytes start with, if they start with a well-formed one. -/
def leadingChar? (bytes : List UInt8) : Option Char :=
  (bytes.take 4).toByteArray.utf8DecodeChar? 0

theorem length_drop_lt {bytes : List UInt8} {count : Nat} (nonempty : bytes ≠ [])
    (positive : 0 < count) : (bytes.drop count).length < bytes.length := by
  have := List.length_pos_iff.mpr nonempty
  simp only [List.length_drop]
  omega

/-- The text of bytes that stand `offset` bytes into their file, or the offset in the file of the
first byte at which no well-formed character starts. -/
def decodeFrom (offset : Nat) : List UInt8 → Except Nat Text
  | [] => .ok []
  | first :: rest =>
    match leadingChar? (first :: rest) with
    | none => .error offset
    | some char =>
      (decodeFrom (offset + char.utf8Size) ((first :: rest).drop char.utf8Size)).map (char :: ·)
termination_by bytes => bytes.length
decreasing_by exact length_drop_lt (List.cons_ne_nil first rest) char.utf8Size_pos

/-- The text of well-formed bytes, or else the length of their longest well-formed beginning. -/
def decode (bytes : List UInt8) : Except Nat Text := decodeFrom 0 bytes

/-- The range of the bytes that may follow a first byte of three or four. -/
def secondByteRange (first : UInt8) : UInt8 × UInt8 :=
  if first = 0xE0 then (0xA0, 0xBF)
  else if first = 0xED then (0x80, 0x9F)
  else if first = 0xF0 then (0x90, 0xBF)
  else if first = 0xF4 then (0x80, 0x8F)
  else (0x80, 0xBF)

/-- How many bytes at the start of an ill-formed sequence are the beginning of some well-formed
character; at least one. -/
def illFormedLength : List UInt8 → Nat
  | first :: second :: rest =>
    let (low, high) := secondByteRange first
    if first < 0xE0 || 0xF4 < first || second < low || high < second then 1
    else if first < 0xF0 then 2
    else match rest with
      | third :: _ => if 0x80 ≤ third && third ≤ 0xBF then 3 else 2
      | [] => 2
  | _ => 1

theorem illFormedLength_pos (bytes : List UInt8) : 0 < illFormedLength bytes := by
  unfold illFormedLength
  repeat' split
  all_goals simp_all

/-- The text of any bytes, with U+FFFD for each ill-formed part. -/
def decodeTolerantly : List UInt8 → Text
  | [] => []
  | first :: rest =>
    match leadingChar? (first :: rest) with
    | none =>
      '\uFFFD' :: decodeTolerantly ((first :: rest).drop (illFormedLength (first :: rest)))
    | some char => char :: decodeTolerantly ((first :: rest).drop char.utf8Size)
termination_by bytes => bytes.length
decreasing_by
  · exact length_drop_lt (List.cons_ne_nil first rest) (illFormedLength_pos _)
  · exact length_drop_lt (List.cons_ne_nil first rest) char.utf8Size_pos

/-- The order of texts by their UTF-8 bytes. -/
def bytewiseLE (left right : Text) : Bool := decide (left.utf8 ≤ right.utf8)

end WrapperGen.Text
