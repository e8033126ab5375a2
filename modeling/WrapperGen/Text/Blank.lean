import WrapperGen.Text.Basic

/-!
White space: the characters with the Unicode property White_Space, and the cutting of text at them.
-/

namespace WrapperGen.Text

/-- The characters with the property White_Space. -/
def isBlank (char : Char) : Bool :=
  let code := char.toNat
  (0x9 ≤ code && code ≤ 0xD) || code = 0x20 || code = 0x85 || code = 0xA0 || code = 0x1680 ||
  (0x2000 ≤ code && code ≤ 0x200A) || code = 0x2028 || code = 0x2029 || code = 0x202F ||
  code = 0x205F || code = 0x3000

/-- The words of the text: its longest pieces without white space. -/
def words (text : Text) : List Text := (splitWhere isBlank text).filter (· ≠ [])

/-- The text without white space at either end. -/
def trim (text : Text) : Text := dropTailWhile isBlank (text.dropWhile isBlank)

end WrapperGen.Text
