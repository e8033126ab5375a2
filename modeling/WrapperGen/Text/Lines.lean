import WrapperGen.Text.Basic

/-!
Two ways to cut a text into lines. A line always ends at a line feed. The raw lines keep what stands
before it; the lines of a block lose one carriage return before it, and an unterminated last line
counts only if it is not empty.
-/

namespace WrapperGen.Text

/-- The texts between the line feeds. -/
def rawLines (text : Text) : List Text := splitWhere (· = '\n') text

/-- The text without one carriage return at its end. -/
def dropReturn : Text → Text
  | [] => []
  | ['\r'] => []
  | first :: rest => first :: dropReturn rest

/-- The lines of a block from its raw lines, the last of which has no line feed. -/
def blockLinesFrom : List Text → List Text
  | [] => []
  | [last] => if last = [] then [] else [last]
  | line :: lines => dropReturn line :: blockLinesFrom lines

/-- The lines of a block of text, without their ends. -/
def blockLines (block : Text) : List Text := blockLinesFrom (rawLines block)

end WrapperGen.Text
