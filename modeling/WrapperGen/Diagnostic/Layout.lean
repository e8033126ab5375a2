import WrapperGen.Text.Blank
import WrapperGen.Text.Lines
import WrapperGen.Text.Width

/-!
Where characters stand when a text is displayed: on which line, in which column, and how wide. More
characters end a displayed line than end a line of a description.
-/

namespace WrapperGen.Layout

/-- The number of characters that start before a byte of the text. -/
def charOffset : Text → (byte : Nat) → Nat
  | [], _ => 0
  | first :: rest, byte => if byte = 0 then 0 else charOffset rest (byte - first.utf8Size) + 1

/-- Whether a character ends a displayed line. -/
def endsLine (char : Char) : Bool :=
  (0xA ≤ char.toNat && char.toNat ≤ 0xD) || char.toNat = 0x85 || char.toNat = 0x2028 ||
    char.toNat = 0x2029

/-- Puts a character before the first line. -/
def prependChar (char : Char) : List Text → List Text
  | [] => [[char]]
  | line :: lines => (char :: line) :: lines

/-- The displayed lines of a text, each with its end; none is empty. A carriage return and a line
feed end one line together. -/
def lines : Text → List Text
  | [] => []
  | first :: rest =>
    if first = '\r' ∧ rest.head? = some '\n' then prependChar first (lines rest)
    else if endsLine first then [first] :: lines rest
    else prependChar first (lines rest)

/-- A place in a text: its line, counted from zero, the characters of that line, and its column. -/
structure Place where
  index : Nat
  line : Text
  column : Nat
deriving DecidableEq, Repr

/-- The place of a character offset among lines; the end of the text is on the last line. -/
def locate : List Text → (offset : Nat) → Option Place
  | [], _ => none
  | [last], offset => some ⟨0, last, offset⟩
  | line :: rest, offset =>
    if offset < line.length then some ⟨0, line, offset⟩
    else (locate rest (offset - line.length)).map fun place =>
      { place with index := place.index + 1 }

/-- What is shown for a character in a column of its line, and how wide that is. A tab goes up to
the next column that is a multiple of four. -/
def shown (column : Nat) (char : Char) : Char × Nat :=
  if char = '\t' then (' ', 4 - column % 4)
  else if Text.isBlank char then (' ', 1)
  else (char, Text.charWidth char)

/-- The characters of a line that are shown, which are all but the blanks at its end. -/
def visible (line : Text) : Text := Text.dropTailWhile Text.isBlank line

/-- The widths of `count` columns from the given one on, past the end of the line one each. -/
def widths (column : Nat) : (line : Text) → (count : Nat) → List Nat
  | _, 0 => []
  | [], count + 1 => 1 :: widths (column + 1) [] count
  | char :: rest, count + 1 => (shown column char).2 :: widths (column + 1) rest count

end WrapperGen.Layout
