import WrapperGen.Json.Basic
import WrapperGen.Json.Decimal

/-!
Writing JSON text, either on one line or with one item or member a line, indented by two blanks a
level. Only quotes, backslashes and control characters of a string are escaped.
-/

namespace WrapperGen.Json

/-- The escape of a character in a string, or the character as it is. -/
def escapeChar (char : Char) : Text :=
  if char = '"' then "\\\""
  else if char = '\\' then "\\\\"
  else if char = '\n' then "\\n"
  else if char = '\r' then "\\r"
  else if char = '\t' then "\\t"
  else if char = '\x08' then "\\b"
  else if char = '\x0c' then "\\f"
  else if char < ' ' then
    "\\u00" ++ [Nat.digitChar (char.toNat / 16), Nat.digitChar (char.toNat % 16)]
  else [char]

def printString (value : Text) : Text := ['"'] ++ value.flatMap escapeChar ++ ['"']

def Number.print : Number → Text
  | natural value => Text.ofNat value
  | negative absolute => ['-'] ++ Text.ofNat absolute
  | real bits => Decimal.ofBits bits

/-- A line end and the indentation of a level. -/
def newLine (level : Nat) : Text := ['\n'] ++ List.replicate (2 * level) ' '

mutual

/-- The text of a value over several lines, of which the first is already indented. -/
def pretty (level : Nat) : Json → Text
  | null => "null"
  | bool value => if value then "true" else "false"
  | number value => value.print
  | string value => printString value
  | array [] => "[]"
  | array (item :: items) =>
    ['['] ++ newLine (level + 1) ++ pretty (level + 1) item ++ prettyItems (level + 1) items ++
      newLine level ++ [']']
  | object [] => "\x7b\x7d"
  | object ((name, value) :: members) =>
    ['{'] ++ newLine (level + 1) ++ printString name ++ ": " ++ pretty (level + 1) value ++
      prettyMembers (level + 1) members ++ newLine level ++ ['}']

/-- The items after the first, each after a comma and on a line of its own. -/
def prettyItems (level : Nat) : List Json → Text
  | [] => []
  | item :: items => [','] ++ newLine level ++ pretty level item ++ prettyItems level items

/-- The members after the first, each after a comma and on a line of its own. -/
def prettyMembers (level : Nat) : List (Text × Json) → Text
  | [] => []
  | (name, value) :: members =>
    [','] ++ newLine level ++ printString name ++ ": " ++ pretty level value ++
      prettyMembers level members

end

mutual

/-- The text of a value on one line, without blanks. -/
def compact : Json → Text
  | null => "null"
  | bool value => if value then "true" else "false"
  | number value => value.print
  | string value => printString value
  | array items => ['['] ++ (compactItems items).drop 1 ++ [']']
  | object members => ['{'] ++ (compactMembers members).drop 1 ++ ['}']

def compactItems : List Json → Text
  | [] => []
  | item :: items => [','] ++ compact item ++ compactItems items

def compactMembers : List (Text × Json) → Text
  | [] => []
  | (name, value) :: members =>
    [','] ++ printString name ++ [':'] ++ compact value ++ compactMembers members

end

end WrapperGen.Json
