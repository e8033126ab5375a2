import WrapperGen.Text.Basic

/-!
Templates: text with marks in double braces that are filled with values, one value after the other.
A value that holds a mark itself is filled again by a later one; a mark without a value stays.
-/

namespace WrapperGen.Template

def mark (key : Text) : Text := "\x7b\x7b" ++ key ++ "\x7d\x7d"

/-- The template with each mark of the listed keys filled, key after key. -/
def fill (template : Text) (values : List (Text × Text)) : Text :=
  values.foldl (fun text (key, value) => text.replaceAll (mark key) value) template

end WrapperGen.Template
