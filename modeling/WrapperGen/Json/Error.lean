import WrapperGen.Json.Basic
import WrapperGen.Json.Decimal
import WrapperGen.Text.Quoted

/-!
What can be wrong with a JSON text: it breaks the format, or it holds something else than was
expected in a place.
-/

namespace WrapperGen.Json

/-- A break of the format: the text ends too early, or something stands in the wrong place. -/
inductive Fault
  | listEnds
  | objectEnds
  | stringEnds
  | valueEnds
  | colonExpected
  | listCommaExpected
  | objectCommaExpected
  | wordExpected
  | valueExpected
  | invalidEscape
  | invalidNumber
  | numberOutOfRange
  | controlCharacter
  | keyNotString
  | loneSurrogate
  | surrogatePairEnds
  | trailingComma
  | trailingText
deriving DecidableEq, Repr

/-- Whether the text ends too early. -/
def Fault.isEnd : Fault → Bool
  | listEnds | objectEnds | stringEnds | valueEnds => true
  | _ => false

def Fault.message : Fault → Text
  | listEnds => "EOF while parsing a list"
  | objectEnds => "EOF while parsing an object"
  | stringEnds => "EOF while parsing a string"
  | valueEnds => "EOF while parsing a value"
  | colonExpected => "expected `:`"
  | listCommaExpected => "expected `,` or `]`"
  | objectCommaExpected => "expected `,` or `\x7d`"
  | wordExpected => "expected ident"
  | valueExpected => "expected value"
  | invalidEscape => "invalid escape"
  | invalidNumber => "invalid number"
  | numberOutOfRange => "number out of range"
  | controlCharacter => "control character (\\u0000-\\u001F) found while parsing a string"
  | keyNotString => "key must be a string"
  | loneSurrogate => "lone leading surrogate in hex escape"
  | surrogatePairEnds => "unexpected end of hex escape"
  | trailingComma => "trailing comma"
  | trailingText => "trailing characters"

/-- What was found in a place where something else was expected. -/
inductive Found
  | null
  | bool (value : Bool)
  | number (value : Number)
  | string (value : Text)
  | array
  | object
deriving DecidableEq, Repr

def Found.describe : Found → Text
  | null => "null"
  | bool value => "boolean `" ++ (if value then "true".toList else "false".toList) ++ "`"
  | number (.natural value) => "integer `" ++ Text.ofNat value ++ "`"
  | number (.negative absolute) => "integer `-" ++ Text.ofNat absolute ++ "`"
  | number (.real bits) => "floating point `" ++ Decimal.ofBits bits ++ "`"
  | string value => "string " ++ value.quoted
  | array => "sequence"
  | object => "map"

inductive Mismatch
  | type (found : Found) (expected : Text)
  | value (found : Found) (expected : Text)
  | length (count : Nat) (expected : Text)
  | variant (name : Text) (known : List Text)
  | missing (field : Text)
  | duplicate (field : Text)
deriving DecidableEq, Repr

def accented (name : Text) : Text := "`" ++ name ++ "`"

def choice : List Text → Text
  | [] => "there are no variants"
  | [only] => "expected " ++ accented only
  | [first, second] => "expected " ++ accented first ++ " or " ++ accented second
  | names => "expected one of " ++ Text.join ", " (names.map accented)

def Mismatch.message : Mismatch → Text
  | type found expected => "invalid type: " ++ found.describe ++ ", expected " ++ expected
  | value found expected => "invalid value: " ++ found.describe ++ ", expected " ++ expected
  | length count expected => "invalid length " ++ Text.ofNat count ++ ", expected " ++ expected
  | variant name known => "unknown variant " ++ accented name ++ ", " ++ choice known
  | missing field => "missing field " ++ accented field
  | duplicate field => "duplicate field " ++ accented field

inductive Error
  | fault (cause : Fault)
  | mismatch (cause : Mismatch)
deriving DecidableEq, Repr

def Error.message : Error → Text
  | fault cause => cause.message
  | mismatch cause => cause.message

end WrapperGen.Json
