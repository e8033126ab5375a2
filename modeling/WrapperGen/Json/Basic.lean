import WrapperGen.Text.Basic

/-!
Values of the JSON format. The members of an object keep their order and their repetitions, and a
number keeps the class in which it was written: a whole number that fits 64 bits, with its sign, or
else a floating-point number.
-/

namespace WrapperGen

/-- A number: one of 0 to 2 ^ 64 - 1, one of -1 to -2 ^ 63 by its absolute value, or a
floating-point number by its bits. -/
inductive Json.Number
  | natural (value : Nat)
  | negative (absolute : Nat)
  | real (bits : UInt64)
deriving DecidableEq, Repr, Inhabited

inductive Json
  | null
  | bool (value : Bool)
  | number (value : Json.Number)
  | string (value : Text)
  | array (items : List Json)
  | object (members : List (Text × Json))
deriving Repr, Inhabited

namespace Json

def ofNat (value : Nat) : Json := .number (.natural value)

/-- A value that may be absent, which is written as null. -/
def ofOption {α : Type} (write : α → Json) : Option α → Json
  | none => .null
  | some value => write value

/-- The value of the first member with the name. -/
def member? (name : Text) : Json → Option Json
  | .object members => members.lookup name
  | _ => none

end Json

end WrapperGen
