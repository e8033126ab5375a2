import WrapperGen.Interface.Basic

/-!
Why no header can be made from a description: it is not UTF-8 text, or the second parameter of a
message has a type that cannot be passed there.
-/

namespace WrapperGen

/-- A second parameter of a type that cannot be passed, with the line of its message. -/
structure UnknownType where
  type : Text
  name : Text
  line : Nat
  span : Span
deriving DecidableEq, Repr, Inhabited

inductive Rejection
  | undecodable (offset : Nat)
  | unknownType (param : UnknownType)
deriving DecidableEq, Repr

def Rejection.message : Rejection → Text
  | undecodable offset =>
    "Input is not valid UTF-8 text (invalid byte at offset " ++ Text.ofNat offset ++ ")"
  | unknownType param =>
    "Parsing aborted because of unknown type: " ++ param.type ++ " " ++ param.name ++ " (line " ++
      Text.ofNat param.line ++ ")"

end WrapperGen
