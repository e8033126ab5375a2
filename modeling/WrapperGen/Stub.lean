import WrapperGen.Rejection
import WrapperGen.Text.UpperCase
import WrapperGen.Text.Utf8
import WrapperGen.TypeTable

/-!
Stubs: the methods of the generated class, one for each message of a description. A message takes
two numbers, so each parameter is passed in its own place, a pointer as a number and a parameter
without a name as zero. The types of the first parameter and of the result are read leniently, that
of a named second parameter strictly.
-/

namespace WrapperGen

/-- A method: its result type, its name, its parameters by type and name, and what it passes on with
the message. -/
structure Stub where
  returnType : Text
  name : Text
  params : List (Text × Text)
  arguments : List Text
deriving DecidableEq, Repr

def messageConstant (name : Text) : Text := "SCI_" ++ name.upperCase

namespace Stub

def cast (type expression : Text) : Text :=
  "reinterpret_cast<" ++ type ++ ">(" ++ expression ++ ")"

/-- The type of a second parameter. An unnamed one is passed as zero whatever its type, so only a
named one has to be known. -/
def resolveSecond (types : TypeTable) (declaration : Declaration) : Except UnknownType Text :=
  let param := declaration.lparam
  if param.type.isEmpty || param.name.isEmpty then .ok (types.resolve param.type)
  else match types.lookup? param.type with
    | some type => .ok type
    | none => .error ⟨param.type, param.name, declaration.line, param.span⟩

/-- What is passed for a first parameter of the given type. -/
def firstArgument (type name : Text) : Text :=
  if name.isEmpty then "0"
  else if isPointerType type then cast "uintptr_t" name
  else name

/-- What is passed for the second parameter, given its type. -/
def secondArgument (type : Text) (declaration : Declaration) : Except UnknownType Text :=
  let param := declaration.lparam
  if param.name.isEmpty then .ok "0"
  else if isPointerType type then .ok (cast "intptr_t" param.name)
  else if isValueType type then .ok param.name
  else .error ⟨type, param.name, declaration.line, param.span⟩

/-- The stub of a message. A second argument calls for a first one; without either, none is
passed. -/
def ofDeclaration (types : TypeTable) (declaration : Declaration) : Except UnknownType Stub := do
  let wparam := declaration.wparam
  let firstType := types.resolve wparam.type
  let secondType ← resolveSecond types declaration
  let first := if firstType.isEmpty then [] else [(firstType, wparam.name)]
  let second := if secondType.isEmpty then [] else [(secondType, declaration.lparam.name)]
  let arguments ←
    if !secondType.isEmpty then do
      let argument ← secondArgument secondType declaration
      pure [firstArgument firstType wparam.name, argument]
    else if !firstType.isEmpty then pure [firstArgument firstType wparam.name]
    else pure []
  return {
    returnType := types.resolve declaration.returnType
    name := declaration.name
    params := first ++ second
    arguments }

def call (stub : Stub) : Text :=
  let sent := "Call(" ++ Text.join ", " (messageConstant stub.name :: stub.arguments) ++ ")"
  if stub.returnType = TypeTable.pointer then cast "void*" sent else sent

def signature (stub : Stub) : Text :=
  Text.join ", " (stub.params.map fun (type, name) => type ++ " " ++ name)

def render (stub : Stub) : Text :=
  let body := if stub.returnType = TypeTable.void then stub.call else "return " ++ stub.call
  stub.returnType ++ " " ++ stub.name ++ "(" ++ stub.signature ++ ") \x7b " ++ body ++ "; \x7d"

def compile (types : TypeTable) (declaration : Declaration) : Except UnknownType Text :=
  (ofDeclaration types declaration).map render

/-- The texts of all stubs of a description in the order of their bytes, unless one of its messages
has none; then the first such message tells why. -/
def compileAll (interface : Interface) : Except UnknownType (List Text) := do
  let stubs ← interface.declarations.mapM (compile (.ofInterface interface))
  return stubs.mergeSort Text.bytewiseLE

end Stub

end WrapperGen
