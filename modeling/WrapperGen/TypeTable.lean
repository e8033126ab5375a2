import WrapperGen.Interface.Basic

/-!
The C++ types of the types that a description names. Fifteen are built in; each enumeration that the
description declares is an integer type too, unless its name is one of the fifteen.
-/

namespace WrapperGen

/-- C++ types by the names that a description uses for them, no name twice. -/
structure TypeTable where
  entries : List (Text × Text)

namespace TypeTable

/-- The spelling of the integer type, which stands for every unknown one. -/
def integer : Text := "int"

/-- The spelling of the type without values. -/
def void : Text := "void"

def pointer : Text := "void*"

/-- The types that every description knows. -/
def builtin : TypeTable where
  entries := [
    ("bool", "bool"),
    ("cells", "const char*"),
    ("colour", "Colour"),
    ("colouralpha", integer),
    ("findtext", pointer),
    ("formatrange", pointer),
    ("int", integer),
    ("keymod", integer),
    ("line", "Line"),
    ("pointer", pointer),
    ("position", "Position"),
    ("string", "const char*"),
    ("stringresult", "char*"),
    ("textrange", pointer),
    ("void", void)]

/-- The C++ type of a name, if it is known. -/
def lookup? (types : TypeTable) (name : Text) : Option Text := types.entries.lookup name

/-- The types with one more integer type, unless its name is taken. -/
def declare (types : TypeTable) (name : Text) : TypeTable :=
  match types.lookup? name with
  | some _ => types
  | none => { entries := types.entries ++ [(name, integer)] }

def ofInterface (interface : Interface) : TypeTable :=
  interface.enumerationNames.foldl declare builtin

/-- The C++ type of a name where an unknown name is an integer type and no name is no type. -/
def resolve (types : TypeTable) (name : Text) : Text :=
  if name.isEmpty then [] else (types.lookup? name).getD integer

def size (types : TypeTable) : Nat := types.entries.length

end TypeTable

def isPointerType (type : Text) : Bool := type.getLast? = some '*'

/-- The C++ types that the second parameter of a message takes by value. -/
def valueTypes : List Text := [TypeTable.integer, "bool", "Colour", "Line", "Position"]

/-- Whether the second parameter of a message takes a C++ type by value. -/
def isValueType (type : Text) : Bool := valueTypes.contains type

end WrapperGen
