import WrapperGen.Text.Basic

/-!
What can be chosen about a generated header.
-/

namespace WrapperGen

/-- How the generated class names the type of the function that it calls: by the library's own name,
or by a private alias. -/
inductive Dispatch
  | libraryType
  | privateAlias
deriving DecidableEq, Repr, Inhabited

namespace Dispatch

def functionType : Dispatch → Text
  | libraryType => "SciFnDirect"
  | privateAlias => "FunctionDirect"

def label : Dispatch → Text
  | libraryType => "sciFnDirect"
  | privateAlias => "functionDirect"

/-- Every choice, in the order in which they are listed to a reader. -/
def all : List Dispatch := [libraryType, privateAlias]

end Dispatch

/-- What ends a line of the header. -/
inductive LineEnding
  | crlf
  | lf
  | native
deriving DecidableEq, Repr, Inhabited

namespace LineEnding

/-- The characters that end a line. The native ending is a line feed. -/
def text : LineEnding → Text
  | crlf => "\r\n"
  | lf => "\n"
  | native => "\n"

def label : LineEnding → Text
  | crlf => "crlf"
  | lf => "lf"
  | native => "native"

/-- Every choice, in the order in which they are listed to a reader. -/
def all : List LineEnding := [crlf, lf, native]

end LineEnding

/-- The choices for one header. The class registers itself under the name `windowClass`, and
`provenance` names the source in a comment, if there is to be one. -/
structure Header.Options where
  className : Text := "CScintillaImpl"
  windowClass : Text := "CScintillaImpl"
  dispatch : Dispatch := .libraryType
  provenance : Option Text := none
  lineEnding : LineEnding := .native
deriving DecidableEq, Repr, Inhabited

end WrapperGen
