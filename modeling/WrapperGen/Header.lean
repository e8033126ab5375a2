import WrapperGen.Header.Options
import WrapperGen.Interface.Scanner
import WrapperGen.Stub
import WrapperGen.Template
import WrapperGen.Writer

/-!
Headers: the stubs of a description between two fixed blocks. The stubs are made before anything is
written, so a description that is rejected gives no part of a header.
-/

namespace WrapperGen.Header

open Template (mark)

def opening : Text :=
  "#pragma once\n" ++
  "#include <ILexer.h>\n" ++
  "#include <Lexilla.h>\n" ++
  "#include <Scintilla.h>\n" ++
  "#include <SciLexer.h>\n" ++
  "\n" ++
  "template <class T>\n" ++
  "class " ++ mark "class_name" ++ " : public CWindowImpl<T, CWindow, CControlWinTraits>\n" ++
  "\x7b\n" ++
  "public:\n" ++
  "\tDECLARE_WND_SUPERCLASS2(L\"" ++ mark "window_class" ++ "\", " ++ mark "class_name" ++
    ", CWindow::GetWndClassName())\n" ++
  "\n" ++
  "\tusing Colour = int;\n" ++
  "\tusing Line = int;\n" ++
  "\tusing Position = int;\n" ++
  "\n" ++
  "\tvoid SetFnPtr()\n" ++
  "\t\x7b\n" ++
  "\t\tATLASSERT(::IsWindow(this->m_hWnd));\n" ++
  "\t\tfn = reinterpret_cast<" ++ mark "fn_type" ++
    ">(::SendMessage(this->m_hWnd, SCI_GETDIRECTFUNCTION, 0, 0));\n" ++
  "\t\tptr = ::SendMessage(this->m_hWnd, SCI_GETDIRECTPOINTER, 0, 0);\n" ++
  "\t\x7d\n"

def closing : Text :=
  "private:\n" ++
  mark "fn_alias" ++
  "\tintptr_t Call(uint32_t msg, uintptr_t wParam = 0, intptr_t lParam = 0)\n" ++
  "\t\x7b\n" ++
  "\t\treturn fn(ptr, msg, wParam, lParam);\n" ++
  "\t\x7d\n" ++
  "\n" ++
  "\t" ++ mark "fn_type" ++ " fn;\n" ++
  "\tintptr_t ptr;\n" ++
  "\x7d;\n"

/-- The declaration of the private function type, where there is one. -/
def aliasDeclaration : Dispatch → Text
  | .libraryType => []
  | .privateAlias =>
    "\tusing FunctionDirect = intptr_t(*)(intptr_t ptr, uint32_t msg, uintptr_t wParam, " ++
      "intptr_t lParam);\n\n"

/-- The first block with its marks filled. -/
def filledOpening (options : Options) : Text :=
  Template.fill opening [
    ("class_name", options.className),
    ("window_class", options.windowClass),
    ("fn_type", options.dispatch.functionType)]

/-- The last block with its marks filled. -/
def filledClosing (options : Options) : Text :=
  Template.fill closing [
    ("fn_alias", aliasDeclaration options.dispatch),
    ("fn_type", options.dispatch.functionType)]

def provenanceNote (source : Text) : Text := "// Auto-generated from " ++ source ++ " by scigen"

def bodyLines (options : Options) (stubs : List Text) : List Text :=
  (options.provenance.map provenanceNote).toList ++ stubs

def assemble (options : Options) (stubs : List Text) : Text :=
  let start : Writer := { lineEnding := options.lineEnding }
  let opened := ((start.addBlock (filledOpening options)).newLine).indent
  let filled := (bodyLines options stubs).foldl Writer.addLine opened
  ((filled.dedent.newLine).addBlock (filledClosing options)).output

/-- The header for a description. -/
def ofInterface (options : Options) (interface : Interface) : Except UnknownType Text :=
  (Stub.compileAll interface).map (assemble options)

/-- The header for the bytes of a description. -/
def ofBytes (options : Options) (bytes : List UInt8) : Except Rejection Text :=
  match Interface.readBytes bytes with
  | .error offset => .error (.undecodable offset)
  | .ok interface => (ofInterface options interface).mapError .unknownType

end WrapperGen.Header
