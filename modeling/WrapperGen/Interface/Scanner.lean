import WrapperGen.Interface.Basic
import WrapperGen.Text.Blank
import WrapperGen.Text.Lines
import WrapperGen.Text.Utf8

/-!
Reading an interface description. A description is read line by line and nothing in it is an error:
a line that has not one of the known shapes says nothing, and the first line that opens the
deprecated section ends the reading.
-/

namespace WrapperGen

inductive Entry
  | declaration (declaration : Declaration)
  | enumeration (enumeration : Enumeration)
  | category (category : Category)
deriving DecidableEq, Repr

/-- The description with what an earlier line says before everything else. -/
def Interface.prepend (entry : Entry) (interface : Interface) : Interface :=
  match entry with
  | .declaration declaration =>
    { interface with declarations := declaration :: interface.declarations }
  | .enumeration enumeration =>
    { interface with enumerations := enumeration :: interface.enumerations }
  | .category category => { interface with categories := category :: interface.categories }

namespace Scanner

/-- The words that open the deprecated section, at the very start of a line. -/
def deprecatedMark : Text := "cat Deprecated"

/-- A slot of a parameter list, from its piece of the list, the offset of that piece and the offset
at which the list ends. A blank piece leaves the slot absent, at the end of the list. -/
def readSlot (piece : Text) (pieceStart listEnd : Nat) : Param :=
  match Text.words piece with
  | [] => { type := [], name := [], span := .emptyAt listEnd }
  | type :: rest =>
    let start := pieceStart + Text.byteLength (piece.takeWhile Text.isBlank)
    { type, name := rest.head?.getD []
      span := ⟨start, start + (Text.trim piece).byteLength⟩ }

/-- The two slots of a parameter list that starts at the given offset. Pieces after the second are
left out. -/
def readSlots (list : Text) (start : Nat) : Param × Param :=
  let listEnd := start + list.byteLength
  match list.splitWhere (· = ',') with
  | [] => (readSlot [] start listEnd, readSlot [] start listEnd)
  | [first] => (readSlot first start listEnd, readSlot [] listEnd listEnd)
  | first :: second :: _ =>
    (readSlot first start listEnd, readSlot second (start + first.byteLength + 1) listEnd)

/-- The parameter list of a line and its offset in the line: what stands between the first opening
and the first closing parenthesis. It is empty behind an opening parenthesis that has no closing
one after it or has one before it, and empty at the end of a line without any. -/
def parameterList (line : Text) : Text × Nat :=
  match line.cut? '(' with
  | none => ([], line.byteLength)
  | some (before, after) =>
    let start := before.byteLength + 1
    if before.contains ')' then ([], start)
    else match after.cut? ')' with
      | none => ([], start)
      | some (list, _) => (list, start)

/-- The number of a message, from the texts before and after the first `=`: what stands between it
and the parameter list, if that comes later and anything stands there. -/
def readId? (head tail : Text) : Option Text :=
  if head.contains '(' then none
  else
    let id := Text.trim (tail.takeWhile (· ≠ '('))
    if id.isEmpty then none else some id

/-- The message that a line declares: a keyword, a type and a name before the first `=`. -/
def readDeclaration? (line : Text) (number start : Nat) : Option Declaration :=
  match line.cut? '=' with
  | none => none
  | some (head, tail) =>
    match head.words with
    | keyword :: returnType :: name :: _ =>
      (Feature.ofKeyword? keyword).map fun feature =>
        let (list, listStart) := parameterList line
        let (wparam, lparam) := readSlots list (start + listStart)
        { feature, returnType, name, id := readId? head tail, wparam, lparam, line := number
          span := ⟨start, start + line.byteLength⟩ }
    | _ => none

/-- The enumeration that a line names: a keyword and a name before the first `=`, and the prefixes
of its values after it. -/
def readEnumeration? (line : Text) (number : Nat) : Option Enumeration :=
  match line.cut? '=' with
  | none => none
  | some (head, tail) =>
    match head.words with
    | _ :: name :: _ => some { name, prefixes := tail.words, line := number }
    | _ => none

def readCategory? (line : Text) (number : Nat) : Option Category :=
  match line.words with
  | _ :: name :: _ => some { name, line := number }
  | _ => none

/-- What a line says, given its number and the offset at which it starts. -/
def readEntry? (line : Text) (number start : Nat) : Option Entry :=
  match line.words with
  | [] => none
  | keyword :: _ =>
    if keyword = "cat" then (readCategory? line number).map .category
    else if keyword = "enu" then (readEnumeration? line number).map .enumeration
    else (readDeclaration? line number start).map .declaration

/-- What the raw lines say, of which the first has the given number and offset. -/
def readLines (number start : Nat) : List Text → Interface
  | [] => {}
  | raw :: rest =>
    let line := Text.dropReturn raw
    if deprecatedMark.isPrefixOf line then { truncatedAt := some number }
    else
      let later := readLines (number + 1) (start + raw.byteLength + 1) rest
      match readEntry? line number start with
      | none => later
      | some entry => later.prepend entry

end Scanner

/-- The description that a text holds. -/
def Interface.read (text : Text) : Interface := Scanner.readLines 1 0 text.rawLines

/-- The description that bytes hold, or the offset of the first one that is not UTF-8. -/
def Interface.readBytes (bytes : List UInt8) : Except Nat Interface :=
  (Text.decode bytes).map Interface.read

end WrapperGen
