import WrapperGen.Interface.Description
import WrapperGen.Json.Printer
import WrapperGen.Stub

/-!
Reports on targets, and the two forms in which they are printed.
-/

namespace WrapperGen

/-- What is found out about a target: what its description holds, and the number of its stubs or
else why it has none. -/
structure Report where
  target : Text
  input : Path
  declarations : Nat := 0
  enumerations : Nat := 0
  categories : Nat := 0
  deprecatedFrom : Option Nat := none
  outcome : Except Failure Nat
deriving Repr

namespace Report

def ofDescription (target : Text) (input : Path) (description : Description) : Report where
  target
  input
  declarations := description.interface.declarations.length
  enumerations := description.interface.enumerations.length
  categories := description.interface.categories.length
  deprecatedFrom := description.interface.truncatedAt
  outcome :=
    match Stub.compileAll description.interface with
    | .ok stubs => .ok stubs.length
    | .error param => .error (description.failure param)

def isFailure (report : Report) : Bool := !report.outcome.isOk

/-- The members of a report. Only one of `stubs` and `error` is present. -/
def members (report : Report) : List (Text × Json) :=
  let counts : List (Text × Json) := [
    ("target", .string report.target),
    ("input", .string report.input.text),
    ("declarations", .ofNat report.declarations),
    ("enumerations", .ofNat report.enumerations),
    ("categories", .ofNat report.categories)]
  let deprecated := report.deprecatedFrom.toList.map fun line =>
    ("deprecatedFrom".toList, Json.ofNat line)
  match report.outcome with
  | .ok stubs => counts ++ [("stubs".toList, Json.ofNat stubs)] ++ deprecated
  | .error failure => counts ++ deprecated ++ [("error".toList, Json.string failure.message)]

def toJson (report : Report) : Json := .object report.members

def countLine (label : Text) (count : Nat) : Piece :=
  .plain ("   " ++ label ++ " " ++ Text.ofNat count ++ "\n")

def titleLine (report : Report) : Piece :=
  .plain (" " ++ report.target ++ " (" ++ report.input.text ++ ")\n")

def failureLines : Failure → Picture
  | .uncompilable param fileName source =>
    Rejection.picture param fileName source ++ [.plain "\n"]
  | failure => [.plain "   ", .inked .red failure.message, .plain "\n"]

def picture (report : Report) : Picture :=
  match report.outcome with
  | .ok stubs =>
    let deprecated (line : Nat) : Picture := [
      .plain "   ", .inked .dimmed "Deprecated section skipped",
      .plain (" from line " ++ Text.ofNat line ++ "\n")]
    [.inked .green "✓", report.titleLine,
      countLine "Methods:     " report.declarations,
      countLine "Enumerations:" report.enumerations,
      countLine "Categories:  " report.categories,
      countLine "Stubs:       " stubs] ++
    report.deprecatedFrom.toList.flatMap deprecated
  | .error failure => [.inked .red "✗", report.titleLine] ++ failureLines failure

end Report

/-- The forms in which reports are printed. -/
inductive Report.Format
  | text
  | json
deriving DecidableEq, Repr

namespace Report.Format

def ofName (name : Text) : Except Failure Report.Format :=
  if name = "text" then .ok text
  else if name = "json" then .ok json
  else .error (.unknownFormat name)

def picture (reports : List Report) : Report.Format → Picture
  | text =>
    let heading : Picture := [
      .plain "🔍 ", .inked .boldGreen "Checking", .plain " Scintilla interface\n\n"]
    heading ++ reports.flatMap fun report => report.picture ++ [.plain "\n"]
  | json => [.plain (Json.pretty 0 (.array (reports.map Report.toJson)) ++ "\n")]

end Report.Format

end WrapperGen
