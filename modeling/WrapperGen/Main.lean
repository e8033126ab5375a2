import WrapperGen.CommandLine
import WrapperGen.Text.Utf8

/-!
The program: command lines run on the files of this machine.
-/

namespace WrapperGen.Terminal

/-- Work on this machine, with or without colour on the terminal. -/
abbrev Work := ReaderT Bool IO

/-- Whether a code that the machine gives, with either sign, is the given one. -/
def isCode (number code : UInt32) : Bool := code = number || code = 0 - number

def faultOf : IO.Error → Fault
  | .noFileOrDirectory .. => .notFound
  | .alreadyExists .. => .alreadyExists
  | .inappropriateType _ code details =>
    if isCode 20 code then .notDirectory
    else if isCode 21 code then .isDirectory
    else .other details
  | .invalidArgument _ code details => if isCode 36 code then .nameTooLong else .other details
  | error => .other error.toString

def isName (path : Path) : Bool := '\x00' ∉ path.text

def onFile {α : Type} (path : Path) (action : String → IO α) : ExceptT Fault Work α :=
  ExceptT.mk fun _ => do
    if !isName path then return .error .nulInName
    match ← EIO.toBaseIO (action (String.ofList path.text)) with
    | .ok value => return .ok value
    | .error error => return .error (faultOf error)

instance : Host Work where
  isPresent path := fun _ => do
    return isName path && (← (System.mkFilePath [String.ofList path.text]).pathExists)
  isDirectory path := fun _ => do
    return isName path && (← (System.mkFilePath [String.ofList path.text]).isDir)
  read path := onFile path fun name => do return (← IO.FS.readBinFile name).toList
  write path bytes := onFile path fun name => IO.FS.writeBinFile name bytes.toByteArray
  makeDirectory path := onFile path fun name => IO.FS.createDir name
  display picture := fun colour => IO.print (String.ofList (picture.render colour))

/-- Whether output is coloured: as the environment asks for, or else if it goes to a terminal. -/
def isColoured : IO Bool := do
  let isSet (value : Option String) : Bool := value.isSome && value ≠ some "0"
  if isSet (← IO.getEnv "CLICOLOR_FORCE") then return true
  else if (← IO.getEnv "NO_COLOR").isSome then return false
  else if (← IO.getEnv "CLICOLOR") = some "0" then return false
  else (← IO.getStdout).isTty

end WrapperGen.Terminal

open WrapperGen

def main (arguments : List String) : IO UInt32 := do
  let colour ← Terminal.isColoured
  let cwd : Path := ⟨(← IO.currentDir).toString.toList⟩
  let work : Terminal.Work CommandLine.Ending :=
    CommandLine.execute cwd (arguments.map String.toList)
  let ending ← work.run colour
  IO.eprint (String.ofList (ending.report.render colour))
  return ending.exitCode.toUInt32
