import WrapperGen.Diagnostic
import WrapperGen.Host
import WrapperGen.Json.Error

/-!
Why a command fails, and how it is told.
-/

namespace WrapperGen

inductive Failure
  | unreadable (path : Path) (fault : Fault)
  | notText (path : Path)
  | invalidConfig (path : Path) (error : Json.Error)
  | unknownTarget (name : Text) (known : List Text)
  | severalTargets
  | unknownFormat (name : Text)
  | undecodable (path : Path) (offset : Nat)
  | uncompilable (param : UnknownType) (fileName source : Text)
  | failedTargets (failed total : Nat)
  | notCreated (path : Path) (fault : Fault)
  | notWritten (path : Path) (fault : Fault)
  | notInitialized (fault : Fault)
deriving DecidableEq, Repr

namespace Failure

def message : Failure → Text
  | unreadable path fault => "Failed to read " ++ path.text ++ ": " ++ fault.message
  | notText path => "Failed to read " ++ path.text ++ ": stream did not contain valid UTF-8"
  | invalidConfig path error => "Invalid config " ++ path.text ++ ": " ++ error.message
  | unknownTarget name known =>
    "Unknown target: " ++ name ++ " (known: " ++ Text.join ", " known ++ ")"
  | severalTargets => "--input and --output need --target when the config lists several targets"
  | unknownFormat name => "Unknown format: " ++ name
  | undecodable path offset =>
    "Failed to decode " ++ path.text ++ ": " ++ (Rejection.undecodable offset).message
  | uncompilable param _ _ => (Rejection.unknownType param).message
  | failedTargets failed total =>
    Text.ofNat failed ++ " of " ++ Text.ofNat total ++ " targets failed"
  | notCreated path fault => "Failed to create " ++ path.text ++ ": " ++ fault.message
  | notWritten path fault => "Failed to write " ++ path.text ++ ": " ++ fault.message
  | notInitialized fault => fault.message

def picture : Failure → Picture
  | uncompilable param fileName source => Rejection.picture param fileName source
  | failure => [.inked .boldRed "Error:", .plain (" " ++ failure.message)]

end Failure

end WrapperGen
