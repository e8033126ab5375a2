import WrapperGen.Failure
import WrapperGen.Interface.Scanner

/-!
Descriptions in files, which are kept with their text for the diagnostics.
-/

namespace WrapperGen

variable {m : Type → Type} [Monad m] [Host m]

structure Description where
  fileName : Text
  text : Text
  interface : Interface
deriving DecidableEq, Repr

namespace Description

/-- The description in a file, given its bytes. -/
def ofBytes (path : Path) (bytes : List UInt8) : Except Failure Description :=
  match Text.decode bytes with
  | .error offset => .error (.undecodable path offset)
  | .ok text => .ok {
      fileName := path.fileName?.getD "unknown"
      text
      interface := .read text }

def load (path : Path) : ExceptT Failure m Description := do
  ExceptT.mk (pure (ofBytes path (← (Host.read path).adapt (.unreadable path))))

def failure (description : Description) (param : UnknownType) : Failure :=
  .uncompilable param description.fileName description.text

end Description

end WrapperGen
