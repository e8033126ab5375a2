import WrapperGen.Command.Check
import WrapperGen.Command.Generate
import WrapperGen.Command.Initialize

/-!
The commands of the program.
-/

namespace WrapperGen

inductive Command
  | generate (request : Generate)
  | check (request : Check)
  | init (request : Initialize)
deriving DecidableEq, Repr

def Command.run {m : Type → Type} [Monad m] [Host m] (cwd : Path) : Command → ExceptT Failure m Unit
  | generate request => request.run cwd
  | check request => request.run cwd
  | init request => request.run cwd

end WrapperGen
