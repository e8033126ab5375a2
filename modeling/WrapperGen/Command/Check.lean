import WrapperGen.Command.Report
import WrapperGen.Config.Load

/-!
Checking targets. Each target gets a report, whatever becomes of the others, and no file is written.
-/

namespace WrapperGen

variable {m : Type → Type} [Monad m] [Host m]

/-- A request for reports on the targets of the configuration in a directory, or on one of them. -/
structure Check where
  path : Path := "."
  target : Option Text := none
  format : Text := "text"
deriving DecidableEq, Repr

def Target.check (base : Path) (target : Target) : m Report := do
  let input := target.inputPath base
  match ← (Description.load input).run with
  | .error failure => return { target := target.name, input, outcome := .error failure }
  | .ok description => return .ofDescription target.name input description

namespace Check

def runWith (request : Check) (cwd : Path) (format : Report.Format) (config : Config) :
    ExceptT Failure m Unit := do
  let targets ← ExceptT.mk (pure (config.select request.target))
  let reports ← targets.mapM fun target => (target.check (cwd.join request.path) : m Report)
  Host.print (format.picture reports)
  let failed := reports.countP (·.isFailure)
  if 0 < failed then throw (.failedTargets failed reports.length)

def run (request : Check) (cwd : Path) : ExceptT Failure m Unit := do
  let format ← ExceptT.mk (pure (Report.Format.ofName request.format))
  request.runWith cwd format (← Config.load (cwd.join request.path))

end Check

end WrapperGen
