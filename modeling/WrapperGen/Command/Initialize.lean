import WrapperGen.Config.Printer
import WrapperGen.Failure
import WrapperGen.Text.Utf8

/-!
Putting a configuration in its place. One that is there is kept, unless it is to be overwritten.
-/

namespace WrapperGen

variable {m : Type → Type} [Monad m] [Host m]

structure Initialize where
  path : Path := "."
  force : Bool := false
deriving DecidableEq, Repr

namespace Initialize

/-- What is printed if the configuration is kept. -/
def notice : Picture := [
  .inked .yellow "⚠️", .plain " ", .inked .brightWhite Config.fileName,
  .plain " already exists\nUse --force to overwrite\n"]

def heading : Picture := [.inked .boldBlue "📝 Initializing scigen config...", .plain "\n"]

def targetLine (target : Target) : Text :=
  "    • " ++ target.name ++ ": " ++ target.input ++ " → " ++ target.output ++ "\n"

def summary (config : Config) : Picture := [
  .plain "  ", .inked .green "✓", .plain (" Created " ++ Config.fileName ++ "\n"),
  .plain (config.targets.flatMap targetLine),
  .plain "\nNext steps:\n",
  .plain "  1. Place Scintilla.iface next to the config\n",
  .plain "  2. Run: scigen generate\n"]

/-- Puts a configuration with a target of either kind in its place. -/
def run (request : Initialize) (cwd : Path) : ExceptT Failure m Unit := do
  let base := cwd.join request.path
  let path := base.join ⟨Config.fileName⟩
  if !request.force && (← (Host.isPresent path : m Bool)) then Host.print notice
  else
    Host.print heading
    (Host.makeDirectories base).adapt .notInitialized
    (Host.write path Config.complete.print.utf8).adapt .notInitialized
    Host.print (summary .complete)

end Initialize

end WrapperGen
