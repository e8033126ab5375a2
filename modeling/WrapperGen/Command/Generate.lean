import WrapperGen.Config.Load
import WrapperGen.Header
import WrapperGen.Interface.Description

/-!
Generating headers. Every header is made before the first one is written, so a target that fails
leaves all files as they are, wherever it stands among the targets.
-/

namespace WrapperGen

variable {m : Type → Type} [Monad m] [Host m]

/-- A request for headers: of the targets of the configuration in a directory, or of one of them.
The input and the output of a single target may be given in its place. -/
structure Generate where
  path : Path := "."
  target : Option Text := none
  input : Option Path := none
  output : Option Path := none
  toStdout : Bool := false
deriving DecidableEq, Repr

/-- A target with the paths that its input and its output have. -/
structure Job where
  target : Target
  input : Path
  output : Path
deriving DecidableEq, Repr

/-- The job for a target. Paths that are given are relative to the working directory, those of the
configuration to its own. -/
def Generate.job (request : Generate) (cwd : Path) (target : Target) : Job where
  target
  input :=
    match request.input with
    | some path => cwd.join path
    | none => target.inputPath (cwd.join request.path)
  output :=
    match request.output with
    | some path => cwd.join path
    | none => target.outputPath (cwd.join request.path)

/-- A header that is ready to be written, and the number of its methods. -/
structure Rendering where
  job : Job
  header : Text
  methods : Nat
deriving DecidableEq, Repr

def Job.renderFrom (job : Job) (description : Description) : Except Failure Rendering :=
  match Header.ofInterface (job.target.options job.input) description.interface with
  | .error param => .error (description.failure param)
  | .ok header => .ok { job, header, methods := description.interface.declarations.length }

def Job.render (job : Job) : ExceptT Failure m Rendering := do
  ExceptT.mk (pure (job.renderFrom (← Description.load job.input)))

namespace Rendering

def print (rendering : Rendering) : ExceptT Failure m Unit := do
  Host.print [.plain rendering.header]

def makeDirectory (rendering : Rendering) : ExceptT Failure m Unit :=
  match rendering.job.output.parent? with
  | none => pure ()
  | some parent => (Host.makeDirectories parent).adapt (.notCreated parent)

/-- Writes the header to its place and tells so. -/
def write (rendering : Rendering) : ExceptT Failure m Unit := do
  let output := rendering.job.output
  rendering.makeDirectory
  (Host.write output rendering.header.utf8).adapt (.notWritten output)
  Host.print [
    .plain "  ", .inked .green "✓",
    .plain (" " ++ rendering.job.target.name ++ " → " ++ output.text ++ " (" ++
      Text.ofNat rendering.methods ++ " methods)\n")]

end Rendering

namespace Generate

/-- What is printed before the first header is written. -/
def heading : Picture :=
  [.inked .boldBlue "🔨 Generating Scintilla wrappers...", .plain "\n"]

/-- What is printed after the last header has been written. -/
def summary (count : Nat) : Picture :=
  [.plain "\n", .inked .green "✅",
    .plain (" Generated " ++ Text.ofNat count ++ " headers successfully\n")]

/-- The targets of a configuration that a request is about. Given paths are for one target only. -/
def targets (request : Generate) (config : Config) : Except Failure (List Target) := do
  let targets ← config.select request.target
  if (request.input.isSome || request.output.isSome) && 1 < targets.length then
    throw .severalTargets
  return targets

def runWith (request : Generate) (cwd : Path) (config : Config) : ExceptT Failure m Unit := do
  let targets ← ExceptT.mk (pure (request.targets config))
  unless request.toStdout do Host.print heading
  let renderings ← (targets.map (request.job cwd)).mapM Job.render
  if request.toStdout then renderings.forM Rendering.print
  else
    renderings.forM Rendering.write
    Host.print (summary renderings.length)

def run (request : Generate) (cwd : Path) : ExceptT Failure m Unit := do
  request.runWith cwd (← Config.load (cwd.join request.path))

end Generate

end WrapperGen
