import WrapperGen.Command.Check
import WrapperGen.Command.Generate
import WrapperGen.Proofs.Failing
import WrapperGen.Proofs.Header.Outcome
import WrapperGen.Proofs.Session

/-!
What commands learn before they change anything. Configurations, descriptions, headers and reports
are answers to questions about the files: the answer depends on the files alone, and asking leaves
the session as it is.
-/

namespace WrapperGen

/-- The configuration that a directory of the tree holds, or the default one if it holds none. -/
def Config.inFiles (files : FileTree) (base : Path) : Except Failure Config := do
  let path := base.join ⟨fileName⟩
  if files.isPresent path then
    let bytes ← (files.read path).mapError (.unreadable path)
    ofBytes path bytes
  else return {}

/-- The description to which a path leads. -/
def Description.inFiles (files : FileTree) (path : Path) : Except Failure Description := do
  let bytes ← (files.read path).mapError (.unreadable path)
  ofBytes path bytes

def Job.renderIn (files : FileTree) (job : Job) : Except Failure Rendering := do
  job.renderFrom (← Description.inFiles files job.input)

/-- The report on a target whose paths are relative to the given one. -/
def Target.reportIn (files : FileTree) (base : Path) (target : Target) : Report :=
  let input := target.inputPath base
  match Description.inFiles files input with
  | .error failure => { target := target.name, input, outcome := .error failure }
  | .ok description => .ofDescription target.name input description

namespace Session

variable (session : Session)

theorem run_loadConfig (base : Path) :
    session.run (Config.load base) = (Config.inFiles session.files base, session) := by
  rw [Config.load, Config.inFiles, run_bind, run_isPresent]
  dsimp only
  split
  · rw [run_bind, run_adapt, run_read]
    cases session.files.read (base.join ⟨Config.fileName⟩) with
    | error fault => rfl
    | ok bytes => rfl
  · rfl

theorem run_loadDescription (path : Path) :
    session.run (Description.load path) = (Description.inFiles session.files path, session) := by
  rw [Description.load, Description.inFiles, run_bind, run_adapt, run_read]
  cases session.files.read path with
  | error fault => rfl
  | ok bytes => rfl

theorem run_render (job : Job) :
    session.run job.render = (job.renderIn session.files, session) := by
  rw [Job.render, Job.renderIn, run_bind, run_loadDescription]
  cases Description.inFiles session.files job.input with
  | error failure => rfl
  | ok description => rfl

theorem run_check (base : Path) (target : Target) :
    (target.check base : StateM Session Report).run session =
      (target.reportIn session.files base, session) := by
  have loaded := run_loadDescription session (target.inputPath base)
  rw [Session.run] at loaded
  rw [Target.check, Target.reportIn, StateT.run_bind, loaded]
  cases Description.inFiles session.files (target.inputPath base) with
  | error failure => rfl
  | ok description => rfl

end Session

end WrapperGen
