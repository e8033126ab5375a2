import WrapperGen.FileTree

/-!
Sessions: commands run on a tree of files, with everything that they print. A command is a function
from sessions to sessions, so that what it does to each file can be stated and proved.
-/

namespace WrapperGen

/-- The files and what has been printed so far. -/
structure Session where
  files : FileTree := {}
  printed : Picture := []
deriving DecidableEq, Repr, Inhabited

namespace Session

/-- A question to the files, which stay as they are. -/
def ask {α : Type} (question : FileTree → α) : StateM Session α := fun session =>
  (question session.files, session)

/-- A change of the files, which stay as they are if it is refused. -/
def change (attempt : FileTree → Except Fault FileTree) : ExceptT Fault (StateM Session) Unit :=
  ExceptT.mk fun session =>
    match attempt session.files with
    | .ok files => (.ok (), { session with files })
    | .error fault => (.error fault, session)

instance : Host (StateM Session) where
  isPresent path := ask (·.isPresent path)
  isDirectory path := ask (·.isDirectory path)
  read path := ExceptT.mk (ask (·.read path))
  write path bytes := change (·.write path bytes)
  makeDirectory path := change (·.makeDirectory path)
  display picture := fun session => ((), { session with printed := session.printed ++ picture })

def run {ε α : Type} (session : Session) (command : ExceptT ε (StateM Session) α) :
    Except ε α × Session :=
  command.run.run session

variable {ε α β : Type} (session : Session)

theorem run_pure (value : α) :
    session.run (pure value : ExceptT ε (StateM Session) α) = (.ok value, session) := rfl

theorem run_throw (error : ε) :
    session.run (throw error : ExceptT ε (StateM Session) α) = (.error error, session) := rfl

/-- What does not touch the session leaves it as it is. -/
theorem run_mk (value : Except ε α) :
    session.run (ExceptT.mk (pure value) : ExceptT ε (StateM Session) α) = (value, session) := rfl

/-- A command after another runs in the session that the first one leaves, unless that fails. -/
theorem run_bind (first : ExceptT ε (StateM Session) α) (next : α → ExceptT ε (StateM Session) β) :
    session.run (first >>= next) =
      match session.run first with
      | (.ok value, after) => after.run (next value)
      | (.error error, after) => (.error error, after) := by
  simp only [Session.run, ExceptT.run_bind, StateT.run_bind]
  change (match first session with | (outcome, after) => _) = _
  rcases ran : first session with ⟨_ | value, after⟩ <;>
    simp only [ExceptT.run, StateT.run, ran] <;> rfl

/-- Another wording of the error changes nothing else. -/
theorem run_adapt {δ : Type} (command : ExceptT ε (StateM Session) α) (wording : ε → δ) :
    session.run (command.adapt wording) =
      ((session.run command).1.mapError wording, (session.run command).2) := rfl

theorem run_print (picture : Picture) :
    session.run (Host.print picture : ExceptT ε (StateM Session) Unit) =
      (.ok (), { session with printed := session.printed ++ picture }) := rfl

theorem run_isPresent (path : Path) :
    session.run (liftM (Host.isPresent path : StateM Session Bool) :
      ExceptT ε (StateM Session) Bool) = (.ok (session.files.isPresent path), session) := rfl

theorem run_isDirectory (path : Path) :
    session.run (liftM (Host.isDirectory path : StateM Session Bool) :
      ExceptT ε (StateM Session) Bool) = (.ok (session.files.isDirectory path), session) := rfl

theorem run_read (path : Path) :
    session.run (Host.read path) = (session.files.read path, session) := rfl

theorem run_change (attempt : FileTree → Except Fault FileTree) :
    session.run (change attempt) =
      match attempt session.files with
      | .ok files => (.ok (), { session with files })
      | .error fault => (.error fault, session) := rfl

end Session

end WrapperGen
