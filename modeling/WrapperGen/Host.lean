import WrapperGen.Diagnostic.Picture
import WrapperGen.Path

/-!
What the commands need of the machine on which they run: files, and a place to print. They are
written over this interface, so they run alike on a disk and on a tree of files held in memory.
-/

namespace WrapperGen

inductive Fault
  | notFound
  | alreadyExists
  | notDirectory
  | isDirectory
  | nameTooLong
  | nulInName
  | noParent
  | other (description : Text)
deriving DecidableEq, Repr, Inhabited

def Fault.message : Fault → Text
  | notFound => "No such file or directory (os error 2)"
  | alreadyExists => "File exists (os error 17)"
  | notDirectory => "Not a directory (os error 20)"
  | isDirectory => "Is a directory (os error 21)"
  | nameTooLong => "File name too long (os error 36)"
  | nulInName => "file name contained an unexpected NUL byte"
  | noParent => "failed to create whole tree"
  | other description => description

/-- Access to files and a place to print. -/
class Host (m : Type → Type) where
  isPresent : Path → m Bool
  isDirectory : Path → m Bool
  read : Path → ExceptT Fault m (List UInt8)
  write : Path → List UInt8 → ExceptT Fault m Unit
  makeDirectory : Path → ExceptT Fault m Unit
  display : Picture → m Unit

namespace Host

variable {m : Type → Type} [Monad m] [Host m]

def print {ε : Type} (picture : Picture) : ExceptT ε m Unit := ExceptT.lift (display picture)

/-- Accepts a fault in making a directory if it is there nevertheless. -/
def unlessDirectory (path : Path) (fault : Fault) : ExceptT Fault m Unit := do
  unless ← (isDirectory path : m Bool) do throw fault

/-- Makes the first of the listed directories, each of which lies in the next. Those further down
the list are only made if a directory cannot be made for want of the one it lies in. -/
def makeFirst : List Path → ExceptT Fault m Unit
  | [] => throw .noParent
  | path :: parents =>
    if path.text.isEmpty then pure ()
    else tryCatch (makeDirectory path) fun
      | .notFound => do
        makeFirst parents
        tryCatch (makeDirectory path) (unlessDirectory path)
      | fault => unlessDirectory path fault

/-- Makes a directory and those above it that are missing. -/
def makeDirectories (path : Path) : ExceptT Fault m Unit := makeFirst (path :: path.ancestors)

end Host

end WrapperGen
