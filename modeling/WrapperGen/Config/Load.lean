import WrapperGen.Config.Reader
import WrapperGen.Failure
import WrapperGen.Text.Utf8

/-!
The configuration in a directory, and the targets of it that a command works on.
-/

namespace WrapperGen.Config

variable {m : Type → Type} [Monad m] [Host m]

/-- The configuration in a file, given its bytes. -/
def ofBytes (path : Path) (bytes : List UInt8) : Except Failure Config :=
  match Text.decode bytes with
  | .error _ => .error (.notText path)
  | .ok text => (parse text).mapError (.invalidConfig path)

/-- The configuration that a directory holds, or the default one if it holds none. -/
def load (base : Path) : ExceptT Failure m Config := do
  let path := base.join ⟨fileName⟩
  if ← (Host.isPresent path : m Bool) then
    ExceptT.mk (pure (ofBytes path (← (Host.read path).adapt (.unreadable path))))
  else return {}

/-- The targets to work on, or else why there are none. -/
def select (config : Config) (name : Option Text) : Except Failure (List Target) :=
  match config.select? name with
  | some targets => .ok targets
  | none => .error (.unknownTarget (name.getD []) (config.targets.map (·.name)))

end WrapperGen.Config
