import WrapperGen.Header.Options
import WrapperGen.Path

/-!
Configurations: the headers to generate, each a target with its own input, output and choices.
-/

namespace WrapperGen

/-- One header to generate. Its paths are relative to the directory of the configuration; without
a window class of its own it takes the class name. -/
structure Target where
  name : Text
  input : Text := "Scintilla.iface"
  output : Text
  className : Text := "CScintillaImpl"
  windowClass : Option Text := none
  dispatch : Dispatch := .libraryType
  provenance : Bool := false
  lineEnding : LineEnding := .native
deriving DecidableEq, Repr, Inhabited

namespace Target

def plain : Target where
  name := "impl"
  output := "ScintillaImpl.h"

/-- The header for a window control, which names its input. -/
def control : Target where
  name := "wtl"
  output := "../../src/ui/ScintillaImpl.h"
  windowClass := some "WTL_ScintillaCtrl"
  dispatch := .privateAlias
  provenance := true

def inputPath (target : Target) (base : Path) : Path := base.join ⟨target.input⟩

def outputPath (target : Target) (base : Path) : Path := base.join ⟨target.output⟩

/-- The choices for the header of a target whose input is read from the given path. The note on
provenance names the file, or the input as it is configured if the path names none. -/
def options (target : Target) (input : Path) : Header.Options where
  className := target.className
  windowClass := target.windowClass.getD target.className
  dispatch := target.dispatch
  provenance := if target.provenance then some (input.fileName?.getD target.input) else none
  lineEnding := target.lineEnding

end Target

structure Config where
  targets : List Target := [.plain]
deriving DecidableEq, Repr, Inhabited

namespace Config

def fileName : Text := "scigen.config.json"

def complete : Config where
  targets := [.plain, .control]

/-- The targets to work on: all of them, or the first one of the given name, if there is one. -/
def select? (config : Config) : Option Text → Option (List Target)
  | none => some config.targets
  | some name => (config.targets.find? (·.name = name)).map fun target => [target]

end Config

end WrapperGen
