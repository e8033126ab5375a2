import WrapperGen.Config.Basic
import WrapperGen.Json.Schema

/-!
Reading a configuration from JSON text. A target needs a name and an output; everything else has a
default, and unknown members are passed over.
-/

namespace WrapperGen

open Json (Entry Schema)

/-- A target of which some entries may not have been read. -/
structure Target.Draft where
  name : Option Text := none
  input : Option Text := none
  output : Option Text := none
  className : Option Text := none
  windowClass : Option (Option Text) := none
  dispatch : Option Dispatch := none
  provenance : Option Bool := none
  lineEnding : Option LineEnding := none

namespace Target

def schema : Schema Draft where
  name := "Target"
  entries := [
    ⟨"name", true, (·.name.isSome), fun draft text => do
      let (value, rest) ← Json.readText text
      return ({ draft with name := value }, rest)⟩,
    ⟨"input", false, (·.input.isSome), fun draft text => do
      let (value, rest) ← Json.readText text
      return ({ draft with input := value }, rest)⟩,
    ⟨"output", true, (·.output.isSome), fun draft text => do
      let (value, rest) ← Json.readText text
      return ({ draft with output := value }, rest)⟩,
    ⟨"className", false, (·.className.isSome), fun draft text => do
      let (value, rest) ← Json.readText text
      return ({ draft with className := value }, rest)⟩,
    ⟨"windowClass", false, (·.windowClass.isSome), fun draft text => do
      let (value, rest) ← Json.readOptionalText text
      return ({ draft with windowClass := some value }, rest)⟩,
    ⟨"dispatch", false, (·.dispatch.isSome), fun draft text => do
      let variants := Dispatch.all.map fun dispatch => (dispatch.label, dispatch)
      let (value, rest) ← Json.readVariant variants text
      return ({ draft with dispatch := value }, rest)⟩,
    ⟨"provenance", false, (·.provenance.isSome), fun draft text => do
      let (value, rest) ← Json.readBool text
      return ({ draft with provenance := value }, rest)⟩,
    ⟨"lineEnding", false, (·.lineEnding.isSome), fun draft text => do
      let variants := LineEnding.all.map fun ending => (ending.label, ending)
      let (value, rest) ← Json.readVariant variants text
      return ({ draft with lineEnding := value }, rest)⟩]

/-- The target of a draft, with defaults for what has not been read. -/
def ofDraft (draft : Draft) : Target :=
  let start : Target := { name := draft.name.getD [], output := draft.output.getD [] }
  { start with
    input := draft.input.getD start.input
    className := draft.className.getD start.className
    windowClass := draft.windowClass.getD start.windowClass
    dispatch := draft.dispatch.getD start.dispatch
    provenance := draft.provenance.getD start.provenance
    lineEnding := draft.lineEnding.getD start.lineEnding }

/-- The target at which a text stands. -/
def read (text : Text) : Except Json.Error (Target × Text) :=
  (schema.read {} text).map fun (draft, rest) => (ofDraft draft, rest)

end Target

/-- A configuration whose targets may not have been read. -/
structure Config.Draft where
  targets : Option (List Target) := none

namespace Config

def schema : Schema Draft where
  name := "Config"
  entries := [
    ⟨"targets", false, (·.targets.isSome), fun _ text => do
      let (value, rest) ← Json.readList Target.read text
      return ({ targets := value }, rest)⟩]

/-- The configuration of a draft, with the default targets if none have been read. -/
def ofDraft (draft : Draft) : Config :=
  match draft.targets with
  | none => {}
  | some targets => { targets }

def parse (text : Text) : Except Json.Error Config := do
  let (draft, rest) ← schema.read {} text
  Json.readEnd rest
  return ofDraft draft

end Config

end WrapperGen
