import WrapperGen.Config.Basic
import WrapperGen.Json.Printer

/-!
Writing a configuration as JSON text. Every entry is written but an absent window class.
-/

namespace WrapperGen

def Target.members (target : Target) : List (Text × Json) :=
  let start : List (Text × Json) := [
    ("name", .string target.name),
    ("input", .string target.input),
    ("output", .string target.output),
    ("className", .string target.className)]
  let windowClass := target.windowClass.map fun name => ("windowClass".toList, Json.string name)
  let choices : List (Text × Json) := [
    ("dispatch", .string target.dispatch.label),
    ("provenance", .bool target.provenance),
    ("lineEnding", .string target.lineEnding.label)]
  start ++ windowClass.toList ++ choices

def Target.toJson (target : Target) : Json := .object target.members

def Config.toJson (config : Config) : Json :=
  .object [("targets", .array (config.targets.map Target.toJson))]

def Config.print (config : Config) : Text := config.toJson.pretty 0

end WrapperGen
