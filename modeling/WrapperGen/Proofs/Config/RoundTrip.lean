import WrapperGen.Config.Load
import WrapperGen.Config.Printer
import WrapperGen.Proofs.Config.Targets
import WrapperGen.Proofs.Json.Printed
import WrapperGen.Proofs.Text.Utf8

/-!
Configurations survive being printed and read. What a target leaves out when it is printed is what
it has by default when it is read.
-/

namespace WrapperGen

open Json (Conveys Schema)

theorem Dispatch.lookup_label (dispatch : Dispatch) :
    (Dispatch.all.map fun dispatch => (dispatch.label, dispatch)).lookup dispatch.label =
      some dispatch := by
  cases dispatch <;> rfl

theorem LineEnding.lookup_label (ending : LineEnding) :
    (LineEnding.all.map fun ending => (ending.label, ending)).lookup ending.label =
      some ending := by
  cases ending <;> rfl

namespace Target

/-- What a value of the field is printed as. -/
def Field.toJson : (field : Field) → field.Value → Json
  | name, value | input, value | output, value | className, value => .string value
  | windowClass, value => .ofOption .string value
  | dispatch, value => .string value.label
  | provenance, value => .bool value
  | lineEnding, value => .string value.label

theorem Field.conveys (field : Field) (value : field.Value) (level : Nat) :
    Conveys field.read value (Json.pretty level (field.toJson value)) := by
  cases field with
  | name | input | output | className => exact Json.conveys_string level value
  | windowClass => exact Json.conveys_optional level value
  | dispatch => exact Json.conveys_variant (Dispatch.lookup_label value) level
  | provenance => exact Json.conveys_bool level value
  | lineEnding => exact Json.conveys_variant (LineEnding.lookup_label value) level

theorem find?_label (field : Field) :
    schema.entries.find? (·.name = field.label) = some field.entry := by
  cases field <;> rfl

variable {level : Nat}

/-- A field that has no value yet is given the one that is printed for it. -/
theorem gathers_field (field : Field) (value : field.Value) {draft last : Draft}
    {others : List (Text × Json)} (absent : draft.has field = false)
    (rest : schema.Gathers level (draft.put field value) others last) :
    schema.Gathers level draft ((field.label, field.toJson value) :: others) last :=
  have conveys (start : Draft) := (field.conveys value level).map fun value => start.put field value
  .cons (find?_label field) absent conveys rest

/-- The draft that is read from a printed target. -/
def printedDraft (target : Target) : Draft where
  name := some target.name
  input := some target.input
  output := some target.output
  className := some target.className
  windowClass := target.windowClass.map some
  dispatch := some target.dispatch
  provenance := some target.provenance
  lineEnding := some target.lineEnding

theorem ofDraft_printedDraft (target : Target) : ofDraft target.printedDraft = target := by
  cases target with
  | mk name input output className windowClass dispatch provenance lineEnding =>
      cases windowClass <;> rfl

theorem gathers_choices (target : Target) {draft : Draft} (noDispatch : draft.has .dispatch = false)
    (noProvenance : draft.has .provenance = false) (noEnding : draft.has .lineEnding = false) :
    schema.Gathers level draft [
        ("dispatch", .string target.dispatch.label),
        ("provenance", .bool target.provenance),
        ("lineEnding", .string target.lineEnding.label)]
      { draft with
        dispatch := some target.dispatch
        provenance := some target.provenance
        lineEnding := some target.lineEnding } := by
  refine gathers_field .dispatch target.dispatch noDispatch ?_
  refine gathers_field .provenance target.provenance noProvenance ?_
  refine gathers_field .lineEnding target.lineEnding noEnding ?_
  exact .nil

theorem gathers_members (level : Nat) (target : Target) :
    schema.Gathers level {} target.members target.printedDraft := by
  refine gathers_field .name target.name rfl ?_
  refine gathers_field .input target.input rfl ?_
  refine gathers_field .output target.output rfl ?_
  refine gathers_field .className target.className rfl ?_
  rw [printedDraft]
  -- a window class is printed only if there is one, and the choices follow in either case
  cases target.windowClass with
  | none => exact gathers_choices target rfl rfl rfl
  | some windowClass =>
      refine gathers_field .windowClass (some windowClass) rfl ?_
      exact gathers_choices target rfl rfl rfl

theorem conveys (level : Nat) (target : Target) :
    Conveys read target (Json.pretty level target.toJson) := by
  have apart : (schema.entries.map (·.name)).Nodup := by decide
  have complete : schema.IsComplete target.printedDraft := Schema.isComplete_iff.mpr rfl
  have draft := Schema.conveys_object apart (gathers_members (level + 1) target) complete
  have conveys := draft.map ofDraft
  rwa [ofDraft_printedDraft] at conveys

end Target

namespace Config

theorem conveys (config : Config) :
    Conveys (schema.read {}) { targets := some config.targets } config.print := by
  have targets : Conveys (Json.readList Target.read) (config.targets.map id)
      (Json.pretty 1 (.array (config.targets.map Target.toJson))) :=
    Json.conveys_array fun target _ => target.conveys 2
  rw [List.map_id] at targets
  have conveys := targets.map fun targets => ({ targets := some targets } : Draft)
  have gathers : schema.Gathers 1 {} [("targets", .array (config.targets.map Target.toJson))]
      { targets := some config.targets } :=
    .cons rfl rfl (fun _ => conveys) .nil
  exact Schema.conveys_object (List.nodup_singleton _) gathers (Schema.isComplete_iff.mpr rfl)

theorem read_print (config : Config) :
    schema.read {} config.print = .ok ({ targets := some config.targets }, []) :=
  config.conveys.reads_alone

/-- A configuration that has been printed is the one that is read. -/
theorem parse_print (config : Config) : parse config.print = .ok config := by
  rw [parse, read_print]
  rfl

theorem ofBytes_print (path : Path) (config : Config) :
    ofBytes path config.print.utf8 = .ok config := by
  rw [ofBytes, Text.decode_utf8]
  simp only [parse, read_print]
  rfl

end Config

end WrapperGen
