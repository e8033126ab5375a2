import WrapperGen.Command.Report
import WrapperGen.Proofs.Json.Printable
import WrapperGen.Proofs.Json.Printed

/-!
Printed reports read back. A program that is given the reports of a check reads them as records, and
has of each report all that it told, in the order of the reports.
-/

namespace WrapperGen.Report

open Json (Conveys Schema)

/-- What a printed report tells. -/
structure Record where
  target : Option Text := none
  input : Option Text := none
  declarations : Option Nat := none
  enumerations : Option Nat := none
  categories : Option Nat := none
  stubs : Option Nat := none
  deprecatedFrom : Option Nat := none
  error : Option Text := none
deriving DecidableEq, Repr

namespace Record

/-- An entry for something that a record tells. -/
def entry {α : Type} (name : Text) (isRequired : Bool)
    (read : Text → Except Json.Error (α × Text)) (told : Record → Option α)
    (tell : Record → α → Record) : Json.Entry Record where
  name
  isRequired
  isPresent record := (told record).isSome
  read record text := (read text).map fun (value, rest) => (tell record value, rest)

def schema : Schema Record where
  name := "Report"
  entries := [
    entry "target" true Json.readText (·.target) fun record value =>
      { record with target := some value },
    entry "input" true Json.readText (·.input) fun record value =>
      { record with input := some value },
    entry "declarations" true Json.readCount (·.declarations) fun record value =>
      { record with declarations := some value },
    entry "enumerations" true Json.readCount (·.enumerations) fun record value =>
      { record with enumerations := some value },
    entry "categories" true Json.readCount (·.categories) fun record value =>
      { record with categories := some value },
    entry "stubs" false Json.readCount (·.stubs) fun record value =>
      { record with stubs := some value },
    entry "deprecatedFrom" false Json.readCount (·.deprecatedFrom) fun record value =>
      { record with deprecatedFrom := some value },
    entry "error" false Json.readText (·.error) fun record value =>
      { record with error := some value }]

/-- The records that a text holds as an array of objects. -/
def readAll (text : Text) : Except Json.Error (List Record) := do
  let (records, rest) ← Json.readList (schema.read {}) text
  Json.readEnd rest
  return records

end Record

/-- The record of a report, in which one of `stubs` and `error` is present. -/
def record (report : Report) : Record where
  target := some report.target
  input := some report.input.text
  declarations := some report.declarations
  enumerations := some report.enumerations
  categories := some report.categories
  stubs := report.outcome.toOption
  deprecatedFrom := report.deprecatedFrom
  error :=
    match report.outcome with
    | .ok _ => none
    | .error failure => some failure.message

variable {level : Nat}

theorem Record.conveys_entry {α : Type} {name text : Text} {isRequired : Bool} {value : α}
    {read : Text → Except Json.Error (α × Text)} {told : Record → Option α}
    {tell : Record → α → Record} (conveys : Conveys read value text) (start : Record) :
    Conveys ((entry name isRequired read told tell).read start) (tell start value) text :=
  conveys.map (tell start)

theorem gathers_counts {target input : Text} {declarations enumerations categories : Nat}
    {others : List (Text × Json)} {last : Record}
    (rest : Record.schema.Gathers level {
      target := some target
      input := some input
      declarations := some declarations
      enumerations := some enumerations
      categories := some categories } others last) :
    Record.schema.Gathers level {} ([
      ("target".toList, .string target),
      ("input".toList, .string input),
      ("declarations".toList, .ofNat declarations),
      ("enumerations".toList, .ofNat enumerations),
      ("categories".toList, .ofNat categories)] ++ others) last := by
  refine .cons rfl rfl (Record.conveys_entry (Json.conveys_string level target)) ?_
  refine .cons rfl rfl (Record.conveys_entry (Json.conveys_string level input)) ?_
  refine .cons rfl rfl (Record.conveys_entry (Json.conveys_ofNat level declarations)) ?_
  refine .cons rfl rfl (Record.conveys_entry (Json.conveys_ofNat level enumerations)) ?_
  refine .cons rfl rfl (Record.conveys_entry (Json.conveys_ofNat level categories)) ?_
  exact rest

theorem gathers_members (level : Nat) (report : Report) :
    Record.schema.Gathers level {} report.members report.record := by
  obtain ⟨target, input, declarations, enumerations, categories, deprecatedFrom, outcome⟩ := report
  have text (value : Text) := Json.conveys_string level value
  have count (number : Nat) := Json.conveys_ofNat level number
  cases outcome with
  | ok stubs =>
      simp only [members, List.append_assoc]
      apply gathers_counts
      refine .cons rfl rfl (Record.conveys_entry (count stubs)) ?_
      cases deprecatedFrom with
      | none => exact .nil
      | some line => exact .cons rfl rfl (Record.conveys_entry (count line)) .nil
  | error failure =>
      simp only [members, List.append_assoc]
      apply gathers_counts
      cases deprecatedFrom with
      | none => exact .cons rfl rfl (Record.conveys_entry (text failure.message)) .nil
      | some line =>
          refine .cons rfl rfl (Record.conveys_entry (count line)) ?_
          exact .cons rfl rfl (Record.conveys_entry (text failure.message)) .nil

theorem conveys_record (level : Nat) (report : Report) :
    Conveys (Record.schema.read {}) report.record (Json.pretty level report.toJson) := by
  have apart : (Record.schema.entries.map (·.name)).Nodup := by decide
  have complete : Record.schema.IsComplete report.record := Schema.isComplete_iff.mpr rfl
  exact Schema.conveys_object apart (gathers_members (level + 1) report) complete

theorem conveys_records (reports : List Report) :
    Conveys (Json.readList (Record.schema.read {})) (reports.map record)
      (Json.pretty 0 (.array (reports.map toJson))) :=
  Json.conveys_array fun report _ => conveys_record 1 report

/-- All reports are read back in their order, each as its record. -/
theorem readAll_pretty (reports : List Report) :
    Record.readAll (Json.pretty 0 (.array (reports.map toJson))) = .ok (reports.map record) := by
  rw [Record.readAll, (conveys_records reports).reads_alone]
  rfl

end WrapperGen.Report
