import WrapperGen.Proofs.Command.Agreement
import WrapperGen.Proofs.Command.Records

/-!
What a check tells of its targets. The records that are read from the printed reports are those of
the targets, one for each; a record is made of its target and of the content of the target's input,
whatever becomes of other targets, and tells what reading and compiling that content gives.
-/

namespace WrapperGen

theorem Stub.length_of_compileAll {interface : Interface} {stubs : List Text}
    (compiled : compileAll interface = .ok stubs) :
    stubs.length = interface.declarations.length := by
  obtain ⟨_, rfl⟩ := compileAll_eq_ok_iff.mp compiled
  rw [List.length_mergeSort, List.length_map]

/-- The record of a target in a directory, given what reading its input gives. -/
def Target.record (base : Path) (target : Target) (content : Except Fault (List UInt8)) :
    Report.Record :=
  let input := target.inputPath base
  let unread : Report.Record := {
    target := some target.name
    input := some input.text
    declarations := some 0
    enumerations := some 0
    categories := some 0 }
  match content with
  | .error fault => { unread with error := some (Failure.unreadable input fault).message }
  | .ok bytes =>
    match Text.decode bytes with
    | .error offset => { unread with error := some (Failure.undecodable input offset).message }
    | .ok text =>
      let interface := Interface.read text
      let counted : Report.Record := { unread with
        declarations := some interface.declarations.length
        enumerations := some interface.enumerations.length
        categories := some interface.categories.length
        deprecatedFrom := interface.truncatedAt }
      match Stub.compileAll interface with
      | .error param => { counted with error := some (Rejection.unknownType param).message }
      | .ok _ => { counted with stubs := some interface.declarations.length }

/-- The description that is read from a content, if it is text. -/
def Interface.IsIn (interface : Interface) (content : Except Fault (List UInt8)) : Prop :=
  ∃ bytes text, content = .ok bytes ∧ Text.decode bytes = .ok text ∧ interface = .read text

/-- A record tells of a content what reading and compiling it gives. -/
structure Report.Record.TellsOf (record : Record) (content : Except Fault (List UInt8)) : Prop where
  verdict : record.stubs.isSome = record.error.isNone
  counts : ∀ interface : Interface, interface.IsIn content →
    record.declarations = some interface.declarations.length ∧
    record.enumerations = some interface.enumerations.length ∧
    record.categories = some interface.categories.length ∧
    record.deprecatedFrom = interface.truncatedAt
  compiled : ∀ interface : Interface, interface.IsIn content →
    (record.stubs = record.declarations ∧ ∃ stubs, Stub.compileAll interface = .ok stubs) ∨
    ∃ param, Stub.compileAll interface = .error param ∧
      record.error = some (Rejection.unknownType param).message
  unread : (¬ ∃ interface : Interface, interface.IsIn content) →
    record.declarations = some 0 ∧ record.enumerations = some 0 ∧ record.categories = some 0 ∧
    record.deprecatedFrom = none ∧ record.stubs = none

namespace Target

variable {base : Path} {target : Target} {content : Except Fault (List UInt8)}

theorem record_reportIn (files : FileTree) (base : Path) (target : Target) :
    (target.reportIn files base).record =
      target.record base (files.read (target.inputPath base)) := by
  rw [reportIn, Description.inFiles]
  cases files.read (target.inputPath base) with
  | error fault => rfl
  | ok bytes =>
      simp only [Except.mapError_ok, Except.ok_bind, Description.ofBytes, record]
      cases Text.decode bytes with
      | error offset => rfl
      | ok text =>
          simp only [Report.ofDescription, Report.record]
          cases compiled : Stub.compileAll (Interface.read text) with
          | error param => rfl
          | ok stubs => simp only [Except.toOption, Stub.length_of_compileAll compiled]

theorem record_of_unread (base : Path) (target : Target)
    (unread : ¬ ∃ interface : Interface, interface.IsIn content) :
    ∃ failure : Failure, target.record base content = {
      target := some target.name
      input := some (target.inputPath base).text
      declarations := some 0
      enumerations := some 0
      categories := some 0
      error := some failure.message } := by
  cases content with
  | error fault => exact ⟨_, rfl⟩
  | ok bytes =>
      cases decoded : Text.decode bytes with
      | error offset => exact ⟨.undecodable (target.inputPath base) offset, by rw [record, decoded]⟩
      | ok text => exact absurd ⟨_, bytes, text, rfl, decoded, rfl⟩ unread

theorem record_of_read (base : Path) (target : Target) {interface : Interface}
    (read : interface.IsIn content) :
    let counted : Report.Record := {
      target := some target.name
      input := some (target.inputPath base).text
      declarations := some interface.declarations.length
      enumerations := some interface.enumerations.length
      categories := some interface.categories.length
      deprecatedFrom := interface.truncatedAt }
    (∃ stubs, Stub.compileAll interface = .ok stubs ∧
      target.record base content = { counted with stubs := counted.declarations }) ∨
    ∃ param, Stub.compileAll interface = .error param ∧
      target.record base content =
        { counted with error := some (Rejection.unknownType param).message } := by
  obtain ⟨bytes, text, rfl, decoded, rfl⟩ := read
  cases compiled : Stub.compileAll (Interface.read text) with
  | ok stubs => exact .inl ⟨stubs, rfl, by simp only [record, decoded, compiled]⟩
  | error param => exact .inr ⟨param, rfl, by simp only [record, decoded, compiled]⟩

theorem record_tellsOf (base : Path) (target : Target) (content : Except Fault (List UInt8)) :
    (target.record base content).TellsOf content where
  verdict := by
    by_cases read : ∃ interface : Interface, interface.IsIn content
    · obtain ⟨interface, read⟩ := read
      obtain ⟨_, _, told⟩ | ⟨_, _, told⟩ := target.record_of_read base read
      · rw [told]
        rfl
      · rw [told]
        rfl
    · obtain ⟨failure, told⟩ := target.record_of_unread base read
      rw [told]
      rfl
  counts := by
    intro interface read
    obtain ⟨_, _, told⟩ | ⟨_, _, told⟩ := target.record_of_read base read
    · rw [told]
      exact ⟨rfl, rfl, rfl, rfl⟩
    · rw [told]
      exact ⟨rfl, rfl, rfl, rfl⟩
  compiled := by
    intro interface read
    obtain ⟨stubs, compiled, told⟩ | ⟨param, refused, told⟩ := target.record_of_read base read
    · rw [told]
      exact .inl ⟨rfl, stubs, compiled⟩
    · rw [told]
      exact .inr ⟨param, refused, rfl⟩
  unread := by
    intro unread
    obtain ⟨failure, told⟩ := target.record_of_unread base unread
    rw [told]
    exact ⟨rfl, rfl, rfl, rfl, rfl⟩

end Target

/-- Whatever becomes of its targets, a check that is asked for JSON prints one array of reports. It
has a record for each target, which depends on nothing but that target, the directory and the
content of the target's own input. -/
theorem check_reports_each_target (check : Check) (cwd : Path) (session : Session)
    {config : Config} {targets : List Target} (asJson : check.format = "json")
    (loaded : Config.inFiles session.files (cwd.join check.path) = .ok config)
    (selected : config.select? check.target = some targets) :
    let base := cwd.join check.path
    let content (target : Target) := session.files.read (target.inputPath base)
    ∃ text : Text,
      (∀ colour, (session.run (check.run cwd)).2.printed.render colour =
        session.printed.render colour ++ text ++ "\n") ∧
      Json.IsJson text ∧
      (∀ char ∈ text, char = '\n' ∨ ' ' ≤ char) ∧
      Report.Record.readAll text =
        .ok (targets.map fun target => target.record base (content target)) ∧
      ∀ target ∈ targets, (target.record base (content target)).TellsOf (content target) := by
  intro base content
  have known : Report.Format.ofName check.format = .ok .json := by
    rw [asJson]
    rfl
  have recorded : (targets.map (Target.reportIn session.files base)).map Report.record =
      targets.map fun target => target.record base (content target) := by
    rw [List.map_map]
    exact List.map_congr_left fun target _ => target.record_reportIn session.files base
  refine ⟨Json.pretty 0 (.array ((targets.map (Target.reportIn session.files base)).map
    Report.toJson)), ?_, ?_, Json.isPrintable_pretty 0 _, ?_, fun target _ =>
    target.record_tellsOf base (content target)⟩
  · intro colour
    rw [check.run_of_loaded known loaded, check.run_runWith_of_selected selected,
      Picture.render_append, List.append_assoc]
    exact congrArg (session.printed.render colour ++ ·) (List.append_nil _)
  · exact (Report.conveys_records _).isJson
  · rw [Report.readAll_pretty, recorded]

theorem check_reports_each_target_one_unreadable :
    let check : Check := { format := "json" }
    let made : Target := { name := "a", input := "first.iface", output := "x.h" }
    let unmade : Target := { name := "b\x1b", input := "missing", output := "y.h" }
    let session : Session := ⟨.sample ⟨[made, unmade]⟩, []⟩
    ∃ text : Text,
      (∀ colour, (session.run (check.run "/")).2.printed.render colour = text ++ "\n") ∧
      (∀ char ∈ text, char = '\n' ∨ ' ' ≤ char) ∧
      Report.Record.readAll text = .ok [
        { target := some "a".toList, input := some "/./first.iface".toList
          declarations := some 1, enumerations := some 0, categories := some 0, stubs := some 1 },
        { target := some "b\x1b".toList, input := some "/./missing".toList
          declarations := some 0, enumerations := some 0, categories := some 0
          error := some (Failure.unreadable "/./missing" .notFound).message }] := by
  intro check made unmade session
  let base : Path := Path.join "/" "."
  have read : (Interface.read "fun void A=1(,)\n").IsIn (session.files.read (made.inputPath base)) :=
    ⟨_, _, rfl, Text.decode_utf8 _, rfl⟩
  obtain ⟨text, printed, _, plain, records, _⟩ :=
    check_reports_each_target check "/" session rfl (inFiles_sample _) rfl
  obtain ⟨_, _, told⟩ | ⟨_, refused, _⟩ := made.record_of_read base read
  · refine ⟨text, printed, plain, records.trans ?_⟩
    rw [List.map_cons, told]
    rfl
  · rw [Stub.compileAll_sample] at refused
    cases refused

end WrapperGen
