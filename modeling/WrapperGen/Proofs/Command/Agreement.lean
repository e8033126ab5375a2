import WrapperGen.Proofs.Command.Generation

/-!
What checking has to do with generating. A target is reported as a failure exactly if it has no
header, so a check succeeds exactly if the headers can be printed, and it tells the failure with
which printing them would end.
-/

namespace WrapperGen

theorem Report.member?_error {report : Report} {failure : Failure}
    (failed : report.outcome = .error failure) :
    report.toJson.member? "error" = some (.string failure.message) := by
  rw [toJson, Json.member?, members, failed]
  cases report.deprecatedFrom with
  | none => rfl
  | some line => rfl

theorem Generate.run_toStdout {request : Generate} {cwd : Path} {session : Session}
    (toStdout : request.toStdout = true) :
    (session.run (request.run cwd)).1 =
      (request.renderingsIn cwd session.files).map fun _ => () := by
  cases ready : request.renderingsIn cwd session.files with
  | error failure =>
      obtain ⟨after, ran, _⟩ := run_of_unready ready
      rw [ran]
      rfl
  | ok renderings =>
      rw [run_of_ready ready, deliver, if_pos toStdout, run_prints]
      rfl

namespace Check

variable (check : Check) {cwd : Path} {session : Session} {files : FileTree} {form : Report.Format}
  {config : Config} {target : Target} {targets : List Target}

/-- The request to print the headers of the targets that are checked. -/
def printing : Generate where
  path := check.path
  target := check.target
  toStdout := true

/-- Whether the header for a target cannot be rendered. -/
def fails (cwd : Path) (files : FileTree) (target : Target) : Bool :=
  !((check.printing.job cwd target).renderIn files).isOk

/-- The report on a target fails with what rendering its header fails with. -/
theorem reportIn_outcome_iff {failure : Failure} :
    (target.reportIn files (cwd.join check.path)).outcome = .error failure ↔
      (check.printing.job cwd target).renderIn files = .error failure := by
  have input : (check.printing.job cwd target).input = target.inputPath (cwd.join check.path) := rfl
  rw [Target.reportIn, Job.renderIn, input]
  cases Description.inFiles files (target.inputPath (cwd.join check.path)) with
  | error reason => simp
  | ok description =>
      simp only [Report.ofDescription, Except.ok_bind, Job.renderFrom, Header.ofInterface]
      cases Stub.compileAll description.interface with
      | error param => simp [Except.map]
      | ok stubs => simp [Except.map]

theorem fails_iff :
    check.fails cwd files target = true ↔
      ∃ failure, (check.printing.job cwd target).renderIn files = .error failure := by
  rw [fails]
  cases (check.printing.job cwd target).renderIn files with
  | error failure => simp
  | ok rendering => simp

theorem isFailure_reportIn :
    (target.reportIn files (cwd.join check.path)).isFailure = check.fails cwd files target := by
  rw [Bool.eq_iff_iff, fails_iff, Report.isFailure]
  simp only [← reportIn_outcome_iff]
  cases (target.reportIn files (cwd.join check.path)).outcome with
  | error failure => simp
  | ok stubs => simp

theorem rendered_cases (cwd : Path) (files : FileTree) (targets : List Target) :
    (targets.find? (check.fails cwd files) = none ∧ ∃ renderings,
      (targets.map (check.printing.job cwd)).mapM (Job.renderIn files) = .ok renderings) ∨
    ∃ first failure, targets.find? (check.fails cwd files) = some first ∧
      (check.printing.job cwd first).renderIn files = .error failure ∧
      (targets.map (check.printing.job cwd)).mapM (Job.renderIn files) = .error failure := by
  cases rendered : (targets.map (check.printing.job cwd)).mapM (Job.renderIn files) with
  | ok renderings =>
      refine .inl ⟨List.find?_eq_none.mpr ?_, renderings, rfl⟩
      intro target member failed
      obtain ⟨failure, unmade⟩ := check.fails_iff.mp failed
      obtain ⟨_, _, made⟩ := Except.eq_ok_of_mapM_eq_ok rendered (List.mem_map_of_mem member)
      rw [unmade] at made
      cases made
  | error failure =>
      obtain ⟨job, found, unmade⟩ := Except.mapM_eq_error_iff.mp rendered
      rw [List.find?_map, Option.map_eq_some_iff] at found
      obtain ⟨first, found, rfl⟩ := found
      exact .inr ⟨first, failure, found, unmade, rfl⟩

theorem run_of_unloaded {failure : Failure} (known : Report.Format.ofName check.format = .ok form)
    (unloaded : Config.inFiles session.files (cwd.join check.path) = .error failure) :
    session.run (check.run cwd) = (.error failure, session) := by
  rw [run, known, Session.run_bind, Session.run_mk]
  simp only [Session.run_bind, Session.run_loadConfig, unloaded]

theorem run_of_loaded (known : Report.Format.ofName check.format = .ok form)
    (loaded : Config.inFiles session.files (cwd.join check.path) = .ok config) :
    session.run (check.run cwd) = session.run (check.runWith cwd form config) := by
  rw [run, known, Session.run_bind, Session.run_mk]
  simp only [Session.run_bind, Session.run_loadConfig, loaded]

theorem run_runWith_of_unknown (unknown : config.select? check.target = none) :
    session.run (check.runWith cwd form config) =
      (.error (.unknownTarget (check.target.getD []) (config.targets.map (·.name))), session) := by
  rw [runWith, Config.select, unknown, Session.run_bind, Session.run_mk]

theorem run_runWith_of_selected (selected : config.select? check.target = some targets) :
    let failed := targets.countP (check.fails cwd session.files)
    session.run (check.runWith cwd form config) =
      (if 0 < failed then .error (.failedTargets failed targets.length) else .ok (),
        { session with
          printed := session.printed ++
            form.picture (targets.map (Target.reportIn session.files (cwd.join check.path))) }) := by
  intro failed
  let report (target : Target) : Report := target.reportIn session.files (cwd.join check.path)
  have asked (target : Target) :
      session.run (liftM (target.check (cwd.join check.path) : StateM Session Report) :
        ExceptT Failure (StateM Session) Report) = (.ok (report target), session) := by
    have checked := Session.run_check session (cwd.join check.path) target
    rw [StateT.run] at checked
    rw [Session.run_liftM, checked]
  have answered : targets.mapM (fun target => (.ok (report target) : Except Failure Report)) =
      .ok (targets.map report) :=
    List.mapM_pure
  have reported := Session.run_mapM session asked targets
  rw [answered] at reported
  have counted : (targets.map report).countP (·.isFailure) = failed := by
    rw [List.countP_map]
    exact congrArg (targets.countP ·) (funext fun target => check.isFailure_reportIn)
  have total : (targets.map report).length = targets.length := List.length_map _
  rw [runWith, Config.select, selected, Session.run_bind, Session.run_mk]
  simp only [Session.run_bind, reported, Session.run_print, counted, total]
  split
  · rfl
  · rfl

theorem run_of_unknown (known : Report.Format.ofName check.format = .ok form)
    (loaded : Config.inFiles session.files (cwd.join check.path) = .ok config)
    (unknown : config.select? check.target = none) :
    ∃ failure, (session.run (check.run cwd)).1 = .error failure ∧
      (session.run (check.printing.run cwd)).1 = .error failure := by
  have unready := check.printing.renderingsIn_of_unknown loaded unknown
  refine ⟨_, ?_, by rw [Generate.run_toStdout rfl, unready]; rfl⟩
  rw [check.run_of_loaded known loaded, check.run_runWith_of_unknown unknown]
  rfl

theorem run_of_selected (known : Report.Format.ofName check.format = .ok form)
    (loaded : Config.inFiles session.files (cwd.join check.path) = .ok config)
    (selected : config.select? check.target = some targets) :
    (targets.find? (check.fails cwd session.files) = none ∧
      (session.run (check.run cwd)).1 = .ok () ∧
      (session.run (check.printing.run cwd)).1 = .ok ()) ∨
    ∃ first failure, targets.find? (check.fails cwd session.files) = some first ∧
      (check.printing.job cwd first).renderIn session.files = .error failure ∧
      (session.run (check.run cwd)).1 =
        .error (.failedTargets (targets.countP (check.fails cwd session.files)) targets.length) ∧
      (session.run (check.printing.run cwd)).1 = .error failure := by
  have ready : check.printing.renderingsIn cwd session.files =
      (targets.map (check.printing.job cwd)).mapM (Job.renderIn session.files) :=
    (check.printing.renderingsIn_of_selected loaded selected).trans (if_neg (by simp [printing]))
  rw [check.run_of_loaded known loaded, check.run_runWith_of_selected selected,
    Generate.run_toStdout rfl, ready]
  rcases check.rendered_cases cwd session.files targets with ⟨none, renderings, rendered⟩ |
    ⟨first, failure, found, unmade, rendered⟩
  · have counted : targets.countP (check.fails cwd session.files) = 0 := by
      rw [List.countP_eq_zero]
      exact List.find?_eq_none.mp none
    refine .inl ⟨none, ?_, by rw [rendered]; rfl⟩
    rw [counted, if_neg (Nat.lt_irrefl 0)]
  · have counted : 0 < targets.countP (check.fails cwd session.files) :=
      List.countP_pos_iff.mpr ⟨first, List.mem_of_find?_eq_some found, List.find?_some found⟩
    refine .inr ⟨first, failure, found, unmade, ?_, by rw [rendered]; rfl⟩
    rw [if_pos counted]

end Check

/-- A check and the request to print the same headers come to the same verdict. If they cannot find
their targets, they fail alike; otherwise the check counts all targets that fail, and its report on
the first of them tells the failure with which printing ends. -/
theorem check_agrees_with_printing (check : Check) (cwd : Path) (session : Session)
    (form : Report.Format) (known : Report.Format.ofName check.format = .ok form) :
    let checked := session.run (check.run cwd)
    let printed := session.run (check.printing.run cwd)
    (checked.1 = .ok () ↔ printed.1 = .ok ()) ∧
    (∀ failure, Config.inFiles session.files (cwd.join check.path) = .error failure →
      checked.1 = .error failure ∧ printed.1 = .error failure) ∧
    (∀ config, Config.inFiles session.files (cwd.join check.path) = .ok config →
      config.select? check.target = none →
        ∃ failure, checked.1 = .error failure ∧ printed.1 = .error failure) ∧
    ∀ config targets, Config.inFiles session.files (cwd.join check.path) = .ok config →
      config.select? check.target = some targets →
        let report := Target.reportIn session.files (cwd.join check.path)
        checked.2.printed = session.printed ++ form.picture (targets.map report) ∧
        ∀ first, targets.find? (check.fails cwd session.files) = some first → ∃ failure,
          checked.1 = .error
            (.failedTargets (targets.countP (check.fails cwd session.files)) targets.length) ∧
          printed.1 = .error failure ∧ (report first).outcome = .error failure ∧
          (report first).toJson.member? "error" = some (.string failure.message) := by
  intro checked printed
  have unloaded : ∀ failure, Config.inFiles session.files (cwd.join check.path) = .error failure →
      checked.1 = .error failure ∧ printed.1 = .error failure := by
    intro failure unloaded
    have unready := check.printing.renderingsIn_of_unloaded unloaded
    exact ⟨congrArg Prod.fst (check.run_of_unloaded known unloaded),
      (Generate.run_toStdout rfl).trans (by rw [unready]; rfl)⟩
  refine ⟨?_, unloaded, fun config => check.run_of_unknown known, ?_⟩
  · cases loaded : Config.inFiles session.files (cwd.join check.path) with
    | error failure =>
        obtain ⟨failed, failedToo⟩ := unloaded failure loaded
        rw [failed, failedToo]
    | ok config =>
        cases selected : config.select? check.target with
        | none =>
            obtain ⟨failure, failed, failedToo⟩ := check.run_of_unknown known loaded selected
            exact iff_of_false (by simp [checked, failed]) (by simp [printed, failedToo])
        | some targets =>
            rcases check.run_of_selected known loaded selected with ⟨_, done, doneToo⟩ |
              ⟨first, failure, _, _, failed, failedToo⟩
            · exact iff_of_true done doneToo
            · exact iff_of_false (by simp [checked, failed]) (by simp [printed, failedToo])
  · intro config targets loaded selected report
    constructor
    · rw [show checked = _ from check.run_of_loaded known loaded,
        check.run_runWith_of_selected selected]
    · intro first found
      rcases check.run_of_selected known loaded selected with ⟨none, _⟩ |
        ⟨other, failure, foundToo, unmade, failed, failedToo⟩
      · rw [none] at found
        cases found
      · rw [found, Option.some.injEq] at foundToo
        subst foundToo
        have reported := check.reportIn_outcome_iff.mpr unmade
        exact ⟨failure, failed, failedToo, reported, Report.member?_error reported⟩

theorem check_agrees_with_printing_one_unreadable :
    let check : Check := { format := "json" }
    let made : Target := { name := "a", input := "second.iface", output := "x.h" }
    let unmade : Target := { name := "b", input := "missing", output := "y.h" }
    let session : Session := ⟨.sample ⟨[made, unmade]⟩, []⟩
    let report := Target.reportIn session.files (Path.join "/" ".") unmade
    Report.Format.ofName check.format = .ok .json ∧
    (session.run (check.run "/")).1 = .error (.failedTargets 1 2) ∧
    ∃ failure, (session.run (check.printing.run "/")).1 = .error failure ∧
      report.toJson.member? "error" = some (.string failure.message) := by
  intro check made unmade session report
  have kept : check.fails "/" session.files made = false := by
    have rendered : (check.printing.job "/" made).renderIn session.files = _ :=
      renderIn_sample_second _ rfl
    rw [Check.fails, rendered]
    rfl
  have failed : check.fails "/" session.files unmade = true := rfl
  have found : [made, unmade].find? (check.fails "/" session.files) = some unmade := by
    rw [List.find?_cons, kept, List.find?_cons, failed]
  have counted : [made, unmade].countP (check.fails "/" session.files) = 1 := by
    rw [List.countP_cons, List.countP_cons, kept, failed]
    rfl
  obtain ⟨_, _, _, verdicts⟩ := check_agrees_with_printing check "/" session .json rfl
  obtain ⟨_, first⟩ := verdicts _ [made, unmade] (inFiles_sample _) rfl
  obtain ⟨failure, checked, printed, _, text⟩ := first unmade found
  rw [counted] at checked
  exact ⟨rfl, checked, failure, printed, text⟩

end WrapperGen
