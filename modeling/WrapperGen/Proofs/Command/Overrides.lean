import WrapperGen.Proofs.Command.Generation
import WrapperGen.Proofs.FileTree.Ways

/-!
Paths that are given with a request. They stand for those of the one target that the request is
about: the request does what it does without them if they are in the configuration.
-/

namespace WrapperGen

namespace Path

theorem join_of_absolute {path : Path} (absolute : path.isAbsolute = true) (base : Path) :
    base.join path = path := by
  rw [join, if_pos absolute]

theorem isAbsolute_join {base : Path} (absolute : base.isAbsolute = true) (path : Path) :
    (base.join path).isAbsolute = true := by
  obtain ⟨rest, text⟩ := List.head?_eq_some_iff.mp (of_decide_eq_true absolute)
  by_cases itself : path.isAbsolute = true
  · rw [join_of_absolute itself, itself]
  · rw [join, if_neg itself]
    split
    · simp [isAbsolute, text]
    · simp [isAbsolute, text]

theorem fileName?_of_last {path : Path} {front : List Text} {name : Text}
    (split : path.components = front ++ [name]) (proper : FileTree.isDots name = false) :
    path.fileName? = some name := by
  obtain ⟨busy, inner⟩ := FileTree.isDots_eq_false_iff.mp proper
  rw [fileName?, split, List.reverse_concat, List.dropWhile_cons_of_neg (by simp [busy])]
  exact if_neg inner

end Path

theorem FileTree.fileName?_of_read {tree : FileTree} {path : Path} {bytes : List UInt8}
    (read : tree.read path = .ok bytes) : ∃ name, path.fileName? = some name := by
  obtain ⟨location, located, isFile⟩ := read_eq_ok_iff.mp read
  obtain ⟨names, followed, walked⟩ := locate_eq_ok_iff.mp located
  obtain rfl := components_eq_ok followed
  obtain ⟨front, name, split, proper⟩ := ends_of_file walked isFile
  exact ⟨name, Path.fileName?_of_last split proper⟩

namespace Config

/-- The configuration with the targets changed that are selected by the given name, or all of them
without a name. -/
def revise (config : Config) (selection : Option Text) (change : Target → Target) : Config :=
  match selection with
  | none => ⟨config.targets.map change⟩
  | some name =>
    ⟨config.targets.modify (config.targets.findIdx (·.name = name)) change⟩

/-- What is selected after a change that keeps the names is what was selected, changed. -/
theorem select?_revise (config : Config) (selection : Option Text) {change : Target → Target}
    (kept : ∀ target, (change target).name = target.name) :
    (config.revise selection change).select? selection =
      (config.select? selection).map (List.map change) := by
  cases selection with
  | none => rfl
  | some name =>
      have found (targets : List Target) :
          (targets.modify (targets.findIdx (·.name = name)) change).find? (·.name = name) =
            (targets.find? (·.name = name)).map change := by
        induction targets with
        | nil => rfl
        | cons first rest ih =>
            by_cases same : first.name = name
            · simp [List.findIdx_cons, same, kept]
            · simp [List.findIdx_cons, same, ih]
      rw [select?, revise, select?, found, Option.map_map, Option.map_map]
      rfl

end Config

/-- The job for another target, with the paths that it has. -/
def Job.retarget (change : Target → Target) (job : Job) : Job :=
  { job with target := change job.target }

def Rendering.retarget (change : Target → Target) (rendering : Rendering) : Rendering :=
  { rendering with job := rendering.job.retarget change }

/-- A header is made of the choices for it, whatever else there is in its target. -/
theorem Job.renderIn_retarget {files : FileTree} {job : Job} {change : Target → Target}
    (same : ∀ bytes, files.read job.input = .ok bytes →
      (change job.target).options job.input = job.target.options job.input) :
    (job.retarget change).renderIn files =
      (job.renderIn files).map (Rendering.retarget change) := by
  have input : (job.retarget change).input = job.input := rfl
  rw [renderIn, renderIn, Description.inFiles, Description.inFiles, input]
  -- without the bytes no header is made, so the choices matter only where they are read
  cases found : files.read job.input with
  | error fault => rfl
  | ok bytes =>
      simp only [Except.mapError_ok, Except.ok_bind]
      cases Description.ofBytes job.input bytes with
      | error failure => rfl
      | ok description =>
          have options : (job.retarget change).target.options (job.retarget change).input =
              job.target.options job.input := same bytes found
          simp only [Except.ok_bind, renderFrom, options]
          cases Header.ofInterface (job.target.options job.input) description.interface with
          | error param => rfl
          | ok header => rfl

namespace Generate

/-- The request with all paths left to the configuration. -/
def withoutPaths (request : Generate) : Generate := { request with input := none, output := none }

/-- The target with the paths that are given in place of its own. -/
def redirect (request : Generate) (cwd : Path) (target : Target) : Target :=
  { target with
    input := (request.input.map fun path => (cwd.join path).text).getD target.input
    output := (request.output.map fun path => (cwd.join path).text).getD target.output }

/-- The configuration with the given paths in the targets that the request is about, and no other
change. -/
def redirectIn (request : Generate) (cwd : Path) (config : Config) : Config :=
  config.revise request.target (request.redirect cwd)

variable {request : Generate} {cwd : Path} {session : Session} {config : Config} {target : Target}

theorem job_redirect (absolute : cwd.isAbsolute = true) (request : Generate) (target : Target) :
    request.withoutPaths.job cwd (request.redirect cwd target) =
      (request.job cwd target).retarget (request.redirect cwd) := by
  have fixed (path : Path) : (cwd.join request.path).join ⟨(cwd.join path).text⟩ = cwd.join path :=
    Path.join_of_absolute (Path.isAbsolute_join absolute path) _
  simp only [job, withoutPaths, Job.retarget, Target.inputPath, Target.outputPath, redirect,
    Job.mk.injEq, true_and]
  constructor
  · cases request.input with
    | none => rfl
    | some path => exact fixed path
  · cases request.output with
    | none => rfl
    | some path => exact fixed path

/-- The note on provenance names the file that is read, which a file that can be read always has. -/
theorem options_redirect {files : FileTree} {input : Path} {bytes : List UInt8}
    (read : files.read input = .ok bytes) :
    (request.redirect cwd target).options input = target.options input := by
  obtain ⟨name, named⟩ := FileTree.fileName?_of_read read
  simp only [Target.options, redirect, named, Option.getD_some]

theorem renderIn_redirect (absolute : cwd.isAbsolute = true) (files : FileTree) (target : Target) :
    (request.withoutPaths.job cwd (request.redirect cwd target)).renderIn files =
      ((request.job cwd target).renderIn files).map
        (Rendering.retarget (request.redirect cwd)) := by
  rw [job_redirect absolute]
  exact Job.renderIn_retarget fun bytes read => options_redirect read

theorem deliver_redirect (rendering : Rendering) :
    request.withoutPaths.deliver [rendering.retarget (request.redirect cwd)] =
      request.deliver [rendering] := rfl

theorem targets_redirectIn (selected : config.select? request.target = some [target]) :
    request.withoutPaths.targets (request.redirectIn cwd config) =
      .ok [request.redirect cwd target] := by
  have changed : (request.redirectIn cwd config).select? request.withoutPaths.target =
      some [request.redirect cwd target] := by
    rw [redirectIn, withoutPaths, Config.select?_revise, selected]
    · rfl
    · exact fun _ => rfl
  rw [targets_of_selected changed]
  exact if_neg (by simp)

theorem run_redirect (absolute : cwd.isAbsolute = true)
    (selected : config.select? request.target = some [target]) :
    session.run (request.runWith cwd config) =
      session.run (request.withoutPaths.runWith cwd (request.redirectIn cwd config)) := by
  have chosen : request.targets config = .ok [target] := by
    rw [targets_of_selected selected]
    exact if_neg (by simp)
  rw [run_runWith chosen, run_runWith (targets_redirectIn selected)]
  simp only [List.map_cons, List.map_nil, List.mapM_cons, List.mapM_nil,
    renderIn_redirect absolute session.files target]
  cases (request.job cwd target).renderIn session.files with
  | error failure => rfl
  | ok rendering => exact congrArg (Session.run _) (deliver_redirect rendering).symm

/-- On every machine: nothing is asked of it. -/
theorem runWith_of_several {m : Type → Type} [Monad m] [LawfulMonad m] [Host m]
    {targets : List Target} (selected : config.select? request.target = some targets)
    (several : 1 < targets.length)
    (given : request.input.isSome = true ∨ request.output.isSome = true) :
    (request.runWith cwd config : ExceptT Failure m Unit) = throw .severalTargets := by
  rw [runWith, targets_of_selected selected, if_pos ⟨given, several⟩]
  apply ExceptT.ext
  simp [ExceptT.run_bind]

end Generate

/-- A request with paths for its one target does what it does without them when they are in the
configuration as it has been loaded. With paths for several targets it fails and asks nothing more of
the machine, so it reads no input and changes no file. -/
theorem given_paths_as_configured (request : Generate) (cwd : Path) (session : Session)
    (config : Config) (absolute : cwd.isAbsolute = true)
    (loaded : Config.inFiles session.files (cwd.join request.path) = .ok config) :
    (∀ target, config.select? request.target = some [target] →
      session.run (request.run cwd) =
        session.run (request.withoutPaths.runWith cwd (request.redirectIn cwd config))) ∧
    ∀ targets, config.select? request.target = some targets → 1 < targets.length →
      request.input.isSome = true ∨ request.output.isSome = true →
      session.run (request.run cwd) = (.error .severalTargets, session) ∧
        ∀ (m : Type → Type) [Monad m] [LawfulMonad m] [Host m],
          (request.runWith cwd config : ExceptT Failure m Unit) = throw .severalTargets := by
  have ran : session.run (request.run cwd) = session.run (request.runWith cwd config) := by
    rw [Generate.run, Session.run_bind, Session.run_loadConfig, loaded]
  rw [ran]
  refine ⟨fun target selected => Generate.run_redirect absolute selected, ?_⟩
  intro targets selected several given
  refine ⟨?_, fun m => Generate.runWith_of_several selected several given⟩
  rw [Generate.runWith_of_several selected several given, Session.run_throw]

theorem given_paths_as_configured_second_target :
    let first : Target := { name := "a", input := "first.iface", output := "x.h" }
    let second : Target := { name := "b", input := "second.iface", output := "y.h" }
    let edited : Target := { second with input := "/first.iface", output := "/sub/z.h" }
    let session : Session := ⟨.sample ⟨[first, second]⟩, []⟩
    let request : Generate := { input := some "first.iface", output := some "sub/z.h" }
    session.run (Generate.run { request with target := some "b" } "/") =
      session.run (Generate.runWith { target := some "b" } "/" ⟨[first, edited]⟩) ∧
    session.run (request.run "/") = (.error .severalTargets, session) := by
  intro first second edited session request
  have loaded : Config.inFiles session.files (Path.join "/" ".") = .ok ⟨[first, second]⟩ :=
    inFiles_sample _
  obtain ⟨same, _⟩ :=
    given_paths_as_configured { request with target := some "b" } "/" session _ rfl loaded
  obtain ⟨_, failed⟩ := given_paths_as_configured request "/" session _ rfl loaded
  exact ⟨same second rfl, (failed _ rfl (by decide) (.inl rfl)).1⟩

end WrapperGen
