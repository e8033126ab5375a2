import Mathlib.Tactic.SplitIfs
import WrapperGen.Proofs.Command.Questions
import WrapperGen.Proofs.Config.RoundTrip
import WrapperGen.Proofs.Stub.Enumerations

/-!
How headers are prepared. A request for headers is ready once it has a header for every target that
it is about; what keeps it from getting ready is found before anything is changed.
-/

namespace WrapperGen

theorem Config.inFiles_of_printed {files : FileTree} {base : Path} {config : Config}
    (printed : files.read (base.join ⟨fileName⟩) = .ok config.print.utf8) :
    inFiles files base = .ok config := by
  obtain ⟨location, found, _⟩ := FileTree.read_eq_ok_iff.mp printed
  have present : files.isPresent (base.join ⟨fileName⟩) = true := by
    rw [FileTree.isPresent, found, Except.isOk_ok]
  rw [inFiles, if_pos present, printed, Except.mapError_ok, Except.ok_bind, ofBytes_print]

/-- The header that the input of a job gives. -/
def Job.HasHeader (files : FileTree) (job : Job) (header : Text) : Prop :=
  ∃ bytes, files.read job.input = .ok bytes ∧
    Header.ofBytes (job.target.options job.input) bytes = .ok header

/-- The input of the job cannot be read, or its bytes cannot be decoded or compiled. -/
def Job.IsUnrenderable (files : FileTree) (job : Job) : Prop :=
  (∃ fault, files.read job.input = .error fault) ∨
    ∃ bytes rejection, files.read job.input = .ok bytes ∧
      Header.ofBytes (job.target.options job.input) bytes = .error rejection

namespace Job

variable {files : FileTree} {job : Job}

theorem renderIn_of_unreadable {fault : Fault} (unreadable : files.read job.input = .error fault) :
    job.renderIn files = .error (.unreadable job.input fault) := by
  simp [renderIn, Description.inFiles, unreadable]

theorem renderIn_of_undecodable {bytes : List UInt8} {offset : Nat}
    (found : files.read job.input = .ok bytes) (undecodable : Text.decode bytes = .error offset) :
    job.renderIn files = .error (.undecodable job.input offset) := by
  simp [renderIn, Description.inFiles, found, Description.ofBytes, undecodable]

theorem renderIn_of_decoded {bytes : List UInt8} {text : Text}
    (found : files.read job.input = .ok bytes) (decoded : Text.decode bytes = .ok text) :
    job.renderIn files = job.renderFrom {
      fileName := job.input.fileName?.getD "unknown"
      text
      interface := .read text } := by
  simp [renderIn, Description.inFiles, found, Description.ofBytes, decoded]

theorem renderIn_of_compiled {text : Text} {stubs : List Text}
    (found : files.read job.input = .ok text.utf8)
    (compiled : Stub.compileAll (Interface.read text) = .ok stubs) :
    job.renderIn files = .ok {
      job
      header := Header.assemble (job.target.options job.input) stubs
      methods := (Interface.read text).declarations.length } := by
  rw [renderIn_of_decoded found (Text.decode_utf8 text), renderFrom, Header.ofInterface, compiled]
  rfl

theorem renderIn_cases (files : FileTree) (job : Job) :
    (∃ failure, job.renderIn files = .error failure ∧ job.IsUnrenderable files) ∨
      ∃ rendering, job.renderIn files = .ok rendering ∧ rendering.job = job ∧
        job.HasHeader files rendering.header := by
  cases found : files.read job.input with
  | error fault => exact .inl ⟨_, renderIn_of_unreadable found, .inl ⟨fault, found⟩⟩
  | ok bytes =>
      cases decoded : Text.decode bytes with
      | error offset =>
          exact .inl ⟨_, renderIn_of_undecodable found decoded,
            .inr ⟨bytes, _, found, Header.ofBytes_of_undecodable decoded⟩⟩
      | ok text =>
          rw [renderIn_of_decoded found decoded, renderFrom]
          have made : Header.ofBytes (job.target.options job.input) bytes =
              (Header.ofInterface (job.target.options job.input)
                (Interface.read text)).mapError .unknownType :=
            Header.ofBytes_of_decoded decoded
          cases compiled : Header.ofInterface (job.target.options job.input)
              (Interface.read text) with
          | error param =>
              rw [compiled] at made
              exact .inl ⟨_, rfl, .inr ⟨bytes, _, found, made⟩⟩
          | ok header =>
              rw [compiled] at made
              exact .inr ⟨_, rfl, rfl, bytes, found, made⟩

theorem HasHeader.unique {header other : Text} (has : job.HasHeader files header)
    (hasToo : job.HasHeader files other) : header = other := by
  obtain ⟨bytes, found, made⟩ := has
  obtain ⟨others, foundToo, madeToo⟩ := hasToo
  rw [found, Except.ok.injEq] at foundToo
  rw [← foundToo, made, Except.ok.injEq] at madeToo
  exact madeToo

theorem HasHeader.not_isUnrenderable {header : Text} (has : job.HasHeader files header) :
    ¬ job.IsUnrenderable files := by
  obtain ⟨bytes, found, made⟩ := has
  rintro (⟨fault, unreadable⟩ | ⟨others, rejection, foundToo, rejected⟩)
  · rw [found] at unreadable
    cases unreadable
  · rw [found, Except.ok.injEq] at foundToo
    rw [← foundToo, made] at rejected
    cases rejected

theorem hasHeader_of_renderIn {rendering : Rendering}
    (rendered : job.renderIn files = .ok rendering) :
    rendering.job = job ∧ job.HasHeader files rendering.header := by
  rcases renderIn_cases files job with ⟨failure, failed, _⟩ | ⟨other, found, facts⟩
  · rw [rendered] at failed
    cases failed
  · rw [rendered, Except.ok.injEq] at found
    exact found ▸ facts

theorem isUnrenderable_iff :
    job.IsUnrenderable files ↔ ∃ failure, job.renderIn files = .error failure := by
  rcases renderIn_cases files job with ⟨failure, failed, bad⟩ | ⟨rendering, rendered, _, has⟩
  · exact iff_of_true bad ⟨failure, failed⟩
  · refine iff_of_false has.not_isUnrenderable ?_
    rintro ⟨failure, failed⟩
    rw [rendered] at failed
    cases failed

end Job

namespace Generate

/-- What a request is to make, one job for each target that it is about. -/
def jobsIn (request : Generate) (cwd : Path) (files : FileTree) : Except Failure (List Job) := do
  let config ← Config.inFiles files (cwd.join request.path)
  let targets ← request.targets config
  return targets.map (request.job cwd)

/-- The headers for a request, ready to be written. -/
def renderingsIn (request : Generate) (cwd : Path) (files : FileTree) :
    Except Failure (List Rendering) := do
  (← request.jobsIn cwd files).mapM (Job.renderIn files)

/-- Why a request cannot be met whatever happens to the files it would write. -/
inductive IsDoomed (request : Generate) (cwd : Path) (files : FileTree) : Prop
  | config (failure : Failure)
      (unloadable : Config.inFiles files (cwd.join request.path) = .error failure)
  | target (config : Config) (loaded : Config.inFiles files (cwd.join request.path) = .ok config)
      (unknown : config.select? request.target = none)
  | paths (config : Config) (targets : List Target)
      (loaded : Config.inFiles files (cwd.join request.path) = .ok config)
      (selected : config.select? request.target = some targets)
      (given : request.input.isSome = true ∨ request.output.isSome = true)
      (several : 1 < targets.length)
  | input (config : Config) (targets : List Target) (target : Target)
      (loaded : Config.inFiles files (cwd.join request.path) = .ok config)
      (selected : config.select? request.target = some targets) (member : target ∈ targets)
      (unrenderable : (request.job cwd target).IsUnrenderable files)

variable {request : Generate} {cwd : Path} {files : FileTree}

theorem targets_of_unknown {config : Config} (unknown : config.select? request.target = none) :
    request.targets config =
      .error (.unknownTarget (request.target.getD []) (config.targets.map (·.name))) := by
  simp [targets, Config.select, unknown]

theorem targets_of_selected {config : Config} {targets : List Target}
    (selected : config.select? request.target = some targets) :
    request.targets config =
      if (request.input.isSome = true ∨ request.output.isSome = true) ∧ 1 < targets.length then
        .error .severalTargets
      else .ok targets := by
  simp [Generate.targets, Config.select, selected]

theorem jobsIn_of_selected {config : Config} {targets : List Target}
    (loaded : Config.inFiles files (cwd.join request.path) = .ok config)
    (selected : config.select? request.target = some targets) :
    request.jobsIn cwd files =
      if (request.input.isSome = true ∨ request.output.isSome = true) ∧ 1 < targets.length then
        .error .severalTargets
      else .ok (targets.map (request.job cwd)) := by
  rw [jobsIn, loaded, Except.ok_bind, targets_of_selected selected]
  split_ifs <;> rfl

theorem renderingsIn_of_unloaded (request : Generate) {failure : Failure}
    (unloaded : Config.inFiles files (cwd.join request.path) = .error failure) :
    request.renderingsIn cwd files = .error failure := by
  rw [renderingsIn, jobsIn, unloaded]
  rfl

theorem renderingsIn_of_unknown (request : Generate) {config : Config}
    (loaded : Config.inFiles files (cwd.join request.path) = .ok config)
    (unknown : config.select? request.target = none) :
    request.renderingsIn cwd files =
      .error (.unknownTarget (request.target.getD []) (config.targets.map (·.name))) := by
  rw [renderingsIn, jobsIn, loaded, Except.ok_bind, targets_of_unknown unknown]
  rfl

theorem renderingsIn_of_selected (request : Generate) {config : Config} {targets : List Target}
    (loaded : Config.inFiles files (cwd.join request.path) = .ok config)
    (selected : config.select? request.target = some targets) :
    request.renderingsIn cwd files =
      if (request.input.isSome = true ∨ request.output.isSome = true) ∧ 1 < targets.length then
        .error .severalTargets
      else (targets.map (request.job cwd)).mapM (Job.renderIn files) := by
  rw [renderingsIn, jobsIn_of_selected loaded selected]
  split_ifs <;> rfl

theorem isDoomed_of_failed {failure : Failure}
    (failed : request.renderingsIn cwd files = .error failure) : request.IsDoomed cwd files := by
  cases loaded : Config.inFiles files (cwd.join request.path) with
  | error reason => exact .config reason loaded
  | ok config =>
      cases selected : config.select? request.target with
      | none => exact .target config loaded selected
      | some targets =>
          rw [request.renderingsIn_of_selected loaded selected] at failed
          split_ifs at failed with several
          · exact .paths config targets loaded selected several.1 several.2
          · rw [Except.mapM_eq_error_iff] at failed
            obtain ⟨job, first, failed⟩ := failed
            obtain ⟨target, member, rfl⟩ := List.mem_map.mp (List.mem_of_find?_eq_some first)
            exact .input config targets target loaded selected member
              (Job.isUnrenderable_iff.mpr ⟨failure, failed⟩)

theorem isDoomed_iff :
    request.IsDoomed cwd files ↔ ∃ failure, request.renderingsIn cwd files = .error failure := by
  refine ⟨?_, fun ⟨failure, failed⟩ => isDoomed_of_failed failed⟩
  rintro (⟨failure, unloadable⟩ | ⟨config, loaded, unknown⟩ |
    ⟨config, targets, loaded, selected, given, several⟩ |
    ⟨config, targets, target, loaded, selected, member, unrenderable⟩)
  · exact ⟨failure, request.renderingsIn_of_unloaded unloadable⟩
  · exact ⟨_, request.renderingsIn_of_unknown loaded unknown⟩
  · exact ⟨_, (request.renderingsIn_of_selected loaded selected).trans (if_pos ⟨given, several⟩)⟩
  · rw [request.renderingsIn_of_selected loaded selected]
    split_ifs
    · exact ⟨_, rfl⟩
    · cases rendered : (targets.map (request.job cwd)).mapM (Job.renderIn files) with
      | error failure => exact ⟨failure, rfl⟩
      | ok renderings =>
          obtain ⟨failure, failed⟩ := Job.isUnrenderable_iff.mp unrenderable
          obtain ⟨rendering, _, made⟩ :=
            Except.eq_ok_of_mapM_eq_ok rendered (List.mem_map_of_mem member)
          rw [failed] at made
          cases made

theorem renderingsIn_eq_ok {renderings : List Rendering}
    (ready : request.renderingsIn cwd files = .ok renderings) :
    request.jobsIn cwd files = .ok (renderings.map (·.job)) ∧
      ∀ rendering ∈ renderings, rendering.job.HasHeader files rendering.header := by
  rw [renderingsIn, Except.bind_eq_ok_iff] at ready
  obtain ⟨jobs, found, rendered⟩ := ready
  rw [found, Except.ok.injEq]
  have steps := Except.mapM_eq_ok_iff.mp rendered
  clear rendered found
  induction steps with
  | nil => simp
  | cons first rest ih =>
      obtain ⟨rfl, has⟩ := Job.hasHeader_of_renderIn first
      rw [List.map_cons, ← ih.1, List.forall_mem_cons]
      exact ⟨rfl, has, ih.2⟩

end Generate

/-! A folder with a configuration and two descriptions, of which the second is empty -/

def FileTree.sample (config : Config) : FileTree where
  entries := [
    ([Config.fileName], .file config.print.utf8),
    (["first.iface"], .file (Text.utf8 "fun void A=1(,)\n")),
    (["second.iface"], .file [])]

/-- The header for a target of the configuration in the folder, if it has the given stubs. -/
def Rendering.sample (target : Target) (stubs : List Text) : Rendering where
  job := ({} : Generate).job "/" target
  header := Header.assemble (target.options (({} : Generate).job "/" target).input) stubs
  methods := stubs.length

theorem Rendering.header_sample (target : Target) (stubs : List Text) :
    (sample target stubs).header =
      Header.assemble (target.options (({} : Generate).job "/" target).input) stubs := rfl

theorem inFiles_sample (config : Config) :
    Config.inFiles (.sample config) (Path.join "/" ".") = .ok config :=
  Config.inFiles_of_printed rfl

theorem Stub.compileAll_sample :
    compileAll (Interface.read "fun void A=1(,)\n") =
      .ok ["void A() \x7b Call(SCI_A); \x7d".toList] :=
  compileAll_eq_ok_of_perm (by decide) (by decide) (by decide)

theorem renderIn_sample_first (config : Config) {target : Target}
    (input : target.input = "first.iface") :
    (({} : Generate).job "/" target).renderIn (.sample config) =
      .ok (.sample target ["void A() \x7b Call(SCI_A); \x7d"]) := by
  have found : (FileTree.sample config).read (({} : Generate).job "/" target).input =
      .ok (Text.utf8 "fun void A=1(,)\n") := by
    rw [Generate.job, Target.inputPath, input]
    rfl
  exact Job.renderIn_of_compiled found Stub.compileAll_sample

theorem renderIn_sample_second (config : Config) {target : Target}
    (input : target.input = "second.iface") :
    (({} : Generate).job "/" target).renderIn (.sample config) = .ok (.sample target []) := by
  have found : (FileTree.sample config).read (({} : Generate).job "/" target).input =
      .ok (Text.utf8 []) := by
    rw [Generate.job, Target.inputPath, input]
    rfl
  exact Job.renderIn_of_compiled found
    (Stub.compileAll_eq_ok_of_perm (by decide) (by decide) (by decide))

theorem renderingsIn_sample {first second : Target} (firstInput : first.input = "first.iface")
    (secondInput : second.input = "second.iface") :
    ({} : Generate).renderingsIn "/" (.sample ⟨[first, second]⟩) =
      .ok [.sample first ["void A() \x7b Call(SCI_A); \x7d"], .sample second []] := by
  rw [Generate.renderingsIn_of_selected {} (inFiles_sample _) rfl, if_neg (by simp)]
  exact Except.mapM_eq_ok_iff.mpr (.cons (renderIn_sample_first _ firstInput)
    (.cons (renderIn_sample_second _ secondInput) .nil))

end WrapperGen
