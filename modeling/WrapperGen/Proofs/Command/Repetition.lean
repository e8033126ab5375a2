import WrapperGen.Proofs.Command.Admission
import WrapperGen.Proofs.Command.Generation

/-!
Generating again. Where no header is written over what a request reads, the request finds the same
configuration and the same descriptions when it is run once more, so it comes to the same headers;
and headers for different places come out the same in any order.
-/

namespace WrapperGen

/-- The path leads to where another one leads, or passes that place on its way. -/
def Path.Meets (path other : Path) : Prop := path.place = other.place ∨ other.place ∈ path.way

instance (path other : Path) : Decidable (path.Meets other) :=
  inferInstanceAs (Decidable (_ ∨ _))

/-- The configuration in a directory. -/
def Config.pathIn (base : Path) : Path := base.join ⟨fileName⟩

section Kept

variable {written made : List Path} {before after : FileTree}
  (changes : before.ChangesOnly written made after)

include changes

/-- A configuration stays what it is, or stays absent, if nothing comes to its place. -/
theorem Config.inFiles_kept {base : Path} {config : Config} (rooted : before.Rooted)
    (steps : before.StepUpFromPresent [] (pathIn base).components)
    (files : ∀ path ∈ written, path.place ≠ (pathIn base).place)
    (directories : ∀ path ∈ made, path.place ≠ (pathIn base).place)
    (loaded : inFiles before base = .ok config) : inFiles after base = .ok config := by
  cases present : before.isPresent (pathIn base) with
  | false =>
      have absent := changes.stays_absent rooted steps files directories present
      rw [inFiles, ← pathIn] at loaded ⊢
      simp only [present, absent, Bool.false_eq_true, ↓reduceIte] at loaded ⊢
      exact loaded
  | true =>
      rw [inFiles, ← pathIn] at loaded ⊢
      simp only [present, ↓reduceIte] at loaded
      cases found : before.read (pathIn base) with
      | error fault =>
          rw [found] at loaded
          cases loaded
      | ok bytes =>
          have kept := changes.read_kept files found
          obtain ⟨location, located, _⟩ := FileTree.read_eq_ok_iff.mp kept
          have still : after.isPresent (pathIn base) = true := by
            rw [FileTree.isPresent, located, Except.isOk_ok]
          rw [found] at loaded
          simp only [still, kept, ↓reduceIte]
          exact loaded

theorem Job.renderIn_kept {job : Job} {rendering : Rendering}
    (apart : ∀ path ∈ written, path.place ≠ job.input.place)
    (rendered : job.renderIn before = .ok rendering) : job.renderIn after = .ok rendering := by
  obtain ⟨_, bytes, found, _⟩ := Job.hasHeader_of_renderIn rendered
  have kept := changes.read_kept apart found
  rw [← rendered, renderIn, renderIn, Description.inFiles, Description.inFiles, kept, found]

end Kept

namespace Generate

variable {request : Generate} {cwd : Path} {session after : Session} {config : Config}
  {targets : List Target} {renderings : List Rendering}

/-- What is printed while headers are written. -/
def tale (renderings : List Rendering) : Picture :=
  heading ++ renderings.flatMap Rendering.line ++ summary renderings.length

theorem printed_of_delivered (toFiles : request.toStdout = false)
    (delivered : (request.opened session).run (request.deliver renderings) = (.ok (), after)) :
    after.printed = session.printed ++ tale renderings := by
  obtain ⟨middle, written, rfl⟩ := (run_deliver_eq_ok_iff toFiles).mp delivered
  rw [Rendering.printed_of_written written, opened, toFiles]
  simp [tale]

/-- Outputs that are apart can be delivered to once more. -/
theorem run_deliver_of_admitted (toFiles : request.toStdout = false)
    (rooted : session.files.Rooted)
    (admits : ∀ rendering ∈ renderings, session.files.Admits rendering.output)
    (apart : Rendering.Apart renderings) :
    ∃ after, (request.opened session).run (request.deliver renderings) = (.ok (), after) ∧
      ∀ location, after.files.node? location =
        Rendering.left session.files renderings location := by
  rw [← opened_files request] at rooted admits ⊢
  obtain ⟨middle, written⟩ := Rendering.run_writes_of_admitted rooted admits apart
  refine ⟨_, (run_deliver_eq_ok_iff toFiles).mpr ⟨middle, written, rfl⟩, fun location => ?_⟩
  exact Rendering.node?_of_written written location

/-- Nothing that the request writes for the targets comes to the place of its configuration or of
one of their inputs, nor under it. -/
structure SparesSources (request : Generate) (cwd : Path) (targets : List Target) : Prop where
  config : ∀ target ∈ targets,
    ¬ (request.job cwd target).output.Meets (Config.pathIn (cwd.join request.path))
  inputs : ∀ target ∈ targets, ∀ other ∈ targets,
    ¬ (request.job cwd target).output.Meets (request.job cwd other).input

theorem jobs_of_ready (loaded : Config.inFiles session.files (cwd.join request.path) = .ok config)
    (selected : config.select? request.target = some targets)
    (ready : request.renderingsIn cwd session.files = .ok renderings) :
    renderings.map (·.job) = targets.map (request.job cwd) := by
  obtain ⟨found, _⟩ := renderingsIn_eq_ok ready
  obtain ⟨_, _, loadedToo, selectedToo, jobs⟩ := jobsIn_eq_ok found
  rw [loaded, Except.ok.injEq] at loadedToo
  rw [← loadedToo, selected, Option.some.injEq] at selectedToo
  rw [jobs, selectedToo]

theorem output_of_ready (loaded : Config.inFiles session.files (cwd.join request.path) = .ok config)
    (selected : config.select? request.target = some targets)
    (ready : request.renderingsIn cwd session.files = .ok renderings) {rendering : Rendering}
    (member : rendering ∈ renderings) :
    ∃ target ∈ targets, rendering.output = (request.job cwd target).output := by
  have listed : rendering.job ∈ targets.map (request.job cwd) :=
    jobs_of_ready loaded selected ready ▸ List.mem_map_of_mem member
  obtain ⟨target, chosen, same⟩ := List.mem_map.mp listed
  exact ⟨target, chosen, congrArg Job.output same.symm⟩

/-- A request whose sources are spared finds them again as they were. -/
theorem ready_again (rooted : session.files.Rooted)
    (steps : session.files.StepUpFromPresent []
      (Config.pathIn (cwd.join request.path)).components)
    (loaded : Config.inFiles session.files (cwd.join request.path) = .ok config)
    (selected : config.select? request.target = some targets)
    (spares : request.SparesSources cwd targets)
    (ready : request.renderingsIn cwd session.files = .ok renderings)
    (changes : session.files.ChangesOnly (renderings.map Rendering.output)
      (Rendering.allAbove renderings) after.files) :
    request.renderingsIn cwd after.files = .ok renderings := by
  have outputs : ∀ path ∈ renderings.map Rendering.output,
      ∃ target ∈ targets, path = (request.job cwd target).output := by
    intro path listed
    obtain ⟨rendering, member, rfl⟩ := List.mem_map.mp listed
    exact output_of_ready loaded selected ready member
  have kept : Config.inFiles after.files (cwd.join request.path) = .ok config := by
    refine Config.inFiles_kept changes rooted steps (fun path listed same => ?_)
      (fun path listed same => ?_) loaded
    · obtain ⟨target, chosen, rfl⟩ := outputs path listed
      exact spares.config target chosen (.inl same)
    · obtain ⟨rendering, member, above⟩ := List.mem_flatMap.mp listed
      obtain ⟨target, chosen, output⟩ := output_of_ready loaded selected ready member
      refine spares.config target chosen (.inr ?_)
      rw [← same, ← output]
      exact FileTree.place_on_way above
  rw [renderingsIn_of_selected request loaded selected] at ready
  rw [renderingsIn_of_selected request kept selected]
  split_ifs at ready ⊢
  rw [← ready]
  refine Except.mapM_congr fun job listed => ?_
  obtain ⟨rendering, _, rendered⟩ := Except.eq_ok_of_mapM_eq_ok ready listed
  obtain ⟨other, chosen, rfl⟩ := List.mem_map.mp listed
  rw [rendered]
  refine Job.renderIn_kept changes (fun path written same => ?_) rendered
  obtain ⟨target, wanted, rfl⟩ := outputs path written
  exact spares.inputs target wanted other chosen (.inl same)

/-- The jobs in another order give the same headers in another order. -/
theorem delivered_in_order {others : List Target}
    (everything : request.target = none) (same : config.targets.Perm others)
    (loaded : Config.inFiles session.files (cwd.join request.path) = .ok config)
    (ready : request.renderingsIn cwd session.files = .ok renderings) :
    ∃ reordered, renderings.Perm reordered ∧
      session.run (request.runWith cwd ⟨others⟩) =
        (request.opened session).run (request.deliver reordered) := by
  have selected (config : Config) : config.select? request.target = some config.targets := by
    rw [everything]
    rfl
  rw [renderingsIn_of_selected request loaded (selected config)] at ready
  split_ifs at ready with several
  obtain ⟨reordered, rendered, perm⟩ := Except.mapM_of_perm (same.map (request.job cwd)) ready
  have chosen : request.targets ⟨others⟩ = .ok others := by
    rw [targets_of_selected (selected ⟨others⟩), if_neg]
    rwa [← same.length_eq]
  refine ⟨reordered, perm, ?_⟩
  rw [run_runWith chosen, rendered]

end Generate

/-- A request that has succeeded succeeds once more if its outputs spare what it reads: it prints the
same, and everything is where it was. If it is for all targets of the configuration, and they are
written to different places, then it might as well have taken them in any other order. -/
theorem generation_repeats (request : Generate) (cwd : Path) (session after : Session)
    {config : Config} {targets : List Target} (rooted : session.files.Rooted)
    (toFiles : request.toStdout = false)
    (succeeded : session.run (request.run cwd) = (.ok (), after))
    (loaded : Config.inFiles session.files (cwd.join request.path) = .ok config)
    (selected : config.select? request.target = some targets)
    (spares : request.SparesSources cwd targets)
    (steps : session.files.StepUpFromPresent []
      (Config.pathIn (cwd.join request.path)).components) :
    (∃ again printed, after.run (request.run cwd) = (.ok (), again) ∧
      after.printed = session.printed ++ printed ∧ again.printed = after.printed ++ printed ∧
      ∀ location, again.files.node? location = after.files.node? location) ∧
    (request.target = none →
      (targets.map fun target => (request.job cwd target).output.place).Nodup →
      ∀ others, targets.Perm others →
        ∃ other, session.run (request.runWith cwd ⟨others⟩) = (.ok (), other) ∧
          ∀ location, other.files.node? location = after.files.node? location) := by
  obtain ⟨renderings, ready, delivered⟩ := Generate.delivered_of_succeeded succeeded
  obtain ⟨middle, written, left⟩ := (Generate.run_deliver_eq_ok_iff toFiles).mp delivered
  have files : middle.files = after.files := by rw [left]
  obtain ⟨stand, changes⟩ := Rendering.allStand_of_written written
  have apart := Rendering.apart_of_written written
  have admits := Rendering.admits_of_written written
  rw [Generate.opened_files] at changes admits
  rw [files] at changes stand
  constructor
  · have again := Generate.ready_again rooted steps loaded selected spares ready changes
    have admitsAgain : ∀ rendering ∈ renderings, after.files.Admits rendering.output := by
      intro rendering member
      obtain ⟨_, _, read⟩ := stand rendering member
      exact .of_read (.refl [] [] after.files) read
    obtain ⟨final, ran, settled⟩ := Generate.run_deliver_of_admitted toFiles
      (changes.rooted rooted) admitsAgain apart
    refine ⟨final, Generate.tale renderings, (Generate.run_of_ready again).trans ran,
      Generate.printed_of_delivered toFiles delivered, Generate.printed_of_delivered toFiles ran,
      fun location => ?_⟩
    rw [settled, ← files, Rendering.left_of_written written]
  · intro everything distinct others same
    have all : config.targets = targets := by
      rw [everything] at selected
      exact Option.some.inj selected
    subst all
    obtain ⟨reordered, perm, ran⟩ := Generate.delivered_in_order everything same loaded ready
    have places : (renderings.map (·.output.place)).Nodup := by
      have jobs := congrArg (List.map fun job => job.output.place)
        (Generate.jobs_of_ready loaded selected ready)
      rw [List.map_map, List.map_map] at jobs
      exact jobs ▸ distinct
    obtain ⟨other, done, settled⟩ := Generate.run_deliver_of_admitted toFiles rooted
      (fun rendering member => admits rendering (perm.mem_iff.mpr member))
      (fun first member second listed =>
        apart first (perm.mem_iff.mpr member) second (perm.mem_iff.mpr listed))
    refine ⟨other, ran.trans done, fun location => ?_⟩
    rw [settled, Rendering.left_of_perm perm places, ← files,
      Rendering.node?_of_written written, Generate.opened_files]

theorem FileTree.rooted_sample (config : Config) : (sample config).Rooted := by
  refine rooted_of_entries fun entry listed => ?_
  simp only [sample, List.mem_cons, List.not_mem_nil, or_false] at listed
  rcases listed with rfl | rfl | rfl <;> rfl

theorem generation_repeats_two_targets :
    let first : Target := { name := "a", input := "first.iface", output := "x" }
    let second : Target := { name := "b", input := "second.iface", output := "d/y" }
    let session : Session := ⟨.sample ⟨[first, second]⟩, []⟩
    let request : Generate := {}
    ∃ after, session.run (request.run "/") = (.ok (), after) ∧
      (∃ again, after.run (request.run "/") = (.ok (), again) ∧
        ∀ location, again.files.node? location = after.files.node? location) ∧
      ∃ other, session.run (request.runWith "/" ⟨[second, first]⟩) = (.ok (), other) ∧
        ∀ location, other.files.node? location = after.files.node? location := by
  intro first second session request
  have loaded : Config.inFiles session.files (Path.join "/" request.path) = .ok ⟨[first, second]⟩ :=
    inFiles_sample _
  have ready : request.renderingsIn "/" session.files = .ok [_, _] := renderingsIn_sample rfl rfl
  have done : (session.run (request.run "/")).1 = .ok () := by
    rw [Generate.run_of_ready ready]
    rfl
  have spares : request.SparesSources "/" [first, second] := ⟨by decide, by decide⟩
  have steps : session.files.StepUpFromPresent []
      (Config.pathIn (Path.join "/" request.path)).components :=
    .of_inward (by decide)
  obtain ⟨⟨again, _, ran, _, _, same⟩, reordered⟩ := generation_repeats request "/" session _
    (FileTree.rooted_sample _) rfl (Prod.ext done rfl) loaded rfl spares steps
  obtain ⟨other, alsoDone, alike⟩ := reordered rfl (by decide) [second, first] (.swap _ _ _)
  exact ⟨_, Prod.ext done rfl, ⟨again, ran, same⟩, other, alsoDone, alike⟩

/-- The request succeeds and fails once it is repeated, though its only output is far from what it
reads: the directory made for the output opens the way to a configuration. -/
theorem generation_not_repeated :
    let request : Generate := {
      path := "x/.."
      input := some "first.iface"
      output := some "x/out.h" }
    let session : Session := ⟨{ entries := [
      ([Config.fileName], .file []), (["first.iface"], .file [])] }, []⟩
    (session.files.Rooted ∧
      Config.inFiles session.files (Path.join "/" request.path) = .ok {} ∧
      request.SparesSources "/" [.plain]) ∧
    ∃ after failure stopped, session.run (request.run "/") = (.ok (), after) ∧
      after.run (request.run "/") = (.error failure, stopped) := by
  intro request session
  have loaded : Config.inFiles session.files (Path.join "/" request.path) = .ok {} := rfl
  have found : session.files.read (request.job "/" .plain).input = .ok (Text.utf8 []) := rfl
  have compiled : Stub.compileAll (Interface.read []) = .ok [] :=
    Stub.compileAll_eq_ok_of_perm (by decide) (by decide) (by decide)
  have rendered := Job.renderIn_of_compiled found compiled
  have ready : request.renderingsIn "/" session.files = .ok [_] :=
    (request.renderingsIn_of_selected loaded rfl).trans <| (if_neg (by simp)).trans <|
      Except.mapM_eq_ok_iff.mpr (.cons rendered .nil)
  have done : (session.run (request.run "/")).1 = .ok () := by
    rw [Generate.run_of_ready ready]
    decide +kernel
  have broken : (Config.inFiles (session.run (request.run "/")).2.files
      (Path.join "/" request.path)).isOk = false := by
    rw [Generate.run_of_ready ready]
    decide +kernel
  cases unloaded : Config.inFiles (session.run (request.run "/")).2.files
      (Path.join "/" request.path) with
  | ok config =>
      rw [unloaded] at broken
      cases broken
  | error failure =>
      obtain ⟨stopped, failed, _⟩ :=
        Generate.run_of_unready (request.renderingsIn_of_unloaded unloaded)
      exact ⟨⟨FileTree.rooted_of_entries (by decide), loaded, by decide, by decide⟩, _, failure,
        stopped, Prod.ext done rfl, failed⟩

end WrapperGen
