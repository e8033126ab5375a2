import WrapperGen.Proofs.Command.Writing
import WrapperGen.Proofs.Header.Frame

/-!
What a request for headers does. All headers are prepared before the first one is delivered, so a
request that cannot be met leaves the files as they are, and one that is met leaves in every file
the header that was written there last.
-/

namespace WrapperGen

namespace Generate

variable {request : Generate} {cwd : Path} {session after : Session} {failure : Failure}
  {renderings : List Rendering}

/-- The session in which headers are delivered, with the heading printed where there is one. -/
def opened (request : Generate) (session : Session) : Session :=
  if request.toStdout then session
  else { session with printed := session.printed ++ heading }

theorem opened_files (request : Generate) (session : Session) :
    (request.opened session).files = session.files := by
  unfold opened
  split <;> rfl

/-- What is done with headers that are ready. -/
def deliver (request : Generate) (renderings : List Rendering) :
    ExceptT Failure (StateM Session) Unit :=
  if request.toStdout then renderings.forM Rendering.print
  else do
    renderings.forM Rendering.write
    Host.print (summary renderings.length)

theorem run_runWith {config : Config} {targets : List Target}
    (chosen : request.targets config = .ok targets) :
    session.run (request.runWith cwd config) =
      match (targets.map (request.job cwd)).mapM (Job.renderIn session.files) with
      | .error failure => (.error failure, request.opened session)
      | .ok renderings => (request.opened session).run (request.deliver renderings) := by
  have prepared := Session.run_mapM (request.opened session)
    (Session.run_render (request.opened session)) (targets.map (request.job cwd))
  rw [opened_files] at prepared
  -- the rest of the request runs in the session that the heading leaves
  have rest : session.run (request.runWith cwd config) = (request.opened session).run (do
      let renderings ← (targets.map (request.job cwd)).mapM Job.render
      request.deliver renderings) := by
    rw [runWith, chosen, Session.run_bind, Session.run_mk]
    unfold opened deliver
    cases request.toStdout <;> rfl
  rw [rest, Session.run_bind, prepared]
  cases (targets.map (request.job cwd)).mapM (Job.renderIn session.files) with
  | error failure => rfl
  | ok renderings => rfl

theorem run_runWith_of_unchosen {config : Config} (unchosen : request.targets config = .error failure) :
    session.run (request.runWith cwd config) = (.error failure, session) := by
  rw [runWith, unchosen, Session.run_bind, Session.run_mk]

theorem run_of_unready (unready : request.renderingsIn cwd session.files = .error failure) :
    ∃ after, session.run (request.run cwd) = (.error failure, after) ∧
      (after = session ∨ after = request.opened session) := by
  rw [renderingsIn, jobsIn] at unready
  rw [run, Session.run_bind, Session.run_loadConfig]
  cases loaded : Config.inFiles session.files (cwd.join request.path) with
  | error reason =>
      rw [loaded] at unready
      exact ⟨session, by rw [← Except.error.inj unready], .inl rfl⟩
  | ok config =>
      rw [loaded, Except.ok_bind] at unready
      cases chosen : request.targets config with
      | error reason =>
          rw [chosen] at unready
          obtain rfl : reason = failure := Except.error.inj unready
          exact ⟨session, run_runWith_of_unchosen chosen, .inl rfl⟩
      | ok targets =>
          rw [chosen] at unready
          simp only [Except.ok_bind, Except.pure_eq_ok] at unready
          exact ⟨request.opened session, by simp only [run_runWith chosen, unready], .inr rfl⟩

theorem run_of_ready (ready : request.renderingsIn cwd session.files = .ok renderings) :
    session.run (request.run cwd) = (request.opened session).run (request.deliver renderings) := by
  rw [renderingsIn, jobsIn, Except.bind_eq_ok_iff] at ready
  obtain ⟨jobs, found, rendered⟩ := ready
  rw [Except.bind_eq_ok_iff] at found
  obtain ⟨config, loaded, found⟩ := found
  rw [Except.bind_eq_ok_iff] at found
  obtain ⟨targets, chosen, same⟩ := found
  obtain rfl : targets.map (request.job cwd) = jobs := Except.ok.inj same
  rw [run, Session.run_bind, Session.run_loadConfig, loaded]
  simp only [run_runWith chosen, rendered]

theorem run_prints (renderings : List Rendering) (session : Session) :
    session.run (renderings.forM Rendering.print) = (.ok (), { session with
      printed := session.printed ++ renderings.map fun rendering => .plain rendering.header }) := by
  induction renderings generalizing session with
  | nil => simp [Session.run_pure]
  | cons first rest ih =>
      rw [Session.run_forM_cons, Rendering.print, Session.run_print]
      simp only [ih]
      simp

theorem run_deliver_toFiles (toFiles : request.toStdout = false) :
    session.run (request.deliver renderings) =
      match session.run (renderings.forM Rendering.write) with
      | (.ok _, after) =>
        (.ok (), { after with printed := after.printed ++ summary renderings.length })
      | (.error failure, after) => (.error failure, after) := by
  rw [deliver, toFiles]
  simp only [Bool.false_eq_true, ↓reduceIte, Session.run_bind]
  rcases session.run (renderings.forM Rendering.write) with ⟨_ | _, after⟩ <;> rfl

theorem run_deliver_eq_ok_iff (toFiles : request.toStdout = false) :
    session.run (request.deliver renderings) = (.ok (), after) ↔
      ∃ middle, session.run (renderings.forM Rendering.write) = (.ok (), middle) ∧
        after = { middle with printed := middle.printed ++ summary renderings.length } := by
  rw [run_deliver_toFiles toFiles]
  rcases session.run (renderings.forM Rendering.write) with ⟨failure | _, middle⟩
  · simp
  · simp [eq_comm]

theorem delivered_of_succeeded (succeeded : session.run (request.run cwd) = (.ok (), after)) :
    ∃ renderings, request.renderingsIn cwd session.files = .ok renderings ∧
      (request.opened session).run (request.deliver renderings) = (.ok (), after) := by
  cases ready : request.renderingsIn cwd session.files with
  | error failure =>
      obtain ⟨_, stopped, _⟩ := run_of_unready ready
      rw [succeeded] at stopped
      cases stopped
  | ok renderings => exact ⟨renderings, rfl, run_of_ready ready ▸ succeeded⟩

/-- Writing has come to `failed`, which cannot be written; the headers before it have been. -/
structure StopsAt (request : Generate) (cwd : Path) (session : Session)
    (before : List Rendering) (failed : Rendering) (failure : Failure) (after : Session) : Prop where
  toFiles : request.toStdout = false
  ready : ∃ later, request.renderingsIn cwd session.files = .ok (before ++ failed :: later)
  stopped : ∃ middle, (request.opened session).run (before.forM Rendering.write) = (.ok (), middle) ∧
    middle.run failed.write = (.error failure, after)

theorem run_eq_error_iff (ready : request.renderingsIn cwd session.files = .ok renderings) :
    session.run (request.run cwd) = (.error failure, after) ↔
      ∃ before failed, request.StopsAt cwd session before failed failure after := by
  rw [run_of_ready ready]
  constructor
  · intro stopped
    cases toFiles : request.toStdout with
    | true =>
        rw [deliver, toFiles, if_pos rfl, run_prints] at stopped
        cases stopped
    | false =>
        rw [run_deliver_toFiles toFiles] at stopped
        rcases ran : (request.opened session).run (renderings.forM Rendering.write) with
          ⟨reason | _, final⟩
        · rw [ran] at stopped
          obtain ⟨rfl, rfl⟩ : reason = failure ∧ final = after := by simpa using stopped
          obtain ⟨before, failed, later, middle, rfl, written, refused⟩ :=
            (Session.run_forM_eq_error_iff _).mp ran
          exact ⟨before, failed, toFiles, ⟨later, ready⟩, middle, written, refused⟩
        · rw [ran] at stopped
          cases stopped
  · rintro ⟨before, failed, toFiles, ⟨later, readyToo⟩, middle, written, refused⟩
    rw [ready, Except.ok.injEq] at readyToo
    have stopped := (Session.run_forM_eq_error_iff (request.opened session)).mpr
      ⟨before, failed, later, middle, readyToo, written, refused⟩
    rw [run_deliver_toFiles toFiles, stopped]

theorem written_of_succeeded (toFiles : request.toStdout = false)
    (succeeded : session.run (request.run cwd) = (.ok (), after)) :
    ∃ renderings final, request.renderingsIn cwd session.files = .ok renderings ∧
      (request.opened session).run (renderings.forM Rendering.write) = (.ok (), final) ∧
      after.files = final.files := by
  obtain ⟨renderings, ready, delivered⟩ := delivered_of_succeeded succeeded
  obtain ⟨final, written, same⟩ := (run_deliver_eq_ok_iff toFiles).mp delivered
  exact ⟨renderings, final, ready, written, by rw [same]⟩

theorem jobsIn_eq_ok {jobs : List Job} {files : FileTree}
    (found : request.jobsIn cwd files = .ok jobs) :
    ∃ config targets, Config.inFiles files (cwd.join request.path) = .ok config ∧
      config.select? request.target = some targets ∧ jobs = targets.map (request.job cwd) := by
  cases loaded : Config.inFiles files (cwd.join request.path) with
  | error reason =>
      rw [jobsIn, loaded] at found
      cases found
  | ok config =>
      cases selected : config.select? request.target with
      | none =>
          rw [jobsIn, loaded, Except.ok_bind, targets_of_unknown selected] at found
          cases found
      | some targets =>
          rw [jobsIn_of_selected loaded selected] at found
          split_ifs at found
          exact ⟨config, targets, rfl, selected, (Except.ok.inj found).symm⟩

end Generate

/-- Every output holds the header of the job that was the last to be written there, made of what its
input held. -/
def HoldsHeaders (original : FileTree) (jobs : List Job) (tree : FileTree) : Prop :=
  ∀ job ∈ jobs, ∃ owner header, tree.lastAt? Job.output jobs job.output = some owner ∧
    owner.HasHeader original header ∧ tree.read job.output = .ok header.utf8

theorem holdsHeaders_of_allStand {original tree : FileTree} {renderings : List Rendering}
    (made : ∀ rendering ∈ renderings, rendering.job.HasHeader original rendering.header)
    (stand : Rendering.AllStand tree renderings) :
    HoldsHeaders original (renderings.map (·.job)) tree := by
  intro job member
  obtain ⟨rendering, listed, rfl⟩ := List.mem_map.mp member
  obtain ⟨owner, last, read⟩ := stand rendering listed
  refine ⟨owner.job, owner.header, ?_, made owner (FileTree.mem_of_lastAt? last).1, read⟩
  rw [FileTree.lastAt?_map]
  exact congrArg (Option.map (·.job)) last

/-- A request that cannot be met for its configuration, its targets or their inputs fails without a
change of the files, and prints nothing if it was to print headers. A request that comes to a header
that cannot be written fails there: the headers before it have been written, and of all that comes
after it nothing is touched. It fails for no other reason. -/
theorem generate_fails_cleanly (request : Generate) (cwd : Path) (session : Session) :
    (request.IsDoomed cwd session.files →
      ∃ failure after, session.run (request.run cwd) = (.error failure, after) ∧
        after.files = session.files ∧
        (request.toStdout = true → after.printed = session.printed)) ∧
    (∀ before failed failure after, request.StopsAt cwd session before failed failure after →
      session.run (request.run cwd) = (.error failure, after) ∧ failed.IsRefusal failure ∧
        HoldsHeaders session.files (before.map (·.job)) after.files ∧
        session.files.ChangesOnly (before.map (·.output))
          ((before ++ [failed]).flatMap (·.output.ancestors)) after.files) ∧
    ∀ failure after, session.run (request.run cwd) = (.error failure, after) →
      request.IsDoomed cwd session.files ∨
        ∃ before failed, request.StopsAt cwd session before failed failure after := by
  refine ⟨?_, ?_, ?_⟩
  · intro doomed
    obtain ⟨failure, unready⟩ := Generate.isDoomed_iff.mp doomed
    obtain ⟨after, ran, same | opened⟩ := Generate.run_of_unready unready
    · exact ⟨failure, after, ran, by rw [same], fun _ => by rw [same]⟩
    · refine ⟨failure, after, ran, by rw [opened, Generate.opened_files], fun silent => ?_⟩
      rw [opened, Generate.opened, if_pos silent]
  · intro before failed failure after stops
    obtain ⟨later, ready⟩ := stops.ready
    obtain ⟨middle, written, refused⟩ := stops.stopped
    obtain ⟨_, made⟩ := Generate.renderingsIn_eq_ok ready
    obtain ⟨stand, changes⟩ := Rendering.allStand_of_written written
    rw [Generate.opened_files] at changes
    rcases Rendering.run_write_cases failed middle with ⟨reason, final, ran, refusal, others⟩ |
      ⟨final, ran, _⟩
    · rw [refused] at ran
      obtain ⟨rfl, rfl⟩ : failure = reason ∧ after = final := by simpa using ran
      refine ⟨(Generate.run_eq_error_iff ready).mpr ⟨before, failed, stops⟩, refusal, ?_, ?_⟩
      · apply holdsHeaders_of_allStand _ (stand.of_changesOnly others)
        exact fun rendering member => made rendering (List.mem_append_left _ member)
      · simpa [Rendering.allAbove] using changes.append others
    · rw [refused] at ran
      cases ran
  · intro failure after ran
    cases ready : request.renderingsIn cwd session.files with
    | error reason => exact .inl (Generate.isDoomed_of_failed ready)
    | ok renderings => exact .inr ((Generate.run_eq_error_iff ready).mp ran)

theorem generate_fails_cleanly_second_target :
    let first : Target := { name := "a", input := "first.iface", output := "x" }
    let unmade : Target := { name := "b", input := "missing", output := "y" }
    let blocked : Target := { name := "b", input := "second.iface", output := "x/y" }
    let session (second : Target) : Session := ⟨.sample ⟨[first, second]⟩, []⟩
    let request : Generate := {}
    (∃ failure after, (session unmade).run (request.run "/") = (.error failure, after) ∧
      after.files = (session unmade).files) ∧
    ∃ made failed after,
      request.StopsAt "/" (session blocked) [made] failed (.notCreated "/./x" .alreadyExists) after ∧
        made.job = request.job "/" first ∧
        HoldsHeaders (session blocked).files [made.job] after.files := by
  intro first unmade blocked session request
  have doomed : request.IsDoomed "/" (session unmade).files :=
    .input _ _ unmade (inFiles_sample _) rfl (by simp) (.inl ⟨.notFound, rfl⟩)
  have ready : request.renderingsIn "/" (session blocked).files = .ok [_, _] :=
    renderingsIn_sample rfl rfl
  have stops : request.StopsAt "/" (session blocked) [_] _ (.notCreated "/./x" .alreadyExists) _ :=
    ⟨rfl, ⟨[], ready⟩, _, rfl, rfl⟩
  constructor
  · obtain ⟨failure, after, ran, same, _⟩ := (generate_fails_cleanly request "/" _).1 doomed
    exact ⟨failure, after, ran, same⟩
  · obtain ⟨_, _, holds, _⟩ := (generate_fails_cleanly request "/" _).2.1 _ _ _ _ stops
    exact ⟨_, _, _, stops, rfl, holds⟩

theorem HoldsHeaders.own {original tree : FileTree} {before later : List Job} {job : Job}
    (holds : HoldsHeaders original (before ++ job :: later) tree)
    (apart : ∀ other ∈ later, tree.locate other.output ≠ tree.locate job.output) :
    ∃ header, job.HasHeader original header ∧ tree.read job.output = .ok header.utf8 := by
  obtain ⟨owner, header, last, has, read⟩ := holds job (by simp)
  rw [FileTree.lastAt?_of_apart before apart, Option.some.injEq] at last
  exact ⟨header, last ▸ has, read⟩

/-- After a request that succeeded every output holds the header of the last target that is written
there, made of what its input held before. This is its own header unless a later target is written
to the same place. -/
theorem generated_headers_stand (request : Generate) (cwd : Path) (session after : Session)
    (toFiles : request.toStdout = false)
    (succeeded : session.run (request.run cwd) = (.ok (), after)) :
    ∃ config targets, Config.inFiles session.files (cwd.join request.path) = .ok config ∧
      config.select? request.target = some targets ∧
      HoldsHeaders session.files (targets.map (request.job cwd)) after.files ∧
      ∀ before target later, targets = before ++ target :: later →
        (∀ other ∈ later, after.files.locate (request.job cwd other).output ≠
          after.files.locate (request.job cwd target).output) →
        ∃ header, (request.job cwd target).HasHeader session.files header ∧
          after.files.read (request.job cwd target).output = .ok header.utf8 := by
  obtain ⟨renderings, final, ready, written, same⟩ :=
    Generate.written_of_succeeded toFiles succeeded
  obtain ⟨found, made⟩ := Generate.renderingsIn_eq_ok ready
  obtain ⟨config, targets, loaded, selected, jobs⟩ := Generate.jobsIn_eq_ok found
  obtain ⟨stand, _⟩ := Rendering.allStand_of_written written
  have holds : HoldsHeaders session.files (targets.map (request.job cwd)) after.files := by
    rw [same, ← jobs]
    exact holdsHeaders_of_allStand made stand
  refine ⟨config, targets, loaded, selected, holds, ?_⟩
  rintro before target later rfl apart
  rw [List.map_append, List.map_cons] at holds
  exact holds.own (by simpa using apart)

/-! Two targets whose headers are written to one file -/

def Target.early : Target where
  name := "a"
  input := "first.iface"
  output := "x.h"

def Target.late : Target where
  name := "b"
  input := "second.iface"
  output := "./x.h"

def Config.colliding : Config := ⟨[.early, .late]⟩

def Session.colliding : Session := ⟨.sample .colliding, []⟩

theorem ready_colliding :
    ({} : Generate).renderingsIn "/" Session.colliding.files =
      .ok [.sample .early ["void A() \x7b Call(SCI_A); \x7d"], .sample .late []] :=
  renderingsIn_sample rfl rfl

theorem run_colliding : ∃ after,
    Session.colliding.run (Generate.run {} "/") = (.ok (), after) ∧
      after.files.read "/./x.h" = .ok (Rendering.sample .late []).header.utf8 :=
  ⟨_, (Generate.run_of_ready ready_colliding).trans rfl, rfl⟩

theorem generated_headers_stand_colliding : ∃ after,
    Session.colliding.run (Generate.run {} "/") = (.ok (), after) ∧
      HoldsHeaders Session.colliding.files
        ([.early, .late].map (({} : Generate).job "/")) after.files := by
  obtain ⟨after, succeeded, _⟩ := run_colliding
  obtain ⟨config, targets, loaded, selected, holds, _⟩ :=
    generated_headers_stand {} "/" .colliding after rfl succeeded
  have found : Config.inFiles Session.colliding.files (Path.join "/" ".") = .ok .colliding :=
    inFiles_sample .colliding
  rw [found, Except.ok.injEq] at loaded
  subst loaded
  obtain rfl : [.early, .late] = targets := Option.some.inj selected
  exact ⟨after, succeeded, holds⟩

/-- The request succeeds, and the header of the first target is nowhere. -/
theorem generated_header_lost : ∃ after,
    Session.colliding.run (Generate.run {} "/") = (.ok (), after) ∧
      Config.inFiles Session.colliding.files (Path.join "/" ".") = .ok .colliding ∧
      ∃ target ∈ Config.colliding.targets, ∀ header,
        (({} : Generate).job "/" target).HasHeader Session.colliding.files header →
          after.files.read (({} : Generate).job "/" target).output ≠ .ok header.utf8 := by
  obtain ⟨after, succeeded, read⟩ := run_colliding
  refine ⟨after, succeeded, inFiles_sample .colliding, .early, List.mem_cons_self, ?_⟩
  intro header has own
  have made := (Generate.renderingsIn_eq_ok ready_colliding).2 _ List.mem_cons_self
  rw [has.unique made] at own
  have overwritten := own.symm.trans read
  have same := Text.utf8_injective (Except.ok.inj overwritten)
  have options : Target.late.options (({} : Generate).job "/" .late).input =
      Target.early.options (({} : Generate).job "/" .early).input := rfl
  simp only [Rendering.header_sample, options] at same
  have lost := Header.assemble_injective (by decide) (by decide) same
  cases lost

end WrapperGen
