import WrapperGen.Proofs.Command.Generation

/-!
Headers that are printed in place of being written. Printing them changes no file, and the text that
is printed is what the files would hold one after the other, as long as each header would have a
file of its own.
-/

namespace WrapperGen

theorem Picture.render_plain (colour : Bool) (texts : List Text) :
    render colour (texts.map Piece.plain) = texts.flatten := by
  induction texts with
  | nil => rfl
  | cons text texts ih =>
      rw [List.map_cons, List.flatten_cons, ← ih]
      rfl

theorem Text.utf8_flatten (texts : List Text) :
    utf8 texts.flatten = (texts.map utf8).flatten := by
  induction texts with
  | nil => rfl
  | cons text texts ih =>
      rw [List.flatten_cons, List.map_cons, List.flatten_cons, ← ih]
      exact List.flatMap_append

/-- A header stands in its own file if no other one leads there. -/
theorem Rendering.AllStand.read_own {tree : FileTree} {renderings : List Rendering}
    (stand : AllStand tree renderings)
    (apart : (renderings.map fun rendering => tree.locate rendering.output).Nodup) :
    ∀ rendering ∈ renderings, tree.read rendering.output = .ok rendering.header.utf8 := by
  intro rendering member
  obtain ⟨owner, last, read⟩ := stand rendering member
  obtain ⟨before, later, split⟩ := List.append_of_mem member
  rw [split, List.map_append, List.map_cons, List.nodup_append, List.nodup_cons] at apart
  have others : ∀ other ∈ later, tree.locate other.output ≠ tree.locate rendering.output := by
    intro other listed same
    have behind := List.mem_map_of_mem (f := fun rendering => tree.locate rendering.output) listed
    exact apart.2.1.1 (same ▸ behind)
  rw [split, FileTree.lastAt?_of_apart before others, Option.some.injEq] at last
  rw [read, last]

namespace Generate

/-- The request with its headers printed, or else written to files. -/
def sendingTo (request : Generate) (toStdout : Bool) : Generate := { request with toStdout }

variable {request : Generate} {cwd : Path} {session after : Session} {renderings : List Rendering}

theorem run_toStdout_of_ready (toStdout : request.toStdout = true)
    (ready : request.renderingsIn cwd session.files = .ok renderings) :
    session.run (request.run cwd) = (.ok (), { session with
      printed := session.printed ++ (renderings.map (·.header)).map .plain }) := by
  rw [run_of_ready ready, deliver, if_pos toStdout, run_prints, opened, if_pos toStdout,
    List.map_map]
  rfl

theorem files_of_toStdout (toStdout : request.toStdout = true) (cwd : Path) (session : Session) :
    (session.run (request.run cwd)).2.files = session.files := by
  cases ready : request.renderingsIn cwd session.files with
  | error failure =>
      obtain ⟨after, ran, same | opened⟩ := run_of_unready ready
      · rw [ran, same]
      · rw [ran, opened, opened_files]
  | ok renderings => rw [run_toStdout_of_ready toStdout ready]

/-- What holds of every header with its job holds of the headers and the targets, in their order. -/
theorem forall₂_of_jobs (request : Generate) {targets : List Target} {holds : Job → Text → Prop}
    (jobs : targets.map (request.job cwd) = renderings.map (·.job))
    (each : ∀ rendering ∈ renderings, holds rendering.job rendering.header) :
    List.Forall₂ (fun target header => holds (request.job cwd target) header) targets
      (renderings.map (·.header)) := by
  have paired : List.Forall₂ holds (renderings.map (·.job)) (renderings.map (·.header)) := by
    rw [List.forall₂_map_left_iff, List.forall₂_map_right_iff, List.forall₂_same]
    exact each
  rw [← jobs, List.forall₂_map_left_iff] at paired
  exact paired

theorem read_of_succeeded (toFiles : request.toStdout = false)
    (ready : request.renderingsIn cwd session.files = .ok renderings)
    (succeeded : session.run (request.run cwd) = (.ok (), after))
    (apart : (renderings.map fun rendering => after.files.locate rendering.output).Nodup) :
    ∀ rendering ∈ renderings, after.files.read rendering.output = .ok rendering.header.utf8 := by
  obtain ⟨others, final, readyToo, written, same⟩ := written_of_succeeded toFiles succeeded
  rw [ready, Except.ok.injEq] at readyToo
  subst readyToo
  obtain ⟨stand, _⟩ := Rendering.allStand_of_written written
  rw [← same] at stand
  exact stand.read_own apart

end Generate

/-- A request changes no file if it prints its headers, and once it succeeds it has printed the
headers of its targets, one after the other, and nothing else. It does succeed where it succeeds in
writing them, and if each header has a file of its own then these files hold the headers that are
printed, in the same order. -/
theorem printed_headers_as_written (request : Generate) (cwd : Path) (session : Session) :
    let printing := session.run ((request.sendingTo true).run cwd)
    let writing := session.run ((request.sendingTo false).run cwd)
    printing.2.files = session.files ∧
    (writing.1 = .ok () → printing.1 = .ok ()) ∧
    (printing.1 = .ok () → ∃ config targets headers,
      Config.inFiles session.files (cwd.join request.path) = .ok config ∧
      config.select? request.target = some targets ∧
      List.Forall₂ (fun target => (request.job cwd target).HasHeader session.files) targets headers ∧
      (∀ colour, printing.2.printed.render colour =
        session.printed.render colour ++ headers.flatten) ∧
      (writing.1 = .ok () →
        (targets.map fun target =>
          writing.2.files.locate (request.job cwd target).output).Nodup →
        ∃ contents,
          targets.mapM (fun target => writing.2.files.read (request.job cwd target).output) =
            .ok contents ∧
          contents = headers.map Text.utf8 ∧ contents.flatten = Text.utf8 headers.flatten)) := by
  intro printing writing
  refine ⟨Generate.files_of_toStdout rfl cwd session, ?_, ?_⟩
  · intro succeeded
    obtain ⟨renderings, ready, _⟩ := Generate.delivered_of_succeeded (Prod.ext succeeded rfl)
    have readyToo : (request.sendingTo true).renderingsIn cwd session.files = .ok renderings := ready
    exact congrArg Prod.fst (Generate.run_toStdout_of_ready rfl readyToo)
  · intro succeeded
    obtain ⟨renderings, ready, _⟩ := Generate.delivered_of_succeeded (Prod.ext succeeded rfl)
    obtain ⟨found, made⟩ := Generate.renderingsIn_eq_ok ready
    obtain ⟨config, targets, loaded, selected, jobs⟩ := Generate.jobsIn_eq_ok found
    have printed : printing = _ := Generate.run_toStdout_of_ready rfl ready
    refine ⟨config, targets, renderings.map (·.header), loaded, selected,
      request.forall₂_of_jobs jobs.symm made, ?_, ?_⟩
    · intro colour
      rw [printed, Picture.render_append, Picture.render_plain]
    · intro alsoSucceeded apart
      have readyToo : (request.sendingTo false).renderingsIn cwd session.files = .ok renderings :=
        ready
      have places := congrArg (List.map fun job => writing.2.files.locate job.output) jobs
      rw [List.map_map, List.map_map] at places
      have read := Generate.read_of_succeeded rfl readyToo (Prod.ext alsoSucceeded rfl) (places ▸ apart)
      refine ⟨(renderings.map (·.header)).map Text.utf8, ?_, rfl, (Text.utf8_flatten _).symm⟩
      rw [Except.mapM_eq_ok_iff, List.forall₂_map_right_iff]
      let holds (job : Job) (header : Text) : Prop :=
        writing.2.files.read job.output = .ok header.utf8
      have standing : ∀ rendering ∈ renderings, holds rendering.job rendering.header := read
      exact request.forall₂_of_jobs jobs.symm standing

/-- The header of the first target is written over the input of the second one. -/
theorem printed_headers_as_written_over_an_input :
    let first : Target := { name := "a", input := "first.iface", output := "second.iface" }
    let second : Target := { name := "b", input := "second.iface", output := "y.h" }
    let session : Session := ⟨.sample ⟨[first, second]⟩, []⟩
    let request : Generate := {}
    let printing := session.run ((request.sendingTo true).run "/")
    let writing := session.run ((request.sendingTo false).run "/")
    writing.1 = .ok () ∧ printing.1 = .ok () ∧
      ∃ headers : List Text, (∀ colour, printing.2.printed.render colour = headers.flatten) ∧
        [first, second].mapM (fun target => writing.2.files.read (request.job "/" target).output) =
          .ok (headers.map Text.utf8) := by
  intro first second session request printing writing
  have loaded : Config.inFiles session.files (Path.join "/" ".") = .ok ⟨[first, second]⟩ :=
    inFiles_sample _
  have ready : (request.sendingTo false).renderingsIn "/" session.files = .ok [_, _] :=
    renderingsIn_sample rfl rfl
  have written : writing = (.ok (), _) := (Generate.run_of_ready ready).trans rfl
  have done : writing.1 = .ok () := congrArg Prod.fst written
  obtain ⟨_, both, prints⟩ := printed_headers_as_written request "/" session
  obtain ⟨config, targets, headers, loadedToo, selected, _, text, files⟩ := prints (both done)
  rw [show Config.inFiles session.files (Path.join "/" request.path) = _ from loaded,
    Except.ok.injEq] at loadedToo
  subst loadedToo
  obtain rfl : [first, second] = targets := Option.some.inj selected
  obtain ⟨contents, read, same, _⟩ := files done (by
    rw [show session.run ((request.sendingTo false).run "/") = _ from written]
    decide)
  exact ⟨done, both done, headers, text, same ▸ read⟩

end WrapperGen
