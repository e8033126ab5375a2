import WrapperGen.Command
import WrapperGen.Proofs.Command.Agreement
import WrapperGen.Proofs.Command.Repetition

/-!
What commands own. A check changes nothing, a request for headers nothing but its outputs, and a
configuration is put nowhere but in its place. So along any run of commands a file keeps its bytes
unless it is such an output or such a configuration.
-/

namespace WrapperGen

theorem Rendering.changesOnly_of_writes (renderings : List Rendering) (session : Session) :
    session.files.ChangesOnly (renderings.map output) (allAbove renderings)
      (session.run (renderings.forM write)).2.files := by
  induction renderings generalizing session with
  | nil => exact .refl _ _ session.files
  | cons first rest ih =>
      rw [Session.run_forM_cons]
      rcases run_write_cases first session with ⟨failure, stopped, ran, _, changes⟩ |
        ⟨middle, ran, changes, _⟩
      · rw [ran]
        exact changes.mono (List.nil_subset _) (List.subset_append_left _ _)
      · rw [ran]
        exact changes.append (ih middle)

namespace Generate

/-- The outputs of the targets that a request selects, if it writes any. -/
def outputsIn (request : Generate) (cwd : Path) (files : FileTree) : List Path :=
  if request.toStdout then []
  else match request.jobsIn cwd files with
    | .ok jobs => jobs.map (·.output)
    | .error _ => []

theorem changesOnly (request : Generate) (cwd : Path) (session : Session) :
    session.files.ChangesOnly (request.outputsIn cwd session.files)
      ((request.outputsIn cwd session.files).flatMap Path.ancestors)
      (session.run (request.run cwd)).2.files := by
  cases ready : request.renderingsIn cwd session.files with
  | error failure =>
      obtain ⟨after, ran, rfl | rfl⟩ := run_of_unready ready
      · rw [ran]
        exact .refl _ _ after.files
      · rw [ran, opened_files]
        exact .refl _ _ session.files
  | ok renderings =>
      rw [run_of_ready ready]
      cases toFiles : request.toStdout with
      | true =>
          rw [deliver, toFiles, if_pos rfl, run_prints]
          simp only [opened_files]
          exact .refl _ _ session.files
      | false =>
          have outputs : request.outputsIn cwd session.files = renderings.map Rendering.output := by
            rw [outputsIn, toFiles, (renderingsIn_eq_ok ready).1]
            simp only [Bool.false_eq_true, ↓reduceIte, List.map_map]
            rfl
          have changes := Rendering.changesOnly_of_writes renderings (request.opened session)
          rw [opened_files] at changes
          rw [outputs, List.flatMap_map, run_deliver_toFiles toFiles]
          rcases ran : (request.opened session).run (renderings.forM Rendering.write) with
            ⟨_ | _, after⟩
          · rw [ran] at changes
            exact changes
          · rw [ran] at changes
            exact changes

end Generate

theorem Check.run_files (check : Check) (cwd : Path) (session : Session) :
    (session.run (check.run cwd)).2.files = session.files := by
  cases known : Report.Format.ofName check.format with
  | error failure => rw [run, known, Session.run_bind, Session.run_mk]
  | ok form =>
      cases loaded : Config.inFiles session.files (cwd.join check.path) with
      | error failure => rw [check.run_of_unloaded known loaded]
      | ok config =>
          rw [check.run_of_loaded known loaded]
          cases selected : config.select? check.target with
          | none => rw [check.run_runWith_of_unknown selected]
          | some targets => rw [check.run_runWith_of_selected selected]

namespace Initialize

variable (request : Initialize) (cwd : Path) (session : Session)

/-- Where the configuration is put. -/
def configPath : Path := Config.pathIn (cwd.join request.path)

/-- The configuration is there and is not to be overwritten. -/
def Keeps (files : FileTree) : Prop :=
  request.force = false ∧ files.isPresent (request.configPath cwd) = true

/-- What putting the configuration in its place comes to, given what has been printed before. -/
def Places (outcome : Except Failure Unit × Session) : Prop :=
  match outcome with
  | (.error _, after) => session.files.ChangesOnly []
      (cwd.join request.path :: (cwd.join request.path).ancestors) after.files
  | (.ok _, after) => session.files.ChangesOnly [request.configPath cwd]
      (cwd.join request.path :: (cwd.join request.path).ancestors) after.files ∧
    after.files.read (request.configPath cwd) = .ok Config.complete.print.utf8

/-- A configuration that is kept is left alone, and any other is put in its place, unless that
fails. -/
theorem run_cases :
    (request.Keeps cwd session.files ∧
      session.run (request.run cwd) = (.ok (), { session with printed := session.printed ++ notice })) ∨
    (¬ request.Keeps cwd session.files ∧
      request.Places cwd session (session.run (request.run cwd))) := by
  have place : (cwd.join request.path).join ⟨Config.fileName⟩ = request.configPath cwd := rfl
  rw [run, Session.run_bind, Session.run_isPresent]
  simp only [place]
  by_cases keeps : request.Keeps cwd session.files
  · refine .inl ⟨keeps, ?_⟩
    rw [if_pos (by simpa [Keeps] using keeps)]
    rfl
  · refine .inr ⟨keeps, ?_⟩
    rw [if_neg (by simpa [Keeps] using keeps)]
    have changes := Session.makeDirectories_changes
      { session with printed := session.printed ++ heading } (cwd.join request.path)
    simp only [Session.run_bind, Session.run_print, Session.run_adapt, Rendering.run_writeFile]
    rcases made : ({ session with printed := session.printed ++ heading } : Session).run
      (Host.makeDirectories (cwd.join request.path)) with ⟨fault | _, middle⟩
    · rw [made] at changes
      exact changes.files
    · rw [made] at changes
      simp only [Except.mapError_ok]
      cases written : middle.files.write (request.configPath cwd) Config.complete.print.utf8 with
      | error fault => exact changes.files
      | ok files =>
          refine ⟨?_, FileTree.read_of_write written⟩
          simpa using changes.files.append (FileTree.write_changesOnly written)

end Initialize

namespace Command

/-- The files that a command owns, by their paths. -/
def writes (cwd : Path) (files : FileTree) : Command → List Path
  | generate request => request.outputsIn cwd files
  | check _ => []
  | init request => [request.configPath cwd]

/-- The directories that a command may make, by their paths. -/
def makes (cwd : Path) (files : FileTree) : Command → List Path
  | generate request => (request.outputsIn cwd files).flatMap Path.ancestors
  | check _ => []
  | init request => cwd.join request.path :: (cwd.join request.path).ancestors

end Command

namespace Session

/-- The session after a command, however that ends. -/
def step (session : Session) (cwd : Path) (command : Command) : Session :=
  (session.run (command.run cwd)).2

/-- The session after some commands, each in its working directory. -/
def runAll (session : Session) : List (Path × Command) → Session
  | [] => session
  | (cwd, command) :: rest => (session.step cwd command).runAll rest

theorem runAll_append (session : Session) (earlier later : List (Path × Command)) :
    session.runAll (earlier ++ later) = (session.runAll earlier).runAll later := by
  induction earlier generalizing session with
  | nil => rfl
  | cons first rest ih => exact ih _

end Session

namespace Command

theorem changesOnly (command : Command) (cwd : Path) (session : Session) :
    session.files.ChangesOnly (command.writes cwd session.files) (command.makes cwd session.files)
      (session.step cwd command).files := by
  cases command with
  | generate request => exact request.changesOnly cwd session
  | check request =>
      have same : (session.step cwd (check request)).files = session.files :=
        request.run_files cwd session
      rw [same]
      exact .refl _ _ session.files
  | init request =>
      have ran : session.step cwd (init request) = (session.run (request.run cwd)).2 := rfl
      rw [ran]
      rcases request.run_cases cwd session with ⟨_, kept⟩ | ⟨_, placed⟩
      · rw [kept]
        exact .refl _ _ session.files
      · rcases outcome : session.run (request.run cwd) with ⟨failure | _, after⟩
        · rw [outcome] at placed
          exact FileTree.ChangesOnly.mono placed (List.nil_subset _) (List.Subset.refl _)
        · rw [outcome] at placed
          exact placed.1

/-- How a command treats the files. A check leaves them alone. Whether it succeeds or not, a request
for headers changes nothing but its outputs, and makes nothing but directories above them. A
configuration is put in its place, in a directory that is made if it is missing; one that is there is
kept unless it is to be overwritten; and one that has been put there is the complete one. -/
def Conduct (cwd : Path) (session : Session) : Command → Prop
  | check request => (session.step cwd (check request)).files = session.files
  | generate request =>
    session.files.ChangesOnly (request.outputsIn cwd session.files)
      ((request.outputsIn cwd session.files).flatMap Path.ancestors)
      (session.step cwd (generate request)).files
  | init request =>
    let base := cwd.join request.path
    session.files.ChangesOnly [request.configPath cwd] (base :: base.ancestors)
      (session.step cwd (init request)).files ∧
    (request.Keeps cwd session.files →
      (session.step cwd (init request)).files = session.files) ∧
    (¬ request.Keeps cwd session.files → (session.run (request.run cwd)).1 = .ok () →
      Config.inFiles (session.step cwd (init request)).files base = .ok .complete)

theorem conduct (command : Command) (cwd : Path) (session : Session) :
    command.Conduct cwd session := by
  have changes := command.changesOnly cwd session
  cases command with
  | generate request => exact changes
  | check request => exact request.run_files cwd session
  | init request =>
      have ran : session.step cwd (init request) = (session.run (request.run cwd)).2 := rfl
      refine ⟨changes, fun keeps => ?_, fun replaces succeeded => ?_⟩
      · rw [ran]
        rcases request.run_cases cwd session with ⟨_, kept⟩ | ⟨replaces, _⟩
        · rw [kept]
        · exact absurd keeps replaces
      · rw [ran]
        rcases request.run_cases cwd session with ⟨keeps, _⟩ | ⟨_, placed⟩
        · exact absurd keeps replaces
        · rcases outcome : session.run (request.run cwd) with ⟨failure | _, after⟩
          · rw [outcome] at succeeded
            cases succeeded
          · rw [outcome] at placed
            exact Config.inFiles_of_printed placed.2

/-- What may take the place of a file: a header whose output leads there, or a configuration whose
path leads there, if it is to be overwritten, or if its path steps up out of what is not there, so
that nobody sees what it leads to before the directories on its way are made. -/
def MayReplace (cwd : Path) (session : Session) (location : Location) : Command → Prop
  | generate request => ∃ output ∈ request.outputsIn cwd session.files,
    (session.step cwd (generate request)).files.locate output = .ok location
  | check _ => False
  | init request =>
    (session.step cwd (init request)).files.locate (request.configPath cwd) = .ok location ∧
      (request.force = true ∨
        ¬ session.files.StepUpFromPresent [] (request.configPath cwd).components)

theorem file_kept (command : Command) {cwd : Path} {session : Session} {location : Location}
    {bytes : List UInt8} (rooted : session.files.Rooted)
    (isFile : session.files.node? location = some (.file bytes))
    (spared : ¬ command.MayReplace cwd session location) :
    (session.step cwd command).files.node? location = some (.file bytes) := by
  have changes := command.changesOnly cwd session
  rcases changes.accounted location with same | ⟨path, listed, located, _⟩ | ⟨new, _⟩
  · rw [same, isFile]
  · cases command with
    | generate request => exact absurd ⟨path, listed, located⟩ spared
    | check request => cases listed
    | init request =>
        rw [List.mem_singleton.mp listed] at located
        by_cases keeps : request.Keeps cwd session.files
        · rw [((init request).conduct cwd session).2.1 keeps, isFile]
        · -- a configuration that could be seen would be kept
          refine absurd ⟨located, or_iff_not_imp_left.mpr fun unforced steps => ?_⟩ spared
          have missing : session.files.isPresent (request.configPath cwd) = false := by
            simpa [Initialize.Keeps, unforced] using keeps
          have absent := changes.absent_of_located rooted steps missing located
          rw [isFile] at absent
          cases absent
  · rw [isFile] at new
    cases new

theorem MayReplace.place {command : Command} {cwd : Path} {session : Session} {location : Location}
    (replaces : command.MayReplace cwd session location) :
    ∃ path ∈ command.writes cwd session.files, path.place = location := by
  cases command with
  | generate request =>
      obtain ⟨output, listed, located⟩ := replaces
      exact ⟨output, listed, (FileTree.locate_eq_place located).symm⟩
  | check request => exact replaces.elim
  | init request =>
      exact ⟨_, List.mem_singleton_self _, (FileTree.locate_eq_place replaces.1).symm⟩

end Command

namespace Session

/-- None of the commands may take the place of a file at the location. -/
def Spares (location : Location) : Session → List (Path × Command) → Prop
  | _, [] => True
  | session, (cwd, command) :: rest =>
    ¬ command.MayReplace cwd session location ∧ Spares location (session.step cwd command) rest

theorem rooted_runAll {session : Session} (rooted : session.files.Rooted)
    (orders : List (Path × Command)) : (session.runAll orders).files.Rooted := by
  induction orders generalizing session with
  | nil => exact rooted
  | cons first rest ih => exact ih ((first.2.changesOnly first.1 session).rooted rooted)

theorem file_kept_along {session : Session} {orders : List (Path × Command)} {location : Location}
    {bytes : List UInt8} (rooted : session.files.Rooted)
    (isFile : session.files.node? location = some (.file bytes))
    (spared : session.Spares location orders) :
    (session.runAll orders).files.node? location = some (.file bytes) := by
  induction orders generalizing session with
  | nil => exact isFile
  | cons first rest ih =>
      obtain ⟨cwd, command⟩ := first
      have changes := command.changesOnly cwd session
      exact ih (changes.rooted rooted) (command.file_kept rooted isFile spared.1) spared.2

end Session

/-- In any run of commands each one keeps to what it owns, and a file that is there at some time has
the same bytes at the end unless one of the later commands may take its place. -/
theorem commands_keep_to_their_own (start : Session) (rooted : start.files.Rooted)
    (orders : List (Path × Command)) :
    (∀ earlier cwd command later, orders = earlier ++ (cwd, command) :: later →
      command.Conduct cwd (start.runAll earlier)) ∧
    ∀ earlier later, orders = earlier ++ later → ∀ location bytes,
      (start.runAll earlier).files.node? location = some (.file bytes) →
      (start.runAll earlier).Spares location later →
      (start.runAll orders).files.node? location = some (.file bytes) := by
  constructor
  · intro earlier cwd command later _
    exact command.conduct cwd (start.runAll earlier)
  · rintro earlier later rfl location bytes isFile spared
    rw [Session.runAll_append]
    exact Session.file_kept_along (Session.rooted_runAll rooted earlier) isFile spared

theorem commands_keep_to_their_own_description :
    let first : Target := { name := "a", input := "first.iface", output := "d/x" }
    let second : Target := { name := "b", input := "second.iface", output := "y" }
    let start : Session := ⟨.sample ⟨[first, second]⟩, []⟩
    let request : Generate := {}
    let orders : List (Path × Command) :=
      [("/", .check {}), ("/", .generate request), ("/", .init { force := true })]
    start.files.Rooted ∧ start.Spares ["first.iface"] orders ∧
      (start.runAll orders).files.node? ["first.iface"] =
        some (.file (Text.utf8 "fun void A=1(,)\n")) := by
  intro first second start request orders
  have rooted : start.files.Rooted := FileTree.rooted_sample _
  have checked : (start.step "/" (.check {})).files = start.files :=
    (Command.check {}).conduct "/" start
  have ready : request.renderingsIn "/" start.files = .ok [_, _] := renderingsIn_sample rfl rfl
  have outputs : request.outputsIn "/" start.files = ["/./d/x", "/./y"] := by
    rw [Generate.outputsIn, (Generate.renderingsIn_eq_ok ready).1]
    rfl
  have spared : start.Spares ["first.iface"] orders := by
    refine ⟨id, fun replaces => ?_, fun replaces => ?_, trivial⟩
    · obtain ⟨path, listed, place⟩ := replaces.place
      rw [Command.writes, checked, outputs] at listed
      revert path
      decide
    · obtain ⟨path, listed, place⟩ := replaces.place
      rw [List.mem_singleton.mp listed] at place
      revert place
      decide
  have along := (commands_keep_to_their_own start rooted orders).2 [] orders rfl
  exact ⟨rooted, spared, along _ _ rfl spared⟩

/-- Nobody asked for the configuration to be overwritten, and it is. -/
theorem existing_configuration_overwritten :
    let request : Initialize := { path := "x/.." }
    let start : Session := ⟨{ entries := [([Config.fileName], .file [])] }, []⟩
    start.files.Rooted ∧ request.force = false ∧
      start.files.node? [Config.fileName] = some (.file []) ∧
      ∃ bytes, bytes ≠ [] ∧
        (start.step "/" (.init request)).files.node? [Config.fileName] = some (.file bytes) := by
  intro request start
  exact ⟨FileTree.rooted_of_entries (by decide), rfl, rfl, Config.complete.print.utf8,
    by decide +kernel, rfl⟩

end WrapperGen
