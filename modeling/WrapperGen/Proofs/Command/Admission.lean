import Mathlib.Data.List.Nodup
import WrapperGen.Proofs.Command.Writing
import WrapperGen.Proofs.FileTree.Ways

/-!
Headers that can be written. Where every output is admitted and none stands in the way of another,
all headers are written, and what is where afterwards depends only on what was there, on the outputs
and on the header that is written last to each place.
-/

namespace WrapperGen

open FileTree (Fits components)

namespace Session

variable {session : Session} {path : Path}

/-- Attempting to make a directory leaves it there if it can be made or is there already. -/
theorem run_attempt_of_made_or_there (followed : (components path).isOk = true)
    (attempt : (∃ files, session.files.makeDirectory path = .ok files) ∨
      (session.files.makeDirectory path = .error .alreadyExists ∧
        session.files.isDirectory path = true))
    {handler : Fault → ExceptT Fault (StateM Session) Unit}
    (accepts : handler .alreadyExists = Host.unlessDirectory path .alreadyExists) :
    ∃ after, session.run (tryCatch (Host.makeDirectory path) handler) = (.ok (), after) ∧
      after.files.HasDirectory path.names := by
  have ran := run_makeDirectory session path
  simp only [← FileTree.isDirectory_iff_of_followed followed]
  rcases attempt with ⟨files, made⟩ | ⟨refused, isDirectory⟩
  · rw [made] at ran
    obtain ⟨location, _, puts⟩ := FileTree.makeDirectory_puts made
    refine ⟨_, run_tryCatch_of_ok session ran handler, ?_⟩
    refine FileTree.isDirectory_iff.mpr ⟨location, puts.locate, ?_⟩
    rw [puts.node?, if_pos rfl]
  · rw [refused] at ran
    refine ⟨session, ?_, isDirectory⟩
    rw [run_tryCatch_of_error session ran, accepts, run_unlessDirectory, if_pos isDirectory]

theorem run_attempt_of_missing
    (missing : session.files.makeDirectory path = .error .notFound)
    (handler : Fault → ExceptT Fault (StateM Session) Unit) :
    session.run (tryCatch (Host.makeDirectory path) handler) = session.run (handler .notFound) := by
  have ran := run_makeDirectory session path
  rw [missing] at ran
  exact run_tryCatch_of_error session ran handler

/-- What is asked of a path so that it can be made a directory with all that is missing above it. -/
structure Makeable (files : FileTree) (path : Path) : Prop where
  followed : path.text = [] ∨ (components path).isOk = true
  trimmed : path.Trimmed
  fits : Fits path.names
  opened : files.OpenTo path.names

theorem run_makeDirectories_of_parent (rooted : session.files.Rooted)
    (makeable : Makeable session.files path)
    (above : ∀ parent, path.parent? = some parent → ∃ middle,
      session.run (Host.makeDirectories parent) = (.ok (), middle) ∧
        middle.files.HasDirectory parent.names) :
    ∃ after, session.run (Host.makeDirectories path) = (.ok (), after) ∧
      after.files.HasDirectory path.names := by
  rw [Host.makeDirectories, Host.makeFirst]
  split
  · next empty =>
      have nameless : path.names = [] := by
        rw [Path.names, Path.components, List.isEmpty_iff.mp empty]
        decide
      exact ⟨session, rfl, [], by rw [nameless]; rfl, rfl⟩
  · next filled =>
      have followed := makeable.followed.resolve_left (by simpa using filled)
      rcases FileTree.makeDirectory_of_open rooted followed makeable.trimmed makeable.fits
        makeable.opened with made | there | ⟨missing, named, _⟩
      · exact run_attempt_of_made_or_there followed (.inl made) rfl
      · exact run_attempt_of_made_or_there followed (.inr there) rfl
      · -- the parent is made first, so the second attempt finds it
        obtain ⟨parent, found⟩ := Option.ne_none_iff_exists'.mp (Path.parent?_ne_none named)
        obtain ⟨middle, ran, isThere⟩ := above parent found
        rw [run_attempt_of_missing missing]
        simp only [run_bind]
        rw [Path.ancestors_eq_cons found, ← Host.makeDirectories, ran]
        have changes := makeDirectories_changes session parent
        rw [ran] at changes
        have opened := makeable.opened.kept changes.files (by simp)
        rcases FileTree.makeDirectory_of_open (changes.files.rooted rooted) followed
          makeable.trimmed makeable.fits opened with made | there | ⟨_, _, stillMissing⟩
        · exact run_attempt_of_made_or_there followed (.inl made) rfl
        · exact run_attempt_of_made_or_there followed (.inr there) rfl
        · rw [(Path.parent?_eq_some found).2.1] at isThere
          exact absurd isThere stillMissing

theorem makeable_parent {files : FileTree} {parent : Path} (above : path.parent? = some parent)
    (followed : path.text = [] ∨ (components path).isOk = true) (fits : Fits path.names)
    (opened : files.OpenTo path.names.dropLast) : Makeable files parent := by
  obtain ⟨begins, names, trimmed⟩ := Path.parent?_eq_some above
  have earlier : parent.names <+: path.names := names ▸ List.dropLast_prefix path.names
  refine ⟨?_, trimmed, fits.initial earlier, names ▸ opened⟩
  refine or_iff_not_imp_left.mpr fun filled => ?_
  rcases followed with empty | followed
  · rw [empty, List.prefix_nil] at begins
    exact absurd begins filled
  · exact FileTree.followed_of_initial followed begins filled

/-- Directories to which the way is open can be made. -/
theorem run_makeDirectories (rooted : session.files.Rooted)
    (makeable : Makeable session.files path) :
    ∃ after, session.run (Host.makeDirectories path) = (.ok (), after) ∧
      after.files.HasDirectory path.names := by
  induction listed : path.ancestors generalizing path with
  | nil =>
      refine run_makeDirectories_of_parent rooted makeable fun parent above => ?_
      rw [Path.parent?, listed] at above
      cases above
  | cons first others ih =>
      refine run_makeDirectories_of_parent rooted makeable fun parent above => ?_
      have higher := Path.ancestors_eq_cons above
      rw [listed, List.cons.injEq] at higher
      refine ih (makeable_parent above makeable.followed makeable.fits ?_) higher.2.symm
      have initial : path.names.dropLast <+: path.names := List.dropLast_prefix path.names
      exact makeable.opened.initial initial

end Session

namespace Rendering

/-- What is printed once the header has been written. -/
def line (rendering : Rendering) : Picture := [
  .plain "  ", .inked .green "✓",
  .plain (" " ++ rendering.job.target.name ++ " → " ++ rendering.output.text ++ " (" ++
    Text.ofNat rendering.methods ++ " methods)\n")]

variable {rendering : Rendering} {renderings : List Rendering} {session after : Session}

theorem run_write_of_made {middle : Session} {files : FileTree}
    (made : session.run rendering.makeDirectory = (.ok (), middle))
    (written : middle.files.write rendering.output rendering.header.utf8 = .ok files) :
    session.run rendering.write =
      (.ok (), { files, printed := middle.printed ++ rendering.line }) := by
  rw [write, Session.run_bind, made]
  simp only [Session.run_bind, Session.run_adapt, run_writeFile]
  have same : rendering.job.output = rendering.output := rfl
  rw [same, written]
  rfl

/-- The directory of an output that is admitted can be made. -/
theorem run_makeDirectory_of_admitted (rooted : session.files.Rooted)
    (admits : session.files.Admits rendering.output) :
    ∃ middle, session.run rendering.makeDirectory = (.ok (), middle) ∧
      middle.files.HasDirectory rendering.output.names.dropLast := by
  obtain ⟨front, name, split, proper⟩ := admits.ends
  have names := Path.names_of_last split (FileTree.isDots_eq_false_iff.mp proper).1
  obtain ⟨parent, above⟩ :=
    Option.ne_none_iff_exists'.mp (Path.parent?_ne_none (by rw [names]; simp))
  have makeable :=
    Session.makeable_parent above (.inr admits.followed) admits.fits admits.opened
  obtain ⟨middle, ran, isThere⟩ := Session.run_makeDirectories rooted makeable
  refine ⟨middle, ?_, (Path.parent?_eq_some above).2.1 ▸ isThere⟩
  have same : rendering.job.output.parent? = some parent := above
  rw [makeDirectory, same]
  simp only [Session.run_adapt, ran, Except.mapError_ok]

theorem run_write_of_admitted (rooted : session.files.Rooted)
    (admits : session.files.Admits rendering.output)
    (apart : rendering.output.place ∉ rendering.output.way) :
    ∃ after, session.run rendering.write = (.ok (), after) := by
  obtain ⟨middle, made, isThere⟩ := run_makeDirectory_of_admitted rooted admits
  have changes := (makeDirectory_changes rendering session).1
  rw [made] at changes
  have kept : middle.files.Admits rendering.output := by
    refine admits.kept changes.files (by simp) fun other member same => apart ?_
    exact same ▸ FileTree.place_on_way member
  obtain ⟨files, written⟩ := FileTree.write_of_admitted kept isThere rendering.header.utf8
  exact ⟨_, run_write_of_made made written⟩

/-- No header is written to a place that another one's path passes, nor that its own passes. -/
def Apart (renderings : List Rendering) : Prop :=
  ∀ rendering ∈ renderings, ∀ other ∈ renderings, rendering.output.place ∉ other.output.way

theorem run_writes_of_admitted (rooted : session.files.Rooted)
    (admits : ∀ rendering ∈ renderings, session.files.Admits rendering.output)
    (apart : Apart renderings) :
    ∃ after, session.run (renderings.forM write) = (.ok (), after) := by
  induction renderings generalizing session with
  | nil => exact ⟨session, rfl⟩
  | cons first rest ih =>
      rw [List.forall_mem_cons] at admits
      obtain ⟨middle, ran⟩ := run_write_of_admitted rooted admits.1
        (apart first List.mem_cons_self first List.mem_cons_self)
      rw [Session.run_forM_cons, ran]
      rcases run_write_cases first session with ⟨failure, stopped, failed, _⟩ |
        ⟨final, written, changes, _⟩
      · rw [ran] at failed
        cases failed
      obtain rfl : middle = final := congrArg Prod.snd (ran.symm.trans written)
      refine ih (changes.rooted rooted) (fun rendering member => ?_) fun rendering member other listed =>
        apart rendering (List.mem_cons_of_mem first member) other (List.mem_cons_of_mem first listed)
      have later := List.mem_cons_of_mem first member
      refine (admits.2 rendering member).kept changes ?_ ?_
      · intro other written
        rw [List.mem_singleton.mp written]
        exact apart first List.mem_cons_self rendering later
      · intro higher above same
        exact apart rendering later first List.mem_cons_self (same ▸ FileTree.place_on_way above)

theorem apart_of_written (written : session.run (renderings.forM write) = (.ok (), after)) :
    Apart renderings := by
  obtain ⟨stand, _⟩ := allStand_of_written written
  intro rendering member other listed passed
  obtain ⟨_, _, read⟩ := stand rendering member
  obtain ⟨location, located, isFile⟩ := FileTree.read_eq_ok_iff.mp read
  obtain ⟨_, _, readToo⟩ := stand other listed
  obtain ⟨_, locatedToo, _⟩ := FileTree.read_eq_ok_iff.mp readToo
  rw [← FileTree.locate_eq_place located] at passed
  rw [FileTree.directory_on_way locatedToo passed] at isFile
  cases isFile

theorem admits_of_written (written : session.run (renderings.forM write) = (.ok (), after)) :
    ∀ rendering ∈ renderings, session.files.Admits rendering.output := by
  obtain ⟨stand, changes⟩ := allStand_of_written written
  intro rendering member
  obtain ⟨_, _, read⟩ := stand rendering member
  exact .of_read changes read

theorem printed_of_write (ran : session.run rendering.write = (.ok (), after)) :
    after.printed = session.printed ++ rendering.line := by
  have changes := (makeDirectory_changes rendering session).1
  rcases made : session.run rendering.makeDirectory with ⟨failure | _, middle⟩
  · rw [write, Session.run_bind, made] at ran
    cases ran
  · rw [made] at changes
    cases written : middle.files.write rendering.output rendering.header.utf8 with
    | error fault =>
        have same : rendering.job.output = rendering.output := rfl
        rw [write, Session.run_bind, made] at ran
        simp only [Session.run_bind, Session.run_adapt, run_writeFile, same, written] at ran
        cases ran
    | ok files =>
        rw [run_write_of_made made written] at ran
        obtain rfl := congrArg Prod.snd ran
        exact congrArg (· ++ rendering.line) changes.printed

theorem printed_of_written (written : session.run (renderings.forM write) = (.ok (), after)) :
    after.printed = session.printed ++ renderings.flatMap line := by
  induction renderings generalizing session with
  | nil =>
      obtain rfl : session = after := congrArg Prod.snd written
      simp
  | cons first rest ih =>
      rw [Session.run_forM_cons] at written
      rcases ran : session.run first.write with ⟨failure | _, middle⟩
      · rw [ran] at written
        cases written
      · rw [ran] at written
        rw [ih written, printed_of_write ran, List.flatMap_cons, List.append_assoc]

/-- The last of the headers that are written to a place. -/
def lastTo? (renderings : List Rendering) (place : Location) : Option Rendering :=
  renderings.reverse.find? fun rendering => rendering.output.place = place

theorem mem_of_lastTo? {place : Location} {owner : Rendering}
    (last : lastTo? renderings place = some owner) :
    owner ∈ renderings ∧ owner.output.place = place :=
  ⟨List.mem_reverse.mp (List.mem_of_find?_eq_some last), by simpa using List.find?_some last⟩

theorem lastAt?_eq_lastTo? {tree : FileTree} {path : Path} {location : Location}
    (located : ∀ rendering ∈ renderings, ∃ place, tree.locate rendering.output = .ok place)
    (here : tree.locate path = .ok location) :
    tree.lastAt? output renderings path = lastTo? renderings location := by
  refine List.find?_congr fun rendering member => ?_
  obtain ⟨place, found⟩ := located rendering (List.mem_reverse.mp member)
  simp only [found, here, ← FileTree.locate_eq_place found, Except.ok.injEq]

/-- What is at a place once headers have been written: the last one that is written there, or a
directory where one was missing on the way to one of them, or else what was there before. -/
def left (before : FileTree) (renderings : List Rendering) (place : Location) : Option Node :=
  match lastTo? renderings place with
  | some owner => some (.file owner.header.utf8)
  | none =>
    if before.node? place = none ∧ ∃ rendering ∈ renderings, place ∈ rendering.output.way then
      some .directory
    else before.node? place

theorem node?_of_written (written : session.run (renderings.forM write) = (.ok (), after))
    (place : Location) : after.files.node? place = left session.files renderings place := by
  obtain ⟨stand, changes⟩ := allStand_of_written written
  have located : ∀ rendering ∈ renderings, ∃ place,
      after.files.locate rendering.output = .ok place := by
    intro rendering member
    obtain ⟨_, _, read⟩ := stand rendering member
    obtain ⟨location, found, _⟩ := FileTree.read_eq_ok_iff.mp read
    exact ⟨location, found⟩
  rw [left]
  cases last : lastTo? renderings place with
  | some owner =>
      obtain ⟨member, rfl⟩ := mem_of_lastTo? last
      obtain ⟨holder, holds, read⟩ := stand owner member
      obtain ⟨location, found, isFile⟩ := FileTree.read_eq_ok_iff.mp read
      obtain rfl := FileTree.locate_eq_place found
      rw [lastAt?_eq_lastTo? located found, last, Option.some.injEq] at holds
      rw [isFile, holds]
  | none =>
      have elsewhere : ∀ rendering ∈ renderings, rendering.output.place ≠ place := by
        simpa [lastTo?, List.find?_eq_none] using last
      rcases changes.accounted place with same | ⟨path, listed, found, _⟩ |
        ⟨new, isDirectory, path, listed, found⟩
      · -- what is on the way is there afterwards, so it was there before
        rw [if_neg, same]
        rintro ⟨missing, rendering, member, passed⟩
        obtain ⟨location, found⟩ := located rendering member
        rw [FileTree.directory_on_way found passed, missing] at same
        cases same
      · obtain ⟨rendering, member, rfl⟩ := List.mem_map.mp listed
        exact absurd (FileTree.locate_eq_place found).symm (elsewhere rendering member)
      · obtain ⟨rendering, member, above⟩ := List.mem_flatMap.mp listed
        have passed : place ∈ rendering.output.way := by
          rw [FileTree.locate_eq_place found]
          exact FileTree.place_on_way above
        rw [if_pos ⟨new, rendering, member, passed⟩, isDirectory]

/-- Headers that are written once more leave everything as it is. -/
theorem left_of_written (written : session.run (renderings.forM write) = (.ok (), after))
    (place : Location) : left after.files renderings place = after.files.node? place := by
  have once := node?_of_written written place
  rw [left] at once ⊢
  cases last : lastTo? renderings place with
  | some owner =>
      rw [last] at once
      exact once.symm
  | none =>
      rw [last] at once
      refine if_neg ?_
      rintro ⟨missing, passed⟩
      simp only [missing] at once
      split_ifs at once with made
      exact made ⟨once.symm, passed⟩

theorem lastTo?_eq_some_iff (distinct : (renderings.map (·.output.place)).Nodup)
    {place : Location} {owner : Rendering} :
    lastTo? renderings place = some owner ↔ owner ∈ renderings ∧ owner.output.place = place := by
  refine ⟨mem_of_lastTo?, ?_⟩
  rintro ⟨member, rfl⟩
  cases last : lastTo? renderings owner.output.place with
  | none =>
      have elsewhere : ∀ rendering ∈ renderings, rendering.output.place ≠ owner.output.place := by
        simpa [lastTo?, List.find?_eq_none] using last
      exact absurd rfl (elsewhere owner member)
  | some other =>
      obtain ⟨listed, same⟩ := mem_of_lastTo? last
      rw [List.inj_on_of_nodup_map distinct listed member same]

theorem left_of_perm {others : List Rendering} (same : renderings.Perm others)
    (distinct : (renderings.map (·.output.place)).Nodup) (before : FileTree) (place : Location) :
    left before others place = left before renderings place := by
  have distinctToo : (others.map (·.output.place)).Nodup := (same.map _).nodup_iff.mp distinct
  have last : lastTo? others place = lastTo? renderings place := by
    ext owner
    rw [lastTo?_eq_some_iff distinctToo, lastTo?_eq_some_iff distinct, same.mem_iff]
  simp only [left, last, same.mem_iff]

end Rendering

end WrapperGen
