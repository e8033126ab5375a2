import Mathlib.Data.List.Find
import WrapperGen.Proofs.Command.Preparation

/-!
How headers are written. They are written one after the other, each with the directories that it
needs, until one cannot be; every file that has been written holds the header that was written to it
last.
-/

namespace WrapperGen

variable {α : Type}

/-- The last of some items whose place is where a path leads. -/
def FileTree.lastAt? (tree : FileTree) (place : α → Path) (items : List α) (path : Path) :
    Option α :=
  items.reverse.find? fun item => tree.locate (place item) = tree.locate path

namespace FileTree

variable {tree : FileTree} {place : α → Path} {items : List α} {path other : Path}

theorem lastAt?_congr (same : tree.locate path = tree.locate other) :
    tree.lastAt? place items path = tree.lastAt? place items other := by
  rw [lastAt?, lastAt?, same]

theorem lastAt?_cons (first : α) :
    tree.lastAt? place (first :: items) path = (tree.lastAt? place items path).or
      (if tree.locate (place first) = tree.locate path then some first else none) := by
  rw [lastAt?, List.reverse_cons, List.find?_append, List.find?_singleton]
  simp only [decide_eq_true_eq, lastAt?]

theorem mem_of_lastAt? {item : α} (last : tree.lastAt? place items path = some item) :
    item ∈ items ∧ tree.locate (place item) = tree.locate path :=
  ⟨List.mem_reverse.mp (List.mem_of_find?_eq_some last), by simpa using List.find?_some last⟩

theorem lastAt?_of_apart {item : α} {later : List α} (before : List α)
    (apart : ∀ other ∈ later, tree.locate (place other) ≠ tree.locate (place item)) :
    tree.lastAt? place (before ++ item :: later) (place item) = some item := by
  have none_ : later.reverse.find?
      (fun other => tree.locate (place other) = tree.locate (place item)) = none := by
    simpa [List.find?_eq_none] using apart
  rw [lastAt?, List.reverse_append, List.reverse_cons, List.find?_append, List.find?_append, none_]
  simp

theorem lastAt?_eq_none_iff :
    tree.lastAt? place items path = none ↔
      ∀ item ∈ items, tree.locate (place item) ≠ tree.locate path := by
  simp [lastAt?, List.find?_eq_none]

theorem lastAt?_map {β : Type} (form : β → α) (others : List β) :
    tree.lastAt? place (others.map form) path =
      (tree.lastAt? (place ∘ form) others path).map form := by
  rw [lastAt?, ← List.map_reverse, List.find?_map, lastAt?]
  rfl

end FileTree

namespace Rendering

def output (rendering : Rendering) : Path := rendering.job.output

/-- The failure tells that the header could not be put in its place. -/
def IsRefusal (rendering : Rendering) (failure : Failure) : Prop :=
  (∃ parent fault, rendering.output.parent? = some parent ∧ failure = .notCreated parent fault) ∨
    ∃ fault, failure = .notWritten rendering.output fault

theorem makeDirectory_changes (rendering : Rendering) (session : Session) :
    Session.Changes [] rendering.output.ancestors session
        (session.run rendering.makeDirectory).2 ∧
      ∀ failure, (session.run rendering.makeDirectory).1 = .error failure →
        rendering.IsRefusal failure := by
  rw [makeDirectory]
  cases above : rendering.job.output.parent? with
  | none => exact ⟨.refl _ _ session, fun _ => nofun⟩
  | some parent =>
      simp only [Session.run_adapt]
      constructor
      · rw [output, Path.ancestors_eq_cons above]
        exact Session.makeDirectories_changes session parent
      · intro failure failed
        cases made : (session.run (Host.makeDirectories parent)).1 with
        | error fault =>
            rw [made, Except.mapError_error, Except.error.injEq] at failed
            exact .inl ⟨parent, fault, above, failed.symm⟩
        | ok done => simp [made] at failed

theorem run_writeFile (session : Session) (path : Path) (bytes : List UInt8) :
    session.run (Host.write path bytes) =
      match session.files.write path bytes with
      | .ok files => (.ok (), { session with files })
      | .error fault => (.error fault, session) :=
  Session.run_change session _

/-- A header is written with the directories above it, or nothing but such directories is made. -/
theorem run_write_cases (rendering : Rendering) (session : Session) :
    (∃ failure after, session.run rendering.write = (.error failure, after) ∧
      rendering.IsRefusal failure ∧
      session.files.ChangesOnly [] rendering.output.ancestors after.files) ∨
    ∃ after, session.run rendering.write = (.ok (), after) ∧
      session.files.ChangesOnly [rendering.output] rendering.output.ancestors after.files ∧
      after.files.read rendering.output = .ok rendering.header.utf8 := by
  obtain ⟨changes, refusal⟩ := makeDirectory_changes rendering session
  rw [write, Session.run_bind]
  rcases made : session.run rendering.makeDirectory with ⟨failure | _, middle⟩
  · rw [made] at changes refusal
    exact .inl ⟨failure, middle, rfl, refusal failure rfl, changes.files⟩
  · rw [made] at changes
    simp only [Session.run_bind, Session.run_adapt, run_writeFile]
    cases written : middle.files.write rendering.job.output rendering.header.utf8 with
    | error fault =>
        exact .inl ⟨_, middle, rfl, .inr ⟨fault, rfl⟩, changes.files⟩
    | ok files =>
        refine .inr ⟨_, rfl, ?_, FileTree.read_of_write written⟩
        simpa [output] using changes.files.append (FileTree.write_changesOnly written)

/-- Every output holds the header that was written to it last. -/
def AllStand (tree : FileTree) (renderings : List Rendering) : Prop :=
  ∀ rendering ∈ renderings, ∃ owner,
    tree.lastAt? output renderings rendering.output = some owner ∧
      tree.read rendering.output = .ok owner.header.utf8

theorem allStand_cons {first : Rendering} {rest : List Rendering} {made : List Path}
    {before after : FileTree} (written : before.read first.output = .ok first.header.utf8)
    (changes : before.ChangesOnly (rest.map output) made after) (stand : AllStand after rest) :
    AllStand after (first :: rest) := by
  intro rendering member
  rw [FileTree.lastAt?_cons]
  -- a later header stands by assumption, and the first one stands if no later one is written there
  cases last : after.lastAt? output rest rendering.output with
  | some owner =>
      obtain ⟨listed, same⟩ := FileTree.mem_of_lastAt? last
      obtain ⟨holder, holds, read⟩ := stand owner listed
      rw [FileTree.lastAt?_congr same, last, Option.some.injEq] at holds
      refine ⟨owner, rfl, ?_⟩
      rw [← FileTree.read_of_locate_eq same, read, holds]
  | none =>
      have apart := FileTree.lastAt?_eq_none_iff.mp last
      obtain rfl : rendering = first := by
        rcases List.mem_cons.mp member with same | later
        · exact same
        · exact absurd rfl (apart rendering later)
      refine ⟨rendering, by simp, changes.read_eq written ?_⟩
      intro path listed
      obtain ⟨other, later, rfl⟩ := List.mem_map.mp listed
      exact apart other later

/-- All paths above the outputs. -/
def allAbove (renderings : List Rendering) : List Path :=
  renderings.flatMap fun rendering => rendering.output.ancestors

/-- Headers that have been written stand, and nothing else has changed but directories above them. -/
theorem allStand_of_written {renderings : List Rendering} {session after : Session}
    (written : session.run (renderings.forM write) = (.ok (), after)) :
    AllStand after.files renderings ∧
      session.files.ChangesOnly (renderings.map output) (allAbove renderings) after.files := by
  induction renderings generalizing session with
  | nil =>
      obtain rfl : session = after := congrArg Prod.snd written
      exact ⟨fun _ => nofun, .refl _ _ session.files⟩
  | cons first rest ih =>
      rw [Session.run_forM_cons] at written
      rcases run_write_cases first session with ⟨failure, stopped, ran, _⟩ |
        ⟨middle, ran, changes, read⟩
      · rw [ran] at written
        cases written
      · rw [ran] at written
        obtain ⟨stand, others⟩ := ih written
        exact ⟨allStand_cons read others stand, changes.append others⟩

theorem AllStand.of_changesOnly {renderings : List Rendering} {made : List Path}
    {before after : FileTree} (stand : AllStand before renderings)
    (changes : before.ChangesOnly [] made after) : AllStand after renderings := by
  -- every output leads where it led, so the last one at a place is the same as before
  have located : ∀ rendering ∈ renderings,
      after.locate rendering.output = before.locate rendering.output := by
    intro rendering member
    obtain ⟨owner, _, read⟩ := stand rendering member
    obtain ⟨location, found, _⟩ := FileTree.read_eq_ok_iff.mp read
    rw [found, changes.grows.locate found]
  intro rendering member
  obtain ⟨owner, last, read⟩ := stand rendering member
  refine ⟨owner, ?_, changes.read_eq read (by simp)⟩
  rw [FileTree.lastAt?, ← last, FileTree.lastAt?]
  apply List.find?_congr
  intro other listed
  rw [located other (List.mem_reverse.mp listed), located rendering member]

end Rendering

end WrapperGen
