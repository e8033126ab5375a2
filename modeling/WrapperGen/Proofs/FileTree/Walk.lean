import Mathlib.Data.List.TakeWhile
import Mathlib.Tactic.SplitIfs
import WrapperGen.FileTree
import WrapperGen.Proofs.Failing
import WrapperGen.Proofs.Text.Cutting

/-!
Following paths through trees of files. Where a path leads depends only on which locations are taken
and which of them are directories, so a path that leads somewhere still leads there when files get
other contents and new directories are made.
-/

namespace WrapperGen

namespace Text

theorem getLast?_splitWhere {isMark : Char → Bool} {text : Text} (nonempty : text ≠ [])
    (unmarked : ∀ char, text.getLast? = some char → isMark char = false) :
    (splitWhere isMark text).getLast? ≠ some [] := by
  induction text with
  | nil => exact absurd rfl nonempty
  | cons first rest ih =>
      rw [splitWhere]
      cases rest with
      | nil =>
          have solid : isMark first = false := unmarked first rfl
          simp [solid, splitWhere]
      | cons second later =>
          have last := ih (by simp) fun char found => unmarked char (by simpa using found)
          cases pieces : splitWhere isMark (second :: later) with
          | nil => exact absurd pieces (splitWhere_ne_nil isMark _)
          | cons piece others =>
              rw [pieces] at last
              split
              · simpa using last
              · cases others with
                | nil => simp
                | cons other others => simpa using last

end Text

namespace FileTree

/-- The location to which a single name leads from another location. -/
def enter (tree : FileTree) (location : Location) (name : Text) : Except Fault Location :=
  if tree.node? location ≠ some .directory then .error .notDirectory
  else if Path.isIdle name then .ok location
  else if name = ".." then .ok location.tail
  else if nameLimit < name.byteLength then .error .nameTooLong
  else if (tree.node? (name :: location)).isNone then .error .notFound
  else .ok (name :: location)

variable {tree before after : FileTree} {location reached : Location} {name : Text} {path : Path}

theorem walk_cons (tree : FileTree) (location : Location) (name : Text) (names : List Text) :
    tree.walk location (name :: names) =
      (tree.enter location name).bind fun next => tree.walk next names := by
  rw [walk, enter]
  split_ifs <;> rfl

theorem walk_append (tree : FileTree) (location : Location) (names others : List Text) :
    tree.walk location (names ++ others) =
      (tree.walk location names).bind fun next => tree.walk next others := by
  induction names generalizing location with
  | nil => rfl
  | cons name names ih =>
      rw [List.cons_append, walk_cons, walk_cons]
      cases tree.enter location name with
      | error fault => rfl
      | ok next => exact ih next

theorem walk_blanks (isDirectory : tree.node? location = some .directory) {blanks : List Text}
    (blank : ∀ name ∈ blanks, name = []) : tree.walk location blanks = .ok location := by
  induction blanks with
  | nil => rfl
  | cons name names ih =>
      rw [List.forall_mem_cons] at blank
      have stays : tree.enter location name = .ok location := by
        simp [enter, isDirectory, blank.1, Path.isIdle]
      rw [walk_cons, stays]
      exact ih blank.2

theorem enter_inner (isDirectory : tree.node? location = some .directory)
    (proper : isDots name = false) (short : name.byteLength ≤ nameLimit)
    (present : tree.node? (name :: location) ≠ none) :
    tree.enter location name = .ok (name :: location) := by
  obtain ⟨busy, inner⟩ : Path.isIdle name = false ∧ name ≠ ".." := by simpa [isDots] using proper
  rw [enter, if_neg (not_not.mpr isDirectory), if_neg (by simp [busy]), if_neg inner,
    if_neg (Nat.not_lt.mpr short), if_neg (by simpa using present)]

/-- One tree grows into another if its directories stay and no location is given up. -/
structure Grows (before after : FileTree) : Prop where
  directory : ∀ location, before.node? location = some .directory →
    after.node? location = some .directory
  present : ∀ location, before.node? location ≠ none → after.node? location ≠ none

theorem Grows.refl (tree : FileTree) : tree.Grows tree := ⟨fun _ => id, fun _ => id⟩

theorem Grows.trans {between : FileTree} (first : before.Grows between)
    (second : between.Grows after) : before.Grows after where
  directory location here := second.directory location (first.directory location here)
  present location here := second.present location (first.present location here)

theorem Grows.enter (grows : before.Grows after)
    (entered : before.enter location name = .ok reached) :
    after.enter location name = .ok reached := by
  unfold FileTree.enter at entered
  split_ifs at entered with elsewhere idle parent long missing
  all_goals have isDirectory := grows.directory location (not_ne_iff.mp elsewhere)
  · rw [FileTree.enter, if_neg (not_not.mpr isDirectory), if_pos idle]
    exact entered
  · rw [FileTree.enter, if_neg (not_not.mpr isDirectory), if_neg idle, if_pos parent]
    exact entered
  · have proper : isDots name = false := by simpa [isDots, idle] using parent
    have present := grows.present (name :: location) (by simpa using missing)
    rw [enter_inner isDirectory proper (Nat.le_of_not_lt long) present]
    exact entered

theorem Grows.walk (grows : before.Grows after) {names : List Text}
    (walked : before.walk location names = .ok reached) :
    after.walk location names = .ok reached := by
  induction names generalizing location with
  | nil => exact walked
  | cons name names ih =>
      rw [walk_cons] at walked ⊢
      cases entered : before.enter location name with
      | error fault =>
          rw [entered] at walked
          cases walked
      | ok next =>
          rw [entered] at walked
          rw [grows.enter entered]
          exact ih walked

theorem locate_eq_ok_iff :
    tree.locate path = .ok location ↔
      ∃ names, components path = .ok names ∧ tree.walk [] names = .ok location := by
  rw [locate, Except.bind_eq_ok_iff]

theorem Grows.locate (grows : before.Grows after) (located : before.locate path = .ok location) :
    after.locate path = .ok location := by
  obtain ⟨names, followed, walked⟩ := locate_eq_ok_iff.mp located
  exact locate_eq_ok_iff.mpr ⟨names, followed, grows.walk walked⟩

theorem read_eq_ok_iff {bytes : List UInt8} :
    tree.read path = .ok bytes ↔
      ∃ location, tree.locate path = .ok location ∧ tree.node? location = some (.file bytes) := by
  rw [read, Except.bind_eq_ok_iff]
  refine exists_congr fun location => and_congr_right fun _ => ?_
  cases tree.node? location with
  | none => simp
  | some node => cases node with
    | directory => simp
    | file content => simp

theorem read_of_locate_eq {other : Path} (same : tree.locate path = tree.locate other) :
    tree.read path = tree.read other := by
  rw [read, read, same]

theorem destination_eq_ok_iff :
    tree.destination path = .ok (location, name) ↔ ∃ names, components path = .ok names ∧
      ((names.reverse.dropWhile List.isEmpty = [] ∧ location = [] ∧ name = []) ∨
        ∃ earlier, names.reverse.dropWhile List.isEmpty = name :: earlier ∧
          tree.walk [] earlier.reverse = .ok location ∧ tree.node? location = some .directory) := by
  rw [destination, Except.bind_eq_ok_iff]
  refine exists_congr fun names => and_congr_right fun _ => ?_
  cases names.reverse.dropWhile List.isEmpty with
  | nil => simp [eq_comm]
  | cons last earlier =>
      simp only [Except.bind_eq_ok_iff]
      constructor
      · rintro ⟨place, walked, ended⟩
        split_ifs at ended with isDirectory
        simp only [Except.pure_eq_ok, Except.ok.injEq, Prod.mk.injEq] at ended
        obtain ⟨rfl, rfl⟩ := ended
        exact Or.inr ⟨earlier, rfl, walked, isDirectory⟩
      · rintro (⟨impossible, _⟩ | ⟨before, same, walked, isDirectory⟩)
        · simp at impossible
        · obtain ⟨rfl, rfl⟩ := List.cons.inj same
          exact ⟨location, walked, by simp [isDirectory]⟩

theorem Grows.destination (grows : before.Grows after)
    (found : before.destination path = .ok (location, name)) :
    after.destination path = .ok (location, name) := by
  obtain ⟨names, followed, atRoot | ⟨earlier, kept, walked, isDirectory⟩⟩ :=
    destination_eq_ok_iff.mp found
  · exact destination_eq_ok_iff.mpr ⟨names, followed, .inl atRoot⟩
  · exact destination_eq_ok_iff.mpr ⟨names, followed,
      .inr ⟨earlier, kept, grows.walk walked, grows.directory location isDirectory⟩⟩

theorem getLast?_components (followed : (components path).isOk = true)
    (whole : path.text.getLast? ≠ some '/') : path.components.getLast? ≠ some [] := by
  have nonempty : path.text ≠ [] := by
    rintro empty
    simp [components, empty] at followed
  apply Text.getLast?_splitWhere nonempty
  intro char found
  simpa using fun same : char = '/' => whole (same ▸ found)

theorem components_eq_ok {names : List Text} (followed : components path = .ok names) :
    names = path.components := by
  unfold components at followed
  split_ifs at followed
  exact (Except.ok.inj followed).symm

theorem split_blanks {names earlier : List Text} {name : Text}
    (kept : names.reverse.dropWhile List.isEmpty = name :: earlier) :
    ∃ blanks, (∀ blank ∈ blanks, blank = []) ∧ names = earlier.reverse ++ name :: blanks := by
  refine ⟨(names.reverse.takeWhile List.isEmpty).reverse, ?_, ?_⟩
  · intro blank member
    exact List.isEmpty_iff.mp (List.mem_takeWhile_imp (List.mem_reverse.mp member))
  · have split := List.takeWhile_append_dropWhile (p := List.isEmpty) (l := names.reverse)
    rw [kept] at split
    have turned := congrArg List.reverse split
    rw [List.reverse_reverse, List.reverse_append, List.reverse_cons, List.append_assoc] at turned
    exact turned.symm

/-- A path whose last name is taken leads to the location of that name. A slash at its end asks for
a directory there. -/
theorem locate_of_destination (found : tree.destination path = .ok (location, name))
    (proper : isDots name = false) (short : name.byteLength ≤ nameLimit) {node : Node}
    (taken : tree.node? (name :: location) = some node)
    (ending : node = .directory ∨ path.text.getLast? ≠ some '/') :
    tree.locate path = .ok (name :: location) := by
  obtain ⟨names, followed, ⟨_, _, rfl⟩ | ⟨earlier, kept, walked, isDirectory⟩⟩ :=
    destination_eq_ok_iff.mp found
  · exact absurd proper (by decide)
  obtain ⟨blanks, blank, shape⟩ := split_blanks kept
  refine locate_eq_ok_iff.mpr ⟨names, followed, ?_⟩
  rw [shape, walk_append, walked]
  change tree.walk location (name :: blanks) = _
  rw [walk_cons, enter_inner isDirectory proper short (by simp [taken])]
  change tree.walk (name :: location) blanks = _
  rcases ending with rfl | whole
  · exact walk_blanks taken blank
  · -- without a slash at its end the path has no blank component there
    rcases List.eq_nil_or_concat blanks with rfl | ⟨front, final, rfl⟩
    · rfl
    · have last := getLast?_components (by simp [followed]) whole
      have ends : names = (earlier.reverse ++ name :: front) ++ [[]] := by
        simp [shape, blank final]
      rw [← components_eq_ok followed, ends, List.getLast?_concat] at last
      exact absurd rfl last

end FileTree

end WrapperGen
