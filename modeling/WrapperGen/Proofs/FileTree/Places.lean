import Mathlib.Data.List.Infix
import WrapperGen.Proofs.FileTree.Change
import WrapperGen.Proofs.Path

/-!
Places. The names in a path spell out a place and the places on the way to it. A path that leads
somewhere leads to its place, and everything on its way is a directory.
-/

namespace WrapperGen

namespace FileTree

theorem isDots_iff {name : Text} :
    isDots name = true ↔ Path.isIdle name = true ∨ name = ".." := by
  simp only [isDots, Bool.or_eq_true, decide_eq_true_eq]

theorem isDots_eq_false_iff {name : Text} :
    isDots name = false ↔ Path.isIdle name = false ∧ name ≠ ".." := by
  rw [← Bool.not_eq_true, isDots_iff, not_or, Bool.not_eq_true]

end FileTree

namespace Location

/-- Where a name leads from a location if nothing is in the way. -/
def step (location : Location) (name : Text) : Location :=
  if Path.isIdle name then location else if name = ".." then location.tail else name :: location

theorem step_idle {location : Location} {name : Text} (idle : Path.isIdle name = true) :
    location.step name = location := by
  rw [step, if_pos idle]

theorem step_up (location : Location) : location.step ".." = location.tail := by
  rw [step, if_neg (by decide), if_pos rfl]

theorem step_inner {location : Location} {name : Text}
    (proper : FileTree.isDots name = false) : location.step name = name :: location := by
  obtain ⟨busy, inner⟩ := FileTree.isDots_eq_false_iff.mp proper
  rw [step, if_neg (by simp [busy]), if_neg inner]

/-- Where names lead from a location if nothing is in the way. -/
def follow (location : Location) (names : List Text) : Location := names.foldl step location

theorem follow_cons (location : Location) (name : Text) (names : List Text) :
    follow location (name :: names) = follow (step location name) names := rfl

theorem follow_append (location : Location) (names others : List Text) :
    follow location (names ++ others) = follow (follow location names) others :=
  List.foldl_append

/-- Without a step up names lead further in. -/
theorem suffix_follow {location : Location} {names : List Text} (inward : (".." : Text) ∉ names) :
    location <:+ follow location names := by
  induction names generalizing location with
  | nil => exact List.suffix_refl location
  | cons name names ih =>
      rw [List.mem_cons, not_or] at inward
      refine List.IsSuffix.trans ?_ (ih inward.2)
      unfold step
      split_ifs with idle up
      · exact List.suffix_refl location
      · exact absurd up.symm inward.1
      · exact List.suffix_cons name location

end Location

namespace Path

/-- Where the path leads if nothing is in the way. -/
def place (path : Path) : Location := Location.follow [] path.names

/-- The places that the path passes before it ends. -/
def way (path : Path) : List Location := path.names.dropLast.inits.map (Location.follow [])

theorem mem_way_iff {path : Path} {place : Location} :
    place ∈ path.way ↔ ∃ front, front <+: path.names.dropLast ∧ Location.follow [] front = place := by
  simp only [way, List.mem_map, List.mem_inits]

theorem follow_names (location : Location) (names : List Text) :
    location.follow (names.filter fun name => !isIdle name) = location.follow names := by
  induction names generalizing location with
  | nil => rfl
  | cons name names ih =>
      by_cases idle : isIdle name = true
      · rw [List.filter_cons_of_neg (by simp [idle]), Location.follow_cons, Location.step_idle idle]
        exact ih location
      · rw [List.filter_cons_of_pos (by simp [idle])]
        exact ih (location.step name)

end Path

namespace FileTree

variable {tree before after : FileTree} {location reached : Location} {name : Text} {path : Path}
  {names : List Text}

/-- What keeps no one from staying or from stepping up. -/
theorem enter_dots (isDirectory : tree.node? location = some .directory)
    (dots : isDots name = true) : tree.enter location name = .ok (location.step name) := by
  rw [enter, if_neg (not_not.mpr isDirectory)]
  by_cases idle : Path.isIdle name = true
  · rw [if_pos idle, Location.step_idle idle]
  · obtain rfl := (isDots_iff.mp dots).resolve_left idle
    rw [if_neg idle, if_pos rfl, Location.step_up]

/-- A name is followed out of a directory, and if it leads further in to what is there. -/
theorem enter_eq_ok (entered : tree.enter location name = .ok reached) :
    tree.node? location = some .directory ∧ reached = location.step name ∧
      (isDots name = false →
        name.byteLength ≤ nameLimit ∧ tree.node? (name :: location) ≠ none) := by
  unfold enter at entered
  split_ifs at entered with elsewhere idle up long missing
  all_goals refine ⟨not_ne_iff.mp elsewhere, (Except.ok.inj entered).symm.trans ?_, fun proper => ?_⟩
  · rw [Location.step_idle idle]
  · simp [isDots, idle] at proper
  · rw [up, Location.step_up]
  · simp [isDots, up] at proper
  · rw [Location.step, if_neg idle, if_neg up]
  · exact ⟨Nat.le_of_not_lt long, by simpa using missing⟩

theorem walk_cons_eq_ok_iff :
    tree.walk location (name :: names) = .ok reached ↔
      tree.enter location name = .ok (location.step name) ∧
        tree.walk (location.step name) names = .ok reached := by
  rw [walk_cons]
  constructor
  · intro walked
    obtain ⟨next, entered, rest⟩ := Except.bind_eq_ok_iff.mp walked
    obtain ⟨_, rfl, _⟩ := enter_eq_ok entered
    exact ⟨entered, rest⟩
  · rintro ⟨entered, rest⟩
    rw [entered]
    exact rest

theorem walk_append_eq_ok_iff {others : List Text} :
    tree.walk location (names ++ others) = .ok reached ↔
      tree.walk location names = .ok (location.follow names) ∧
        tree.walk (location.follow names) others = .ok reached := by
  induction names generalizing location with
  | nil => simp [walk, Location.follow]
  | cons name names ih =>
      rw [List.cons_append, walk_cons_eq_ok_iff, walk_cons_eq_ok_iff, ih, and_assoc]
      rfl

theorem walk_eq_follow (walked : tree.walk location names = .ok reached) :
    reached = location.follow names := by
  rw [← List.append_nil names, walk_append_eq_ok_iff] at walked
  exact (Except.ok.inj walked.2).symm

/-- What is passed on the way is a directory. -/
theorem directory_of_passed {front rest : List Text}
    (walked : tree.walk location (front ++ name :: rest) = .ok reached) :
    tree.node? (location.follow front) = some .directory := by
  have entered := (walk_cons_eq_ok_iff.mp (walk_append_eq_ok_iff.mp walked).2).1
  exact (enter_eq_ok entered).1

/-- Components that lead nowhere ask for nothing but a directory to stand in. -/
theorem walk_names (walked : tree.walk location names = .ok reached) :
    tree.walk location (names.filter fun name => !Path.isIdle name) = .ok reached := by
  induction names generalizing location with
  | nil => exact walked
  | cons name names ih =>
      obtain ⟨entered, rest⟩ := walk_cons_eq_ok_iff.mp walked
      by_cases idle : Path.isIdle name = true
      · rw [List.filter_cons_of_neg (by simp [idle])]
        rw [Location.step_idle idle] at rest
        exact ih rest
      · rw [List.filter_cons_of_pos (by simp [idle])]
        exact walk_cons_eq_ok_iff.mpr ⟨entered, ih rest⟩

theorem walk_of_names (isDirectory : tree.node? reached = some .directory)
    (walked : tree.walk location (names.filter fun name => !Path.isIdle name) = .ok reached) :
    tree.walk location names = .ok reached := by
  induction names generalizing location with
  | nil => exact walked
  | cons name names ih =>
      by_cases idle : Path.isIdle name = true
      · rw [List.filter_cons_of_neg (by simp [idle])] at walked
        have rest := ih walked
        have here : tree.node? location = some .directory := by
          cases names with
          | nil =>
              obtain rfl : location = reached := Except.ok.inj rest
              exact isDirectory
          | cons second later => exact (enter_eq_ok (walk_cons_eq_ok_iff.mp rest).1).1
        have stays : tree.enter location name = .ok location := by simp [enter, here, idle]
        rw [walk_cons, stays]
        exact rest
      · rw [List.filter_cons_of_pos (by simp [idle])] at walked
        obtain ⟨entered, rest⟩ := walk_cons_eq_ok_iff.mp walked
        exact walk_cons_eq_ok_iff.mpr ⟨entered, ih rest⟩

theorem walk_names_of_locate (located : tree.locate path = .ok location) :
    tree.walk [] path.names = .ok location := by
  obtain ⟨names, followed, walked⟩ := locate_eq_ok_iff.mp located
  rw [components_eq_ok followed] at walked
  exact walk_names walked

theorem locate_eq_place (located : tree.locate path = .ok location) : location = path.place :=
  walk_eq_follow (walk_names_of_locate located)

theorem directory_on_way (located : tree.locate path = .ok location) {place : Location}
    (passed : place ∈ path.way) : tree.node? place = some .directory := by
  obtain ⟨front, ⟨rest, split⟩, rfl⟩ := Path.mem_way_iff.mp passed
  have walked := walk_names_of_locate located
  rcases List.eq_nil_or_concat path.names with none | ⟨others, last, spelled⟩
  · rw [none, List.dropLast_nil, List.append_eq_nil_iff] at split
    rw [split.1]
    rfl
  · rw [spelled, List.concat_eq_append, List.dropLast_concat] at split
    rw [spelled, List.concat_eq_append, ← split, List.append_assoc] at walked
    cases rest with
    | nil => exact directory_of_passed walked
    | cons name rest => exact directory_of_passed walked

/-- There is something at the location, in a directory that stands in one, and so on. -/
def Stands (tree : FileTree) : Location → Prop
  | [] => True
  | name :: names =>
    tree.node? (name :: names) ≠ none ∧ tree.node? names = some .directory ∧ tree.Stands names

theorem Stands.present (stands : tree.Stands location) : tree.node? location ≠ none := by
  cases location with
  | nil => simp [node?]
  | cons name names => exact stands.1

theorem Stands.walk (stands : tree.Stands location)
    (walked : tree.walk location names = .ok reached) : tree.Stands reached := by
  induction names generalizing location with
  | nil => exact Except.ok.inj walked ▸ stands
  | cons name names ih =>
      obtain ⟨entered, rest⟩ := walk_cons_eq_ok_iff.mp walked
      obtain ⟨isDirectory, _, inner⟩ := enter_eq_ok entered
      refine ih ?_ rest
      by_cases dots : isDots name = true
      · rcases isDots_iff.mp dots with idle | rfl
        · exact (Location.step_idle idle).symm ▸ stands
        · rw [Location.step_up]
          cases location with
          | nil => exact stands
          | cons outer outers => exact stands.2.2
      · have proper : isDots name = false := by simpa using dots
        rw [Location.step_inner proper]
        exact ⟨(inner proper).2, isDirectory, stands⟩

theorem stands_of_locate (located : tree.locate path = .ok location) : tree.Stands location :=
  Stands.walk (show tree.Stands [] from trivial) (walk_names_of_locate located)

/-- Everything in the tree stands in a directory. -/
def Rooted (tree : FileTree) : Prop :=
  ∀ name location, tree.node? (name :: location) ≠ none → tree.node? location = some .directory

theorem rooted_of_entries
    (standing : ∀ entry ∈ tree.entries, tree.node? entry.1.tail = some .directory) :
    tree.Rooted := by
  intro name location present
  by_contra elsewhere
  refine present (List.lookup_eq_none_iff.mpr fun entry listed => ?_)
  have other : name :: location ≠ entry.1 := by
    intro same
    have stands := standing entry listed
    rw [← same, List.tail_cons] at stands
    exact elsewhere stands
  simpa using other

theorem Rooted.directory_tail (rooted : tree.Rooted)
    (isDirectory : tree.node? location = some .directory) :
    tree.node? location.tail = some .directory := by
  cases location with
  | nil => rfl
  | cons name names => exact rooted name names (by simp [isDirectory])

theorem Rooted.present_of_entered (rooted : tree.Rooted)
    (entered : tree.enter location name = .ok reached) : tree.node? reached ≠ none := by
  obtain ⟨isDirectory, rfl, inner⟩ := enter_eq_ok entered
  by_cases dots : isDots name = true
  · rcases isDots_iff.mp dots with idle | rfl
    · rw [Location.step_idle idle, isDirectory]
      simp
    · rw [Location.step_up, rooted.directory_tail isDirectory]
      simp
  · have proper : isDots name = false := by simpa using dots
    rw [Location.step_inner proper]
    exact (inner proper).2

theorem Rooted.absent_inside (rooted : tree.Rooted) (absent : tree.node? location = none)
    (inside : location <:+ reached) : tree.node? reached = none := by
  obtain ⟨names, rfl⟩ := inside
  induction names with
  | nil => exact absent
  | cons name names ih =>
      by_contra present
      have isDirectory := rooted name (names ++ location) present
      rw [ih] at isDirectory
      cases isDirectory

namespace ChangesOnly

variable {written made : List Path}

theorem rooted (changes : ChangesOnly written made before after) (rooted : before.Rooted) :
    after.Rooted := by
  intro name location present
  rcases changes.accounted (name :: location) with same | ⟨path, _, located, _⟩ |
    ⟨_, _, path, _, located⟩
  · rw [same] at present
    exact changes.grows.directory location (rooted name location present)
  · exact (stands_of_locate located).2.1
  · exact (stands_of_locate located).2.1

/-- A file stays a file. -/
theorem file_stays (changes : ChangesOnly written made before after) {bytes : List UInt8}
    (isFile : before.node? location = some (.file bytes)) :
    ∃ others, after.node? location = some (.file others) := by
  rcases changes.accounted location with same | ⟨_, _, _, written⟩ | ⟨new, _⟩
  · exact ⟨bytes, same.trans isFile⟩
  · exact written
  · rw [isFile] at new
    cases new

theorem directory_stayed (changes : ChangesOnly written made before after)
    (present : before.node? location ≠ none)
    (isDirectory : after.node? location = some .directory) :
    before.node? location = some .directory := by
  cases found : before.node? location with
  | none => exact absurd found present
  | some node =>
      cases node with
      | directory => rfl
      | file bytes =>
          obtain ⟨others, isFile⟩ := changes.file_stays found
          rw [isDirectory] at isFile
          cases isFile

end ChangesOnly

/-- Names, followed from a location, step up out of nothing but what is there. -/
def StepUpFromPresent (tree : FileTree) (location : Location) (names : List Text) : Prop :=
  ∀ front rest, names = front ++ (".." : Text) :: rest → (tree.walk location front).isOk = true

theorem StepUpFromPresent.of_inward (inward : (".." : Text) ∉ names) :
    tree.StepUpFromPresent location names := by
  rintro front rest rfl
  exact absurd (by simp) inward

theorem StepUpFromPresent.rest {next : Location}
    (steps : tree.StepUpFromPresent location (name :: names))
    (entered : tree.enter location name = .ok next) : tree.StepUpFromPresent next names := by
  intro front rest split
  have walked := steps (name :: front) rest (by rw [split, List.cons_append])
  rw [walk_cons, entered] at walked
  exact walked

theorem StepUpFromPresent.inward {fault : Fault}
    (steps : tree.StepUpFromPresent location (name :: names))
    (refused : tree.enter location name = .error fault) : (".." : Text) ∉ names := by
  intro up
  obtain ⟨front, rest, split⟩ := List.append_of_mem up
  have walked := steps (name :: front) rest (by rw [split, List.cons_append])
  rw [walk_cons, refused] at walked
  cases walked

namespace ChangesOnly

variable {written made : List Path}

/-- What can be entered only after a change was not there before it. -/
theorem absent_of_entered (changes : ChangesOnly written made before after)
    (present : before.node? location ≠ none) {fault : Fault}
    (refused : before.enter location name = .error fault)
    (entered : after.enter location name = .ok reached) : before.node? reached = none := by
  obtain ⟨isDirectory, rfl, inner⟩ := enter_eq_ok entered
  have already := changes.directory_stayed present isDirectory
  by_cases dots : isDots name = true
  · rw [enter_dots already dots] at refused
    cases refused
  · have proper : isDots name = false := by simpa using dots
    rw [Location.step_inner proper]
    by_contra taken
    rw [enter_inner already proper (inner proper).1 taken] at refused
    cases refused

theorem walk_or_absent (changes : ChangesOnly written made before after) (rooted : before.Rooted)
    (present : before.node? location ≠ none) (steps : before.StepUpFromPresent location names)
    (walked : after.walk location names = .ok reached) :
    before.walk location names = .ok reached ∨ before.node? reached = none := by
  induction names generalizing location with
  | nil => exact .inl walked
  | cons name names ih =>
      obtain ⟨entered, rest⟩ := walk_cons_eq_ok_iff.mp walked
      cases already : before.enter location name with
      | ok next =>
          obtain rfl : next = location.step name := (enter_eq_ok already).2.1
          rw [walk_cons, already]
          exact ih (rooted.present_of_entered already) (steps.rest already) rest
      | error fault =>
          have absent := changes.absent_of_entered present already entered
          rw [walk_eq_follow rest]
          exact .inr (rooted.absent_inside absent (Location.suffix_follow (steps.inward already)))

/-- Where a path leads only after a change there was nothing before it, unless the path steps up out
of what was not there. -/
theorem absent_of_located (changes : ChangesOnly written made before after)
    (rooted : before.Rooted) (steps : before.StepUpFromPresent [] path.components)
    (missing : before.isPresent path = false) (located : after.locate path = .ok location) :
    before.node? location = none := by
  obtain ⟨names, followed, walked⟩ := locate_eq_ok_iff.mp located
  obtain rfl := components_eq_ok followed
  rcases changes.walk_or_absent rooted (by simp [node?]) steps walked with already | absent
  · rw [isPresent, locate_eq_ok_iff.mpr ⟨_, followed, already⟩] at missing
    cases missing
  · exact absent

/-- What is absent stays absent if nothing comes to its place. -/
theorem stays_absent (changes : ChangesOnly written made before after) (rooted : before.Rooted)
    (steps : before.StepUpFromPresent [] path.components)
    (files : ∀ other ∈ written, other.place ≠ path.place)
    (directories : ∀ other ∈ made, other.place ≠ path.place)
    (missing : before.isPresent path = false) : after.isPresent path = false := by
  rw [isPresent]
  cases located : after.locate path with
  | error fault => rfl
  | ok location =>
      have absent := changes.absent_of_located rooted steps missing located
      have place := locate_eq_place located
      rcases changes.accounted location with same | ⟨other, member, there, _⟩ |
        ⟨_, _, other, member, there⟩
      · exact absurd (same.trans absent) (stands_of_locate located).present
      · exact absurd ((locate_eq_place there).symm.trans place) (files other member)
      · exact absurd ((locate_eq_place there).symm.trans place) (directories other member)

theorem read_kept (changes : ChangesOnly written made before after) {bytes : List UInt8}
    (files : ∀ other ∈ written, other.place ≠ path.place) (read : before.read path = .ok bytes) :
    after.read path = .ok bytes := by
  obtain ⟨location, located, _⟩ := read_eq_ok_iff.mp read
  have there := changes.grows.locate located
  refine changes.read_eq read fun other member same => files other member ?_
  rw [there] at same
  rw [← locate_eq_place same, locate_eq_place there]

end ChangesOnly

theorem place_on_way {higher : Path} (above : higher ∈ path.ancestors) :
    higher.place ∈ path.way :=
  Path.mem_way_iff.mpr ⟨higher.names, Path.names_of_mem_ancestors above, rfl⟩

end FileTree

end WrapperGen
