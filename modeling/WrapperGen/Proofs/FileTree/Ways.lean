import WrapperGen.Proofs.FileTree.Places

/-!
Open ways. Where no file stands in the way of names, they can be followed or something is missing;
what is missing can be made, and a file can be written at the end.
-/

namespace WrapperGen

namespace FileTree

variable {tree before after : FileTree} {location reached : Location} {name : Text} {path : Path}
  {names : List Text}

/-- No file stands where the names lead, nor on the way. -/
def OpenTo (tree : FileTree) (names : List Text) : Prop :=
  ∀ front, front <+: names → ∀ bytes, tree.node? (Location.follow [] front) ≠ some (.file bytes)

theorem OpenTo.initial {others : List Text} (opened : tree.OpenTo names)
    (first : others <+: names) : tree.OpenTo others :=
  fun front begins => opened front (begins.trans first)

/-- The names lead to a directory. -/
def HasDirectory (tree : FileTree) (names : List Text) : Prop :=
  ∃ location, tree.walk [] names = .ok location ∧ tree.node? location = some .directory

theorem hasDirectory_names :
    tree.HasDirectory (names.filter fun name => !Path.isIdle name) ↔ tree.HasDirectory names := by
  constructor
  · rintro ⟨location, walked, isDirectory⟩
    exact ⟨location, walk_of_names isDirectory walked, isDirectory⟩
  · rintro ⟨location, walked, isDirectory⟩
    exact ⟨location, walk_names walked, isDirectory⟩

theorem isDirectory_iff :
    tree.isDirectory path = true ↔
      ∃ location, tree.locate path = .ok location ∧ tree.node? location = some .directory := by
  rw [isDirectory]
  cases tree.locate path with
  | error fault => simp
  | ok location => simp

theorem isDirectory_iff_of_followed (followed : (components path).isOk = true) :
    tree.isDirectory path = true ↔ tree.HasDirectory path.names := by
  cases found : components path with
  | error fault =>
      rw [found] at followed
      cases followed
  | ok names =>
      obtain rfl := components_eq_ok found
      rw [isDirectory_iff, Path.names, hasDirectory_names, HasDirectory]
      simp only [locate_eq_ok_iff, found, Except.ok.injEq, exists_eq_left']

theorem components_isOk_iff :
    (components path).isOk = true ↔
      '\x00' ∉ path.text ∧ path.text ≠ [] ∧ path.text.byteLength ≤ pathLimit := by
  unfold components
  split_ifs with nul empty long
  · simp [nul]
  · simp [List.isEmpty_iff.mp empty]
  · simp [long]
  · have filled : path.text ≠ [] := by simpa using empty
    simp [nul, filled, Nat.le_of_not_lt long]

/-- What a path that can be followed begins with can be followed too. -/
theorem followed_of_initial {other : Path} (followed : (components path).isOk = true)
    (begins : other.text <+: path.text) (filled : other.text ≠ []) :
    (components other).isOk = true := by
  obtain ⟨rest, text⟩ := begins
  rw [components_isOk_iff, ← text, Text.byteLength_append] at followed
  obtain ⟨clean, _, short⟩ := followed
  refine components_isOk_iff.mpr ⟨fun nul => clean (List.mem_append_left rest nul), filled, ?_⟩
  exact (Nat.le_add_right _ _).trans short

/-- Names fit if none is too long for a directory. -/
def Fits (names : List Text) : Prop := ∀ name ∈ names, name.byteLength ≤ nameLimit

theorem Fits.initial {others : List Text} (fits : Fits names) (first : others <+: names) :
    Fits others :=
  fun name member => fits name (first.subset member)

theorem enter_missing (isDirectory : tree.node? location = some .directory)
    (proper : isDots name = false) (short : name.byteLength ≤ nameLimit)
    (missing : tree.node? (name :: location) = none) :
    tree.enter location name = .error .notFound := by
  obtain ⟨busy, inner⟩ := isDots_eq_false_iff.mp proper
  rw [enter, if_neg (not_not.mpr isDirectory), if_neg (by simp [busy]), if_neg inner,
    if_neg (Nat.not_lt.mpr short), if_pos (by simp [missing])]

theorem walk_concat {front : List Text} (walked : tree.walk location front = .ok reached) :
    tree.walk location (front ++ [name]) = tree.enter reached name := by
  rw [walk_append, walked]
  change tree.walk reached [name] = _
  rw [walk_cons]
  cases tree.enter reached name with
  | error fault => rfl
  | ok next => rfl

/-- Names to which the way is open lead to a directory, or something is missing. -/
theorem walk_of_open (rooted : tree.Rooted)
    (fits : Fits (names.filter fun name => !Path.isIdle name))
    (opened : tree.OpenTo (names.filter fun name => !Path.isIdle name)) :
    tree.HasDirectory names ∨ tree.walk [] names = .error .notFound := by
  induction names using List.reverseRecOn with
  | nil => exact .inl ⟨[], rfl, rfl⟩
  | append_singleton front name ih =>
      rw [List.filter_append] at opened fits
      rcases ih (fits.initial (List.prefix_append _ _))
        (opened.initial (List.prefix_append _ _)) with
        ⟨location, walked, isDirectory⟩ | missing
      · have step : tree.walk [] (front ++ [name]) = tree.enter location name := walk_concat walked
        by_cases dots : isDots name = true
        · refine .inl ⟨_, step.trans (enter_dots isDirectory dots), ?_⟩
          rcases isDots_iff.mp dots with idle | rfl
          · rw [Location.step_idle idle, isDirectory]
          · rw [Location.step_up, rooted.directory_tail isDirectory]
        · have proper : isDots name = false := by simpa using dots
          have busy : Path.isIdle name = false := (isDots_eq_false_iff.mp proper).1
          have short := fits name (by simp [busy])
          cases found : tree.node? (name :: location) with
          | none => exact .inr (step.trans (enter_missing isDirectory proper short found))
          | some node =>
              cases node with
              | directory =>
                  exact .inl ⟨_, step.trans (enter_inner isDirectory proper short (by simp [found])),
                    found⟩
              | file bytes =>
                  -- the names end at a file, so the way to it is not open
                  have ends := opened _ (List.prefix_refl _) bytes
                  rw [← List.filter_append, Path.follow_names, Location.follow_append,
                    ← walk_eq_follow walked, Location.follow_cons, Location.step_inner proper] at ends
                  exact absurd found ends
      · refine .inr ?_
        rw [walk_append, missing]
        rfl

section Last

variable {front : List Text} (followed : (components path).isOk = true)
  (split : path.components = front ++ [name]) (busy : Path.isIdle name = false)

include followed split busy

theorem destination_eq_bind :
    tree.destination path = (tree.walk [] front >>= fun location =>
      if tree.node? location = some .directory then pure (location, name)
      else throw .notDirectory) := by
  cases found : components path with
  | error fault =>
      rw [found] at followed
      cases followed
  | ok names =>
      obtain rfl := components_eq_ok found
      have filled : name.isEmpty = false := by
        cases name with
        | nil => simp [Path.isIdle] at busy
        | cons first rest => rfl
      rw [destination, found, Except.ok_bind, split, List.reverse_append, List.reverse_singleton,
        List.singleton_append, List.dropWhile_cons_of_neg (by simp [filled])]
      simp only [List.reverse_reverse]

theorem destination_of_walked (walked : tree.walk [] front = .ok location)
    (isDirectory : tree.node? location = some .directory) :
    tree.destination path = .ok (location, name) := by
  rw [destination_eq_bind followed split busy, walked, Except.ok_bind, if_pos isDirectory]
  rfl

theorem destination_of_refused {fault : Fault} (refused : tree.walk [] front = .error fault) :
    tree.destination path = .error fault := by
  rw [destination_eq_bind followed split busy, refused]
  rfl

end Last

/-- A path without names leads to the root. -/
theorem makeDirectory_of_idle (followed : (components path).isOk = true)
    (idle : path.names = []) : tree.makeDirectory path = .error .alreadyExists := by
  have idles : ∀ name ∈ path.components, Path.isIdle name = true := by
    simpa [Path.names, List.filter_eq_nil_iff] using idle
  obtain ⟨name, dots, found⟩ :
      ∃ name, isDots name = true ∧ tree.destination path = .ok ([], name) := by
    cases named : components path with
    | error fault =>
        rw [named] at followed
        cases followed
    | ok names =>
        obtain rfl := components_eq_ok named
        cases kept : path.components.reverse.dropWhile List.isEmpty with
        | nil => exact ⟨[], rfl, destination_eq_ok_iff.mpr ⟨_, named, .inl ⟨kept, rfl, rfl⟩⟩⟩
        | cons last earlier =>
            obtain ⟨blanks, _, spelled⟩ := split_blanks kept
            have stays : tree.walk [] earlier.reverse = .ok [] := by
              refine walk_of_names rfl ?_
              rw [List.filter_eq_nil_iff.mpr fun name member => by
                simp [idles name (by rw [spelled]; exact List.mem_append_left _ member)]]
              rfl
            refine ⟨last, isDots_iff.mpr (.inl (idles last (by simp [spelled]))), ?_⟩
            exact destination_eq_ok_iff.mpr ⟨_, named, .inr ⟨earlier, kept, stays, rfl⟩⟩
  rw [makeDirectory, found, Except.ok_bind]
  exact if_pos dots

/-- Making a directory to which the way is open fails only if the directory is there already or the
one that it is to stand in is missing. -/
theorem makeDirectory_of_open (rooted : tree.Rooted) (followed : (components path).isOk = true)
    (trimmed : path.Trimmed) (fits : Fits path.names) (opened : tree.OpenTo path.names) :
    (∃ files, tree.makeDirectory path = .ok files) ∨
      (tree.makeDirectory path = .error .alreadyExists ∧ tree.isDirectory path = true) ∨
      (tree.makeDirectory path = .error .notFound ∧ path.names ≠ [] ∧
        ¬ tree.HasDirectory path.names.dropLast) := by
  rw [isDirectory_iff_of_followed followed]
  rcases trimmed with idle | ⟨front, last, split, busy⟩
  · refine .inr (.inl ⟨makeDirectory_of_idle followed idle, [], ?_, rfl⟩)
    rw [idle]
    rfl
  have names := Path.names_of_last split busy
  have shorter : Fits (front.filter fun name => !Path.isIdle name) :=
    fits.initial (names ▸ List.prefix_append _ _)
  have begins : tree.OpenTo (front.filter fun name => !Path.isIdle name) :=
    opened.initial (names ▸ List.prefix_append _ _)
  rcases walk_of_open rooted fits opened with ⟨reached, walked, isDirectory⟩ | missing
  · -- the directory is there
    refine .inr (.inl ⟨?_, reached, walk_names walked, isDirectory⟩)
    rw [split, walk_append_eq_ok_iff] at walked
    obtain ⟨stands, _, inner⟩ := enter_eq_ok (walk_cons_eq_ok_iff.mp walked.2).1
    rw [makeDirectory, destination_of_walked followed split busy walked.1 stands, Except.ok_bind]
    simp only
    split_ifs with dots long taken
    · rfl
    · exact absurd (inner (by simpa using dots)).1 (Nat.not_le.mpr long)
    · rfl
    · exact absurd (by simpa using taken) (inner (by simpa using dots)).2
  · rw [split] at missing
    rcases walk_of_open rooted shorter begins with ⟨location, walked, isDirectory⟩ | earlier
    · -- nothing but the directory itself is missing
      rw [walk_concat walked] at missing
      have proper : isDots last = false := by
        by_contra dots
        rw [enter_dots isDirectory (by simpa using dots)] at missing
        cases missing
      have short := fits last (by simp [names])
      have absent : tree.node? (last :: location) = none := by
        by_contra taken
        rw [enter_inner isDirectory proper short taken] at missing
        cases missing
      refine .inl ⟨tree.put (last :: location) .directory, ?_⟩
      rw [makeDirectory, destination_of_walked followed split busy walked isDirectory,
        Except.ok_bind]
      simp [proper, Nat.not_lt.mpr short, absent]
    · refine .inr (.inr ⟨?_, by simp [names], ?_⟩)
      · rw [makeDirectory, destination_of_refused followed split busy earlier, Except.error_bind]
      · rw [names, List.dropLast_concat, hasDirectory_names]
        rintro ⟨location, walked, _⟩
        rw [earlier] at walked
        cases walked

theorem OpenTo.kept {written made : List Path} (opened : before.OpenTo names)
    (changes : ChangesOnly written made before after)
    (apart : ∀ other ∈ written, ∀ front, front <+: names → other.place ≠ Location.follow [] front) :
    after.OpenTo names := by
  intro front begins bytes isFile
  rcases changes.accounted (Location.follow [] front) with same | ⟨other, member, located, _⟩ |
    ⟨_, isDirectory, _⟩
  · exact opened front begins bytes (same ▸ isFile)
  · exact apart other member front begins (locate_eq_place located).symm
  · rw [isFile] at isDirectory
    cases isDirectory

/-- A file can be written where the path leads once the directories on its way are there: it ends in
a name, no file stands on its way and no directory in its place. -/
structure Admits (tree : FileTree) (path : Path) : Prop where
  followed : (components path).isOk = true
  ends : ∃ front name, path.components = front ++ [name] ∧ isDots name = false
  fits : Fits path.names
  opened : tree.OpenTo path.names.dropLast
  free : tree.node? path.place ≠ some .directory

theorem fits_of_walk (walked : tree.walk location names = .ok reached) : Fits names := by
  induction names generalizing location with
  | nil => exact fun _ => nofun
  | cons name names ih =>
      obtain ⟨entered, rest⟩ := walk_cons_eq_ok_iff.mp walked
      refine List.forall_mem_cons.mpr ⟨?_, ih rest⟩
      by_cases dots : isDots name = true
      · rcases isDots_iff.mp dots with idle | rfl
        · have blank : name = [] ∨ name = "." := by simpa [Path.isIdle] using idle
          rcases blank with rfl | rfl
          · decide
          · decide
        · decide
      · exact ((enter_eq_ok entered).2.2 (by simpa using dots)).1

theorem Stands.directory_tail (stands : tree.Stands location) :
    tree.node? location.tail = some .directory := by
  cases location with
  | nil => rfl
  | cons name names => exact stands.2.1

/-- What leads to a file ends in a name. -/
theorem ends_of_file {bytes : List UInt8} (walked : tree.walk [] path.components = .ok location)
    (isFile : tree.node? location = some (.file bytes)) :
    ∃ front name, path.components = front ++ [name] ∧ isDots name = false := by
  rcases List.eq_nil_or_concat path.components with none | ⟨front, name, split⟩
  · exact absurd none (Text.splitWhere_ne_nil _ path.text)
  rw [List.concat_eq_append] at split
  refine ⟨front, name, split, ?_⟩
  rw [split, walk_append_eq_ok_iff] at walked
  obtain ⟨isDirectory, _⟩ := enter_eq_ok (walk_cons_eq_ok_iff.mp walked.2).1
  have reached : location = Location.step (Location.follow [] front) name :=
    walk_eq_follow walked.2
  by_contra dots
  rw [Bool.not_eq_false, isDots_iff] at dots
  rcases dots with idle | rfl
  · rw [reached, Location.step_idle idle, isDirectory] at isFile
    cases isFile
  · have stands : tree.Stands (Location.follow [] front) :=
      Stands.walk (show tree.Stands [] from trivial) walked.1
    rw [reached, Location.step_up, stands.directory_tail] at isFile
    cases isFile

theorem Admits.of_read {written made : List Path} {bytes : List UInt8}
    (changes : ChangesOnly written made before after) (read : after.read path = .ok bytes) :
    before.Admits path := by
  obtain ⟨location, located, isFile⟩ := read_eq_ok_iff.mp read
  obtain ⟨names, followed, walked⟩ := locate_eq_ok_iff.mp located
  obtain rfl := components_eq_ok followed
  refine ⟨by rw [followed]; rfl, ends_of_file walked isFile, fits_of_walk (walk_names walked), ?_, ?_⟩
  · intro front begins bytes wasFile
    obtain ⟨others, still⟩ := changes.file_stays wasFile
    rw [directory_on_way located (Path.mem_way_iff.mpr ⟨front, begins, rfl⟩)] at still
    cases still
  · intro wasDirectory
    have still := changes.grows.directory _ wasDirectory
    rw [← locate_eq_place located, isFile] at still
    cases still

theorem Admits.kept {written made : List Path} (admits : before.Admits path)
    (changes : ChangesOnly written made before after)
    (files : ∀ other ∈ written, other.place ∉ path.way)
    (directories : ∀ other ∈ made, other.place ≠ path.place) : after.Admits path where
  followed := admits.followed
  ends := admits.ends
  fits := admits.fits
  opened := admits.opened.kept changes fun other member front begins same =>
    files other member (Path.mem_way_iff.mpr ⟨front, begins, same.symm⟩)
  free := by
    intro isDirectory
    rcases changes.accounted path.place with same | ⟨_, _, _, _, isFile⟩ |
      ⟨_, _, other, member, located⟩
    · exact admits.free (same ▸ isDirectory)
    · rw [isDirectory] at isFile
      cases isFile
    · exact directories other member (locate_eq_place located).symm

theorem write_of_admitted (admits : tree.Admits path)
    (made : tree.HasDirectory path.names.dropLast) (bytes : List UInt8) :
    ∃ files, tree.write path bytes = .ok files := by
  obtain ⟨front, name, split, proper⟩ := admits.ends
  obtain ⟨busy, inner⟩ := isDots_eq_false_iff.mp proper
  have names := Path.names_of_last split busy
  rw [names, List.dropLast_concat, hasDirectory_names] at made
  obtain ⟨location, walked, isDirectory⟩ := made
  have place : path.place = name :: location := by
    rw [Path.place, names, Location.follow_append, Path.follow_names, ← walk_eq_follow walked,
      Location.follow_cons, Location.step_inner proper]
    rfl
  have whole : path.text.getLast? ≠ some '/' := by
    intro slash
    obtain ⟨text, spelled⟩ := List.getLast?_eq_some_iff.mp slash
    have pieces : path.components = Text.splitWhere (· = '/') text ++ [[]] := by
      rw [Path.components, spelled, Text.splitWhere_append_mark rfl]
      rfl
    obtain ⟨_, last⟩ := List.append_inj' (split.symm.trans pieces) rfl
    rw [List.singleton_inj.mp last] at busy
    cases busy
  have short := admits.fits name (by simp [names])
  have free := admits.free
  rw [place] at free
  refine ⟨tree.put (name :: location) (.file bytes), ?_⟩
  rw [write, destination_of_walked admits.followed split busy walked isDirectory, Except.ok_bind]
  simp [proper, whole, Nat.not_lt.mpr short, free]

end FileTree

end WrapperGen
