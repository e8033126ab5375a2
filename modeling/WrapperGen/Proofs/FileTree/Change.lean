import WrapperGen.Proofs.FileTree.Walk

/-!
Changing trees of files. A file that is written and a directory that is made are found where their
paths lead, and everything else is as it was.
-/

namespace WrapperGen.FileTree

variable {tree before after : FileTree} {path : Path} {location : Location}

theorem grows_put {node : Node} (inner : location ≠ [])
    (allowed : node = .directory ∨ tree.node? location ≠ some .directory) :
    tree.Grows (tree.put location node) where
  directory other isDirectory := by
    rw [node?_put tree location other node inner]
    split
    · next same =>
        rcases allowed with rfl | elsewhere
        · rfl
        · exact absurd (same ▸ isDirectory) elsewhere
    · exact isDirectory
  present other taken := by
    rw [node?_put tree location other node inner]
    split
    · simp
    · exact taken

theorem locate_put {name : Text} {node : Node}
    (found : tree.destination path = .ok (location, name)) (proper : isDots name = false)
    (short : name.byteLength ≤ nameLimit)
    (allowed : node = .directory ∨ tree.node? (name :: location) ≠ some .directory)
    (ending : node = .directory ∨ path.text.getLast? ≠ some '/') :
    (tree.put (name :: location) node).locate path = .ok (name :: location) := by
  have inner : name :: location ≠ [] := List.cons_ne_nil name location
  have taken : (tree.put (name :: location) node).node? (name :: location) = some node := by
    rw [node?_put tree _ _ node inner, if_pos rfl]
  exact locate_of_destination ((grows_put inner allowed).destination found) proper short taken ending

/-- What is changed when a node is put where a path leads. -/
structure Puts (path : Path) (location : Location) (node : Node) (before after : FileTree) :
    Prop where
  inner : location ≠ []
  allowed : node = .directory ∨ before.node? location ≠ some .directory
  tree : after = before.put location node
  locate : after.locate path = .ok location

theorem write_puts {bytes : List UInt8} (written : before.write path bytes = .ok after) :
    ∃ location, Puts path location (.file bytes) before after := by
  rw [write, Except.bind_eq_ok_iff] at written
  obtain ⟨⟨location, name⟩, found, written⟩ := written
  simp only at written
  split_ifs at written with refused long isDirectory
  obtain ⟨proper, whole⟩ : isDots name = false ∧ path.text.getLast? ≠ some '/' := by
    simpa using refused
  have same : after = before.put (name :: location) (.file bytes) := (Except.ok.inj written).symm
  refine ⟨name :: location, List.cons_ne_nil name location, .inr isDirectory, same, ?_⟩
  rw [same]
  exact locate_put found proper (Nat.le_of_not_lt long) (.inr isDirectory) (.inr whole)

theorem makeDirectory_puts (made : before.makeDirectory path = .ok after) :
    ∃ location, before.node? location = none ∧ Puts path location .directory before after := by
  rw [makeDirectory, Except.bind_eq_ok_iff] at made
  obtain ⟨⟨location, name⟩, found, made⟩ := made
  simp only at made
  split_ifs at made with dots long taken
  have proper : isDots name = false := by simpa using dots
  have same : after = before.put (name :: location) .directory := (Except.ok.inj made).symm
  refine ⟨name :: location, by simpa using taken, List.cons_ne_nil name location, .inl rfl, same, ?_⟩
  rw [same]
  exact locate_put found proper (Nat.le_of_not_lt long) (.inl rfl) (.inl rfl)

theorem Puts.grows {node : Node} (puts : Puts path location node before after) :
    before.Grows after :=
  puts.tree ▸ grows_put puts.inner puts.allowed

theorem Puts.node? {node : Node} (puts : Puts path location node before after)
    (other : Location) :
    after.node? other = if other = location then some node else before.node? other := by
  rw [puts.tree]
  exact node?_put before location other node puts.inner

/-- One tree differs from another in nothing but files to which the paths `written` lead and new
directories to which the paths `made` lead. -/
structure ChangesOnly (written made : List Path) (before after : FileTree) : Prop where
  grows : before.Grows after
  accounted : ∀ location, after.node? location = before.node? location ∨
    (∃ path ∈ written, after.locate path = .ok location ∧
      ∃ bytes, after.node? location = some (.file bytes)) ∨
    (before.node? location = none ∧ after.node? location = some .directory ∧
      ∃ path ∈ made, after.locate path = .ok location)

namespace ChangesOnly

variable {written made : List Path}

theorem refl (written made : List Path) (tree : FileTree) : ChangesOnly written made tree tree :=
  ⟨.refl tree, fun _ => .inl rfl⟩

theorem mono {others above : List Path} (changes : ChangesOnly written made before after)
    (files : written ⊆ others) (directories : made ⊆ above) :
    ChangesOnly others above before after where
  grows := changes.grows
  accounted location := by
    rcases changes.accounted location with same | ⟨path, member, file⟩ |
      ⟨new, isDirectory, path, member, located⟩
    · exact .inl same
    · exact .inr (.inl ⟨path, files member, file⟩)
    · exact .inr (.inr ⟨new, isDirectory, path, directories member, located⟩)

theorem trans {between : FileTree} (first : ChangesOnly written made before between)
    (second : ChangesOnly written made between after) : ChangesOnly written made before after where
  grows := first.grows.trans second.grows
  accounted location := by
    rcases second.accounted location with same | file | ⟨new, isDirectory, path, member, located⟩
    · -- the second change leaves the location as the first one made it
      rw [same]
      rcases first.accounted location with unchanged | ⟨path, member, located, isFile⟩ |
        ⟨new, isDirectory, path, member, located⟩
      · exact .inl unchanged
      · exact .inr (.inl ⟨path, member, second.grows.locate located, isFile⟩)
      · exact .inr (.inr ⟨new, isDirectory, path, member, second.grows.locate located⟩)
    · exact .inr (.inl file)
    · have absent : before.node? location = none := by
        by_contra taken
        exact first.grows.present location taken new
      exact .inr (.inr ⟨absent, isDirectory, path, member, located⟩)

theorem append {others above : List Path} {between : FileTree}
    (first : ChangesOnly written made before between)
    (second : ChangesOnly others above between after) :
    ChangesOnly (written ++ others) (made ++ above) before after :=
  (first.mono (List.subset_append_left _ _) (List.subset_append_left _ _)).trans
    (second.mono (List.subset_append_right _ _) (List.subset_append_right _ _))

theorem read_eq (changes : ChangesOnly written made before after) {bytes : List UInt8}
    (read : before.read path = .ok bytes)
    (apart : ∀ other ∈ written, after.locate other ≠ after.locate path) :
    after.read path = .ok bytes := by
  obtain ⟨location, located, isFile⟩ := read_eq_ok_iff.mp read
  have still := changes.grows.locate located
  refine read_eq_ok_iff.mpr ⟨location, still, ?_⟩
  rcases changes.accounted location with same | ⟨other, member, there, _⟩ | ⟨new, _⟩
  · rw [same, isFile]
  · exact absurd (there.trans still.symm) (apart other member)
  · rw [isFile] at new
    cases new

end ChangesOnly

theorem write_changesOnly {bytes : List UInt8} (written : before.write path bytes = .ok after) :
    ChangesOnly [path] [] before after := by
  obtain ⟨location, puts⟩ := write_puts written
  refine ⟨puts.grows, fun other => ?_⟩
  rw [puts.node? other]
  by_cases here : other = location
  · exact .inr (.inl ⟨path, List.mem_singleton_self path, here ▸ puts.locate, bytes, if_pos here⟩)
  · exact .inl (if_neg here)

theorem read_of_write {bytes : List UInt8} (written : before.write path bytes = .ok after) :
    after.read path = .ok bytes := by
  obtain ⟨location, puts⟩ := write_puts written
  refine read_eq_ok_iff.mpr ⟨location, puts.locate, ?_⟩
  rw [puts.node? location, if_pos rfl]

theorem makeDirectory_changesOnly (made : before.makeDirectory path = .ok after) :
    ChangesOnly [] [path] before after := by
  obtain ⟨location, absent, puts⟩ := makeDirectory_puts made
  refine ⟨puts.grows, fun other => ?_⟩
  rw [puts.node? other]
  by_cases here : other = location
  · exact .inr (.inr ⟨here ▸ absent, if_pos here, path, List.mem_singleton_self path,
      here ▸ puts.locate⟩)
  · exact .inl (if_neg here)

end WrapperGen.FileTree
