import WrapperGen.TypeTable

/-!
What a description's type table knows. Declaring a name adds it as an integer type and changes no
name that is known, so the order of the declarations does not matter.
-/

namespace WrapperGen.TypeTable

/-- The names that every description knows. -/
def builtinNames : List Text := builtin.entries.map (·.1)

/-- The names that a table knows. -/
def names (types : TypeTable) : List Text := types.entries.map (·.1)

theorem lookup?_eq_none_iff {types : TypeTable} {name : Text} :
    types.lookup? name = none ↔ name ∉ types.names := by
  rw [lookup?, List.lookup_eq_none_iff, names, List.mem_map]
  constructor
  · rintro fresh ⟨entry, member, rfl⟩
    simpa using fresh entry member
  · intro fresh entry member
    have different : entry.1 ≠ name := fun same => fresh ⟨entry, member, same⟩
    simpa using different.symm

theorem mem_of_lookup? {types : TypeTable} {name type : Text}
    (known : types.lookup? name = some type) : (name, type) ∈ types.entries := by
  rw [lookup?, List.lookup_eq_some_iff] at known
  obtain ⟨before, after, split, -⟩ := known
  rw [split]
  exact List.mem_append_right before List.mem_cons_self

theorem lookup?_declare (types : TypeTable) (declared name : Text) :
    (types.declare declared).lookup? name =
      (types.lookup? name).or (if name = declared then some integer else none) := by
  rw [declare]
  split
  · rename_i known found
    by_cases same : name = declared
    · subst same
      rw [found, Option.some_or]
    · rw [if_neg same, Option.or_none]
  · rename_i missing
    simp only [lookup?, List.lookup_append, List.lookup_singleton, beq_iff_eq]

theorem lookup?_foldl_declare (types : TypeTable) (names : List Text) (name : Text) :
    (names.foldl declare types).lookup? name =
      (types.lookup? name).or (if name ∈ names then some integer else none) := by
  induction names generalizing types with
  | nil => simp
  | cons first rest ih =>
      rw [List.foldl_cons, ih, lookup?_declare, Option.or_assoc]
      congr 1
      by_cases same : name = first
      · simp [same]
      · simp [same]

theorem lookup?_ofInterface (interface : Interface) (name : Text) :
    (ofInterface interface).lookup? name =
      (builtin.lookup? name).or
        (if name ∈ interface.enumerationNames then some integer else none) :=
  lookup?_foldl_declare builtin interface.enumerationNames name

theorem lookup?_builtin_eq_none_iff {name : Text} :
    builtin.lookup? name = none ↔ name ∉ builtinNames :=
  lookup?_eq_none_iff

theorem lookup?_ofInterface_eq_none_iff {interface : Interface} {name : Text} :
    (ofInterface interface).lookup? name = none ↔
      name ∉ builtinNames ∧ name ∉ interface.enumerationNames := by
  rw [lookup?_ofInterface, Option.or_eq_none_iff, lookup?_builtin_eq_none_iff]
  simp

/-- The second parameter of a message can have a type if it is passed as a number or by value. -/
def IsPassable (type : Text) : Prop := isPointerType type = true ∨ isValueType type = true

instance (type : Text) : Decidable (IsPassable type) :=
  inferInstanceAs (Decidable (_ ∨ _))

theorem builtin_passable :
    ∀ entry ∈ builtin.entries, IsPassable entry.2 ↔ entry.1 ≠ "void" := by
  decide

theorem not_isPassable_void : ¬ IsPassable void := by
  decide

/-- Every known type but the one without values can be passed. -/
theorem isPassable_iff_of_known {interface : Interface} {name type : Text}
    (known : (ofInterface interface).lookup? name = some type) :
    IsPassable type ↔ name ≠ "void" := by
  rw [lookup?_ofInterface] at known
  cases found : builtin.lookup? name with
  | some spelling =>
      rw [found, Option.some_or, Option.some_inj] at known
      subst known
      exact builtin_passable (name, spelling) (mem_of_lookup? found)
  | none =>
      rw [found, Option.none_or] at known
      split at known
      · rw [Option.some_inj] at known
        subst known
        have absent : name ∉ builtinNames := lookup?_builtin_eq_none_iff.mp found
        have integral : IsPassable integer := by decide
        have notVoid : name ≠ "void" := by
          rintro rfl
          exact absent (by decide)
        exact iff_of_true integral notVoid
      · contradiction

theorem lookup?_ofInterface_void (interface : Interface) :
    (ofInterface interface).lookup? "void" = some void := by
  have found : builtin.lookup? "void" = some void := by decide
  rw [lookup?_ofInterface, found, Option.some_or]

theorem resolve_of_known {types : TypeTable} {name type : Text} (named : name ≠ [])
    (known : types.lookup? name = some type) : types.resolve name = type := by
  have nonempty : name.isEmpty = false := by simpa using named
  rw [resolve, nonempty, known]
  rfl

theorem resolve_of_unknown {types : TypeTable} {name : Text} (named : name ≠ [])
    (unknown : types.lookup? name = none) : types.resolve name = integer := by
  have nonempty : name.isEmpty = false := by simpa using named
  rw [resolve, nonempty, unknown]
  rfl

/-- Unknown names are read as integers, so declaring one as an integer changes no reading. -/
theorem resolve_ofInterface (interface : Interface) (name : Text) :
    (ofInterface interface).resolve name = builtin.resolve name := by
  rw [resolve, resolve, lookup?_ofInterface]
  cases builtin.lookup? name with
  | some type => rfl
  | none =>
      by_cases declared : name ∈ interface.enumerationNames
      · simp only [declared, ↓reduceIte, Option.none_or, Option.getD_some, Option.getD_none]
      · simp only [declared, ↓reduceIte, Option.none_or]

/-- Whatever is named is read as one of the built-in types. -/
theorem resolve_builtin_spelled {name : Text} (named : name ≠ []) :
    ∃ entry ∈ builtin.entries, builtin.resolve name = entry.2 := by
  cases known : builtin.lookup? name with
  | some type => exact ⟨(name, type), mem_of_lookup? known, resolve_of_known named known⟩
  | none => exact ⟨("int", integer), by decide, resolve_of_unknown named known⟩

theorem resolve_eq_nil_iff {interface : Interface} {name : Text} :
    (ofInterface interface).resolve name = [] ↔ name = [] := by
  have spellings : ∀ entry ∈ builtin.entries, entry.2 ≠ [] := by decide
  by_cases named : name = []
  · subst named
    exact iff_of_true rfl rfl
  · obtain ⟨entry, listed, spelled⟩ := resolve_builtin_spelled named
    rw [resolve_ofInterface, spelled]
    exact iff_of_false (spellings entry listed) named

end WrapperGen.TypeTable
