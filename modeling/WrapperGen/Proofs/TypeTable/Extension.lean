import Mathlib.Data.Finset.Card
import Mathlib.Data.Finset.Lattice.Lemmas
import WrapperGen.Proofs.TypeTable

/-!
How much a description's type table knows. The table has each of its names once, so as often as a
name is declared, and whether or not it is built in, it counts once.
-/

namespace WrapperGen.TypeTable

theorem names_declare_of_known {types : TypeTable} {name : Text} (known : name ∈ types.names) :
    (types.declare name).names = types.names := by
  rw [declare]
  split
  · rfl
  · rename_i missing
    exact absurd known (lookup?_eq_none_iff.mp missing)

theorem names_declare_of_new {types : TypeTable} {name : Text} (new : name ∉ types.names) :
    (types.declare name).names = types.names ++ [name] := by
  rw [declare, lookup?_eq_none_iff.mpr new]
  exact List.map_append

/-- The table knows these names and no others, and has an entry for each. -/
structure Knows (types : TypeTable) (known : Finset Text) : Prop where
  distinct : types.names.Nodup
  names_eq : types.names.toFinset = known

theorem knows_builtin : builtin.Knows builtinNames.toFinset :=
  ⟨by decide, rfl⟩

theorem Knows.declare {types : TypeTable} {known : Finset Text} (knows : types.Knows known)
    (name : Text) : (types.declare name).Knows (insert name known) := by
  by_cases present : name ∈ types.names
  · have inKnown : name ∈ known := knows.names_eq ▸ List.mem_toFinset.mpr present
    have same := names_declare_of_known present
    refine ⟨same ▸ knows.distinct, ?_⟩
    rw [same, knows.names_eq, Finset.insert_eq_of_mem inKnown]
  · have longer := names_declare_of_new present
    refine ⟨?_, ?_⟩
    · rw [longer, List.nodup_append_comm]
      exact List.nodup_cons.mpr ⟨present, knows.distinct⟩
    · rw [longer, List.toFinset_append, knows.names_eq, Finset.union_comm]
      rfl

theorem Knows.foldl_declare {types : TypeTable} {known : Finset Text} (knows : types.Knows known)
    (names : List Text) : (names.foldl TypeTable.declare types).Knows (known ∪ names.toFinset) := by
  induction names generalizing types known with
  | nil =>
      rw [List.toFinset_nil, Finset.union_empty]
      exact knows
  | cons first rest ih =>
      rw [List.toFinset_cons, Finset.union_insert, ← Finset.insert_union]
      exact ih (knows.declare first)

theorem Knows.size_eq {types : TypeTable} {known : Finset Text} (knows : types.Knows known) :
    types.size = known.card := by
  rw [← knows.names_eq, List.toFinset_card_of_nodup knows.distinct, names, List.length_map, size]

theorem knows_ofInterface (interface : Interface) :
    (ofInterface interface).Knows
      (builtinNames.toFinset ∪ interface.enumerationNames.toFinset) :=
  knows_builtin.foldl_declare interface.enumerationNames

theorem size_ofInterface (interface : Interface) :
    (ofInterface interface).size =
      15 + (interface.enumerationNames.toFinset \ builtinNames.toFinset).card := by
  have fifteen : builtinNames.toFinset.card = 15 := knows_builtin.size_eq.symm
  rw [(knows_ofInterface interface).size_eq, Finset.union_comm, ← Finset.card_sdiff_add_card,
    fifteen, Nat.add_comm]

theorem lookup?_ofInterface_of_builtin (interface : Interface) {name type : Text}
    (listed : (name, type) ∈ builtin.entries) :
    (ofInterface interface).lookup? name = some type := by
  have found : ∀ entry ∈ builtin.entries, builtin.lookup? entry.1 = some entry.2 := by decide
  rw [lookup?_ofInterface, found (name, type) listed, Option.some_or]

theorem lookup?_ofInterface_of_not_builtin (interface : Interface) {name : Text}
    (fresh : name ∉ builtinNames) :
    (ofInterface interface).lookup? name =
      if name ∈ interface.enumerationNames then some integer else none := by
  rw [lookup?_ofInterface, lookup?_builtin_eq_none_iff.mpr fresh, Option.none_or]

/-- A description's table is the one of the built-in types and, as integer types, the declared names
besides. It is read leniently but for the empty name, which has no type even where it is declared. -/
theorem ofInterface_extends_builtin (interface : Interface) :
    let types := ofInterface interface
    let declared := interface.enumerationNames
    types.Knows (builtinNames.toFinset ∪ declared.toFinset) ∧
    types.size = 15 + (declared.toFinset \ builtinNames.toFinset).card ∧
    (∀ name type, (name, type) ∈ builtin.entries → types.lookup? name = some type) ∧
    (∀ name ∉ builtinNames,
      types.lookup? name = if name ∈ declared then some integer else none) ∧
    (∀ name type, name ≠ [] → types.lookup? name = some type → types.resolve name = type) ∧
    (∀ name, name ≠ [] → types.lookup? name = none → types.resolve name = integer) ∧
    ∀ name, types.resolve name = [] ↔ name = [] := by
  intro types declared
  refine ⟨knows_ofInterface interface, size_ofInterface interface, ?_, ?_, ?_, ?_, ?_⟩
  · exact fun _ _ => lookup?_ofInterface_of_builtin interface
  · exact fun _ => lookup?_ofInterface_of_not_builtin interface
  · exact fun _ _ => resolve_of_known
  · exact fun _ => resolve_of_unknown
  · exact fun _ => resolve_eq_nil_iff

theorem ofInterface_extends_builtin_colliding :
    let interface : Interface := { enumerations :=
      [⟨"E", ["X"], 1⟩, ⟨"bool", [], 2⟩, ⟨[], [], 0⟩, ⟨"E", [], 9⟩, ⟨"void", [], 3⟩] }
    let types := ofInterface interface
    types.size = 17 ∧ (types.lookup? "bool" = some "bool" ∧ types.resolve "bool" = "bool") ∧
      (types.lookup? "E" = some integer ∧ types.resolve "E" = integer) ∧
      (types.lookup? "odd" = none ∧ types.resolve "odd" = integer) ∧
      types.lookup? [] = some integer ∧ types.resolve [] = [] := by
  intro interface types
  obtain ⟨-, size, ofBuiltin, ofOther, ofKnown, ofUnknown, ofNone⟩ :=
    ofInterface_extends_builtin interface
  have bool := ofBuiltin "bool" "bool" (by decide)
  have declared := (ofOther "E" (by decide)).trans (if_pos (by decide))
  have odd := (ofOther "odd" (by decide)).trans (if_neg (by decide))
  have blank := (ofOther [] (by decide)).trans (if_pos (by decide))
  refine ⟨size.trans (by decide), ⟨bool, ofKnown _ _ (by decide) bool⟩,
    ⟨declared, ofKnown _ _ (by decide) declared⟩, ⟨odd, ofUnknown _ (by decide) odd⟩, blank, ?_⟩
  exact (ofNone []).mpr rfl

end WrapperGen.TypeTable
