import WrapperGen.Proofs.Interface.WellFormed
import WrapperGen.Proofs.Stub.Enumerations
import WrapperGen.Proofs.Text.UpperCase

/-!
Stubs on one line. The names in a message are words of its line, and a stub consists of such names,
of C++ types and of fixed pieces, so no line ends inside it.
-/

namespace WrapperGen

namespace Text

/-- No line ends in the text. -/
def IsUnbroken (text : Text) : Prop := '\n' ∉ text ∧ '\r' ∉ text

instance : DecidablePred IsUnbroken := fun _ => inferInstanceAs (Decidable (_ ∧ _))

theorem IsSolid.isUnbroken {text : Text} (solid : text.IsSolid) : text.IsUnbroken :=
  ⟨solid.not_mem (by decide), solid.not_mem (by decide)⟩

@[simp] theorem isUnbroken_nil : IsUnbroken [] := by decide

@[simp] theorem isUnbroken_append {front back : Text} :
    IsUnbroken (front ++ back) ↔ IsUnbroken front ∧ IsUnbroken back := by
  simp only [IsUnbroken, List.mem_append, not_or]
  exact and_and_and_comm

theorem isUnbroken_join {separator : Text} (unbroken : separator.IsUnbroken) {pieces : List Text}
    (parts : ∀ piece ∈ pieces, IsUnbroken piece) : (join separator pieces).IsUnbroken := by
  fun_induction join separator pieces with
  | case1 => exact isUnbroken_nil
  | case2 piece => exact parts piece List.mem_cons_self
  | case3 piece pieces _ ih =>
      simp only [List.forall_mem_cons] at parts
      rw [isUnbroken_append, isUnbroken_append]
      exact ⟨⟨parts.1, unbroken⟩, ih parts.2⟩

end Text

open Text

/-- The names in a message, unlike its types, come into its stub as they are. -/
structure Declaration.HasSolidNames (declaration : Declaration) : Prop where
  name : declaration.name.IsSolid
  wparam : declaration.wparam.name.IsSolid
  lparam : declaration.lparam.name.IsSolid

namespace Scanner

theorem read_hasSolidNames {text : Text} {declaration : Declaration}
    (member : declaration ∈ (Interface.read text).declarations) : declaration.HasSolidNames := by
  have formed := read_declarations_wellFormed declaration member
  exact ⟨formed.name.1.2, formed.wparam.name.1, formed.lparam.name.1⟩

end Scanner

theorem TypeTable.resolve_isUnbroken (name : Text) : (builtin.resolve name).IsUnbroken := by
  have spellings : ∀ entry ∈ builtin.entries, entry.2.IsUnbroken := by decide
  by_cases named : name = []
  · subst named
    exact isUnbroken_nil
  · obtain ⟨entry, listed, spelled⟩ := resolve_builtin_spelled named
    rw [spelled]
    exact spellings entry listed

namespace Stub

/-- The pieces of a stub from which its text is put together. -/
structure HasUnbrokenParts (stub : Stub) : Prop where
  returnType : stub.returnType.IsUnbroken
  name : stub.name.IsSolid
  params : ∀ param ∈ stub.params, param.1.IsUnbroken ∧ param.2.IsUnbroken
  arguments : ∀ argument ∈ stub.arguments, argument.IsUnbroken

theorem cast_isUnbroken {type expression : Text} (typed : type.IsUnbroken)
    (inner : expression.IsUnbroken) : (cast type expression).IsUnbroken := by
  unfold Stub.cast
  simp only [isUnbroken_append]
  exact ⟨⟨⟨⟨by decide, typed⟩, by decide⟩, inner⟩, by decide⟩

theorem firstArgument_isUnbroken (type : Text) {name : Text} (named : name.IsUnbroken) :
    (firstArgument type name).IsUnbroken := by
  rw [firstArgument]
  split
  · decide
  · split
    · exact cast_isUnbroken (by decide) named
    · exact named

theorem secondValue_isUnbroken (type : Text) {name : Text} (named : name.IsUnbroken) :
    (secondValue type name).IsUnbroken := by
  rw [secondValue]
  split
  · decide
  · split
    · exact cast_isUnbroken (by decide) named
    · exact named

theorem ofAdmissible_hasUnbrokenParts {declaration : Declaration}
    (solid : declaration.HasSolidNames) : (ofAdmissible .builtin declaration).HasUnbrokenParts := by
  have first := solid.wparam.isUnbroken
  have second := solid.lparam.isUnbroken
  refine ⟨TypeTable.resolve_isUnbroken _, solid.name, ?_, ?_⟩
  · intro param member
    rcases List.mem_append.mp member with inFirst | inSecond
    · split at inFirst
      · contradiction
      · rw [List.mem_singleton.mp inFirst]
        exact ⟨TypeTable.resolve_isUnbroken _, first⟩
    · split at inSecond
      · contradiction
      · rw [List.mem_singleton.mp inSecond]
        exact ⟨TypeTable.resolve_isUnbroken _, second⟩
  · have firstPassed := firstArgument_isUnbroken
      (TypeTable.builtin.resolve declaration.wparam.type) first
    have secondPassed := secondValue_isUnbroken
      (TypeTable.builtin.resolve declaration.lparam.type) second
    rw [ofAdmissible]
    dsimp only
    split
    · simp [firstPassed, secondPassed]
    · split
      · simp [firstPassed]
      · simp

theorem call_isUnbroken {stub : Stub} (parts : stub.HasUnbrokenParts) :
    stub.call.IsUnbroken := by
  have constant : (messageConstant stub.name).IsUnbroken := by
    unfold messageConstant
    rw [isUnbroken_append]
    exact ⟨by decide, IsSolid.isUnbroken (upperCase_solid parts.name)⟩
  have passed : ∀ piece ∈ messageConstant stub.name :: stub.arguments, IsUnbroken piece :=
    List.forall_mem_cons.mpr ⟨constant, parts.arguments⟩
  have sent : IsUnbroken
      ("Call(" ++ join ", " (messageConstant stub.name :: stub.arguments) ++ ")") := by
    rw [isUnbroken_append, isUnbroken_append]
    exact ⟨⟨by decide, isUnbroken_join (by decide) passed⟩, by decide⟩
  unfold call
  split
  · exact cast_isUnbroken (by decide) sent
  · exact sent

theorem signature_isUnbroken {stub : Stub} (parts : stub.HasUnbrokenParts) :
    stub.signature.IsUnbroken := by
  apply isUnbroken_join (by decide)
  intro piece member
  obtain ⟨param, listed, rfl⟩ := List.mem_map.mp member
  obtain ⟨typed, named⟩ := parts.params param listed
  simp only [isUnbroken_append]
  exact ⟨⟨typed, by decide⟩, named⟩

theorem render_isUnbroken {stub : Stub} (parts : stub.HasUnbrokenParts) :
    stub.render.IsUnbroken := by
  have called := call_isUnbroken parts
  have returned : IsUnbroken ("return " ++ stub.call) := by
    rw [isUnbroken_append]
    exact ⟨by decide, called⟩
  have signature := signature_isUnbroken parts
  have named := parts.name.isUnbroken
  unfold render
  simp only [isUnbroken_append]
  refine ⟨⟨⟨⟨⟨⟨⟨parts.returnType, by decide⟩, named⟩, by decide⟩, signature⟩, by decide⟩, ?_⟩,
    by decide⟩
  split
  · exact called
  · exact returned

theorem render_ne_nil (stub : Stub) : stub.render ≠ [] := by
  unfold render
  exact List.append_ne_nil_of_right_ne_nil _ (by decide)

/-- Every stub of a description that is read from a text is one line of text. -/
theorem compileAll_unbroken {text : Text} {stubs : List Text}
    (compiled : compileAll (Interface.read text) = .ok stubs) :
    ∀ stub ∈ stubs, stub ≠ [] ∧ stub.IsUnbroken := by
  intro stub member
  obtain ⟨_, sorted⟩ := compileAll_eq_ok_iff.mp compiled
  rw [← sorted, List.mem_mergeSort] at member
  obtain ⟨declaration, listed, rfl⟩ := List.mem_map.mp member
  have parts := ofAdmissible_hasUnbrokenParts (Scanner.read_hasSolidNames listed)
  exact ⟨render_ne_nil _, render_isUnbroken parts⟩

end Stub

end WrapperGen
