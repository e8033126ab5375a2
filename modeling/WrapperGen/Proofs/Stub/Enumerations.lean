import WrapperGen.Proofs.Stub.Admissibility
import WrapperGen.Proofs.Text.Utf8

/-!
What the enumerations of a description are for. They decide which messages are admissible and nothing
else: the stub of an admissible message is the one that it has without any enumeration.
-/

namespace WrapperGen

theorem Interface.Inadmissible.of_subset {interface other : Interface}
    (declared : interface.enumerationNames ⊆ other.enumerationNames) {declaration : Declaration}
    (bad : other.Inadmissible declaration) : interface.Inadmissible declaration := by
  obtain ⟨typed, named, valueless | ⟨notBuiltin, undeclared⟩⟩ := bad
  · exact ⟨typed, named, Or.inl valueless⟩
  · exact ⟨typed, named, Or.inr ⟨notBuiltin, fun known => undeclared (declared known)⟩⟩

namespace Stub

theorem ofAdmissible_ofInterface (interface : Interface) (declaration : Declaration) :
    ofAdmissible (.ofInterface interface) declaration = ofAdmissible .builtin declaration := by
  simp only [ofAdmissible, TypeTable.resolve_ofInterface]

theorem compile_eq_ok_iff {interface : Interface} {declaration : Declaration} {stub : Text} :
    compile (.ofInterface interface) declaration = .ok stub ↔
      ¬ interface.Inadmissible declaration ∧ (ofAdmissible .builtin declaration).render = stub := by
  rw [compile_ofInterface, ofAdmissible_ofInterface]
  by_cases bad : interface.Inadmissible declaration
  · simp only [bad, ↓reduceIte, not_true_eq_false, false_and, reduceCtorEq]
  · simp only [bad, ↓reduceIte, not_false_eq_true, true_and, Except.ok.injEq]

theorem compileAll_eq_ok_iff {interface : Interface} {stubs : List Text} :
    compileAll interface = .ok stubs ↔
      (∀ declaration ∈ interface.declarations, ¬ interface.Inadmissible declaration) ∧
        (interface.declarations.map fun declaration =>
          (ofAdmissible .builtin declaration).render).mergeSort Text.bytewiseLE = stubs := by
  rw [← compileAll_isOk_iff, compileAll_eq]
  simp only [ofAdmissible_ofInterface]
  cases interface.declarations.find? (interface.Inadmissible ·) with
  | some declaration => simp only [reduceCtorEq, exists_false, false_and]
  | none => simp only [Except.ok.injEq, exists_eq', true_and]

/-- The stubs of admissible messages in sorted order are what is compiled. -/
theorem compileAll_eq_ok_of_perm {interface : Interface} {stubs : List Text}
    (admissible : ∀ declaration ∈ interface.declarations, ¬ interface.Inadmissible declaration)
    (rendered : stubs.Perm (interface.declarations.map fun declaration =>
      (ofAdmissible .builtin declaration).render))
    (sorted : stubs.Pairwise fun left right => left.utf8 ≤ right.utf8) :
    compileAll interface = .ok stubs := by
  refine compileAll_eq_ok_iff.mpr ⟨admissible, ?_⟩
  rw [Text.mergeSort_bytewiseLE_eq_of_perm rendered.symm]
  exact List.mergeSort_of_pairwise (sorted.imp Text.bytewiseLE_iff.mpr)

theorem compile_of_subset {interface other : Interface}
    (declared : interface.enumerationNames ⊆ other.enumerationNames) {declaration : Declaration}
    {stub : Text} (compiled : compile (.ofInterface interface) declaration = .ok stub) :
    compile (.ofInterface other) declaration = .ok stub := by
  obtain ⟨admissible, rendered⟩ := compile_eq_ok_iff.mp compiled
  exact compile_eq_ok_iff.mpr ⟨fun bad => admissible (bad.of_subset declared), rendered⟩

theorem compileAll_of_subset {interface : Interface} {enumerations : List Enumeration}
    (declared : interface.enumerationNames ⊆ enumerations.map (·.name)) {stubs : List Text}
    (compiled : compileAll interface = .ok stubs) :
    compileAll { interface with enumerations } = .ok stubs := by
  obtain ⟨admissible, sorted⟩ := compileAll_eq_ok_iff.mp compiled
  refine compileAll_eq_ok_iff.mpr ⟨?_, sorted⟩
  intro declaration member bad
  exact admissible declaration member (bad.of_subset declared)

end Stub

/-- Enumerations that are declared besides, wherever and under whatever names, leave the stubs of a
description as they are, and so do any enumerations at all the stub of a message that has one
without them. -/
theorem stubs_kept_by_more_enumerations (interface : Interface) :
    (∀ enumerations stubs, interface.enumerations.Sublist enumerations →
      Stub.compileAll interface = .ok stubs →
      Stub.compileAll { interface with enumerations } = .ok stubs) ∧
    ∀ declaration stub, Stub.compile .builtin declaration = .ok stub →
      Stub.compile (.ofInterface interface) declaration = .ok stub := by
  constructor
  · intro enumerations stubs more compiled
    exact Stub.compileAll_of_subset (List.map_subset Enumeration.name more.subset) compiled
  · intro declaration stub compiled
    have without : TypeTable.builtin = .ofInterface {} := rfl
    rw [without] at compiled
    exact Stub.compile_of_subset (List.nil_subset _) compiled

theorem stubs_kept_by_more_enumerations_builtin_names :
    let interface := Interface.read "enu E=X\nget E f=1(odd a, E e)\n"
    let enumerations : List Enumeration :=
      [⟨"void", [], 0⟩, ⟨"E", ["X"], 1⟩, ⟨[], [], 7⟩, ⟨"odd", [], 2⟩, ⟨"E", [], 9⟩]
    let stub : Text := "int f(int a, int e) \x7b return Call(SCI_F, a, e); \x7d"
    let declaration : Declaration :=
      ⟨.function, "void", "g", none, ⟨"E", "a", ⟨0, 0⟩⟩, ⟨"void", [], ⟨0, 0⟩⟩, 1, ⟨0, 0⟩⟩
    let other : Text := "void g(int a, void ) \x7b Call(SCI_G, a, 0); \x7d"
    (interface.enumerations.Sublist enumerations ∧ Stub.compileAll interface = .ok [stub] ∧
      Stub.compileAll { interface with enumerations } = .ok [stub]) ∧
    (Stub.compile .builtin declaration = .ok other ∧
      Stub.compile (.ofInterface interface) declaration = .ok other) := by
  intro interface enumerations stub declaration other
  have more : interface.enumerations.Sublist enumerations := by decide
  have compiled : Stub.compileAll interface = .ok [stub] :=
    Stub.compileAll_eq_ok_of_perm (by decide) (by decide) (by decide)
  have alone : Stub.compile .builtin declaration = .ok other :=
    (@Stub.compile_eq_ok_iff {} declaration other).mpr ⟨by decide, by decide⟩
  have kept := stubs_kept_by_more_enumerations interface
  exact ⟨⟨more, compiled, kept.1 _ _ more compiled⟩, alone, kept.2 _ _ alone⟩

end WrapperGen
