import WrapperGen.Proofs.Header.Outcome
import WrapperGen.Proofs.Stub.Enumerations

/-!
What of a description shows in its header. The stub of a message is made of its signature, and
whether there is one depends on the signature and on the enumerations whose names are not built in,
so two descriptions that agree in these cannot be told apart by their headers.
-/

namespace WrapperGen

/-- A message without its keyword, its number and its place. Parameters are types with names. -/
structure Signature where
  returnType : Text
  name : Text
  wparam : Text × Text
  lparam : Text × Text
deriving DecidableEq, Repr

def Declaration.signature (declaration : Declaration) : Signature where
  returnType := declaration.returnType
  name := declaration.name
  wparam := (declaration.wparam.type, declaration.wparam.name)
  lparam := (declaration.lparam.type, declaration.lparam.name)

/-- A message with the signature, at no place in particular. -/
def Signature.declaration (signature : Signature) : Declaration where
  feature := .function
  returnType := signature.returnType
  name := signature.name
  id := none
  wparam := ⟨signature.wparam.1, signature.wparam.2, .emptyAt 0⟩
  lparam := ⟨signature.lparam.1, signature.lparam.2, .emptyAt 0⟩
  line := 0
  span := .emptyAt 0

/-- Two descriptions declare messages with the same signatures, each as often, and name the same
enumerations apart from those with built-in names. -/
structure Interface.SameSignatures (first second : Interface) : Prop where
  messages : (first.declarations.map (·.signature)).Perm (second.declarations.map (·.signature))
  enumerations : ∀ name, name ∉ TypeTable.builtinNames →
    (name ∈ first.enumerationNames ↔ name ∈ second.enumerationNames)

namespace Interface.SameSignatures

variable {first second : Interface}

theorem symm (same : first.SameSignatures second) : second.SameSignatures first :=
  ⟨same.messages.symm, fun name fresh => (same.enumerations name fresh).symm⟩

theorem inadmissible (same : first.SameSignatures second) {declaration : Declaration}
    (bad : second.Inadmissible declaration) : first.Inadmissible declaration := by
  obtain ⟨typed, named, valueless | ⟨notBuiltin, undeclared⟩⟩ := bad
  · exact ⟨typed, named, Or.inl valueless⟩
  · refine ⟨typed, named, Or.inr ⟨notBuiltin, ?_⟩⟩
    intro declared
    exact undeclared ((same.enumerations _ notBuiltin).mp declared)

end Interface.SameSignatures

namespace Stub

theorem ofAdmissible_signature (types : TypeTable) (declaration : Declaration) :
    ofAdmissible types declaration.signature.declaration = ofAdmissible types declaration := rfl

theorem inadmissible_signature {interface : Interface} {declaration : Declaration} :
    interface.Inadmissible declaration.signature.declaration ↔
      interface.Inadmissible declaration := Iff.rfl

theorem compileAll_of_sameSignatures {first second : Interface}
    (same : first.SameSignatures second) {stubs : List Text}
    (compiled : compileAll first = .ok stubs) : compileAll second = .ok stubs := by
  obtain ⟨admissible, sorted⟩ := compileAll_eq_ok_iff.mp compiled
  refine compileAll_eq_ok_iff.mpr ⟨?_, ?_⟩
  · intro declaration member bad
    -- some message of the first description has the same signature, so it is as bad
    have listed : declaration.signature ∈ first.declarations.map (·.signature) :=
      same.messages.mem_iff.mpr (List.mem_map_of_mem member)
    obtain ⟨other, otherMember, alike⟩ := List.mem_map.mp listed
    have otherBad : first.Inadmissible other.signature.declaration :=
      alike ▸ inadmissible_signature.mpr (same.inadmissible bad)
    exact admissible other otherMember (inadmissible_signature.mp otherBad)
  · rw [← sorted]
    apply Text.mergeSort_bytewiseLE_eq_of_perm
    have rendered := (same.messages.map fun signature =>
      (ofAdmissible .builtin signature.declaration).render).symm
    simpa only [List.map_map, Function.comp_def, ofAdmissible_signature] using rendered

theorem compileAll_sameSignatures {first second : Interface} (same : first.SameSignatures second) :
    (∃ stubs, compileAll first = .ok stubs ∧ compileAll second = .ok stubs) ∨
      ∃ reason other, compileAll first = .error reason ∧ compileAll second = .error other := by
  cases compiled : compileAll first with
  | ok stubs => exact Or.inl ⟨stubs, rfl, compileAll_of_sameSignatures same compiled⟩
  | error reason =>
      cases compiledToo : compileAll second with
      | ok stubs =>
          rw [compileAll_of_sameSignatures same.symm compiledToo] at compiled
          contradiction
      | error other => exact Or.inr ⟨reason, other, rfl, rfl⟩

end Stub

/-- Descriptions with the same signatures have the same header byte for byte, or neither has one,
whatever else they say. -/
theorem header_shows_signatures_alone (options : Header.Options) {first second : Interface}
    (same : first.SameSignatures second) :
    (∃ header, Header.ofInterface options first = .ok header ∧
      Header.ofInterface options second = .ok header) ∨
    ∃ reason other, Header.ofInterface options first = .error reason ∧
      Header.ofInterface options second = .error other := by
  rcases Stub.compileAll_sameSignatures same with
    ⟨stubs, compiled, compiledToo⟩ | ⟨reason, other, rejected, rejectedToo⟩
  · refine Or.inl ⟨Header.assemble options stubs, ?_, ?_⟩
    · exact Header.ofInterface_eq_ok_iff.mpr ⟨stubs, compiled, rfl⟩
    · exact Header.ofInterface_eq_ok_iff.mpr ⟨stubs, compiledToo, rfl⟩
  · refine Or.inr ⟨reason, other, ?_, ?_⟩
    · exact Header.ofInterface_eq_error_iff.mpr rejected
    · exact Header.ofInterface_eq_error_iff.mpr rejectedToo

theorem header_shows_signatures_alone_rearranged :
    let options : Header.Options := { provenance := some "a\n", lineEnding := .crlf }
    let first : Interface := {
      declarations := [
        ⟨.getter, "E", "f", some "1", ⟨"odd", "a", ⟨9, 14⟩⟩, ⟨"E", "e", ⟨16, 19⟩⟩, 1, ⟨0, 20⟩⟩,
        ⟨.setter, "void", "g", none, ⟨[], [], ⟨3, 3⟩⟩, ⟨"void", [], ⟨8, 2⟩⟩, 7, ⟨5, 4⟩⟩]
      enumerations := [⟨"void", [], 4⟩, ⟨"E", ["X", "Y"], 2⟩]
      categories := [⟨"C", 3⟩]
      truncatedAt := some 8 }
    let second : Interface := {
      declarations := [
        ⟨.function, "void", "g", some "(", ⟨[], [], ⟨0, 0⟩⟩, ⟨"void", [], ⟨0, 0⟩⟩, 0, ⟨0, 0⟩⟩,
        ⟨.function, "E", "f", none, ⟨"odd", "a", ⟨0, 0⟩⟩, ⟨"E", "e", ⟨0, 0⟩⟩, 0, ⟨0, 0⟩⟩]
      enumerations := [⟨"E", [], 0⟩, ⟨"bool", ["Z"], 1⟩, ⟨"E", ["X"], 5⟩] }
    first.SameSignatures second ∧
    ((∃ header, Header.ofInterface options first = .ok header ∧
      Header.ofInterface options second = .ok header) ∨
    ∃ reason other, Header.ofInterface options first = .error reason ∧
      Header.ofInterface options second = .error other) := by
  intro options first second
  have same : first.SameSignatures second := by
    refine ⟨by decide, ?_⟩
    intro name notBuiltin
    have forth : ∀ name ∈ first.enumerationNames, name ∉ TypeTable.builtinNames →
        name ∈ second.enumerationNames := by decide
    have back : ∀ name ∈ second.enumerationNames, name ∉ TypeTable.builtinNames →
        name ∈ first.enumerationNames := by decide
    exact ⟨fun declared => forth name declared notBuiltin,
      fun declared => back name declared notBuiltin⟩
  exact ⟨same, header_shows_signatures_alone options same⟩

end WrapperGen
