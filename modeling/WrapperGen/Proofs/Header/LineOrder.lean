import WrapperGen.Proofs.Header.Signatures
import WrapperGen.Proofs.Interface.Reordering

/-!
Headers of descriptions with the same contents. The stub of a message does not depend on its place
and the stubs are sorted, so nothing of the order of a description's lines is left in its header.
-/

namespace WrapperGen

theorem Declaration.signature_unplaced (declaration : Declaration) :
    declaration.unplaced.signature = declaration.signature := rfl

theorem Interface.SameContents.sameSignatures {first second : Interface}
    (same : first.SameContents second) : first.SameSignatures second := by
  refine ⟨?_, fun name _ => same.enumerations name⟩
  have signatures := same.messages.map Declaration.signature
  simpa only [List.map_map, Function.comp_def, Declaration.signature_unplaced] using signatures

theorem Stub.compileAll_sameContents {first second : Interface} (same : first.SameContents second) :
    (∃ stubs, compileAll first = .ok stubs ∧ compileAll second = .ok stubs) ∨
      ∃ reason other, compileAll first = .error reason ∧ compileAll second = .error other :=
  compileAll_sameSignatures same.sameSignatures

open Scanner

/-- A description whose lines stand in another order, with any idle lines put between them, has the
same header byte for byte, or both are rejected because of a type. -/
theorem header_ignores_line_order (options : Header.Options) {lines idle others : List Text}
    (plain : ∀ line ∈ lines ++ idle, IsPlainLine line)
    (isIdle : ∀ line ∈ idle, IsIdleLine (Text.dropReturn line))
    (mixed : others.Perm (lines ++ idle)) :
    (∃ header, Header.ofBytes options (Text.endLines lines).utf8 = .ok header ∧
      Header.ofBytes options (Text.endLines others).utf8 = .ok header) ∨
    ∃ param other, Header.ofBytes options (Text.endLines lines).utf8 = .error (.unknownType param) ∧
      Header.ofBytes options (Text.endLines others).utf8 = .error (.unknownType other) := by
  simp only [Header.ofBytes_of_decoded (Text.decode_utf8 _), Header.ofInterface]
  have same := (sameContents_of_perm plain isIdle mixed).symm
  rcases Stub.compileAll_sameContents same with ⟨stubs, left, right⟩ | ⟨reason, other, left, right⟩
  · rw [left, right]
    exact Or.inl ⟨Header.assemble options stubs, rfl, rfl⟩
  · rw [left, right]
    exact Or.inr ⟨reason, other, rfl, rfl⟩

theorem header_ignores_line_order_enumeration_last :
    let lines : List Text := ["enu É=X", "fun É A=1(odd é, É e)\r", "set void B=2(,)"]
    let idle : List Text := ["# ü", "cat C\r", "fun void D(,)"]
    let others : List Text :=
      ["cat C\r", "set void B=2(,)", "fun É A=1(odd é, É e)\r", "# ü", "fun void D(,)", "enu É=X"]
    let options : Header.Options := { provenance := some "a\n" }
    (∀ line ∈ lines ++ idle, IsPlainLine line) ∧
    (∀ line ∈ idle, IsIdleLine (Text.dropReturn line)) ∧ others.Perm (lines ++ idle) ∧
    ((∃ header, Header.ofBytes options (Text.endLines lines).utf8 = .ok header ∧
      Header.ofBytes options (Text.endLines others).utf8 = .ok header) ∨
    ∃ param other, Header.ofBytes options (Text.endLines lines).utf8 = .error (.unknownType param) ∧
      Header.ofBytes options (Text.endLines others).utf8 = .error (.unknownType other)) := by
  intro lines idle others options
  have plain : ∀ line ∈ lines ++ idle, IsPlainLine line := by decide
  have isIdle : ∀ line ∈ idle, IsIdleLine (Text.dropReturn line) := by decide
  have mixed : others.Perm (lines ++ idle) := by decide
  exact ⟨plain, isIdle, mixed, header_ignores_line_order options plain isIdle mixed⟩

end WrapperGen
