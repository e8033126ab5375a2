import WrapperGen.Proofs.Failing
import WrapperGen.Proofs.Header.Provenance
import WrapperGen.Proofs.Interface.Returns

/-!
Ends of lines. Those of a description do not show in its header, and those of the header are its
line feeds, which all get a carriage return if its lines are to end with one.
-/

namespace WrapperGen

/-! ## The lines of a description -/

def UnknownType.spanless (param : UnknownType) : UnknownType := { param with span := .emptyAt 0 }

/-- Of the offsets in a description no more shows than those of the parameter that is reported. -/
theorem Stub.compileAll_spanless (interface : Interface) :
    compileAll interface.spanless = (compileAll interface).mapError UnknownType.spanless := by
  have listed : interface.spanless.declarations =
      interface.declarations.map Declaration.spanless := rfl
  have bad : (fun said => decide (interface.spanless.Inadmissible said)) ∘ Declaration.spanless =
      fun said => decide (interface.Inadmissible said) := rfl
  rw [compileAll_eq, compileAll_eq, listed, List.find?_map, bad]
  cases interface.declarations.find? (interface.Inadmissible ·) with
  | some declaration => rfl
  | none =>
      rw [List.map_map]
      rfl

theorem Stub.compileAll_cases {first second : Interface} (same : first.spanless = second.spanless) :
    (∃ stubs, compileAll first = .ok stubs ∧ compileAll second = .ok stubs) ∨
      ∃ param other, compileAll first = .error param ∧ compileAll second = .error other ∧
        param.spanless = other.spanless := by
  apply Except.cases_of_mapError_eq
  rw [← compileAll_spanless, ← compileAll_spanless, same]

/-- A carriage return before each line feed of a description moves what is read and changes nothing
else of it, and neither its header nor what is reported instead. -/
theorem carriage_returns_say_nothing (text : Text) :
    (Interface.read text.withReturns).spanless = (Interface.read text).spanless ∧
    ('\r' ∉ text → Interface.read text.withReturns =
      { Interface.read text with
        declarations := (Interface.read text).declarations.map fun said =>
          said.moved 0 (said.line - 1) }) ∧
    ∀ options,
      (∃ header, Header.ofBytes options text.utf8 = .ok header ∧
        Header.ofBytes options text.withReturns.utf8 = .ok header) ∨
      ∃ param other, Header.ofBytes options text.utf8 = .error (.unknownType param) ∧
        Header.ofBytes options text.withReturns.utf8 = .error (.unknownType other) ∧
        other.type = param.type ∧ other.name = param.name ∧ other.line = param.line := by
  have same := Scanner.read_withReturns_spanless text
  refine ⟨same, Scanner.read_withReturns_of_plain, ?_⟩
  intro options
  have decoded := Text.decode_utf8 text
  have decodedToo := Text.decode_utf8 text.withReturns
  rcases Stub.compileAll_cases same with
    ⟨stubs, returned, plain⟩ | ⟨other, param, returned, plain, alike⟩
  · refine Or.inl ⟨Header.assemble options stubs, ?_, ?_⟩
    · exact Header.ofBytes_eq_ok_iff.mpr ⟨_, _, decoded, plain, rfl⟩
    · exact Header.ofBytes_eq_ok_iff.mpr ⟨_, _, decodedToo, returned, rfl⟩
  · refine Or.inr ⟨param, other, ?_, ?_, ?_⟩
    · exact Header.ofBytes_eq_unknownType_iff.mpr ⟨_, decoded, plain⟩
    · exact Header.ofBytes_eq_unknownType_iff.mpr ⟨_, decodedToo, returned⟩
    · simpa [UnknownType.spanless] using alike

theorem carriage_returns_say_nothing_accented :
    let text : Text := "enu É=X\nfun É A=1\n\nset void B=2(É é, odd o)\ncat Deprecated"
    '\r' ∉ text ∧
    Interface.read text.withReturns =
      { Interface.read text with
        declarations := (Interface.read text).declarations.map fun said =>
          said.moved 0 (said.line - 1) } := by
  intro text
  have plain : '\r' ∉ text := by decide
  exact ⟨plain, (carriage_returns_say_nothing text).2.1 plain⟩

/-! ## The lines of a header -/

open Writer (indented)

theorem withReturns_indented (level : Nat) {line : Text} (unbroken : '\n' ∉ line) :
    Text.withReturns (indented level .lf line) = indented level .crlf line := by
  have before : '\n' ∉ List.replicate level '\t' ++ line := by
    simp [unbroken]
  rw [indented, indented, Text.withReturns_append, Text.withReturns_of_unbroken before]
  rfl

theorem withReturns_flatMap_indented (level : Nat) {lines : List Text}
    (unbroken : ∀ line ∈ lines, '\n' ∉ line) :
    Text.withReturns (lines.flatMap (indented level .lf)) =
      lines.flatMap (indented level .crlf) := by
  induction lines with
  | nil => rfl
  | cons line lines ih =>
      simp only [List.forall_mem_cons] at unbroken
      rw [List.flatMap_cons, List.flatMap_cons, Text.withReturns_append,
        withReturns_indented level unbroken.1, ih unbroken.2]

namespace Header

theorem withReturns_assemble {options : Options} {stubs : List Text}
    (named : ∀ source ∈ options.provenance, '\n' ∉ source)
    (unbroken : ∀ stub ∈ stubs, '\n' ∉ stub) :
    Text.withReturns (assemble { options with lineEnding := .lf } stubs) =
      assemble { options with lineEnding := .crlf } stubs := by
  have ended : Text.withReturns LineEnding.lf.text = LineEnding.crlf.text := by decide
  have blocks (block : Text) : Text.withReturns (block.blockLines.flatMap (indented 0 .lf)) =
      block.blockLines.flatMap (indented 0 .crlf) :=
    withReturns_flatMap_indented 0 fun _ => Text.not_mem_of_mem_blockLines
  have notes : ∀ note ∈ (options.provenance.map provenanceNote).toList, '\n' ∉ note := by
    intro note member
    obtain ⟨source, given, rfl⟩ := Option.map_eq_some_iff.mp (Option.mem_toList.mp member)
    exact not_mem_provenanceNote (named source given)
  have front : Text.withReturns (frontOf { options with lineEnding := .lf }) =
      frontOf { options with lineEnding := .crlf } := by
    unfold frontOf
    rw [Text.withReturns_append, Text.withReturns_append]
    exact congrArg₂ _ (congrArg₂ _ (blocks _) ended) (withReturns_flatMap_indented 1 notes)
  have back : Text.withReturns (backOf { options with lineEnding := .lf }) =
      backOf { options with lineEnding := .crlf } := by
    unfold backOf
    rw [Text.withReturns_append]
    exact congrArg₂ _ ended (blocks _)
  rw [assemble_eq, assemble_eq, Text.withReturns_append, Text.withReturns_append, front, back]
  exact congrArg (frontOf _ ++ · ++ backOf _) (withReturns_flatMap_indented 1 unbroken)

theorem getLast?_closing (dispatch : Dispatch) :
    (Text.blockLines (Template.fill closing [("fn_alias", aliasDeclaration dispatch),
      ("fn_type", dispatch.functionType)])).getLast? = some "\x7d;" := by
  cases dispatch <;> decide +kernel

theorem assemble_ends (options : Options) (stubs : List Text) :
    ∃ front, assemble options stubs = front ++ ("\x7d;" : Text) ++ options.lineEnding.text := by
  have last : (filledClosing options).blockLines.getLast? = some "\x7d;" :=
    getLast?_closing options.dispatch
  obtain ⟨earlier, lines⟩ := List.getLast?_eq_some_iff.mp last
  refine ⟨frontOf options ++ stubs.flatMap (indented 1 options.lineEnding) ++
    options.lineEnding.text ++ earlier.flatMap (indented 0 options.lineEnding), ?_⟩
  rw [assemble_eq, backOf, lines, List.flatMap_append, List.flatMap_singleton, indented]
  simp only [List.replicate_zero, List.nil_append, List.append_assoc]

end Header

/-- Carriage returns before all line feeds are what tells a header with the one ending from the same
header with the other, and every header ends as its last line does. -/
theorem line_ending_applied_throughout (options : Header.Options) {bytes : List UInt8}
    {header : Text} (named : ∀ source ∈ options.provenance, '\n' ∉ source)
    (accepted : Header.ofBytes options bytes = .ok header) :
    ∃ plain, Header.ofBytes { options with lineEnding := .lf } bytes = .ok plain ∧
      Header.ofBytes { options with lineEnding := .crlf } bytes = .ok plain.withReturns ∧
      (∀ before after, plain.withReturns = before ++ '\n' :: after →
        before.getLast? = some '\r') ∧
      ∃ front, header = front ++ ("\x7d;" : Text) ++ options.lineEnding.text := by
  obtain ⟨text, stubs, decoded, compiled, rfl⟩ := Header.ofBytes_eq_ok_iff.mp accepted
  have unbroken : ∀ stub ∈ stubs, '\n' ∉ stub :=
    fun stub member => (Stub.compileAll_unbroken compiled stub member).2.1
  refine ⟨Header.assemble { options with lineEnding := .lf } stubs, ?_, ?_, ?_, ?_⟩
  · exact Header.ofBytes_eq_ok_iff.mpr ⟨text, stubs, decoded, compiled, rfl⟩
  · have returned := Header.withReturns_assemble named unbroken
    exact Header.ofBytes_eq_ok_iff.mpr ⟨text, stubs, decoded, compiled, returned.symm⟩
  · exact fun _ _ => Text.return_before_feed
  · exact Header.assemble_ends options stubs

theorem line_ending_applied_throughout_broken_names :
    let options : Header.Options :=
      { className := "A\r\n\x7b", windowClass := "\n\r", provenance := some "é\r" }
    let bytes := Text.utf8 "get int ß=2(, string s)\n"
    (∀ source ∈ options.provenance, '\n' ∉ source) ∧
    ∃ header plain, Header.ofBytes options bytes = .ok header ∧
      Header.ofBytes { options with lineEnding := .lf } bytes = .ok plain ∧
      Header.ofBytes { options with lineEnding := .crlf } bytes = .ok plain.withReturns ∧
      ∃ front, header = front ++ ("\x7d;" : Text) ++ ['\n'] := by
  intro options bytes
  let stub : Text :=
    "int ß(const char* s) \x7b return Call(SCI_SS, 0, reinterpret_cast<intptr_t>(s)); \x7d"
  have compiled : Stub.compileAll (Interface.read "get int ß=2(, string s)\n") = .ok [stub] :=
    Stub.compileAll_eq_ok_of_perm (by decide) (by decide) (by decide)
  have accepted : Header.ofBytes options bytes = .ok (Header.assemble options [stub]) :=
    Header.ofBytes_eq_ok_iff.mpr ⟨_, _, Text.decode_utf8 _, compiled, rfl⟩
  have named : ∀ source ∈ options.provenance, '\n' ∉ source := by decide
  obtain ⟨plain, written, returned, _, ends⟩ :=
    line_ending_applied_throughout options named accepted
  exact ⟨named, _, plain, accepted, written, returned, ends⟩

end WrapperGen
