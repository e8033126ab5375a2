import Mathlib.Data.List.Forall2
import WrapperGen.Proofs.Header.Outcome
import WrapperGen.Proofs.Stub.Unbroken
import WrapperGen.Proofs.Writer

/-!
The frame of a header. What stands before and behind the stubs depends on the options alone, and each
stub has a line of its own, so a header shows which stubs it was made of.
-/

namespace WrapperGen

namespace Header

open Writer (indented)

def frontOf (options : Options) : Text :=
  (filledOpening options).blockLines.flatMap (indented 0 options.lineEnding) ++
    options.lineEnding.text ++
    (options.provenance.map provenanceNote).toList.flatMap (indented 1 options.lineEnding)

def backOf (options : Options) : Text :=
  options.lineEnding.text ++
    (filledClosing options).blockLines.flatMap (indented 0 options.lineEnding)

theorem assemble_eq (options : Options) (stubs : List Text) :
    assemble options stubs =
      frontOf options ++ stubs.flatMap (indented 1 options.lineEnding) ++ backOf options := by
  have framed := Writer.output_framed options.lineEnding (filledOpening options)
    (filledClosing options) (bodyLines options stubs)
  unfold assemble frontOf backOf
  rw [framed, bodyLines, List.flatMap_append]
  simp only [List.append_assoc]

/-- The line of a stub without its line feed. -/
def stubLine (ending : LineEnding) (stub : Text) : Text := '\t' :: (stub ++ ending.beforeFeed)

/-- A header for stubs: its frame, and between its halves the stubs in order, one on a line. -/
structure Shows (options : Options) (interface : Interface) (stubs : List Text) (header : Text) :
    Prop where
  framed : header = frontOf options ++
    stubs.flatMap (fun stub => '\t' :: stub ++ options.lineEnding.text) ++ backOf options
  complete : ∃ made, stubs.Perm made ∧ List.Forall₂ (fun declaration stub =>
    Stub.compile (.ofInterface interface) declaration = .ok stub) interface.declarations made
  sorted : stubs.Pairwise fun left right => left.utf8 ≤ right.utf8
  unbroken : ∀ stub ∈ stubs, stub ≠ [] ∧ '\n' ∉ stub ∧ '\r' ∉ stub

theorem assemble_shows (options : Options) {text : Text} {stubs : List Text}
    (compiled : Stub.compileAll (Interface.read text) = .ok stubs) :
    Shows options (Interface.read text) stubs (assemble options stubs) := by
  obtain ⟨admissible, sorted⟩ := Stub.compileAll_eq_ok_iff.mp compiled
  refine ⟨assemble_eq options stubs, ?_, ?_, Stub.compileAll_unbroken compiled⟩
  · refine ⟨_, sorted ▸ List.mergeSort_perm _ _, ?_⟩
    rw [List.forall₂_map_right_iff, List.forall₂_same]
    intro declaration member
    exact Stub.compile_eq_ok_iff.mpr ⟨admissible declaration member, rfl⟩
  · rw [← sorted]
    exact Text.pairwise_mergeSort_bytewiseLE _

theorem assemble_injective {options : Options} {stubs others : List Text}
    (unbroken : ∀ stub ∈ stubs, Text.IsUnbroken stub)
    (unbrokenToo : ∀ stub ∈ others, Text.IsUnbroken stub)
    (same : assemble options stubs = assemble options others) : stubs = others := by
  rw [assemble_eq, assemble_eq] at same
  have middle := List.append_cancel_left (List.append_cancel_right same)
  -- a stub has no line feed in it, so the lines in between can be cut apart again
  exact Writer.flatMap_indented_injective (fun stub listed => (unbroken stub listed).1)
    (fun stub listed => (unbrokenToo stub listed).1) middle

end Header

/-- A header shows the sorted stubs of its description in a frame that the options decide, and two
headers with the same options are the same only if they show the same stubs. -/
theorem header_shows_sorted_stubs (options : Header.Options) :
    (∀ bytes header, Header.ofBytes options bytes = .ok header →
      ∃ text stubs, Text.decode bytes = .ok text ∧
        Stub.compileAll (Interface.read text) = .ok stubs ∧
        Header.Shows options (Interface.read text) stubs header) ∧
    ∀ bytes header text others otherHeader otherText,
      Header.ofBytes options bytes = .ok header → Text.decode bytes = .ok text →
      Header.ofBytes options others = .ok otherHeader → Text.decode others = .ok otherText →
      (header = otherHeader ↔
        Stub.compileAll (Interface.read text) = Stub.compileAll (Interface.read otherText)) := by
  constructor
  · intro bytes header accepted
    obtain ⟨text, stubs, decoded, compiled, rfl⟩ := Header.ofBytes_eq_ok_iff.mp accepted
    exact ⟨text, stubs, decoded, compiled, Header.assemble_shows options compiled⟩
  · intro bytes header text others otherHeader otherText accepted decoded acceptedToo decodedToo
    obtain ⟨_, stubs, sameText, compiled, rfl⟩ := Header.ofBytes_eq_ok_iff.mp accepted
    obtain ⟨_, otherStubs, sameOther, compiledToo, rfl⟩ := Header.ofBytes_eq_ok_iff.mp acceptedToo
    rw [decoded, Except.ok.injEq] at sameText
    rw [decodedToo, Except.ok.injEq] at sameOther
    subst sameText sameOther
    rw [compiled, compiledToo, Except.ok.injEq]
    constructor
    · intro same
      apply Header.assemble_injective _ _ same
      · exact fun stub member => (Stub.compileAll_unbroken compiled stub member).2
      · exact fun stub member => (Stub.compileAll_unbroken compiledToo stub member).2
    · intro same
      rw [same]

theorem header_shows_sorted_stubs_crlf :
    let options : Header.Options := { provenance := some "\x7b\n", lineEnding := .crlf }
    let text : Text := "fun void B=1(,)\nget int ß=2(, string s)\n"
    let other : Text := "get int ß=2(, string s)"
    let first : Text :=
      "int ß(const char* s) \x7b return Call(SCI_SS, 0, reinterpret_cast<intptr_t>(s)); \x7d"
    let second : Text := "void B() \x7b Call(SCI_B); \x7d"
    let header := Header.assemble options [first, second]
    let otherHeader := Header.assemble options [first]
    Header.ofBytes options text.utf8 = .ok header ∧
    Header.Shows options (Interface.read text) [first, second] header ∧
    Header.ofBytes options other.utf8 = .ok otherHeader ∧ header ≠ otherHeader := by
  intro options text other first second header otherHeader
  have compiled : Stub.compileAll (Interface.read text) = .ok [first, second] :=
    Stub.compileAll_eq_ok_of_perm (by decide) (by decide) (by decide)
  have otherCompiled : Stub.compileAll (Interface.read other) = .ok [first] :=
    Stub.compileAll_eq_ok_of_perm (by decide) (by decide) (by decide)
  have accepted : Header.ofBytes options text.utf8 = .ok header :=
    Header.ofBytes_eq_ok_iff.mpr ⟨text, _, Text.decode_utf8 text, compiled, rfl⟩
  have otherAccepted : Header.ofBytes options other.utf8 = .ok otherHeader :=
    Header.ofBytes_eq_ok_iff.mpr ⟨other, _, Text.decode_utf8 other, otherCompiled, rfl⟩
  obtain ⟨shows, equal⟩ := header_shows_sorted_stubs options
  refine ⟨accepted, ?_, otherAccepted, ?_⟩
  · obtain ⟨_, stubs, decoded, made, shown⟩ := shows _ _ accepted
    rw [Text.decode_utf8, Except.ok.injEq] at decoded
    subst decoded
    rw [compiled, Except.ok.injEq] at made
    exact made ▸ shown
  · rw [Ne, equal _ _ _ _ _ _ accepted (Text.decode_utf8 text) otherAccepted
      (Text.decode_utf8 other), compiled, otherCompiled]
    decide

end WrapperGen
