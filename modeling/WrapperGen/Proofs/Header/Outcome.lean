import WrapperGen.Header
import WrapperGen.Proofs.Text.Decoding

/-!
What becomes of the bytes of a description: they are decoded, what they describe is given stubs, and
the stubs are put into a header. The first of these steps to fail decides.
-/

namespace WrapperGen

theorem Rejection.mapError_eq_ok_iff {result : Except UnknownType Text} {header : Text} :
    result.mapError unknownType = .ok header ↔ result = .ok header := by
  cases result with
  | error reason => exact iff_of_false nofun nofun
  | ok found =>
      change Except.ok found = _ ↔ _
      simp only [Except.ok.injEq]

theorem Rejection.mapError_eq_error_iff {result : Except UnknownType Text} {param : UnknownType} :
    result.mapError unknownType = .error (unknownType param) ↔ result = .error param := by
  cases result with
  | error reason =>
      change Except.error (unknownType reason) = _ ↔ _
      simp only [Except.error.injEq, unknownType.injEq]
  | ok found => exact iff_of_false nofun nofun

namespace Header

variable {options : Options} {bytes : List UInt8}

theorem ofInterface_eq_ok_iff {interface : Interface} {header : Text} :
    ofInterface options interface = .ok header ↔
      ∃ stubs, Stub.compileAll interface = .ok stubs ∧ assemble options stubs = header := by
  rw [ofInterface]
  cases Stub.compileAll interface with
  | error reason => simp [Except.map]
  | ok stubs => simp [Except.map]

theorem ofInterface_eq_error_iff {interface : Interface} {reason : UnknownType} :
    ofInterface options interface = .error reason ↔
      Stub.compileAll interface = .error reason := by
  rw [ofInterface]
  cases Stub.compileAll interface with
  | error reason => simp [Except.map]
  | ok stubs => simp [Except.map]

theorem ofBytes_of_undecodable {offset : Nat} (undecodable : Text.decode bytes = .error offset) :
    ofBytes options bytes = .error (.undecodable offset) := by
  rw [ofBytes, Interface.readBytes, undecodable]
  rfl

theorem ofBytes_of_decoded {text : Text} (decoded : Text.decode bytes = .ok text) :
    ofBytes options bytes =
      (ofInterface options (Interface.read text)).mapError .unknownType := by
  rw [ofBytes, Interface.readBytes, decoded]
  rfl

theorem ofBytes_eq_ok_iff {header : Text} :
    ofBytes options bytes = .ok header ↔
      ∃ text stubs, Text.decode bytes = .ok text ∧
        Stub.compileAll (Interface.read text) = .ok stubs ∧ assemble options stubs = header := by
  cases decoded : Text.decode bytes with
  | error offset => simp [ofBytes_of_undecodable decoded]
  | ok text =>
      rw [ofBytes_of_decoded decoded, Rejection.mapError_eq_ok_iff, ofInterface_eq_ok_iff]
      simp only [Except.ok.injEq, exists_and_left, exists_eq_left']

theorem ofBytes_eq_unknownType_iff {param : UnknownType} :
    ofBytes options bytes = .error (.unknownType param) ↔
      ∃ text, Text.decode bytes = .ok text ∧
        Stub.compileAll (Interface.read text) = .error param := by
  cases decoded : Text.decode bytes with
  | error offset => simp [ofBytes_of_undecodable decoded]
  | ok text =>
      rw [ofBytes_of_decoded decoded, Rejection.mapError_eq_error_iff, ofInterface_eq_error_iff]
      simp only [Except.ok.injEq, exists_eq_left']

end Header

/-- Bytes are decoded exactly if they are well-formed, and then into the text that has these bytes,
which decides all else. Bytes that are not are refused for that alone, whatever they describe, at
the end of their longest beginning that can be decoded. -/
theorem decoding_comes_first (bytes : List UInt8) :
    ((∃ text, Text.decode bytes = .ok text) ↔ Text.IsWellFormed bytes) ∧
    (∀ text, Text.decode bytes = .ok text →
      text.utf8 = bytes ∧
      Interface.readBytes bytes = .ok (Interface.read text) ∧
      ∀ options, Header.ofBytes options bytes =
        (Header.ofInterface options (Interface.read text)).mapError .unknownType) ∧
    (¬ Text.IsWellFormed bytes → ∃ offset,
      Text.decode bytes = .error offset ∧
      IsGreatest (Text.decodableLengths bytes) offset ∧
      Interface.readBytes bytes = .error offset ∧
      ∀ options, Header.ofBytes options bytes = .error (.undecodable offset)) := by
  refine ⟨?_, ?_, ?_⟩
  · rw [Text.isWellFormed_iff]
    exact exists_congr fun text => Text.decode_eq_ok_iff
  · intro text decoded
    refine ⟨Text.decode_eq_ok_iff.mp decoded, ?_, fun options => Header.ofBytes_of_decoded decoded⟩
    rw [Interface.readBytes, decoded]
    rfl
  · intro illFormed
    obtain ⟨offset, refused, longest⟩ := Text.decode_of_not_isWellFormed illFormed
    refine ⟨offset, refused, longest, ?_, fun options => Header.ofBytes_of_undecodable refused⟩
    rw [Interface.readBytes, refused]
    rfl

/-- A surrogate behind a parameter of an unknown type and behind the deprecated mark. -/
theorem decoding_comes_first_surrogate :
    let text : Text := "fun void É=1(, odd o)\ncat Deprecated\n"
    let bytes : List UInt8 := text.utf8 ++ [0xED, 0xA0, 0x80]
    ¬ Text.IsWellFormed bytes ∧
    Text.decode bytes = .error 38 ∧
    IsGreatest (Text.decodableLengths bytes) 38 ∧
    Interface.readBytes bytes = .error 38 ∧
    ∀ options, Header.ofBytes options bytes = .error (.undecodable 38) := by
  intro text bytes
  have size : text.utf8.length = 38 := by decide
  have refused : Text.decode bytes = .error 38 :=
    (Text.decode_eq_error_of_unread text (by decide) (by decide)).trans (congrArg _ size)
  obtain ⟨decodes, -, refuses⟩ := decoding_comes_first bytes
  have illFormed : ¬ Text.IsWellFormed bytes := by
    intro wellFormed
    obtain ⟨decoded, found⟩ := decodes.mpr wellFormed
    rw [refused] at found
    contradiction
  obtain ⟨offset, refusedToo, longest, unread, rejected⟩ := refuses illFormed
  obtain rfl : 38 = offset := Except.error.inj (refused.symm.trans refusedToo)
  exact ⟨illFormed, refused, longest, unread, rejected⟩

end WrapperGen
