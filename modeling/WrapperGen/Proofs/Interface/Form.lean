import WrapperGen.Header
import WrapperGen.Interface.Form
import WrapperGen.Interface.Scanner
import WrapperGen.Proofs.Json.Records

/-!
Descriptions survive being written as JSON and read. Every part of a description has a member of its
own in its JSON form, and an absent part is written as null.
-/

namespace WrapperGen

open Json (Fills Record)

theorem Span.ofJson_toJson (span : Span) : ofJson span.toJson = .ok span :=
  Record.read_object (.cons rfl rfl (.cons rfl rfl .nil)) rfl

theorem Param.ofJson_toJson (param : Param) : ofJson param.toJson = .ok param := by
  have span := Span.ofJson_toJson param.span
  apply Record.read_object
  · -- the fields in the order of their names: name, span, ty
    exact .cons rfl rfl (.cons rfl (Except.bind_of_eq_ok span _) (.cons rfl rfl .nil))
  · rfl

theorem Feature.ofJson_label (feature : Feature) : ofJson (.string feature.label) = .ok feature := by
  cases feature <;> rfl

theorem Declaration.ofJson_toJson (declaration : Declaration) :
    ofJson declaration.toJson = .ok declaration := by
  have feature := Feature.ofJson_label declaration.feature
  have id := Json.asOption_ofOption Json.asText .string (fun _ => rfl) (fun _ => nofun)
    declaration.id
  have params := Json.asPair_pair _ _ Param.ofJson_toJson declaration.wparam declaration.lparam
  have span := Span.ofJson_toJson declaration.span
  apply Record.read_object
  · -- the fields in the order of their names: feature, id, line, name, params, return_type, span
    apply Fills.cons rfl (Except.bind_of_eq_ok feature _)
    apply Fills.cons rfl (Except.bind_of_eq_ok id _)
    apply Fills.cons rfl rfl
    apply Fills.cons rfl rfl
    apply Fills.cons rfl (Except.bind_of_eq_ok params _)
    apply Fills.cons rfl rfl
    exact .cons rfl (Except.bind_of_eq_ok span _) .nil
  · rfl

theorem Enumeration.ofJson_toJson (enumeration : Enumeration) :
    ofJson enumeration.toJson = .ok enumeration := by
  have prefixes := Json.asList_map Json.asText .string (fun _ => rfl) enumeration.prefixes
  apply Record.read_object
  · exact .cons rfl rfl (.cons rfl rfl (.cons rfl (Except.bind_of_eq_ok prefixes _) .nil))
  · rfl

theorem Category.ofJson_toJson (category : Category) : ofJson category.toJson = .ok category :=
  Record.read_object (.cons rfl rfl (.cons rfl rfl .nil)) rfl

theorem Interface.ofJson_toJson (interface : Interface) :
    ofJson interface.toJson = .ok interface := by
  have declarations := Json.asList_map _ _ Declaration.ofJson_toJson interface.declarations
  have enumerations := Json.asList_map _ _ Enumeration.ofJson_toJson interface.enumerations
  have categories := Json.asList_map _ _ Category.ofJson_toJson interface.categories
  have truncatedAt := Json.asOption_ofOption Json.asNat .ofNat (fun _ => rfl) (fun _ => nofun)
    interface.truncatedAt
  apply Record.read_object
  · apply Fills.cons rfl (Except.bind_of_eq_ok categories _)
    apply Fills.cons rfl (Except.bind_of_eq_ok declarations _)
    apply Fills.cons rfl (Except.bind_of_eq_ok enumerations _)
    exact .cons rfl (Except.bind_of_eq_ok truncatedAt _) .nil
  · rfl

/-- A description is read back from its JSON form as it was, and what is generated from the one that
is read back is what is generated from the text: the same header, or the same rejection. -/
theorem interface_survives_json :
    (∀ interface : Interface, Interface.ofJson interface.toJson = .ok interface) ∧
    ∀ (text : Text) (options : Header.Options), ∃ back,
      Interface.ofJson (Interface.read text).toJson = .ok back ∧
        Header.ofInterface options back = Header.ofInterface options (Interface.read text) := by
  refine ⟨Interface.ofJson_toJson, fun text options => ?_⟩
  exact ⟨Interface.read text, Interface.ofJson_toJson (Interface.read text), rfl⟩

end WrapperGen
