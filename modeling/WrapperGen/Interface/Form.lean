import WrapperGen.Interface.Basic
import WrapperGen.Json.Record

/-!
The JSON form of an interface description. Writing gives every field, absent values as null; reading
wants every field but those that may be absent, and ignores members that it does not know.
-/

namespace WrapperGen

open Json (Field Record Mismatch required)

/-! Spans -/

/-- A range of which some ends may not have been read. -/
structure Span.Draft where
  start : Option Nat := none
  stop : Option Nat := none

def Span.record : Record Span.Draft Span where
  name := "Span"
  fields := [
    ⟨"start", fun draft value => do return { draft with start := ← value.asNat }⟩,
    ⟨"end", fun draft value => do return { draft with stop := ← value.asNat }⟩]
  finish draft := do
    return { start := ← required "start" draft.start, stop := ← required "end" draft.stop }

def Span.ofJson : Json → Except Mismatch Span := Span.record.read {}

def Span.toJson (span : Span) : Json :=
  .object [("start", .ofNat span.start), ("end", .ofNat span.stop)]

/-! Parameters -/

/-- A slot of which some fields may not have been read. -/
structure Param.Draft where
  type : Option Text := none
  name : Option Text := none
  span : Option Span := none

def Param.record : Record Param.Draft Param where
  name := "Param"
  fields := [
    ⟨"ty", fun draft value => do return { draft with type := ← value.asText }⟩,
    ⟨"name", fun draft value => do return { draft with name := ← value.asText }⟩,
    ⟨"span", fun draft value => do return { draft with span := ← Span.ofJson value }⟩]
  finish draft := do
    return {
      type := ← required "ty" draft.type
      name := ← required "name" draft.name
      span := ← required "span" draft.span }

def Param.ofJson : Json → Except Mismatch Param := Param.record.read {}

def Param.toJson (param : Param) : Json :=
  .object [("ty", .string param.type), ("name", .string param.name), ("span", param.span.toJson)]

/-! Declarations -/

def Feature.ofJson : Json → Except Mismatch Feature :=
  Json.asVariant (Feature.all.map fun feature => (feature.label, feature))

/-- A message of which some fields may not have been read. -/
structure Declaration.Draft where
  feature : Option Feature := none
  returnType : Option Text := none
  name : Option Text := none
  id : Option Text := none
  params : Option (Param × Param) := none
  line : Option Nat := none
  span : Option Span := none

def Declaration.record : Record Declaration.Draft Declaration where
  name := "Declaration"
  fields := [
    ⟨"feature", fun draft value => do return { draft with feature := ← Feature.ofJson value }⟩,
    ⟨"return_type", fun draft value => do return { draft with returnType := ← value.asText }⟩,
    ⟨"name", fun draft value => do return { draft with name := ← value.asText }⟩,
    ⟨"id", fun draft value => do return { draft with id := ← value.asOption Json.asText }⟩,
    ⟨"params", fun draft value => do return { draft with params := ← value.asPair Param.ofJson }⟩,
    ⟨"line", fun draft value => do return { draft with line := ← value.asNat }⟩,
    ⟨"span", fun draft value => do return { draft with span := ← Span.ofJson value }⟩]
  finish draft := do
    let feature ← required "feature" draft.feature
    let returnType ← required "return_type" draft.returnType
    let name ← required "name" draft.name
    let (wparam, lparam) ← required "params" draft.params
    let line ← required "line" draft.line
    let span ← required "span" draft.span
    return { feature, returnType, name, id := draft.id, wparam, lparam, line, span }

def Declaration.ofJson : Json → Except Mismatch Declaration := Declaration.record.read {}

def Declaration.toJson (declaration : Declaration) : Json :=
  .object [
    ("feature", .string declaration.feature.label),
    ("return_type", .string declaration.returnType),
    ("name", .string declaration.name),
    ("id", .ofOption .string declaration.id),
    ("params", .array [declaration.wparam.toJson, declaration.lparam.toJson]),
    ("line", .ofNat declaration.line),
    ("span", declaration.span.toJson)]

/-! Enumerations and categories -/

/-- An enumeration of which some fields may not have been read. -/
structure Enumeration.Draft where
  name : Option Text := none
  prefixes : Option (List Text) := none
  line : Option Nat := none

def Enumeration.record : Record Enumeration.Draft Enumeration where
  name := "Enumeration"
  fields := [
    ⟨"name", fun draft value => do return { draft with name := ← value.asText }⟩,
    ⟨"prefixes", fun draft value => do
      return { draft with prefixes := ← value.asList Json.asText }⟩,
    ⟨"line", fun draft value => do return { draft with line := ← value.asNat }⟩]
  finish draft := do
    return {
      name := ← required "name" draft.name
      prefixes := ← required "prefixes" draft.prefixes
      line := ← required "line" draft.line }

def Enumeration.ofJson : Json → Except Mismatch Enumeration := Enumeration.record.read {}

def Enumeration.toJson (enumeration : Enumeration) : Json :=
  .object [
    ("name", .string enumeration.name),
    ("prefixes", .array (enumeration.prefixes.map .string)),
    ("line", .ofNat enumeration.line)]

/-- A category of which some fields may not have been read. -/
structure Category.Draft where
  name : Option Text := none
  line : Option Nat := none

def Category.record : Record Category.Draft Category where
  name := "Category"
  fields := [
    ⟨"name", fun draft value => do return { draft with name := ← value.asText }⟩,
    ⟨"line", fun draft value => do return { draft with line := ← value.asNat }⟩]
  finish draft := do
    return { name := ← required "name" draft.name, line := ← required "line" draft.line }

def Category.ofJson : Json → Except Mismatch Category := Category.record.read {}

def Category.toJson (category : Category) : Json :=
  .object [("name", .string category.name), ("line", .ofNat category.line)]

/-! Whole descriptions -/

/-- A description of which some fields may not have been read. -/
structure Interface.Draft where
  declarations : Option (List Declaration) := none
  enumerations : Option (List Enumeration) := none
  categories : Option (List Category) := none
  truncatedAt : Option Nat := none

def Interface.record : Record Interface.Draft Interface where
  name := "Interface"
  fields := [
    ⟨"declarations", fun draft value => do
      return { draft with declarations := ← value.asList Declaration.ofJson }⟩,
    ⟨"enumerations", fun draft value => do
      return { draft with enumerations := ← value.asList Enumeration.ofJson }⟩,
    ⟨"categories", fun draft value => do
      return { draft with categories := ← value.asList Category.ofJson }⟩,
    ⟨"truncated_at", fun draft value => do
      return { draft with truncatedAt := ← value.asOption Json.asNat }⟩]
  finish draft := do
    return {
      declarations := ← required "declarations" draft.declarations
      enumerations := ← required "enumerations" draft.enumerations
      categories := ← required "categories" draft.categories
      truncatedAt := draft.truncatedAt }

def Interface.ofJson : Json → Except Mismatch Interface := Interface.record.read {}

def Interface.toJson (interface : Interface) : Json :=
  .object [
    ("declarations", .array (interface.declarations.map Declaration.toJson)),
    ("enumerations", .array (interface.enumerations.map Enumeration.toJson)),
    ("categories", .array (interface.categories.map Category.toJson)),
    ("truncated_at", .ofOption .ofNat interface.truncatedAt)]

end WrapperGen
