import WrapperGen.Json.Error
import WrapperGen.Text.Utf8

/-!
Reading JSON values as records. A record is written as an object or, in short, as the array of its
fields. The members of an object are looked at in the order of their names, so that of several
wrong fields the one whose name comes first is told; absent ones are told after wrong ones.
-/

namespace WrapperGen.Json

def found : Json → Found
  | .null => .null
  | .bool value => .bool value
  | .number value => .number value
  | .string value => .string value
  | .array _ => .array
  | .object _ => .object

def asText : Json → Except Mismatch Text
  | .string value => .ok value
  | other => .error (.type other.found "a string")

/-- The number from 0 to 2 ^ 64 - 1 that a value holds. -/
def asNat : Json → Except Mismatch Nat
  | .number (.natural value) => .ok value
  | .number (.negative absolute) => .error (.value (.number (.negative absolute)) "usize")
  | other => .error (.type other.found "usize")

/-- What a value holds if it is not null. -/
def asOption {α : Type} (read : Json → Except Mismatch α) : Json → Except Mismatch (Option α)
  | .null => .ok none
  | value => (read value).map some

def asList {α : Type} (read : Json → Except Mismatch α) : Json → Except Mismatch (List α)
  | .array items => items.mapM read
  | other => .error (.type other.found "a sequence")

def asPair {α : Type} (read : Json → Except Mismatch α) : Json → Except Mismatch (α × α)
  | .array items =>
    match items with
    | [] => .error (.length 0 "an array of length 2")
    | [first] => do
      let _ ← read first
      .error (.length 1 "an array of length 2")
    | first :: second :: rest => do
      let left ← read first
      let right ← read second
      if rest.isEmpty then .ok (left, right)
      else .error (.length items.length "fewer elements in array")
  | other => .error (.type other.found "an array of length 2")

/-- The variant of an enumeration by its name, which is a string or the name of a null. The last of
several members of one name counts. -/
def asVariant {α : Type} (variants : List (Text × α)) (value : Json) : Except Mismatch α :=
  let variant (name : Text) : Except Mismatch α :=
    match variants.lookup name with
    | some variant => .ok variant
    | none => .error (.variant name (variants.map (·.1)))
  match value with
  | .string name => variant name
  | .object members =>
    match members.reverse with
    | [] => .error (.value .object "map with a single key")
    | (name, content) :: earlier =>
      if earlier.any (·.1 ≠ name) then .error (.value .object "map with a single key")
      else do
        let variant ← variant name
        match content with
        | .null => .ok variant
        | other => .error (.type other.found "unit")
  | other => .error (.type other.found "string or map")

/-- A field of a record: its name, and how its value goes into a draft of the record. -/
structure Field (draft : Type) where
  name : Text
  read : draft → Json → Except Mismatch draft

/-- A kind of record: its name, its fields, and how a draft becomes a record. -/
structure Record (draft : Type) (α : Type) where
  name : Text
  fields : List (Field draft)
  finish : draft → Except Mismatch α

def required {α : Type} (name : Text) : Option α → Except Mismatch α
  | some value => .ok value
  | none => .error (.missing name)

variable {draft α : Type}

/-- Puts a field among fields that are in the order of their names. -/
def Field.insert (field : Field draft) : List (Field draft) → List (Field draft)
  | [] => [field]
  | other :: others =>
    if field.name.bytewiseLE other.name then field :: other :: others
    else other :: insert field others

def Record.byName (record : Record draft α) : List (Field draft) :=
  record.fields.foldr Field.insert []

/-- The draft with the fields that an object has. The last of several members of one name counts. -/
def readMembersOf (members : List (Text × Json)) :
    List (Field draft) → draft → Except Mismatch draft
  | [], draft => .ok draft
  | field :: fields, draft =>
    match members.reverse.lookup field.name with
    | none => readMembersOf members fields draft
    | some value => do readMembersOf members fields (← field.read draft value)

/-- The draft with the fields that the items of an array are, counted from `index`. -/
def readItemsAs (expected : Text) (index : Nat) :
    List (Field draft) → List Json → draft → Except Mismatch draft
  | [], [], draft => .ok draft
  | [], items, _ => .error (.length (index + items.length) "fewer elements in array")
  | _ :: _, [], _ => .error (.length index expected)
  | field :: fields, item :: items, draft => do
    readItemsAs expected (index + 1) fields items (← field.read draft item)

def Record.read (record : Record draft α) (blank : draft) : Json → Except Mismatch α
  | .object members => do record.finish (← readMembersOf members record.byName blank)
  | .array items => do
    let count := Text.ofNat record.fields.length
    let expected := "struct ".toList ++ record.name ++ " with " ++ count ++ " elements"
    record.finish (← readItemsAs expected 0 record.fields items blank)
  | other => .error (.type other.found ("struct ".toList ++ record.name))

end WrapperGen.Json
