import WrapperGen.Json.Token

/-!
Arrays and objects in JSON text, read item by item and member by member, so that the first thing
that is wrong in the order of the text is the one that is told.
-/

namespace WrapperGen.Json

/-- The text at the next item of an array, or nothing where the array ends. `isFirst` tells that no
item has been read, so that no comma is due. -/
def nextItem (isFirst : Bool) (text : Text) : Except Error (Option Text) :=
  match skipSpace text with
  | [] => .error (.fault .listEnds)
  | first :: rest =>
    if first = ']' then .ok none
    else if isFirst then .ok (some (first :: rest))
    else if first ≠ ',' then .error (.fault .listCommaExpected)
    else match skipSpace rest with
      | [] => .error (.fault .valueEnds)
      | ']' :: _ => .error (.fault .trailingComma)
      | item => .ok (some item)

/-- The text after an array, of which no item is expected any more. -/
def endArray (text : Text) : Except Error Text :=
  match skipSpace text with
  | [] => .error (.fault .listEnds)
  | ']' :: rest => .ok rest
  | ',' :: rest =>
    match skipSpace rest with
    | ']' :: _ => .error (.fault .trailingComma)
    | _ => .error (.fault .trailingText)
  | _ => .error (.fault .trailingText)

/-- The text after the opening quote of the next key of an object, or nothing where the object
ends. -/
def nextKey (isFirst : Bool) (text : Text) : Except Error (Option Text) :=
  match skipSpace text with
  | [] => .error (.fault .objectEnds)
  | first :: rest =>
    if first = '}' then .ok none
    else if isFirst then
      if first = '"' then .ok (some rest) else .error (.fault .keyNotString)
    else if first ≠ ',' then .error (.fault .objectCommaExpected)
    else match skipSpace rest with
      | [] => .error (.fault .valueEnds)
      | '"' :: rest => .ok (some rest)
      | '}' :: _ => .error (.fault .trailingComma)
      | _ => .error (.fault .keyNotString)

/-- The text after the end of an object, at which `nextKey` found no key. -/
def endObject (text : Text) : Except Error Text :=
  match skipSpace text with
  | [] => .error (.fault .objectEnds)
  | '}' :: rest => .ok rest
  | ',' :: _ => .error (.fault .trailingComma)
  | _ => .error (.fault .trailingText)

def readColon (text : Text) : Except Error Text :=
  match skipSpace text with
  | [] => .error (.fault .objectEnds)
  | ':' :: rest => .ok rest
  | _ => .error (.fault .colonExpected)

/-- The items of an array, of which the bracket has been read, each by the given reader. At most
`fuel` items are read; an array has never as many as its text has characters. -/
def readItems {α : Type} (readItem : Text → Except Error (α × Text)) :
    Nat → (isFirst : Bool) → Text → Except Error (List α × Text)
  | 0, _, _ => .error (.fault .listEnds)
  | fuel + 1, isFirst, text =>
    match nextItem isFirst text with
    | .error error => .error error
    | .ok none => (endArray text).map fun rest => ([], rest)
    | .ok (some text) =>
      match readItem text with
      | .error error => .error error
      | .ok (item, text) =>
        (readItems readItem fuel false text).map fun (items, rest) => (item :: items, rest)

/-- What the members of an object, of which the brace has been read, make of a first value: the
given reader takes the value so far and a key, and stands behind the key. -/
def readMembers {α : Type} (readMember : α → Text → Text → Except Error (α × Text)) :
    Nat → (isFirst : Bool) → α → Text → Except Error (α × Text)
  | 0, _, _, _ => .error (.fault .objectEnds)
  | fuel + 1, isFirst, value, text =>
    match nextKey isFirst text with
    | .error error => .error error
    | .ok none => (endObject text).map fun rest => (value, rest)
    | .ok (some text) =>
      match readString text with
      | .error error => .error error
      | .ok (key, text) =>
        match readMember value key text with
        | .error error => .error error
        | .ok (value, text) => readMembers readMember fuel false value text

/-- Why a text that starts with some other value is refused where `expected` is expected. Only the
start of an array or object is looked at. -/
def refuse (expected : Text) (text : Text) : Error :=
  let found : Except Error Found :=
    match text with
    | [] => .error (.fault .valueEnds)
    | first :: rest =>
      if first = 'n' then (readWord "ull" rest).map fun _ => .null
      else if first = 't' then (readWord "rue" rest).map fun _ => .bool true
      else if first = 'f' then (readWord "alse" rest).map fun _ => .bool false
      else if first = '-' then (readNumber true rest).map fun (value, _) => .number value
      else if first.isDigit then
        (readNumber false (first :: rest)).map fun (value, _) => .number value
      else if first = '"' then (readString rest).map fun (value, _) => .string value
      else if first = '[' then .ok .array
      else if first = '{' then .ok .object
      else .error (.fault .valueExpected)
  match found with
  | .error error => error
  | .ok found => .mismatch (.type found expected)

end WrapperGen.Json
