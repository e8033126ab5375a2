import WrapperGen.Json.Structure

/-!
Whole JSON values in text: read as values, or passed over. A value that is passed over may hold
numbers of any size and escapes that write no character.
-/

namespace WrapperGen.Json

/-- The value at the start of the text, blanks before it apart. `fuel` bounds the nesting. -/
def readValue : Nat → Text → Except Error (Json × Text)
  | 0, _ => .error (.fault .valueEnds)
  | fuel + 1, text =>
    match skipSpace text with
    | [] => .error (.fault .valueEnds)
    | first :: rest =>
      if first = 'n' then (readWord "ull" rest).map fun rest => (.null, rest)
      else if first = 't' then (readWord "rue" rest).map fun rest => (.bool true, rest)
      else if first = 'f' then (readWord "alse" rest).map fun rest => (.bool false, rest)
      else if first = '-' then
        (readNumber true rest).map fun (value, rest) => (.number value, rest)
      else if first.isDigit then
        (readNumber false (first :: rest)).map fun (value, rest) => (.number value, rest)
      else if first = '"' then (readString rest).map fun (value, rest) => (.string value, rest)
      else if first = '[' then
        (readItems (readValue fuel) (rest.length + 1) true rest).map fun (items, rest) =>
          (.array items, rest)
      else if first = '{' then
        let readMember (members : List (Text × Json)) (key text : Text) :
            Except Error (List (Text × Json) × Text) :=
          match readColon text with
          | .error error => .error error
          | .ok text =>
            (readValue fuel text).map fun (value, rest) => ((key, value) :: members, rest)
        (readMembers readMember (rest.length + 1) true [] rest).map fun (members, rest) =>
          (.object members.reverse, rest)
      else .error (.fault .valueExpected)

/-- Fails unless nothing but blanks is left. -/
def readEnd (text : Text) : Except Error Unit :=
  if (skipSpace text).isEmpty then .ok () else .error (.fault .trailingText)

def parse (text : Text) : Except Error Json :=
  match readValue (text.length + 1) text with
  | .error error => .error error
  | .ok (value, rest) => (readEnd rest).map fun _ => value

mutual

/-- The text after a value that is passed over, blanks before it apart. -/
def skipValue : Nat → Text → Except Error Text
  | 0, _ => .error (.fault .valueEnds)
  | fuel + 1, text =>
    match skipSpace text with
    | [] => .error (.fault .valueEnds)
    | first :: rest =>
      if first = 'n' then readWord "ull" rest
      else if first = 't' then readWord "rue" rest
      else if first = 'f' then readWord "alse" rest
      else if first = '-' then skipNumber rest
      else if first.isDigit then skipNumber (first :: rest)
      else if first = '"' then skipString rest
      else if first = '[' then
        match skipSpace rest with
        | [] => .error (.fault .listEnds)
        | ']' :: rest => .ok rest
        | item => skipItems fuel item
      else if first = '{' then
        match skipSpace rest with
        | [] => .error (.fault .objectEnds)
        | '}' :: rest => .ok rest
        | member => skipMembers fuel member
      else .error (.fault .valueExpected)

/-- The text after an array that is passed over, from one of its items on. -/
def skipItems : Nat → Text → Except Error Text
  | 0, _ => .error (.fault .listEnds)
  | fuel + 1, text =>
    match skipValue fuel text with
    | .error error => .error error
    | .ok rest =>
      match skipSpace rest with
      | [] => .error (.fault .listEnds)
      | ',' :: rest => skipItems fuel rest
      | ']' :: rest => .ok rest
      | _ => .error (.fault .listCommaExpected)

/-- The text after an object that is passed over, from one of its members on. -/
def skipMembers : Nat → Text → Except Error Text
  | 0, _ => .error (.fault .objectEnds)
  | fuel + 1, text =>
    match skipSpace text with
    | [] => .error (.fault .objectEnds)
    | '"' :: rest =>
      match skipString rest with
      | .error error => .error error
      | .ok rest =>
        match readColon rest with
        | .error error => .error error
        | .ok rest =>
          match skipValue fuel rest with
          | .error error => .error error
          | .ok rest =>
            match skipSpace rest with
            | [] => .error (.fault .objectEnds)
            | ',' :: rest => skipMembers fuel rest
            | '}' :: rest => .ok rest
            | _ => .error (.fault .objectCommaExpected)
    | _ => .error (.fault .keyNotString)

end

/-- The text after the value at its start, which may be nested to any depth. -/
def skip (text : Text) : Except Error Text := skipValue (2 * text.length + 2) text

end WrapperGen.Json
