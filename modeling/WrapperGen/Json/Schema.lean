import WrapperGen.Json.Value

/-!
Reading JSON text as values of a known shape. Unlike a value that has been read as a whole, the text
is followed member by member, so what is wrong first in the text is told first. A structure is
written as an object or, in short, as the array of its entries.
-/

namespace WrapperGen.Json

/-! Single values -/

/-- The string at which the text stands. -/
def readText (text : Text) : Except Error (Text × Text) :=
  match skipSpace text with
  | [] => .error (.fault .valueEnds)
  | '"' :: rest => readString rest
  | other => .error (refuse "a string" other)

/-- The string at which the text stands, or nothing for null. -/
def readOptionalText (text : Text) : Except Error (Option Text × Text) :=
  match skipSpace text with
  | 'n' :: rest => (readWord "ull" rest).map fun rest => (none, rest)
  | other => (readText other).map fun (value, rest) => (some value, rest)

/-- The truth value at which the text stands. -/
def readBool (text : Text) : Except Error (Bool × Text) :=
  match skipSpace text with
  | [] => .error (.fault .valueEnds)
  | 't' :: rest => (readWord "rue" rest).map fun rest => (true, rest)
  | 'f' :: rest => (readWord "alse" rest).map fun rest => (false, rest)
  | other => .error (refuse "a boolean" other)

/-- The text after the null at which it stands. -/
def readNull (text : Text) : Except Error Text :=
  match skipSpace text with
  | [] => .error (.fault .valueEnds)
  | 'n' :: rest => readWord "ull" rest
  | other => .error (refuse "unit" other)

def variantOf {α : Type} (variants : List (Text × α)) (name : Text) : Except Error α :=
  match variants.lookup name with
  | some variant => .ok variant
  | none => .error (.mismatch (.variant name (variants.map (·.1))))

/-- The variant at which the text stands: its name, or an object with its name and null. -/
def readVariant {α : Type} (variants : List (Text × α)) (text : Text) : Except Error (α × Text) :=
  match skipSpace text with
  | [] => .error (.fault .valueEnds)
  | '"' :: rest => do
    let (name, rest) ← readString rest
    return (← variantOf variants name, rest)
  | '{' :: rest => do
    match ← nextKey true rest with
    | none => .error (.fault .valueExpected)
    | some rest =>
      let (name, rest) ← readString rest
      let variant ← variantOf variants name
      let rest ← readNull (← readColon rest)
      match skipSpace rest with
      | [] => .error (.fault .objectEnds)
      | '}' :: rest => .ok (variant, rest)
      | _ => .error (.fault .valueExpected)
  | _ => .error (.fault .valueExpected)

/-- The list at which the text stands, its items read by the given reader. -/
def readList {α : Type} (readItem : Text → Except Error (α × Text)) (text : Text) :
    Except Error (List α × Text) :=
  match skipSpace text with
  | [] => .error (.fault .valueEnds)
  | '[' :: rest => readItems readItem (rest.length + 1) true rest
  | other => .error (refuse "a sequence" other)

/-! Structures -/

/-- An entry of a structure: its name, whether it has to be present, whether a draft has it, and how
it is read into a draft. -/
structure Entry (draft : Type) where
  name : Text
  isRequired : Bool
  isPresent : draft → Bool
  read : draft → Text → Except Error (draft × Text)

/-- A kind of structure: its name and its entries in order. -/
structure Schema (draft : Type) where
  name : Text
  entries : List (Entry draft)

variable {draft : Type}

def Schema.expected (schema : Schema draft) : Text := "struct ".toList ++ schema.name

/-- Reads the value of a member, whose key has been read, into a draft. A member without an entry is
passed over. -/
def Schema.readMember (schema : Schema draft) (value : draft) (key text : Text) :
    Except Error (draft × Text) :=
  match schema.entries.find? (·.name = key) with
  | none => do return (value, ← skip (← readColon text))
  | some entry =>
    if entry.isPresent value then .error (.mismatch (.duplicate key))
    else do entry.read value (← readColon text)

/-- Reads the items of an array into a draft, entry by entry from the one with the given index on.
Only entries that need not be present may be left out, and only at the end. -/
def Schema.readEntries (schema : Schema draft) (index : Nat) (value : draft) (text : Text) :
    List (Entry draft) → Except Error (draft × Text)
  | [] => .ok (value, text)
  | entry :: entries => do
    match ← nextItem (index = 0) text with
    | none =>
      if entry.isRequired then
        let count := Text.ofNat schema.entries.length
        .error (.mismatch (.length index (schema.expected ++ " with " ++ count ++ " elements")))
      else readEntries schema (index + 1) value text entries
    | some text =>
      let (value, text) ← entry.read value text
      readEntries schema (index + 1) value text entries

/-- The draft of the structure at which the text stands. -/
def Schema.read (schema : Schema draft) (blank : draft) (text : Text) :
    Except Error (draft × Text) :=
  match skipSpace text with
  | [] => .error (.fault .valueEnds)
  | '[' :: rest => do
    let (value, rest) ← schema.readEntries 0 blank rest schema.entries
    return (value, ← endArray rest)
  | '{' :: rest => do
    let (value, rest) ← readMembers schema.readMember (rest.length + 1) true blank rest
    match schema.entries.find? fun entry => entry.isRequired && !entry.isPresent value with
    | some entry => .error (.mismatch (.missing entry.name))
    | none => return (value, rest)
  | other => .error (refuse schema.expected other)

end WrapperGen.Json
