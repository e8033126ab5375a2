import WrapperGen.Text.Basic

/-!
The arguments of a command: switches, some of which take a value, and words. A value stands in the
same argument as its switch or in the next one, and then it does not look like a switch itself.
-/

namespace WrapperGen

structure Switch where
  name : Text
  letter : Option Char := none
  takesValue : Bool := false
deriving DecidableEq, Repr

/-- A switch by its full name, with its value if it takes one, or a word. -/
inductive Argument
  | switch (name : Text) (value : Option Text)
  | word (text : Text)
deriving DecidableEq, Repr

namespace Argument

/-- What one argument holds, and the name of a switch whose value is still to come. -/
abbrev Reading := List Argument × Option Text

/-- Whether an argument reads as switches: it starts with a hyphen and is more than that. -/
def isSwitches (text : Text) : Bool := text.head? = some '-' && 1 < text.length

/-- Reads an argument that gives a switch by its name, after the two hyphens. -/
def readName? (known : List Switch) (text : Text) : Option Reading :=
  let (name, given) :=
    match text.cut? '=' with
    | some (name, value) => (name, some value)
    | none => (text, none)
  match known.find? (·.name = name) with
  | none => none
  | some found =>
    if found.takesValue then
      match given with
      | some value => some ([.switch name (some value)], none)
      | none => some ([], some name)
    else
      match given with
      | some _ => none
      | none => some ([.switch name none], none)

/-- Reads an argument that gives switches by their letters, after the hyphen. What follows the
letter of a switch that takes a value is the value, with or without an equals sign before it. -/
def readLetters? (known : List Switch) : Text → Option Reading
  | [] => some ([], none)
  | letter :: rest =>
    match known.find? (·.letter = some letter) with
    | none => none
    | some found =>
      if found.takesValue then
        match rest with
        | [] => some ([], some found.name)
        | '=' :: value => some ([.switch found.name (some value)], none)
        | value => some ([.switch found.name (some value)], none)
      else
        (readLetters? known rest).map fun (arguments, waiting) =>
          (.switch found.name none :: arguments, waiting)

def readSwitches? (known : List Switch) : Text → Option Reading
  | '-' :: '-' :: name => readName? known name
  | '-' :: letters => readLetters? known letters
  | _ => none

/-- The arguments of a command, unless it does not know one of them or a value is missing. After
two hyphens alone everything is a word. -/
def readAll? (known : List Switch) : List Text → Option (List Argument)
  | [] => some []
  | text :: rest =>
    if text = "--" then some (rest.map .word)
    else if isSwitches text then
      match readSwitches? known text, rest with
      | none, _ => none
      | some (arguments, none), rest => (readAll? known rest).map (arguments ++ ·)
      | some (_, some _), [] => none
      | some (arguments, some name), value :: rest =>
        if isSwitches value then none
        else (readAll? known rest).map fun later =>
          arguments ++ .switch name (some value) :: later
    else (readAll? known rest).map (.word text :: ·)

def name? : Argument → Option Text
  | switch name _ => some name
  | word _ => none

def word? : Argument → Option Text
  | switch _ _ => none
  | word text => some text

def isGiven (name : Text) (arguments : List Argument) : Bool :=
  arguments.any (·.name? = some name)

/-- The value of a switch, if it is among the arguments. -/
def value? (name : Text) (arguments : List Argument) : Option Text :=
  arguments.findSome? fun
    | switch other value => if other = name then value else none
    | word _ => none

/-- Whether no switch is given twice and there is at most one word. -/
def areSingle (arguments : List Argument) : Bool :=
  decide ((arguments.filterMap name?).Nodup) && (arguments.filterMap word?).length ≤ 1

end Argument

end WrapperGen
