/-!
Text as a list of characters, and the ways in which it is cut and joined. Everything that the
generator reads or writes is cut by one function, `splitWhere`: lines, words, parameters and the
components of a path.
-/

namespace WrapperGen

/-- Text is the list of its characters. -/
abbrev Text := List Char

instance : Coe String Text := ⟨String.toList⟩

namespace Text

/-- What holds of all characters in a text is decided along the text, not along all characters. -/
instance decidableForallMem (text : Text) (property : Char → Prop) [DecidablePred property] :
    Decidable (∀ char ∈ text, property char) :=
  List.decidableBAll property text

/-- The number of bytes that the text takes in UTF-8. -/
def byteLength (text : Text) : Nat :=
  text.foldr (fun character bytes => character.utf8Size + bytes) 0

/-- The pieces between the characters that `isMark` picks out, one more than there are marks. -/
def splitWhere (isMark : Char → Bool) : Text → List Text
  | [] => [[]]
  | first :: rest =>
    if isMark first then [] :: splitWhere isMark rest
    else match splitWhere isMark rest with
      | [] => [[first]]
      | piece :: pieces => (first :: piece) :: pieces

/-- The text before and the text after the first `mark`, if there is one. -/
def cut? (mark : Char) : Text → Option (Text × Text)
  | [] => none
  | first :: rest =>
    if first = mark then some ([], rest)
    else (cut? mark rest).map fun (before, after) => (first :: before, after)

def join (separator : Text) : List Text → Text
  | [] => []
  | [piece] => piece
  | piece :: pieces => piece ++ separator ++ join separator pieces

/-- The text without the longest tail that consists of characters with the property. -/
def dropTailWhile (property : Char → Bool) : Text → Text
  | [] => []
  | first :: rest =>
    match dropTailWhile property rest with
    | [] => if property first then [] else [first]
    | kept => first :: kept

/-- Each non-overlapping occurrence of a pattern, found from the left, replaced. `passed` counts
the characters of an occurrence that are still to be left out. -/
def replaceFrom (pattern replacement : Text) (passed : Nat) : Text → Text
  | [] => []
  | first :: rest =>
    match passed with
    | remaining + 1 => replaceFrom pattern replacement remaining rest
    | 0 =>
      if pattern.isPrefixOf (first :: rest) then
        replacement ++ replaceFrom pattern replacement (pattern.length - 1) rest
      else first :: replaceFrom pattern replacement 0 rest

/-- The text with each occurrence of a non-empty pattern replaced, found from the left. -/
def replaceAll (text pattern replacement : Text) : Text :=
  replaceFrom pattern replacement 0 text

/-- Whether the code of a character lies in one of the ranges, ends included. -/
def isWithin (ranges : List (Nat × Nat)) (char : Char) : Bool :=
  ranges.any fun (low, high) => low ≤ char.toNat && char.toNat ≤ high

def ofNat (number : Nat) : Text := Nat.toDigits 10 number

end Text

end WrapperGen
