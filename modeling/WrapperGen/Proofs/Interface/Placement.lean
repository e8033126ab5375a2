import WrapperGen.Interface.Scanner
import WrapperGen.Proofs.Text.Cutting

/-!
Reading as a filter. Every line has a place in its text, what it says depends on its words and its
place alone, and a description collects what the lines before the deprecated section say.
-/

namespace WrapperGen

/-- A line in its place: its text without its end, its number and the offset at which it starts. -/
structure PlacedLine where
  content : Text
  number : Nat
  start : Nat
deriving DecidableEq, Repr

namespace PlacedLine

def isDeprecated (line : PlacedLine) : Bool := Scanner.deprecatedMark.isPrefixOf line.content

def says? (line : PlacedLine) : Option Entry :=
  Scanner.readEntry? line.content line.number line.start

end PlacedLine

namespace Entry

def declaration? : Entry → Option Declaration
  | .declaration said => some said
  | _ => none

def enumeration? : Entry → Option Enumeration
  | .enumeration said => some said
  | _ => none

def category? : Entry → Option Category
  | .category said => some said
  | _ => none

theorem declaration?_eq_some_iff (entry : Entry) (found : Declaration) :
    entry.declaration? = some found ↔ entry = .declaration found := by
  cases entry <;> simp [declaration?]

theorem enumeration?_eq_some_iff (entry : Entry) (found : Enumeration) :
    entry.enumeration? = some found ↔ entry = .enumeration found := by
  cases entry <;> simp [enumeration?]

theorem category?_eq_some_iff (entry : Entry) (found : Category) :
    entry.category? = some found ↔ entry = .category found := by
  cases entry <;> simp [category?]

end Entry

namespace Scanner

def place (number start : Nat) : List Text → List PlacedLine
  | [] => []
  | raw :: rest =>
    ⟨Text.dropReturn raw, number, start⟩ :: place (number + 1) (start + raw.byteLength + 1) rest

/-- What the lines before the deprecated section say. -/
def entries (lines : List PlacedLine) : List Entry :=
  (lines.takeWhile (!·.isDeprecated)).filterMap PlacedLine.says?

end Scanner

open Scanner

/-- The description that placed lines hold. -/
def Interface.ofLines (lines : List PlacedLine) : Interface where
  declarations := (entries lines).filterMap Entry.declaration?
  enumerations := (entries lines).filterMap Entry.enumeration?
  categories := (entries lines).filterMap Entry.category?
  truncatedAt := (lines.find? (·.isDeprecated)).map (·.number)

namespace Scanner

theorem entries_cons_deprecated {line : PlacedLine} (deprecated : line.isDeprecated = true)
    (lines : List PlacedLine) : entries (line :: lines) = [] := by
  simp [entries, deprecated]

theorem entries_cons_kept {line : PlacedLine} (kept : line.isDeprecated = false)
    (lines : List PlacedLine) : entries (line :: lines) = line.says?.toList ++ entries lines := by
  cases said : line.says? <;> simp [entries, kept, said]

theorem ofLines_cons (line : PlacedLine) (lines : List PlacedLine) :
    Interface.ofLines (line :: lines) =
      if line.isDeprecated then { truncatedAt := some line.number }
      else match line.says? with
        | none => Interface.ofLines lines
        | some entry => (Interface.ofLines lines).prepend entry := by
  cases deprecated : line.isDeprecated with
  | true => simp [Interface.ofLines, entries_cons_deprecated deprecated, deprecated]
  | false =>
      simp only [Interface.ofLines, entries_cons_kept deprecated, List.find?_cons, deprecated]
      rcases line.says? with _ | entry
      · rfl
      · cases entry <;> rfl

/-- Reading line after line gives what the placed lines hold. -/
theorem readLines_eq_ofLines (number start : Nat) (raws : List Text) :
    readLines number start raws = Interface.ofLines (place number start raws) := by
  induction raws generalizing number start with
  | nil => rfl
  | cons raw rest ih =>
      rw [readLines, place, ofLines_cons, ih]
      rfl

theorem read_eq_ofLines (text : Text) :
    Interface.read text = .ofLines (place 1 0 text.rawLines) :=
  readLines_eq_ofLines 1 0 text.rawLines

theorem truncatedAt_ofLines_eq_none {lines : List PlacedLine} :
    (Interface.ofLines lines).truncatedAt = none ↔ ∀ line ∈ lines, line.isDeprecated = false := by
  simp [Interface.ofLines]

theorem ofLines_append_of_truncated {front : List PlacedLine}
    (truncated : (Interface.ofLines front).truncatedAt ≠ none) (back : List PlacedLine) :
    Interface.ofLines (front ++ back) = Interface.ofLines front := by
  induction front with
  | nil => exact absurd rfl truncated
  | cons line front ih =>
      rw [List.cons_append, ofLines_cons, ofLines_cons]
      cases deprecated : line.isDeprecated with
      | true => rfl
      | false =>
          have later : (Interface.ofLines front).truncatedAt ≠ none := by
            simpa [truncatedAt_ofLines_eq_none, deprecated] using truncated
          rw [ih later]

theorem entries_append {front : List PlacedLine} (kept : ∀ line ∈ front, line.isDeprecated = false)
    (back : List PlacedLine) : entries (front ++ back) = entries front ++ entries back := by
  induction front with
  | nil => rfl
  | cons line front ih =>
      simp only [List.forall_mem_cons] at kept
      rw [List.cons_append, entries_cons_kept kept.1, entries_cons_kept kept.1, ih kept.2,
        List.append_assoc]

theorem ofLines_append_of_whole {front : List PlacedLine}
    (whole : (Interface.ofLines front).truncatedAt = none) (back : List PlacedLine) :
    Interface.ofLines (front ++ back) = {
      declarations := (Interface.ofLines front).declarations ++ (Interface.ofLines back).declarations
      enumerations := (Interface.ofLines front).enumerations ++ (Interface.ofLines back).enumerations
      categories := (Interface.ofLines front).categories ++ (Interface.ofLines back).categories
      truncatedAt := (Interface.ofLines back).truncatedAt } := by
  have kept := truncatedAt_ofLines_eq_none.mp whole
  have none : front.find? (·.isDeprecated) = none := by simpa using kept
  simp [Interface.ofLines, entries_append kept, List.find?_append, none]

theorem place_append (number start : Nat) (front back : List Text) :
    place number start (front ++ back) =
      place number start front ++
        place (number + front.length) (start + (Text.endLines front).byteLength) back := by
  induction front generalizing number start with
  | nil => rfl
  | cons raw front ih =>
      have feed : '\n'.utf8Size = 1 := rfl
      simp only [List.cons_append, place, ih, List.length_cons, Text.endLines_cons,
        Text.byteLength_append, Text.byteLength_cons, feed]
      congr 3 <;> omega

/-- A placed line is one of the raw lines, at the end of those before it. -/
theorem mem_place {number start : Nat} {raws : List Text} {line : PlacedLine}
    (member : line ∈ place number start raws) :
    ∃ before raw after, raws = before ++ raw :: after ∧ line.content = Text.dropReturn raw ∧
      line.number = number + before.length ∧
      line.start = start + (Text.endLines before).byteLength := by
  induction raws generalizing number start with
  | nil => simp [place] at member
  | cons raw rest ih =>
      rcases List.mem_cons.mp member with rfl | later
      · exact ⟨[], raw, rest, rfl, rfl, rfl, rfl⟩
      · obtain ⟨before, found, after, rfl, content, numberEq, startEq⟩ := ih later
        have feed : '\n'.utf8Size = 1 := rfl
        refine ⟨raw :: before, found, after, rfl, content, ?_, ?_⟩
        · rw [numberEq, List.length_cons]
          omega
        · rw [startEq, Text.endLines_cons, Text.byteLength_append, Text.byteLength_cons, feed]
          omega

/-- A placed line that is kept has no line before it that opens the deprecated section. -/
theorem mem_takeWhile_place {number start : Nat} {raws : List Text} {line : PlacedLine}
    (member : line ∈ (place number start raws).takeWhile (!·.isDeprecated)) :
    ∃ earlier raw later, raws = earlier ++ raw :: later ∧ line.content = Text.dropReturn raw ∧
      line.number = number + earlier.length ∧
      line.start = start + (Text.endLines earlier).byteLength ∧
      ∀ kept ∈ earlier ++ [raw], deprecatedMark.isPrefixOf (Text.dropReturn kept) = false := by
  induction raws generalizing number start with
  | nil => simp [place] at member
  | cons raw rest ih =>
      cases opens : deprecatedMark.isPrefixOf (Text.dropReturn raw) with
      | true => simp [place, PlacedLine.isDeprecated, opens] at member
      | false =>
          simp only [place, PlacedLine.isDeprecated, opens, Bool.not_false,
            List.takeWhile_cons_of_pos, List.mem_cons] at member
          rcases member with rfl | inRest
          · exact ⟨[], raw, rest, rfl, rfl, rfl, rfl, by simpa using opens⟩
          · obtain ⟨earlier, found, later, rfl, content, numberEq, startEq, kept⟩ := ih inRest
            have feed : '\n'.utf8Size = 1 := rfl
            refine ⟨raw :: earlier, found, later, rfl, content, ?_, ?_, ?_⟩
            · rw [numberEq, List.length_cons]
              omega
            · rw [startEq, Text.endLines_cons, Text.byteLength_append, Text.byteLength_cons, feed]
              omega
            · exact List.forall_mem_cons.mpr ⟨opens, kept⟩

end Scanner

end WrapperGen
