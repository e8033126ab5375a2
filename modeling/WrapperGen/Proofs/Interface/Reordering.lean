import WrapperGen.Proofs.Interface.Concatenation
import WrapperGen.Proofs.Interface.LineGrammar

/-!
Descriptions with the same lines in another order. What a line says apart from its place does not
depend on the other lines, so two such descriptions declare the same messages and name the same
enumerations, and so do two that differ in lines which do neither.
-/

namespace WrapperGen

def Param.unplaced (param : Param) : Param := { param with span := .emptyAt 0 }

def Declaration.unplaced (declaration : Declaration) : Declaration :=
  { declaration with
    wparam := declaration.wparam.unplaced
    lparam := declaration.lparam.unplaced
    line := 0
    span := .emptyAt 0 }

def Enumeration.unplaced (enumeration : Enumeration) : Enumeration := { enumeration with line := 0 }

def Category.unplaced (category : Category) : Category := { category with line := 0 }

def Entry.unplaced : Entry → Entry
  | .declaration said => .declaration said.unplaced
  | .enumeration said => .enumeration said.unplaced
  | .category said => .category said.unplaced

theorem Entry.unplaced_moved (lines bytes : Nat) (entry : Entry) :
    (entry.moved lines bytes).unplaced = entry.unplaced := by
  cases entry <;> rfl

/-- Two descriptions declare the same messages, each as often, and name the same enumerations. -/
structure Interface.SameContents (first second : Interface) : Prop where
  messages : (first.declarations.map (·.unplaced)).Perm (second.declarations.map (·.unplaced))
  enumerations : ∀ name, name ∈ first.enumerationNames ↔ name ∈ second.enumerationNames

theorem Interface.SameContents.symm {first second : Interface}
    (same : first.SameContents second) : second.SameContents first :=
  ⟨same.messages.symm, fun name => (same.enumerations name).symm⟩

/-- A line that can be left out: no enumeration is named on it and no message declared. -/
def IsIdleLine (line : Text) : Prop := ¬ IsEnumerationLine line ∧ ¬ IsDeclarationLine line

instance : DecidablePred IsIdleLine := fun _ => inferInstanceAs (Decidable (_ ∧ _))

namespace Scanner

def meaning? (line : Text) : Option Entry :=
  (PlacedLine.says? ⟨line, 0, 0⟩).map (·.unplaced)

theorem says?_unplaced (line : PlacedLine) :
    line.says?.map (·.unplaced) = meaning? line.content := by
  -- a line is the first line of a description, moved to where it stands
  have placed : line = PlacedLine.moved line.number line.start ⟨line.content, 0, 0⟩ := by
    simp only [PlacedLine.moved, Nat.zero_add]
  rw [placed, says?_moved, Option.map_map]
  simp only [Function.comp_def, Entry.unplaced_moved]
  rfl

theorem entries_unplaced {number start : Nat} {raws : List Text}
    (kept : ∀ raw ∈ raws, deprecatedMark.isPrefixOf (Text.dropReturn raw) = false) :
    (entries (place number start raws)).map (·.unplaced) =
      raws.filterMap fun raw => meaning? (Text.dropReturn raw) := by
  induction raws generalizing number start with
  | nil => rfl
  | cons raw rest ih =>
      simp only [List.forall_mem_cons] at kept
      have first : PlacedLine.isDeprecated ⟨Text.dropReturn raw, number, start⟩ = false := kept.1
      have said := says?_unplaced ⟨Text.dropReturn raw, number, start⟩
      rw [place, entries_cons_kept first, List.map_append, ih kept.2, List.filterMap_cons, ← said]
      cases PlacedLine.says? ⟨Text.dropReturn raw, number, start⟩ with
      | none => rfl
      | some entry => rfl

theorem isPrefixOf_dropReturn {raw : Text} (kept : deprecatedMark.isPrefixOf raw = false) :
    deprecatedMark.isPrefixOf (Text.dropReturn raw) = false := by
  obtain ⟨ending, same, _⟩ := Text.eq_dropReturn_append raw
  rw [← Bool.not_eq_true, List.isPrefixOf_iff_prefix] at kept ⊢
  intro opens
  apply kept
  rw [same]
  exact opens.trans (List.prefix_append _ _)

theorem read_endLines {lines : List Text} (unbroken : ∀ line ∈ lines, '\n' ∉ line) :
    Interface.read (Text.endLines lines) = .ofLines (place 1 0 lines) := by
  have alone : Text.rawLines (Text.endLines lines) = lines ++ [[]] := by
    simpa [Text.rawLines, Text.splitWhere] using Text.rawLines_endLines_append unbroken []
  rw [read_eq_ofLines, alone, place_append]
  exact ofLines_append_empty _ _ _

/-- A line without a line feed in it that does not open the deprecated section. -/
def IsPlainLine (line : Text) : Prop := '\n' ∉ line ∧ deprecatedMark.isPrefixOf line = false

instance : DecidablePred IsPlainLine := fun _ => inferInstanceAs (Decidable (_ ∧ _))

def message? (raw : Text) : Option Declaration :=
  (meaning? (Text.dropReturn raw)).bind Entry.declaration?

def enumeration? (raw : Text) : Option Enumeration :=
  (meaning? (Text.dropReturn raw)).bind Entry.enumeration?

theorem entries_endLines {lines : List Text} (plain : ∀ line ∈ lines, IsPlainLine line) :
    (entries (place 1 0 lines)).map (·.unplaced) =
      lines.filterMap fun raw => meaning? (Text.dropReturn raw) :=
  entries_unplaced fun raw member => isPrefixOf_dropReturn (plain raw member).2

theorem messages_endLines {lines : List Text} (plain : ∀ line ∈ lines, IsPlainLine line) :
    (Interface.read (Text.endLines lines)).declarations.map (·.unplaced) =
      lines.filterMap message? := by
  have unplaced (entry : Entry) :
      entry.unplaced.declaration? = entry.declaration?.map (·.unplaced) := by
    cases entry <;> rfl
  have said := congrArg (List.filterMap Entry.declaration?) (entries_endLines plain)
  simp only [List.filterMap_map, List.filterMap_filterMap, Function.comp_def, unplaced] at said
  rw [read_endLines fun line member => (plain line member).1, Interface.ofLines,
    List.map_filterMap]
  exact said

theorem enumerationNames_endLines {lines : List Text} (plain : ∀ line ∈ lines, IsPlainLine line) :
    (Interface.read (Text.endLines lines)).enumerationNames =
      lines.filterMap fun raw => (enumeration? raw).map (·.name) := by
  have unplaced (entry : Entry) :
      entry.unplaced.enumeration? = entry.enumeration?.map (·.unplaced) := by
    cases entry <;> rfl
  have said := congrArg (fun said => (said.filterMap Entry.enumeration?).map (·.name))
    (entries_endLines plain)
  simp only [List.filterMap_map, List.filterMap_filterMap, List.map_filterMap, Function.comp_def,
    unplaced, Option.map_map] at said
  rw [read_endLines fun line member => (plain line member).1, Interface.enumerationNames,
    Interface.ofLines, List.map_filterMap]
  exact said

theorem says_nothing_of_isIdleLine {raw : Text} (idle : IsIdleLine (Text.dropReturn raw)) :
    message? raw = none ∧ enumeration? raw = none := by
  have said := says?_unplaced ⟨Text.dropReturn raw, 0, 0⟩
  rw [message?, enumeration?, ← said]
  rcases read : PlacedLine.says? ⟨Text.dropReturn raw, 0, 0⟩ with
    _ | declaration | enumeration | category
  · exact ⟨rfl, rfl⟩
  · exact absurd (says?_declaration read).1 idle.2
  · exact absurd (says?_enumeration read).1 idle.1
  · exact ⟨rfl, rfl⟩

theorem filterMap_perm_of_silent {α : Type} {said : Text → Option α} {lines idle others : List Text}
    (mixed : others.Perm (lines ++ idle)) (silent : ∀ line ∈ idle, said line = none) :
    (others.filterMap said).Perm (lines.filterMap said) := by
  have nothing : idle.filterMap said = [] := List.filterMap_eq_nil_iff.mpr silent
  simpa only [List.filterMap_append, nothing, List.append_nil] using mixed.filterMap said

/-- The contents of a description do not depend on the order of its lines nor on its idle ones. -/
theorem sameContents_of_perm {lines idle others : List Text}
    (plain : ∀ line ∈ lines ++ idle, IsPlainLine line)
    (isIdle : ∀ line ∈ idle, IsIdleLine (Text.dropReturn line))
    (mixed : others.Perm (lines ++ idle)) :
    (Interface.read (Text.endLines others)).SameContents
      (Interface.read (Text.endLines lines)) := by
  have othersPlain (line : Text) (member : line ∈ others) : IsPlainLine line :=
    plain line (mixed.mem_iff.mp member)
  have linesPlain (line : Text) (member : line ∈ lines) : IsPlainLine line :=
    plain line (List.mem_append_left idle member)
  constructor
  · rw [messages_endLines othersPlain, messages_endLines linesPlain]
    apply filterMap_perm_of_silent mixed
    intro line member
    exact (says_nothing_of_isIdleLine (isIdle line member)).1
  · intro name
    rw [enumerationNames_endLines othersPlain, enumerationNames_endLines linesPlain]
    apply (filterMap_perm_of_silent mixed _).mem_iff
    intro line member
    rw [(says_nothing_of_isIdleLine (isIdle line member)).2, Option.map_none]

end Scanner

end WrapperGen
