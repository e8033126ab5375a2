import WrapperGen.Proofs.Interface.Placement

/-!
Descriptions one behind the other. What a line says moves with the line, so whole lines behind a
text are read as they are read alone, further down and further on, unless the deprecated section
has begun.
-/

namespace WrapperGen

def Span.moved (bytes : Nat) (span : Span) : Span := ⟨span.start + bytes, span.stop + bytes⟩

def Param.moved (bytes : Nat) (param : Param) : Param :=
  { param with span := param.span.moved bytes }

/-- The message as it is read so many lines further down and so many bytes further on. -/
def Declaration.moved (lines bytes : Nat) (declaration : Declaration) : Declaration :=
  { declaration with
    wparam := declaration.wparam.moved bytes
    lparam := declaration.lparam.moved bytes
    line := declaration.line + lines
    span := declaration.span.moved bytes }

def Enumeration.moved (lines : Nat) (enumeration : Enumeration) : Enumeration :=
  { enumeration with line := enumeration.line + lines }

def Category.moved (lines : Nat) (category : Category) : Category :=
  { category with line := category.line + lines }

def Entry.moved (lines bytes : Nat) : Entry → Entry
  | .declaration said => .declaration (said.moved lines bytes)
  | .enumeration said => .enumeration (said.moved lines)
  | .category said => .category (said.moved lines)

def PlacedLine.moved (lines bytes : Nat) (line : PlacedLine) : PlacedLine :=
  { line with number := line.number + lines, start := line.start + bytes }

namespace Scanner

theorem readSlot_moved (piece : Text) (pieceStart listEnd bytes : Nat) :
    readSlot piece (pieceStart + bytes) (listEnd + bytes) =
      (readSlot piece pieceStart listEnd).moved bytes := by
  rw [readSlot, readSlot]
  split
  · rfl
  · simp only [Param.moved, Span.moved, Param.mk.injEq, Span.mk.injEq, true_and]
    omega

theorem readSlots_moved (list : Text) (start bytes : Nat) :
    readSlots list (start + bytes) =
      ((readSlots list start).1.moved bytes, (readSlots list start).2.moved bytes) := by
  have stop : start + bytes + list.byteLength = start + list.byteLength + bytes := by omega
  rw [readSlots, readSlots]
  simp only [stop]
  split
  · simp only [readSlot_moved]
  · simp only [readSlot_moved]
  · rename_i first second _ _
    have next : start + bytes + first.byteLength + 1 = start + first.byteLength + 1 + bytes := by
      omega
    simp only [readSlot_moved, next]

theorem readDeclaration?_moved (line : Text) (number start lines bytes : Nat) :
    readDeclaration? line (number + lines) (start + bytes) =
      (readDeclaration? line number start).map (·.moved lines bytes) := by
  rw [readDeclaration?, readDeclaration?]
  split
  · rfl
  · split
    · rename_i head tail _ keyword returnType name _ _
      have list : start + bytes + (parameterList line).2 =
          start + (parameterList line).2 + bytes := by omega
      have stop : start + bytes + line.byteLength = start + line.byteLength + bytes := by omega
      cases Feature.ofKeyword? keyword with
      | none => rfl
      | some feature =>
          simp only [Option.map_some, list, stop, readSlots_moved]
          rfl
    · rfl

theorem readEnumeration?_moved (line : Text) (number lines : Nat) :
    readEnumeration? line (number + lines) =
      (readEnumeration? line number).map (·.moved lines) := by
  rw [readEnumeration?, readEnumeration?]
  split
  · rfl
  · split <;> rfl

theorem readCategory?_moved (line : Text) (number lines : Nat) :
    readCategory? line (number + lines) = (readCategory? line number).map (·.moved lines) := by
  rw [readCategory?, readCategory?]
  split <;> rfl

theorem says?_moved (lines bytes : Nat) (line : PlacedLine) :
    (line.moved lines bytes).says? = line.says?.map (·.moved lines bytes) := by
  simp only [PlacedLine.says?, PlacedLine.moved, readEntry?]
  split
  · rfl
  · split
    · rw [readCategory?_moved, Option.map_map, Option.map_map]
      rfl
    · split
      · rw [readEnumeration?_moved, Option.map_map, Option.map_map]
        rfl
      · rw [readDeclaration?_moved, Option.map_map, Option.map_map]
        rfl

theorem place_moved (number start lines bytes : Nat) (raws : List Text) :
    place (number + lines) (start + bytes) raws =
      (place number start raws).map (·.moved lines bytes) := by
  induction raws generalizing number start with
  | nil => rfl
  | cons raw rest ih =>
      have nextNumber : number + lines + 1 = number + 1 + lines := by omega
      have nextStart : start + bytes + raw.byteLength + 1 = start + raw.byteLength + 1 + bytes := by
        omega
      rw [place, place, nextNumber, nextStart, ih]
      rfl

theorem takeWhile_moved (lines bytes : Nat) (placed : List PlacedLine) :
    (placed.map (·.moved lines bytes)).takeWhile (!·.isDeprecated) =
      (placed.takeWhile (!·.isDeprecated)).map (·.moved lines bytes) := by
  rw [List.takeWhile_map]
  rfl

theorem entries_moved (lines bytes : Nat) (placed : List PlacedLine) :
    entries (placed.map (·.moved lines bytes)) = (entries placed).map (·.moved lines bytes) := by
  simp only [entries, takeWhile_moved, List.filterMap_map, List.map_filterMap]
  congr 1
  funext line
  exact says?_moved lines bytes line

theorem ofLines_moved (lines bytes : Nat) (placed : List PlacedLine) :
    Interface.ofLines (placed.map (·.moved lines bytes)) = {
      declarations := (Interface.ofLines placed).declarations.map (·.moved lines bytes)
      enumerations := (Interface.ofLines placed).enumerations.map (·.moved lines)
      categories := (Interface.ofLines placed).categories.map (·.moved lines)
      truncatedAt := (Interface.ofLines placed).truncatedAt.map (· + lines) } := by
  simp only [Interface.ofLines, entries_moved, List.filterMap_map, List.map_filterMap,
    List.find?_map, Option.map_map, Interface.mk.injEq]
  refine ⟨?_, ?_, ?_, rfl⟩
  · congr 1
    funext entry
    cases entry <;> rfl
  · congr 1
    funext entry
    cases entry <;> rfl
  · congr 1
    funext entry
    cases entry <;> rfl

theorem ofLines_append_empty (placed : List PlacedLine) (number start : Nat) :
    Interface.ofLines (placed ++ [⟨[], number, start⟩]) = Interface.ofLines placed := by
  by_cases whole : (Interface.ofLines placed).truncatedAt = none
  · have empty : Interface.ofLines [⟨[], number, start⟩] = {} := rfl
    rw [ofLines_append_of_whole whole, empty]
    simp only [List.append_nil]
    rw [← whole]
  · exact ofLines_append_of_truncated whole _

end Scanner

open Scanner

/-- Whole lines before a text are read first. If the deprecated section begins in them, they are
all that is read; if not, what they say stands before what the text says, moved down by the number
of lines and on by the number of bytes before it. -/
theorem read_append (front back : Text) (whole : front = [] ∨ front.getLast? = some '\n') :
    ((Interface.read front).truncatedAt.isSome = true →
      Interface.read (front ++ back) = Interface.read front) ∧
    ((Interface.read front).truncatedAt = none →
      Interface.read (front ++ back) = {
        declarations := (Interface.read front).declarations ++
          (Interface.read back).declarations.map (·.moved (front.count '\n') front.byteLength)
        enumerations := (Interface.read front).enumerations ++
          (Interface.read back).enumerations.map (·.moved (front.count '\n'))
        categories := (Interface.read front).categories ++
          (Interface.read back).categories.map (·.moved (front.count '\n'))
        truncatedAt := (Interface.read back).truncatedAt.map (· + front.count '\n') }) := by
  obtain ⟨lines, rfl, unbroken⟩ := Text.eq_endLines_of_whole whole
  have alone : Text.rawLines (Text.endLines lines) = lines ++ [[]] := by
    simpa [Text.rawLines, Text.splitWhere] using Text.rawLines_endLines_append unbroken []
  have first : Interface.read (Text.endLines lines) = .ofLines (place 1 0 lines) := by
    rw [read_eq_ofLines, alone, place_append]
    exact ofLines_append_empty _ _ _
  have both : Interface.read (Text.endLines lines ++ back) =
      .ofLines (place 1 0 lines ++ (place 1 0 back.rawLines).map
        (·.moved lines.length (Text.endLines lines).byteLength)) := by
    rw [read_eq_ofLines, Text.rawLines_endLines_append unbroken, place_append, place_moved]
  rw [first, both, Text.count_endLines unbroken]
  constructor
  · intro truncated
    exact ofLines_append_of_truncated (Option.isSome_iff_ne_none.mp truncated) _
  · intro untruncated
    rw [ofLines_append_of_whole untruncated, ofLines_moved, read_eq_ofLines]

theorem read_append_accented_and_deprecated :
    let front : Text := "cat Übersicht\r\nfun void A=1(int é,)\n"
    let back : Text := "enu E=X\nget E B=2(, E e)"
    let ended : Text := "fun void A=1(,)\ncat Deprecated\n"
    ((front = [] ∨ front.getLast? = some '\n') ∧ (Interface.read front).truncatedAt = none ∧
      Interface.read (front ++ back) = {
        declarations := (Interface.read front).declarations ++
          (Interface.read back).declarations.map (·.moved 2 38)
        enumerations := (Interface.read front).enumerations ++
          (Interface.read back).enumerations.map (·.moved 2)
        categories := (Interface.read front).categories ++
          (Interface.read back).categories.map (·.moved 2)
        truncatedAt := (Interface.read back).truncatedAt.map (· + 2) }) ∧
    ((ended = [] ∨ ended.getLast? = some '\n') ∧
      (Interface.read ended).truncatedAt.isSome = true ∧
      Interface.read (ended ++ back) = Interface.read ended) := by
  intro front back ended
  have frontWhole : front = [] ∨ front.getLast? = some '\n' := by decide
  have frontOpen : (Interface.read front).truncatedAt = none := by decide
  have endedWhole : ended = [] ∨ ended.getLast? = some '\n' := by decide
  have endedShut : (Interface.read ended).truncatedAt.isSome = true := by decide
  have lineCount : front.count '\n' = 2 := by decide
  have byteCount : front.byteLength = 38 := by decide
  refine ⟨⟨frontWhole, frontOpen, ?_⟩, endedWhole, endedShut, ?_⟩
  · rw [(read_append front back frontWhole).2 frontOpen, lineCount, byteCount]
  · exact (read_append ended back endedWhole).1 endedShut

end WrapperGen
