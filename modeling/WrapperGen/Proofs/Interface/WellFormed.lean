import WrapperGen.Proofs.Interface.LineGrammar
import WrapperGen.Proofs.Interface.Spans

/-!
What holds of every description that is read. Types and names are words without the marks at which
their line was cut, and the line numbers rise within each list, occur once, and stay within the text
and before the deprecated section.
-/

namespace WrapperGen

open Text (IsSolid IsWord)

/-- A slot has words for its type and its name, without the marks at which the list was cut. An
absent slot has neither. -/
structure Param.WellFormed (param : Param) : Prop where
  type : param.type.IsSolid ∧ ',' ∉ param.type ∧ ')' ∉ param.type
  name : param.name.IsSolid ∧ ',' ∉ param.name ∧ ')' ∉ param.name
  named : param.type = [] → param.name = []

/-- A number, where there is one, is trimmed and does not reach into the parameter list. -/
structure Declaration.WellFormed (declaration : Declaration) : Prop where
  returnType : declaration.returnType.IsWord ∧ '=' ∉ declaration.returnType
  name : declaration.name.IsWord ∧ '=' ∉ declaration.name
  id : ∀ id ∈ declaration.id, id ≠ [] ∧ '(' ∉ id ∧
    (∀ char ∈ id.head?, Text.isBlank char = false) ∧
    ∀ char ∈ id.getLast?, Text.isBlank char = false
  wparam : declaration.wparam.WellFormed
  lparam : declaration.lparam.WellFormed

structure Enumeration.WellFormed (enumeration : Enumeration) : Prop where
  name : enumeration.name.IsWord ∧ '=' ∉ enumeration.name
  prefixes : ∀ word ∈ enumeration.prefixes, word.IsWord

def Interface.declarationLines (interface : Interface) : List Nat :=
  interface.declarations.map (·.line)

def Interface.enumerationLines (interface : Interface) : List Nat :=
  interface.enumerations.map (·.line)

def Interface.categoryLines (interface : Interface) : List Nat := interface.categories.map (·.line)

/-- A description that can have been read from a text with so many lines. -/
structure Interface.WellFormed (interface : Interface) (lineCount : Nat) : Prop where
  declarations : ∀ declaration ∈ interface.declarations, declaration.WellFormed
  enumerations : ∀ enumeration ∈ interface.enumerations, enumeration.WellFormed
  categories : ∀ category ∈ interface.categories, category.name.IsWord
  rising : interface.declarationLines.Pairwise (· < ·) ∧
    interface.enumerationLines.Pairwise (· < ·) ∧ interface.categoryLines.Pairwise (· < ·)
  apart : interface.declarationLines.Disjoint interface.enumerationLines ∧
    interface.declarationLines.Disjoint interface.categoryLines ∧
    interface.enumerationLines.Disjoint interface.categoryLines
  within : ∀ line ∈ interface.declarationLines ++ interface.enumerationLines ++
    interface.categoryLines,
      1 ≤ line ∧ line ≤ lineCount ∧ ∀ truncated ∈ interface.truncatedAt, line < truncated

namespace Scanner

/-! Slots and numbers -/

theorem readSlot_wellFormed {piece : Text} (noComma : ',' ∉ piece) (noClosing : ')' ∉ piece)
    (pieceStart listEnd : Nat) : (readSlot piece pieceStart listEnd).WellFormed := by
  have empty : IsSolid [] ∧ ',' ∉ ([] : Text) ∧ ')' ∉ ([] : Text) := by
    simp [IsSolid]
  have word {word : Text} (member : word ∈ Text.words piece) :
      word.IsSolid ∧ ',' ∉ word ∧ ')' ∉ word :=
    ⟨(Text.mem_words member).2, fun comma => noComma (Text.mem_of_mem_words member comma),
      fun closing => noClosing (Text.mem_of_mem_words member closing)⟩
  rw [readSlot]
  split
  · exact ⟨empty, empty, fun _ => rfl⟩
  · rename_i type rest words
    have isType : type ∈ Text.words piece := by simp [words]
    refine ⟨word isType, ?_, fun absent => absurd absent (Text.mem_words isType).1⟩
    cases rest with
    | nil => exact empty
    | cons name rest => exact word (by simp [words])

theorem readSlots_wellFormed {list : Text} (noClosing : ')' ∉ list) (start : Nat) :
    (readSlots list start).1.WellFormed ∧ (readSlots list start).2.WellFormed := by
  obtain ⟨first, firstRest, lead, second, secondRest, firstIn, secondIn, firstComma, secondComma, _,
    pieces⟩ := readSlots_pieces list start
  rw [pieces]
  constructor
  · apply readSlot_wellFormed firstComma
    intro closing
    exact noClosing (by rw [firstIn]; simp [closing])
  · apply readSlot_wellFormed secondComma
    intro closing
    exact noClosing (by rw [secondIn]; simp [closing])

theorem readId?_eq_some {head tail id : Text} (read : readId? head tail = some id) :
    id ≠ [] ∧ '(' ∉ id ∧ (∀ char ∈ id.head?, Text.isBlank char = false) ∧
      ∀ char ∈ id.getLast?, Text.isBlank char = false := by
  rw [readId?] at read
  split at read
  · simp at read
  · dsimp only at read
    split at read
    · simp at read
    · rename_i nonempty
      obtain rfl := Option.some.inj read
      refine ⟨by simpa using nonempty, ?_, Text.head?_trim _, Text.getLast?_trim _⟩
      intro opening
      obtain ⟨trail, same, _⟩ := Text.eq_append_trim_append (tail.takeWhile (· ≠ '('))
      have inside : '(' ∈ tail.takeWhile (· ≠ '(') := by
        rw [same]
        exact List.mem_append_left _ (List.mem_append_right _ opening)
      simpa using List.mem_takeWhile_imp inside

/-! What a line says -/

theorem readDeclaration?_wellFormed {line : Text} {number start : Nat} {declaration : Declaration}
    (read : readDeclaration? line number start = some declaration) : declaration.WellFormed := by
  obtain ⟨head, tail, rest, _, noEquals, words, id, slots, _⟩ :=
    readDeclaration?_eq_some_iff.mp read
  obtain ⟨_, _, _, _, noClosing, _⟩ := parameterList_placed line
  have word {word : Text} (member : word ∈ Text.words head) : word.IsWord ∧ '=' ∉ word :=
    ⟨Text.mem_words member, fun equals => noEquals (Text.mem_of_mem_words member equals)⟩
  obtain ⟨wparam, lparam⟩ :=
    readSlots_wellFormed noClosing (start + (parameterList line).2)
  rw [← slots] at wparam lparam
  refine ⟨word (by simp [words]), word (by simp [words]), ?_, wparam, lparam⟩
  intro found member
  rw [id] at member
  exact readId?_eq_some member

theorem readEnumeration?_wellFormed {line : Text} {number : Nat} {enumeration : Enumeration}
    (read : readEnumeration? line number = some enumeration) : enumeration.WellFormed := by
  obtain ⟨head, tail, keyword, rest, _, noEquals, words, prefixes, _⟩ :=
    readEnumeration?_eq_some_iff.mp read
  have member : enumeration.name ∈ Text.words head := by simp [words]
  refine ⟨⟨Text.mem_words member, fun equals => noEquals (Text.mem_of_mem_words member equals)⟩, ?_⟩
  rw [prefixes]
  exact fun word => Text.mem_words

theorem read_declarations_wellFormed {text : Text} :
    ∀ declaration ∈ (Interface.read text).declarations, declaration.WellFormed := by
  intro declaration member
  obtain ⟨line, _, read⟩ := mem_declarations.mp member
  exact readDeclaration?_wellFormed read

theorem read_enumerations_wellFormed {text : Text} :
    ∀ enumeration ∈ (Interface.read text).enumerations, enumeration.WellFormed := by
  intro enumeration member
  simp only [read_eq_ofLines, Interface.ofLines, entries, List.mem_filterMap,
    Entry.enumeration?_eq_some_iff] at member
  obtain ⟨_, ⟨line, _, said⟩, rfl⟩ := member
  exact readEnumeration?_wellFormed (says?_eq_enumeration_iff.mp said).2

theorem read_categories_wellFormed {text : Text} :
    ∀ category ∈ (Interface.read text).categories, category.name.IsWord := by
  intro category member
  simp only [read_eq_ofLines, Interface.ofLines, entries, List.mem_filterMap,
    Entry.category?_eq_some_iff] at member
  obtain ⟨_, ⟨line, _, said⟩, rfl⟩ := member
  obtain ⟨keyword, rest, words, _⟩ := readCategory?_eq_some_iff.mp (says?_eq_category_iff.mp said).2
  have listed : category.name ∈ line.content.words := by simp [words]
  exact Text.mem_words listed

/-! Line numbers -/

/-- The numbers of the lines of one shape that come before the deprecated section. -/
def numbersOf (text : Text) (accept : Text → Prop) [DecidablePred accept] : List Nat :=
  ((keptLines text).filter (accept ·.1)).map (·.2)

theorem declarationLines_read (text : Text) :
    (Interface.read text).declarationLines = numbersOf text IsDeclarationLine := by
  simpa [Interface.declarationLines, numbersOf, Function.comp_def] using
    congrArg (List.map Prod.fst) (read_declarations text)

theorem enumerationLines_read (text : Text) :
    (Interface.read text).enumerationLines = numbersOf text IsEnumerationLine := by
  simpa [Interface.enumerationLines, numbersOf, Function.comp_def] using
    congrArg (List.map Prod.fst) (read_enumerations text)

theorem categoryLines_read (text : Text) :
    (Interface.read text).categoryLines = numbersOf text IsCategoryLine := by
  simpa [Interface.categoryLines, numbersOf, Function.comp_def] using
    congrArg (List.map Prod.fst) (read_categories text)

theorem numbersOf_rising (text : Text) (accept : Text → Prop) [DecidablePred accept] :
    (numbersOf text accept).Pairwise (· < ·) := by
  have numbers : (numbersOf text accept).Sublist ((keptLines text).map (·.2)) :=
    List.filter_sublist.map _
  refine List.Pairwise.sublist numbers ?_
  rw [keptLines, List.zipIdx_map_snd]
  exact List.pairwise_lt_range'

/-- Only the last raw line can fail to be a line of the block, and only if nothing stands on it. -/
theorem lt_length_blockLinesFrom {raws : List Text} {raw : Text} {index : Nat}
    (found : raws[index]? = some raw) (nonempty : raw ≠ []) :
    index < (Text.blockLinesFrom raws).length := by
  fun_induction Text.blockLinesFrom raws generalizing index with
  | case1 => simp at found
  | case2 =>
      obtain ⟨_, rfl⟩ := List.getElem?_eq_some_iff.mp found
      simp at nonempty
  | case3 last =>
      obtain ⟨bound, _⟩ := List.getElem?_eq_some_iff.mp found
      simpa using bound
  | case4 line lines _ ih =>
      cases index with
      | zero => simp
      | succ index =>
          have later := ih (by simpa using found)
          simpa using later

/-- A line that is kept has a number within the text and before the deprecated section. -/
theorem keptLines_within {text line : Text} {number : Nat} (kept : (line, number) ∈ keptLines text)
    (nonempty : line ≠ []) :
    1 ≤ number ∧ number ≤ text.blockLines.length ∧
      ∀ truncated ∈ (Interface.read text).truncatedAt, number < truncated := by
  obtain ⟨positive, found⟩ := List.mk_mem_zipIdx_iff_le_and_getElem?_sub.mp kept
  obtain ⟨bound, atNumber⟩ := List.getElem?_eq_some_iff.mp found
  refine ⟨positive, ?_, ?_⟩
  · have inText := List.prefix_iff_getElem?.mp (List.takeWhile_prefix _) _ bound
    rw [atNumber, lineContents, List.getElem?_map, Option.map_eq_some_iff] at inText
    obtain ⟨raw, isRaw, rfl⟩ := inText
    have filled : raw ≠ [] := by
      rintro rfl
      exact nonempty rfl
    have := lt_length_blockLinesFrom isRaw filled
    rw [Text.blockLines]
    omega
  · intro truncated member
    rw [read_eq_ofLines] at member
    have same := (find?_place 1 0 text.rawLines).symm.trans member
    obtain ⟨index, first, rfl⟩ := Option.map_eq_some_iff.mp same
    have place := (List.findIdx?_eq_some_iff_findIdx_eq.mp first).2
    rw [List.takeWhile_eq_take_findIdx_not, List.length_take] at bound
    simp only [Bool.not_not] at bound
    have earlier : number - 1 < index := by
      rw [← place]
      exact Nat.lt_of_lt_of_le bound (Nat.min_le_left _ _)
    omega

theorem numbersOf_within {text : Text} {accept : Text → Prop} [DecidablePred accept]
    (filled : ¬accept []) : ∀ number ∈ numbersOf text accept,
      1 ≤ number ∧ number ≤ text.blockLines.length ∧
        ∀ truncated ∈ (Interface.read text).truncatedAt, number < truncated := by
  intro number member
  obtain ⟨⟨line, _⟩, listed, rfl⟩ := List.mem_map.mp member
  obtain ⟨kept, accepted⟩ := List.mem_filter.mp listed
  refine keptLines_within kept ?_
  rintro rfl
  exact filled (by simpa using accepted)

end Scanner

open Scanner

/-- Whatever the text, the description that is read from it is well formed. -/
theorem read_wellFormed (text : Text) :
    (Interface.read text).WellFormed text.blockLines.length := by
  refine ⟨read_declarations_wellFormed, read_enumerations_wellFormed, read_categories_wellFormed,
    ?_, ?_, ?_⟩
  all_goals rw [declarationLines_read, enumerationLines_read, categoryLines_read]
  · exact ⟨numbersOf_rising _ _, numbersOf_rising _ _, numbersOf_rising _ _⟩
  · refine ⟨disjoint_numbers fun line declaration enumeration => ?_,
      disjoint_numbers fun line declaration category => ?_,
      disjoint_numbers fun line enumeration category => ?_⟩
    · exact enumeration.not_isDeclarationLine declaration
    · exact category.not_isDeclarationLine declaration
    · exact category.not_isEnumerationLine enumeration
  · intro number member
    rcases List.mem_append.mp member with front | inCategories
    · rcases List.mem_append.mp front with inDeclarations | inEnumerations
      · exact numbersOf_within (by decide) number inDeclarations
      · exact numbersOf_within (by decide) number inEnumerations
    · exact numbersOf_within (by decide) number inCategories

end WrapperGen
