import WrapperGen.Proofs.Interface.Placement
import WrapperGen.Proofs.Text.Words

/-!
What one line says. Each reader of a line accepts exactly the lines of its shape, and the word that
opens a line decides which reader looks at it.
-/

namespace WrapperGen

theorem Feature.ofKeyword?_eq_some_iff {word : Text} {feature : Feature} :
    Feature.ofKeyword? word = some feature ↔ word = feature.keyword := by
  constructor
  · intro found
    have := List.find?_some found
    simpa [eq_comm] using this
  · rintro rfl
    cases feature <;> rfl

namespace Scanner

theorem readDeclaration?_eq_some_iff {line : Text} {number start : Nat}
    {declaration : Declaration} :
    readDeclaration? line number start = some declaration ↔
      ∃ head tail rest, line = head ++ '=' :: tail ∧ '=' ∉ head ∧
        Text.words head = declaration.feature.keyword :: declaration.returnType ::
          declaration.name :: rest ∧
        declaration.id = readId? head tail ∧
        (declaration.wparam, declaration.lparam) =
          readSlots (parameterList line).1 (start + (parameterList line).2) ∧
        declaration.line = number ∧ declaration.span = ⟨start, start + line.byteLength⟩ := by
  constructor
  · intro read
    rw [readDeclaration?] at read
    split at read
    · simp at read
    · rename_i head tail cut
      obtain ⟨same, absent⟩ := Text.cut?_eq_some_iff.mp cut
      split at read
      · rename_i keyword returnType name rest words
        obtain ⟨feature, known, rfl⟩ := Option.map_eq_some_iff.mp read
        obtain rfl := Feature.ofKeyword?_eq_some_iff.mp known
        exact ⟨head, tail, rest, same, absent, words, rfl, rfl, rfl, rfl⟩
      · simp at read
  · rintro ⟨head, tail, rest, same, absent, words, id, slots, lineEq, spanEq⟩
    obtain ⟨feature, returnType, name, readId, wparam, lparam, line, span⟩ := declaration
    simp only at words id slots lineEq spanEq
    rw [readDeclaration?, Text.cut?_eq_some_iff.mpr ⟨same, absent⟩]
    simp only [words, Feature.ofKeyword?_eq_some_iff.mpr rfl, Option.map_some, ← slots, ← id,
      lineEq, spanEq]

theorem readEnumeration?_eq_some_iff {line : Text} {number : Nat} {enumeration : Enumeration} :
    readEnumeration? line number = some enumeration ↔
      ∃ head tail keyword rest, line = head ++ '=' :: tail ∧ '=' ∉ head ∧
        Text.words head = keyword :: enumeration.name :: rest ∧
        enumeration.prefixes = Text.words tail ∧ enumeration.line = number := by
  constructor
  · intro read
    rw [readEnumeration?] at read
    split at read
    · simp at read
    · rename_i head tail cut
      obtain ⟨same, absent⟩ := Text.cut?_eq_some_iff.mp cut
      split at read
      · rename_i keyword name rest words
        obtain rfl := Option.some.inj read
        exact ⟨head, tail, keyword, rest, same, absent, words, rfl, rfl⟩
      · simp at read
  · rintro ⟨head, tail, keyword, rest, same, absent, words, prefixes, lineEq⟩
    rw [readEnumeration?, Text.cut?_eq_some_iff.mpr ⟨same, absent⟩]
    simp only [words]
    rw [← prefixes, ← lineEq]

theorem readCategory?_eq_some_iff {line : Text} {number : Nat} {category : Category} :
    readCategory? line number = some category ↔
      ∃ keyword rest, Text.words line = keyword :: category.name :: rest ∧
        category.line = number := by
  constructor
  · intro read
    rw [readCategory?] at read
    split at read
    · rename_i keyword name rest words
      obtain rfl := Option.some.inj read
      exact ⟨keyword, rest, words, rfl⟩
    · simp at read
  · rintro ⟨keyword, rest, words, lineEq⟩
    rw [readCategory?, words]
    simp only
    rw [← lineEq]

theorem words_of_readDeclaration? {line : Text} {number start : Nat} {declaration : Declaration}
    (read : readDeclaration? line number start = some declaration) :
    ∃ rest, Text.words line = declaration.feature.keyword :: rest := by
  obtain ⟨head, tail, rest, rfl, _, words, _⟩ := readDeclaration?_eq_some_iff.mp read
  exact Text.words_append_of_cons_cons words _

theorem says?_eq_declaration_iff {line : PlacedLine} {declaration : Declaration} :
    line.says? = some (.declaration declaration) ↔
      readDeclaration? line.content line.number line.start = some declaration := by
  rw [PlacedLine.says?, readEntry?]
  constructor
  · intro said
    split at said
    · simp at said
    · split at said
      · simp at said
      · split at said
        · simp at said
        · simpa using said
  · intro read
    obtain ⟨rest, words⟩ := words_of_readDeclaration? read
    have notCategory : declaration.feature.keyword ≠ ("cat" : Text) := by
      cases declaration.feature <;> decide
    have notEnumeration : declaration.feature.keyword ≠ ("enu" : Text) := by
      cases declaration.feature <;> decide
    simp only [words, notCategory, notEnumeration, ↓reduceIte, read, Option.map_some]

theorem says?_eq_enumeration_iff {line : PlacedLine} {enumeration : Enumeration} :
    line.says? = some (.enumeration enumeration) ↔
      (Text.words line.content).head? = some ("enu" : Text) ∧
        readEnumeration? line.content line.number = some enumeration := by
  have distinct : ("cat" : Text) ≠ ("enu" : Text) := by decide
  rw [PlacedLine.says?, readEntry?]
  split
  · rename_i none
    simp [none]
  · rename_i keyword rest words
    rw [words, List.head?_cons, Option.some.injEq]
    split
    · rename_i isCategory
      simp only [isCategory, distinct, false_and, iff_false]
      simp
    · split
      · rename_i isEnumeration
        simp [isEnumeration]
      · rename_i other
        simp only [other, false_and, iff_false]
        simp

theorem says?_eq_category_iff {line : PlacedLine} {category : Category} :
    line.says? = some (.category category) ↔
      (Text.words line.content).head? = some ("cat" : Text) ∧
        readCategory? line.content line.number = some category := by
  rw [PlacedLine.says?, readEntry?]
  split
  · rename_i none
    simp [none]
  · rename_i keyword rest words
    rw [words, List.head?_cons, Option.some.injEq]
    split
    · rename_i isCategory
      simp [isCategory]
    · rename_i other
      simp only [other, false_and, iff_false]
      split <;> simp

/-- The messages of a description are those that its lines before the deprecated section declare. -/
theorem mem_declarations {text : Text} {declaration : Declaration} :
    declaration ∈ (Interface.read text).declarations ↔
      ∃ line ∈ (place 1 0 text.rawLines).takeWhile (!·.isDeprecated),
        readDeclaration? line.content line.number line.start = some declaration := by
  simp only [read_eq_ofLines, Interface.ofLines, entries, List.mem_filterMap,
    Entry.declaration?_eq_some_iff, ← says?_eq_declaration_iff]
  constructor
  · rintro ⟨_, ⟨line, kept, said⟩, rfl⟩
    exact ⟨line, kept, said⟩
  · rintro ⟨line, kept, said⟩
    exact ⟨_, ⟨line, kept, said⟩, rfl⟩

end Scanner

end WrapperGen
