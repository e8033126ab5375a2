import Mathlib.Data.List.Basic
import WrapperGen.Proofs.Interface.Entries

/-!
The grammar of lines. A line names a category, names an enumeration, declares a message or says
nothing, and which of these it does shows in its words alone; a description lists what its lines
before the deprecated section say.
-/

namespace WrapperGen

/-- The lines of a text, without their ends. -/
def lineContents (text : Text) : List Text := (Text.rawLines text).map Text.dropReturn

/-- The lines before the deprecated section, numbered from one. -/
def keptLines (text : Text) : List (Text × Nat) :=
  ((lineContents text).takeWhile (!Scanner.deprecatedMark.isPrefixOf ·)).zipIdx 1

/-- The text before the first `=`. -/
def beforeEquals (line : Text) : Text := line.takeWhile (· ≠ '=')

def IsCategoryLine (line : Text) : Prop :=
  (Text.words line).head? = some ("cat" : Text) ∧ 2 ≤ (Text.words line).length

def IsEnumerationLine (line : Text) : Prop :=
  (Text.words line).head? = some ("enu" : Text) ∧ '=' ∈ line ∧
    2 ≤ (Text.words (beforeEquals line)).length

def IsDeclarationLine (line : Text) : Prop :=
  '=' ∈ line ∧ 3 ≤ (Text.words (beforeEquals line)).length ∧
    (Text.words (beforeEquals line)).head? ∈ [("fun" : Text), ("get" : Text), ("set" : Text)].map some

instance : DecidablePred IsCategoryLine := fun _ => inferInstanceAs (Decidable (_ ∧ _))

instance : DecidablePred IsEnumerationLine := fun _ => inferInstanceAs (Decidable (_ ∧ _ ∧ _))

instance : DecidablePred IsDeclarationLine := fun _ => inferInstanceAs (Decidable (_ ∧ _ ∧ _))

theorem beforeEquals_append {head tail : Text} (absent : '=' ∉ head) :
    beforeEquals (head ++ '=' :: tail) = head :=
  Text.takeWhile_before_mark absent

theorem eq_beforeEquals_append {line : Text} (present : '=' ∈ line) :
    ∃ tail, line = beforeEquals line ++ '=' :: tail ∧ '=' ∉ beforeEquals line := by
  obtain ⟨head, tail, rfl, absent⟩ := List.eq_append_cons_of_mem present
  rw [beforeEquals_append absent]
  exact ⟨tail, rfl, absent⟩

namespace Scanner

/-- The category that a line names stands in its second word. -/
theorem says?_category {line : PlacedLine} {category : Category}
    (said : line.says? = some (.category category)) :
    IsCategoryLine line.content ∧ category.line = line.number ∧
      [("cat" : Text), category.name] = (Text.words line.content).take 2 := by
  obtain ⟨opening, read⟩ := says?_eq_category_iff.mp said
  obtain ⟨keyword, rest, words, lineEq⟩ := readCategory?_eq_some_iff.mp read
  rw [words, List.head?_cons, Option.some.injEq] at opening
  subst keyword
  exact ⟨⟨by rw [words]; rfl, by simp [words]⟩, lineEq, by rw [words]; rfl⟩

theorem says?_of_isCategoryLine {line : PlacedLine} (isCategory : IsCategoryLine line.content) :
    ∃ category, line.says? = some (.category category) := by
  obtain ⟨opening, length⟩ := isCategory
  match words : Text.words line.content with
  | [] => simp [words] at length
  | [_] => simp [words] at length
  | keyword :: name :: rest =>
      refine ⟨⟨name, line.number⟩, says?_eq_category_iff.mpr ⟨opening, ?_⟩⟩
      exact readCategory?_eq_some_iff.mpr ⟨keyword, rest, words, rfl⟩

theorem says?_enumeration {line : PlacedLine} {enumeration : Enumeration}
    (said : line.says? = some (.enumeration enumeration)) :
    IsEnumerationLine line.content ∧ enumeration.line = line.number ∧
      [("enu" : Text), enumeration.name] = (Text.words (beforeEquals line.content)).take 2 := by
  obtain ⟨opening, read⟩ := says?_eq_enumeration_iff.mp said
  obtain ⟨head, tail, keyword, rest, same, absent, words, _, lineEq⟩ :=
    readEnumeration?_eq_some_iff.mp read
  obtain ⟨others, starts⟩ := Text.words_append_of_cons_cons words ('=' :: tail)
  rw [same, starts, List.head?_cons, Option.some.injEq] at opening
  subst keyword
  rw [same, beforeEquals_append absent, words]
  refine ⟨⟨by rw [starts]; rfl, by simp, ?_⟩, lineEq, rfl⟩
  simp [beforeEquals_append absent, words]

theorem says?_of_isEnumerationLine {line : PlacedLine}
    (isEnumeration : IsEnumerationLine line.content) :
    ∃ enumeration, line.says? = some (.enumeration enumeration) := by
  obtain ⟨opening, present, length⟩ := isEnumeration
  obtain ⟨tail, same, absent⟩ := eq_beforeEquals_append present
  match words : Text.words (beforeEquals line.content) with
  | [] => simp [words] at length
  | [_] => simp [words] at length
  | keyword :: name :: rest =>
      refine ⟨⟨name, Text.words tail, line.number⟩, says?_eq_enumeration_iff.mpr ⟨opening, ?_⟩⟩
      exact readEnumeration?_eq_some_iff.mpr
        ⟨_, tail, keyword, rest, same, absent, words, rfl, rfl⟩

theorem says?_declaration {line : PlacedLine} {declaration : Declaration}
    (said : line.says? = some (.declaration declaration)) :
    IsDeclarationLine line.content ∧ declaration.line = line.number ∧
      [declaration.feature.keyword, declaration.returnType, declaration.name] =
        (Text.words (beforeEquals line.content)).take 3 := by
  obtain ⟨head, tail, rest, same, absent, words, _, _, lineEq, _⟩ :=
    readDeclaration?_eq_some_iff.mp (says?_eq_declaration_iff.mp said)
  rw [same, beforeEquals_append absent, words]
  refine ⟨⟨by simp, ?_, ?_⟩, lineEq, rfl⟩
  · simp [beforeEquals_append absent, words]
  · rw [beforeEquals_append absent, words, List.head?_cons]
    cases declaration.feature <;> decide

theorem says?_of_isDeclarationLine {line : PlacedLine}
    (isDeclaration : IsDeclarationLine line.content) :
    ∃ declaration, line.says? = some (.declaration declaration) := by
  obtain ⟨present, length, opening⟩ := isDeclaration
  obtain ⟨tail, same, absent⟩ := eq_beforeEquals_append present
  match words : Text.words (beforeEquals line.content) with
  | [] => simp [words] at length
  | [_] => simp [words] at length
  | [_, _] => simp [words] at length
  | keyword :: returnType :: name :: rest =>
      have known : ∃ feature : Feature, keyword = feature.keyword := by
        rw [words, List.head?_cons] at opening
        simp only [List.map_cons, List.map_nil, List.mem_cons, Option.some.injEq,
          List.not_mem_nil, or_false] at opening
        rcases opening with rfl | rfl | rfl
        · exact ⟨.function, rfl⟩
        · exact ⟨.getter, rfl⟩
        · exact ⟨.setter, rfl⟩
      obtain ⟨feature, rfl⟩ := known
      let slots := readSlots (parameterList line.content).1
        (line.start + (parameterList line.content).2)
      refine ⟨⟨feature, returnType, name, readId? (beforeEquals line.content) tail, slots.1, slots.2,
        line.number, ⟨line.start, line.start + line.content.byteLength⟩⟩, ?_⟩
      apply says?_eq_declaration_iff.mpr
      exact readDeclaration?_eq_some_iff.mpr
        ⟨_, tail, rest, same, absent, words, rfl, rfl, rfl, rfl⟩

theorem takeWhile_place (number start : Nat) (raws : List Text) :
    ((place number start raws).takeWhile (!·.isDeprecated)).map
        (fun line => (line.content, line.number)) =
      ((raws.map Text.dropReturn).takeWhile (!deprecatedMark.isPrefixOf ·)).zipIdx number := by
  induction raws generalizing number start with
  | nil => rfl
  | cons raw rest ih =>
      by_cases deprecated : deprecatedMark.isPrefixOf (Text.dropReturn raw) = true
      · simp [place, PlacedLine.isDeprecated, deprecated]
      · simp [place, PlacedLine.isDeprecated, deprecated,
          ← ih (number + 1) (start + raw.byteLength + 1)]

theorem find?_place (number start : Nat) (raws : List Text) :
    ((place number start raws).find? (·.isDeprecated)).map (·.number) =
      ((raws.map Text.dropReturn).findIdx? (deprecatedMark.isPrefixOf ·)).map (· + number) := by
  induction raws generalizing number start with
  | nil => rfl
  | cons raw rest ih =>
      rw [place, List.map_cons, List.find?_cons, List.findIdx?_cons]
      cases deprecated : deprecatedMark.isPrefixOf (Text.dropReturn raw) with
      | true => simp [PlacedLine.isDeprecated, deprecated]
      | false =>
          have kept : PlacedLine.isDeprecated ⟨Text.dropReturn raw, number, start⟩ = false :=
            deprecated
          simp only [kept, Bool.false_eq_true, ↓reduceIte, ih, Option.map_map]
          congr 1
          funext index
          simp only [Function.comp_apply]
          omega

theorem map_filterMap_eq_map_filter {α β γ : Type} {find : α → Option β} {look : β → γ}
    {accept : α → Prop} [DecidablePred accept] {expected : α → γ}
    (complete : ∀ item, accept item → ∃ found, find item = some found)
    (sound : ∀ item found, find item = some found → accept item ∧ look found = expected item)
    (items : List α) :
    (items.filterMap find).map look = (items.filter accept).map expected := by
  induction items with
  | nil => rfl
  | cons item items ih =>
      cases found : find item with
      | none =>
          have rejected : ¬accept item := by
            intro accepted
            obtain ⟨_, some⟩ := complete item accepted
            simp [found] at some
          simp [found, rejected, ih]
      | some value =>
          obtain ⟨accepted, same⟩ := sound item value found
          simp [found, accepted, same, ih]

/-- The entries of one kind stand for the lines of one shape. -/
theorem entries_of_kind {α : Type} {pick : Entry → Option α} {wrap : α → Entry}
    (picked : ∀ entry found, pick entry = some found ↔ entry = wrap found)
    (accept : Text → Prop) [DecidablePred accept] (look : α → Nat × List Text)
    (expected : Text → List Text)
    (complete : ∀ line : PlacedLine, accept line.content → ∃ found, line.says? = some (wrap found))
    (sound : ∀ (line : PlacedLine) found, line.says? = some (wrap found) →
      accept line.content ∧ look found = (line.number, expected line.content))
    (text : Text) :
    ((entries (place 1 0 text.rawLines)).filterMap pick).map look =
      ((keptLines text).filter (accept ·.1)).map fun (line, number) => (number, expected line) := by
  have says_iff (line : PlacedLine) (found : α) :
      line.says?.bind pick = some found ↔ line.says? = some (wrap found) := by
    simp [Option.bind_eq_some_iff, picked]
  rw [entries, List.filterMap_filterMap, keptLines, lineContents, ← takeWhile_place 1 0,
    List.filter_map, List.map_map]
  apply map_filterMap_eq_map_filter
  · intro line accepted
    obtain ⟨found, said⟩ := complete line (by simpa using accepted)
    exact ⟨found, (says_iff line found).mpr said⟩
  · intro line found said
    obtain ⟨accepted, same⟩ := sound line found ((says_iff line found).mp said)
    exact ⟨by simpa using accepted, same⟩

theorem content_unique {text first second : Text} {number : Nat}
    (left : (first, number) ∈ keptLines text) (right : (second, number) ∈ keptLines text) :
    first = second := by
  have found := (List.mk_mem_zipIdx_iff_le_and_getElem?_sub.mp left).2
  rw [(List.mk_mem_zipIdx_iff_le_and_getElem?_sub.mp right).2] at found
  exact (Option.some.inj found).symm

theorem disjoint_numbers {text : Text} {first second : Text → Prop} [DecidablePred first]
    [DecidablePred second] (exclusive : ∀ line, first line → ¬second line) :
    (((keptLines text).filter (first ·.1)).map (·.2)).Disjoint
      (((keptLines text).filter (second ·.1)).map (·.2)) := by
  intro number left right
  simp only [List.mem_map, List.mem_filter, decide_eq_true_eq] at left right
  obtain ⟨⟨line, _⟩, ⟨kept, accepted⟩, rfl⟩ := left
  obtain ⟨⟨other, _⟩, ⟨keptToo, acceptedToo⟩, rfl⟩ := right
  obtain rfl := content_unique kept keptToo
  exact exclusive line accepted acceptedToo

end Scanner

theorem IsCategoryLine.not_isEnumerationLine {line : Text} (category : IsCategoryLine line) :
    ¬IsEnumerationLine line := by
  rintro ⟨opening, _⟩
  rw [category.1] at opening
  exact absurd opening (by decide)

theorem IsDeclarationLine.head? {line : Text} (declaration : IsDeclarationLine line) :
    (Text.words line).head? ∈ [("fun" : Text), ("get" : Text), ("set" : Text)].map some := by
  obtain ⟨present, length, opening⟩ := declaration
  obtain ⟨tail, same, _⟩ := eq_beforeEquals_append present
  match words : Text.words (beforeEquals line) with
  | [] => simp [words] at length
  | [_] => simp [words] at length
  | keyword :: next :: rest =>
      obtain ⟨others, starts⟩ := Text.words_append_of_cons_cons words ('=' :: tail)
      rw [same, starts]
      rwa [words] at opening

theorem IsCategoryLine.not_isDeclarationLine {line : Text} (category : IsCategoryLine line) :
    ¬IsDeclarationLine line := by
  intro declaration
  have opening := declaration.head?
  rw [category.1] at opening
  exact absurd opening (by decide)

theorem IsEnumerationLine.not_isDeclarationLine {line : Text}
    (enumeration : IsEnumerationLine line) : ¬IsDeclarationLine line := by
  intro declaration
  have opening := declaration.head?
  rw [enumeration.1] at opening
  exact absurd opening (by decide)

open Scanner

theorem read_categories (text : Text) :
    (Interface.read text).categories.map
        (fun category => (category.line, [("cat" : Text), category.name])) =
      ((keptLines text).filter (IsCategoryLine ·.1)).map
        (fun (line, number) => (number, (Text.words line).take 2)) := by
  rw [read_eq_ofLines]
  apply entries_of_kind Entry.category?_eq_some_iff IsCategoryLine _
    fun line => (Text.words line).take 2
  · exact fun _ => says?_of_isCategoryLine
  · intro line category said
    obtain ⟨accepted, lineEq, words⟩ := says?_category said
    exact ⟨accepted, by rw [lineEq, words]⟩

theorem read_enumerations (text : Text) :
    (Interface.read text).enumerations.map
        (fun enumeration => (enumeration.line, [("enu" : Text), enumeration.name])) =
      ((keptLines text).filter (IsEnumerationLine ·.1)).map
        (fun (line, number) => (number, (Text.words (beforeEquals line)).take 2)) := by
  rw [read_eq_ofLines]
  apply entries_of_kind Entry.enumeration?_eq_some_iff IsEnumerationLine _
    fun line => (Text.words (beforeEquals line)).take 2
  · exact fun _ => says?_of_isEnumerationLine
  · intro line enumeration said
    obtain ⟨accepted, lineEq, words⟩ := says?_enumeration said
    exact ⟨accepted, by rw [lineEq, words]⟩

theorem read_declarations (text : Text) :
    (Interface.read text).declarations.map
        (fun declaration => (declaration.line,
          [declaration.feature.keyword, declaration.returnType, declaration.name])) =
      ((keptLines text).filter (IsDeclarationLine ·.1)).map
        (fun (line, number) => (number, (Text.words (beforeEquals line)).take 3)) := by
  rw [read_eq_ofLines]
  apply entries_of_kind Entry.declaration?_eq_some_iff IsDeclarationLine _
    fun line => (Text.words (beforeEquals line)).take 3
  · exact fun _ => says?_of_isDeclarationLine
  · intro line declaration said
    obtain ⟨accepted, lineEq, words⟩ := says?_declaration said
    exact ⟨accepted, by rw [lineEq, words]⟩

/-- The lines before the first that opens the deprecated section are listed by their shape, each
with its own number and its leading words, and none of them is listed twice. -/
theorem read_by_line_grammar (text : Text) :
    (Interface.read text).truncatedAt =
      ((lineContents text).findIdx? (deprecatedMark.isPrefixOf ·)).map (· + 1) ∧
    (Interface.read text).categories.map
        (fun category => (category.line, [("cat" : Text), category.name])) =
      ((keptLines text).filter (IsCategoryLine ·.1)).map
        (fun (line, number) => (number, (Text.words line).take 2)) ∧
    (Interface.read text).enumerations.map
        (fun enumeration => (enumeration.line, [("enu" : Text), enumeration.name])) =
      ((keptLines text).filter (IsEnumerationLine ·.1)).map
        (fun (line, number) => (number, (Text.words (beforeEquals line)).take 2)) ∧
    (Interface.read text).declarations.map
        (fun declaration => (declaration.line,
          [declaration.feature.keyword, declaration.returnType, declaration.name])) =
      ((keptLines text).filter (IsDeclarationLine ·.1)).map
        (fun (line, number) => (number, (Text.words (beforeEquals line)).take 3)) ∧
    ((Interface.read text).categories.map (·.line)).Disjoint
      ((Interface.read text).enumerations.map (·.line)) ∧
    ((Interface.read text).categories.map (·.line)).Disjoint
      ((Interface.read text).declarations.map (·.line)) ∧
    ((Interface.read text).enumerations.map (·.line)).Disjoint
      ((Interface.read text).declarations.map (·.line)) := by
  have categories := congrArg (List.map Prod.fst) (read_categories text)
  have enumerations := congrArg (List.map Prod.fst) (read_enumerations text)
  have declarations := congrArg (List.map Prod.fst) (read_declarations text)
  simp only [List.map_map, Function.comp_def] at categories enumerations declarations
  refine ⟨?_, read_categories text, read_enumerations text, read_declarations text, ?_, ?_, ?_⟩
  · rw [read_eq_ofLines]
    exact find?_place 1 0 _
  · rw [categories, enumerations]
    exact disjoint_numbers fun _ => IsCategoryLine.not_isEnumerationLine
  · rw [categories, declarations]
    exact disjoint_numbers fun _ => IsCategoryLine.not_isDeclarationLine
  · rw [enumerations, declarations]
    exact disjoint_numbers fun _ => IsEnumerationLine.not_isDeclarationLine

end WrapperGen
