import WrapperGen.Proofs.Interface.Reordering

/-!
Messages as they are written: a keyword, a type, a name, a number and a list of slots, with white
space as the author likes it. A line in this form is read as the one message that it was written
for.
-/

namespace WrapperGen

/-- White space on a line. -/
structure Gap where
  text : Text
  blank : ∀ char ∈ text, Text.isBlank char = true
  inLine : '\n' ∉ text

/-- White space that keeps two words apart. -/
structure Separator extends Gap where
  wide : text ≠ []

/-- A word in which the given marks do not occur. -/
structure Token (marks : List Char) where
  text : Text
  isWord : text.IsWord
  unmarked : ∀ mark ∈ marks, mark ∉ text

/-- A piece of a line in which the given marks do not occur. -/
structure Fragment (marks : List Char) where
  text : Text
  unmarked : ∀ mark ∈ '\n' :: marks, mark ∉ text

/-- A slot as it is written: nothing, a type, or a type and a name. -/
inductive WrittenSlot
  | absent
  | typed (type : Token [',', '(', ')'])
  | named (type : Token [',', '(', ')']) (between : Separator) (name : Token [',', '(', ')'])

/-- A message as it is written. Only the first two slots count; more pieces may follow them, and
anything may follow the list. -/
structure WrittenMessage where
  indentation : Gap
  feature : Feature
  beforeType : Separator
  returnType : Token ['=', '(', ')']
  beforeName : Separator
  name : Token ['=', '(', ')']
  beforeEquals : Gap
  afterEquals : Gap
  id : Fragment ['(', ')']
  trimmed : Text.trim id.text = id.text
  beforeList : Gap
  beforeFirst : Gap
  first : WrittenSlot
  afterFirst : Gap
  beforeSecond : Gap
  second : WrittenSlot
  afterSecond : Gap
  further : List (Fragment [')'])
  tail : Fragment []

namespace WrittenSlot

def words : WrittenSlot → List Text
  | absent => []
  | typed type => [type.text]
  | named type _ name => [type.text, name.text]

def text : WrittenSlot → Text
  | absent => []
  | typed type => type.text
  | named type between name => type.text ++ between.text ++ name.text

/-- The slot that is meant, at no place in particular. -/
def param (slot : WrittenSlot) : Param where
  type := slot.words[0]?.getD []
  name := slot.words[1]?.getD []
  span := .emptyAt 0

end WrittenSlot

namespace WrittenMessage

variable (written : WrittenMessage)

/-- What stands before the equals sign. -/
def head : Text :=
  written.indentation.text ++ written.feature.keyword ++ written.beforeType.text ++
    written.returnType.text ++ written.beforeName.text ++ written.name.text ++
    written.beforeEquals.text

/-- What stands between the equals sign and the list. -/
def number : Text := written.afterEquals.text ++ written.id.text ++ written.beforeList.text

def firstPiece : Text :=
  written.beforeFirst.text ++ written.first.text ++ written.afterFirst.text

def secondPiece : Text :=
  written.beforeSecond.text ++ written.second.text ++ written.afterSecond.text

/-- What stands between the parentheses. -/
def list : Text :=
  written.firstPiece ++ ',' :: (written.secondPiece ++
    written.further.flatMap fun piece => ',' :: piece.text)

def text : Text :=
  written.head ++ '=' :: (written.number ++ '(' :: (written.list ++ ')' :: written.tail.text))

/-- The message that is meant, at no place in particular. -/
def message : Declaration where
  feature := written.feature
  returnType := written.returnType.text
  name := written.name.text
  id := if written.id.text = [] then none else some written.id.text
  wparam := written.first.param
  lparam := written.second.param
  line := 0
  span := .emptyAt 0

end WrittenMessage

/-! Words and their separators -/

theorem Gap.not_mem {mark : Char} (gap : Gap) (solid : Text.isBlank mark = false) :
    mark ∉ gap.text := by
  intro member
  rw [gap.blank mark member] at solid
  contradiction

theorem Token.inLine {marks : List Char} (token : Token marks) : '\n' ∉ token.text :=
  token.isWord.2.not_mem (by decide)

namespace Text

theorem words_separated {word : Text} (isWord : word.IsWord) (separator : Separator) (rest : Text) :
    words (word ++ separator.text ++ rest) = word :: words rest := by
  obtain ⟨blank, blanks, same⟩ := List.exists_cons_of_ne_nil separator.wide
  have isBlank := separator.blank
  rw [same, List.forall_mem_cons] at isBlank
  rw [same, List.append_assoc, List.cons_append, words_append_blank isBlank.1,
    words_eq_singleton isWord.1 isWord.2, words_blank_append isBlank.2, List.singleton_append]

theorem words_between (before after : Gap) (text : Text) :
    words (before.text ++ text ++ after.text) = words text := by
  rw [words_append_blanks after.blank, words_blank_append before.blank]

theorem trim_between (before after : Gap) (text : Text) :
    trim (before.text ++ text ++ after.text) = trim text := by
  rw [trim_append_blanks after.blank, trim, trim, List.dropWhile_append_of_pos before.blank]

theorem dropReturn_append {back : Text} (nonempty : back ≠ []) (front : Text) :
    dropReturn (front ++ back) = front ++ dropReturn back := by
  induction front with
  | nil => rfl
  | cons first front ih =>
      rw [List.cons_append, List.cons_append, ← ih, dropReturn]
      simp [nonempty]

end Text

namespace WrittenSlot

theorem words_text (slot : WrittenSlot) : Text.words slot.text = slot.words := by
  cases slot with
  | absent => rfl
  | typed type => exact Text.words_eq_singleton type.isWord.1 type.isWord.2
  | named type between name =>
      rw [text, Text.words_separated type.isWord,
        Text.words_eq_singleton name.isWord.1 name.isWord.2, words]

theorem not_mem_text (slot : WrittenSlot) {mark : Char} (listed : mark ∈ [',', '(', ')']) :
    mark ∉ slot.text := by
  have solid : Text.isBlank mark = false := by
    revert mark
    decide
  cases slot with
  | absent => simp [text]
  | typed type => exact type.unmarked mark listed
  | named type between name =>
      simp [text, type.unmarked mark listed, name.unmarked mark listed, between.not_mem solid]

end WrittenSlot

namespace Scanner

theorem readSlot_unplaced (piece : Text) (pieceStart listEnd : Nat) :
    (readSlot piece pieceStart listEnd).unplaced = {
      type := (Text.words piece)[0]?.getD []
      name := (Text.words piece)[1]?.getD []
      span := .emptyAt 0 } := by
  rw [readSlot]
  split
  · rename_i none
    simp [none, Param.unplaced]
  · rename_i type rest words
    simp [words, Param.unplaced, List.head?_eq_getElem?]

end Scanner

open Scanner

namespace WrittenMessage

variable (written : WrittenMessage)

theorem words_head : Text.words written.head =
    [written.feature.keyword, written.returnType.text, written.name.text] := by
  have keyword : written.feature.keyword.IsWord := by
    cases written.feature <;> decide
  have regrouped : written.head = written.indentation.text ++ (written.feature.keyword ++
      written.beforeType.text ++ (written.returnType.text ++ written.beforeName.text ++
        (written.name.text ++ written.beforeEquals.text))) := by
    simp [head]
  rw [regrouped, Text.words_blank_append written.indentation.blank, Text.words_separated keyword,
    Text.words_separated written.returnType.isWord,
    Text.words_append_blanks written.beforeEquals.blank,
    Text.words_eq_singleton written.name.isWord.1 written.name.isWord.2]

/-- The marks that give a line its shape do not occur before their places. -/
theorem not_mem_head {mark : Char} (listed : mark ∈ ['=', '(', ')']) : mark ∉ written.head := by
  have solid : Text.isBlank mark = false := by
    revert mark
    decide
  have keyword : mark ∉ written.feature.keyword := by
    revert mark
    cases written.feature <;> decide
  simp [head, keyword, written.indentation.not_mem solid, written.beforeType.not_mem solid,
    written.beforeName.not_mem solid, written.beforeEquals.not_mem solid,
    written.returnType.unmarked mark listed, written.name.unmarked mark listed]

theorem not_mem_number {mark : Char} (listed : mark ∈ ['\n', '(', ')']) :
    mark ∉ written.number := by
  have inGap (gap : Gap) : mark ∉ gap.text := by
    rcases List.mem_cons.mp listed with rfl | listed
    · exact gap.inLine
    · refine gap.not_mem ?_
      revert mark
      decide
  simp [number, inGap, written.id.unmarked mark listed]

theorem not_mem_firstPiece {mark : Char} (listed : mark ∈ [',', '(', ')']) :
    mark ∉ written.firstPiece := by
  have solid : Text.isBlank mark = false := by
    revert mark
    decide
  simp [firstPiece, written.beforeFirst.not_mem solid, written.afterFirst.not_mem solid,
    written.first.not_mem_text listed]

theorem not_mem_secondPiece {mark : Char} (listed : mark ∈ [',', '(', ')']) :
    mark ∉ written.secondPiece := by
  have solid : Text.isBlank mark = false := by
    revert mark
    decide
  simp [secondPiece, written.beforeSecond.not_mem solid, written.afterSecond.not_mem solid,
    written.second.not_mem_text listed]

theorem not_mem_list : ')' ∉ written.list := by
  have noFurther : ∀ piece ∈ written.further, ')' ∉ piece.text :=
    fun piece _ => piece.unmarked ')' (by decide)
  simpa [list, written.not_mem_firstPiece, written.not_mem_secondPiece] using noFurther

theorem readId?_written :
    readId? written.head (written.number ++ '(' :: (written.list ++ ')' :: written.tail.text)) =
      written.message.id := by
  have noOpening : '(' ∉ written.head := written.not_mem_head (by decide)
  have number : Text.trim written.number = written.id.text := by
    rw [WrittenMessage.number, Text.trim_between, written.trimmed]
  rw [readId?, if_neg (by simpa using noOpening),
    Text.takeWhile_before_mark (written.not_mem_number (by decide)), number, message]
  simp only [List.isEmpty_iff]

theorem parameterList_written : (parameterList written.text).1 = written.list := by
  have split : written.text.cut? '(' = some (written.head ++ '=' :: written.number,
      written.list ++ ')' :: written.tail.text) := by
    refine Text.cut?_eq_some_iff.mpr ⟨by simp [text], ?_⟩
    simp [written.not_mem_head, written.not_mem_number]
  have notEarly : ')' ∉ written.head ++ '=' :: written.number := by
    simp [written.not_mem_head, written.not_mem_number]
  have closed : (written.list ++ ')' :: written.tail.text).cut? ')' =
      some (written.list, written.tail.text) :=
    Text.cut?_eq_some_iff.mpr ⟨rfl, written.not_mem_list⟩
  rw [parameterList, split]
  simp only
  rw [if_neg (by simpa using notEarly), closed]

theorem splitWhere_list : ∃ others, written.list.splitWhere (· = ',') =
    written.firstPiece :: written.secondPiece :: others := by
  have uncut {piece : Text} (noComma : ',' ∉ piece) : piece.splitWhere (· = ',') = [piece] :=
    Text.splitWhere_of_unmarked fun char member => by
      simpa using fun same : char = ',' => noComma (same ▸ member)
  rw [list, Text.splitWhere_append_mark (by simp), uncut (written.not_mem_firstPiece (by decide))]
  have second := uncut (written.not_mem_secondPiece (by decide))
  cases written.further with
  | nil => exact ⟨[], by simp [second]⟩
  | cons piece pieces =>
      have split (rest : Text) : (written.secondPiece ++ ',' :: rest).splitWhere (· = ',') =
          written.secondPiece :: rest.splitWhere (· = ',') := by
        rw [Text.splitWhere_append_mark (by simp), second, List.singleton_append]
      exact ⟨_, congrArg (written.firstPiece :: ·) (split _)⟩

theorem readSlots_written (start : Nat) :
    (readSlots written.list start).1.unplaced = written.message.wparam ∧
      (readSlots written.list start).2.unplaced = written.message.lparam := by
  obtain ⟨others, pieces⟩ := written.splitWhere_list
  rw [readSlots, pieces]
  simp only [readSlot_unplaced, firstPiece, secondPiece, Text.words_between,
    WrittenSlot.words_text]
  exact ⟨rfl, rfl⟩

theorem readDeclaration?_written (number start : Nat) : ∃ declaration,
    readDeclaration? written.text number start = some declaration ∧
      declaration.unplaced = written.message := by
  let slots := readSlots (parameterList written.text).1 (start + (parameterList written.text).2)
  have params : slots.1.unplaced = written.message.wparam ∧
      slots.2.unplaced = written.message.lparam := by
    simp only [slots, written.parameterList_written]
    exact written.readSlots_written _
  let declaration : Declaration := { written.message with
    wparam := slots.1
    lparam := slots.2
    line := number
    span := ⟨start, start + written.text.byteLength⟩ }
  refine ⟨declaration, readDeclaration?_eq_some_iff.mpr ⟨written.head, _, [], rfl,
    written.not_mem_head (by decide), written.words_head, ?_, rfl, rfl, rfl⟩, ?_⟩
  · exact written.readId?_written.symm
  · rw [Declaration.unplaced, params.1, params.2]
    rfl

theorem not_deprecated : deprecatedMark.isPrefixOf written.text = false := by
  rw [← Bool.not_eq_true, List.isPrefixOf_iff_prefix]
  rintro ⟨rest, same⟩
  obtain ⟨declaration, read, _⟩ := written.readDeclaration?_written 0 0
  obtain ⟨others, words⟩ := words_of_readDeclaration? read
  have blank : Text.isBlank ' ' = true := by decide
  have opening := Text.words_append_blank blank "cat" ("Deprecated" ++ rest)
  have first : Text.words "cat" = [("cat" : Text)] := by decide
  have line : written.text = "cat".toList ++ ' ' :: ("Deprecated" ++ rest) := same.symm
  rw [first, ← line, words, List.singleton_append, List.cons.injEq] at opening
  obtain ⟨keyword, _⟩ := opening
  cases feature : declaration.feature <;> rw [feature] at keyword <;> exact absurd keyword (by decide)

theorem not_mem_text : '\n' ∉ written.text := by
  have inSlot (slot : WrittenSlot) : '\n' ∉ slot.text := by
    cases slot with
    | absent => simp [WrittenSlot.text]
    | typed type => exact type.inLine
    | named type between name => simp [WrittenSlot.text, Token.inLine, between.inLine]
  have keyword : '\n' ∉ written.feature.keyword := by
    cases written.feature <;> decide
  have inHead : '\n' ∉ written.head := by
    simp [head, keyword, Gap.inLine, Token.inLine]
  have inFurther : ∀ piece ∈ written.further, '\n' ∉ piece.text :=
    fun piece _ => piece.unmarked '\n' (by decide)
  have inList : '\n' ∉ written.list := by
    simpa [list, firstPiece, secondPiece, inSlot, Gap.inLine] using inFurther
  simp [text, inHead, inList, written.not_mem_number, written.tail.unmarked]

/-- The line is that of the same message without the carriage return that may end it. -/
theorem dropReturn_text : ∃ ended : WrittenMessage,
    Text.dropReturn written.text = ended.text ∧ ended.message = written.message := by
  obtain ⟨ending, same, _⟩ := Text.eq_dropReturn_append written.tail.text
  refine ⟨{ written with tail := ⟨Text.dropReturn written.tail.text, ?_⟩ }, ?_, rfl⟩
  · intro mark listed member
    refine written.tail.unmarked mark listed ?_
    rw [same]
    exact List.mem_append_left _ member
  · have inner : Text.dropReturn (')' :: written.tail.text) =
        ')' :: Text.dropReturn written.tail.text := by
      simp [Text.dropReturn]
    have regrouped : written.text = (written.head ++ '=' :: written.number ++ '(' :: written.list) ++
        ')' :: written.tail.text := by
      simp [text]
    rw [regrouped, Text.dropReturn_append (by simp), inner]
    simp [text, head, number, list, firstPiece, secondPiece]

end WrittenMessage

/-- A line in the form of a message is read as this message and as nothing else. -/
theorem read_written (written : WrittenMessage) : ∃ declaration,
    Interface.read written.text = { declarations := [declaration] } ∧
      declaration.unplaced = written.message := by
  obtain ⟨ended, content, message⟩ := written.dropReturn_text
  obtain ⟨declaration, read, same⟩ := ended.readDeclaration?_written 1 0
  have said : PlacedLine.says? ⟨ended.text, 1, 0⟩ = some (.declaration declaration) :=
    says?_eq_declaration_iff.mpr read
  have kept : PlacedLine.isDeprecated ⟨ended.text, 1, 0⟩ = false := ended.not_deprecated
  refine ⟨declaration, ?_, same.trans message⟩
  rw [read_eq_ofLines, Text.rawLines_of_unbroken written.not_mem_text, place, content, ofLines_cons,
    kept, said]
  rfl

/-- A message with an equals sign in its number, wide white space, a third piece and a tail. -/
def WrittenMessage.oddlySpaced : WrittenMessage where
  indentation := ⟨" ", by decide, by decide⟩
  feature := .setter
  beforeType := ⟨⟨"  ", by decide, by decide⟩, by decide⟩
  returnType := ⟨"void", by decide, by decide⟩
  beforeName := ⟨⟨" ", by decide, by decide⟩, by decide⟩
  name := ⟨"A", by decide, by decide⟩
  beforeEquals := ⟨" ", by decide, by decide⟩
  afterEquals := ⟨" ", by decide, by decide⟩
  id := ⟨"1=1", by decide⟩
  trimmed := by decide
  beforeList := ⟨" ", by decide, by decide⟩
  beforeFirst := ⟨[], by decide, by decide⟩
  first := .named ⟨"int", by decide, by decide⟩ ⟨⟨" ", by decide, by decide⟩, by decide⟩
    ⟨"é", by decide, by decide⟩
  afterFirst := ⟨[], by decide, by decide⟩
  beforeSecond := ⟨"\u3000", by decide, by decide⟩
  second := .typed ⟨"line", by decide, by decide⟩
  afterSecond := ⟨[], by decide, by decide⟩
  further := [⟨" more (x", by decide⟩]
  tail := ⟨" rest", by decide⟩

theorem read_written_oddlySpaced : ∃ declaration,
    Interface.read " set  void A = 1=1 (int é,\u3000line, more (x) rest" =
        { declarations := [declaration] } ∧
      declaration.unplaced = {
        feature := .setter
        returnType := "void"
        name := "A"
        id := some "1=1"
        wparam := ⟨"int", "é", .emptyAt 0⟩
        lparam := ⟨"line", [], .emptyAt 0⟩
        line := 0
        span := .emptyAt 0 } := by
  have text : WrittenMessage.oddlySpaced.text =
      " set  void A = 1=1 (int é,\u3000line, more (x) rest" := by decide
  have message := read_written .oddlySpaced
  rwa [text] at message

end WrapperGen
