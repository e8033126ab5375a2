import WrapperGen.Proofs.Interface.Entries
import WrapperGen.Proofs.Text.Slice

/-!
Exact spans. The span of a message covers its line, and the span of a slot covers the trimmed piece
of the parameter list from which the slot was read, or is empty where the list ends.
-/

namespace WrapperGen

/-- The offset of the first `mark` of a text. -/
def Text.offsetOf? (mark : Char) (text : Text) : Option Nat :=
  if mark ∈ text then some (Text.byteLength (text.takeWhile (· ≠ mark))) else none

/-- Where the absent slots of a line are: at the first closing parenthesis if the first opening one
stands before it, or else behind the first opening one, or else at the end. -/
def absentPlace (line : Text) : Nat :=
  match Text.offsetOf? '(' line, Text.offsetOf? ')' line with
  | some opening, some closing => if opening < closing then closing else opening + 1
  | some opening, none => opening + 1
  | none, _ => line.byteLength

/-- A slot of a line covers the piece that it was read from, or stands where absent slots are. -/
structure Param.Exact (text line : Text) (place : Span) (param : Param) : Prop where
  inside : place.start ≤ param.span.start ∧ param.span.stop ≤ place.stop
  sliced : (Text.slice? text param.span.start param.span.stop).isSome = true
  empty : param.type = [] ↔ param.span.isEmpty = true
  present : param.type ≠ [] → ∃ piece,
    Text.slice? text param.span.start param.span.stop = some piece ∧
    (∀ char ∈ piece.head?, Text.isBlank char = false) ∧
    (∀ char ∈ piece.getLast?, Text.isBlank char = false) ∧
    ',' ∉ piece ∧ ')' ∉ piece ∧
    (Text.words piece).head? = some param.type ∧ (Text.words piece)[1]?.getD [] = param.name
  absent : param.type = [] → param.span = .emptyAt (place.start + absentPlace line)

/-- A message covers the line with its number, without the end of that line, and its slots cover
their pieces of it in order. -/
structure Declaration.Exact (text : Text) (declaration : Declaration) : Prop where
  starts : ∃ before, Text.slice? text 0 declaration.span.start = some before ∧
    (before = [] ∨ before.getLast? = some '\n') ∧ before.count '\n' + 1 = declaration.line
  covers : ∃ raw, (Text.rawLines text)[declaration.line - 1]? = some raw ∧
    Text.slice? text declaration.span.start declaration.span.stop = some (Text.dropReturn raw) ∧
    declaration.wparam.Exact text (Text.dropReturn raw) declaration.span ∧
    declaration.lparam.Exact text (Text.dropReturn raw) declaration.span
  ordered : declaration.wparam.type ≠ [] → declaration.lparam.type ≠ [] →
    declaration.wparam.span.stop < declaration.lparam.span.start

theorem Text.offsetOf?_eq_none {mark : Char} {text : Text} (absent : mark ∉ text) :
    Text.offsetOf? mark text = none := by
  simp [offsetOf?, absent]

theorem Text.offsetOf?_append {mark : Char} {before after : Text} (absent : mark ∉ before) :
    Text.offsetOf? mark (before ++ mark :: after) = some before.byteLength := by
  rw [offsetOf?, Text.takeWhile_before_mark absent]
  simp

theorem absentPlace_of_no_opening {line : Text} (noOpening : '(' ∉ line) :
    absentPlace line = line.byteLength := by
  rw [absentPlace, Text.offsetOf?_eq_none noOpening]

theorem absentPlace_of_closed {before list rest : Text} (noOpening : '(' ∉ before)
    (notBefore : ')' ∉ before) (notInside : ')' ∉ list) :
    absentPlace (before ++ '(' :: (list ++ ')' :: rest)) =
      before.byteLength + 1 + list.byteLength := by
  have width : '('.utf8Size = 1 := rfl
  have notEarlier : ')' ∉ before ++ '(' :: list := by simp [notBefore, notInside]
  have closing : Text.offsetOf? ')' (before ++ '(' :: (list ++ ')' :: rest)) =
      some (Text.byteLength (before ++ '(' :: list)) := by
    rw [← List.cons_append, ← List.append_assoc]
    exact Text.offsetOf?_append notEarlier
  simp only [absentPlace, Text.offsetOf?_append noOpening, closing, Text.byteLength_append,
    Text.byteLength_cons, width]
  split <;> omega

theorem absentPlace_of_unclosed {before after : Text} (noOpening : '(' ∉ before)
    (unclosed : ')' ∈ before ∨ ')' ∉ after) :
    absentPlace (before ++ '(' :: after) = before.byteLength + 1 := by
  by_cases early : ')' ∈ before
  · obtain ⟨front, back, rfl, first⟩ := List.eq_append_cons_of_mem early
    have closing : Text.offsetOf? ')' (front ++ ')' :: back ++ '(' :: after) =
        some (Text.byteLength front) := by
      rw [List.append_assoc, List.cons_append]
      exact Text.offsetOf?_append first
    simp only [absentPlace, Text.offsetOf?_append noOpening, closing, Text.byteLength_append]
    split <;> omega
  · have noClosing : ')' ∉ before ++ '(' :: after := by
      simp [early, unclosed.resolve_left early]
    rw [absentPlace, Text.offsetOf?_append noOpening, Text.offsetOf?_eq_none noClosing]

namespace Scanner

/-- The parameter list is a piece of its line that ends where absent slots are. -/
theorem parameterList_placed (line : Text) :
    ∃ before after, line = before ++ (parameterList line).1 ++ after ∧
      before.byteLength = (parameterList line).2 ∧ ')' ∉ (parameterList line).1 ∧
      (parameterList line).2 + (parameterList line).1.byteLength = absentPlace line := by
  have width : '('.utf8Size = 1 := rfl
  rw [parameterList]
  split
  · rename_i cut
    have noOpening := Text.cut?_eq_none_iff.mp cut
    exact ⟨line, [], by simp, rfl, by simp, by simp [absentPlace_of_no_opening noOpening]⟩
  · rename_i before after cut
    obtain ⟨rfl, noOpening⟩ := Text.cut?_eq_some_iff.mp cut
    dsimp only
    split
    · rename_i early
      have unclosed : absentPlace (before ++ '(' :: after) = before.byteLength + 1 :=
        absentPlace_of_unclosed noOpening (Or.inl (List.contains_iff_mem.mp early))
      exact ⟨before ++ ['('], after, by simp, by simp [width], by simp, by simp [unclosed]⟩
    · rename_i late
      have notBefore : ')' ∉ before := fun early => late (List.contains_iff_mem.mpr early)
      split
      · rename_i none
        have unclosed := absentPlace_of_unclosed noOpening
          (Or.inr (Text.cut?_eq_none_iff.mp none))
        exact ⟨before ++ ['('], after, by simp, by simp [width], by simp, by simp [unclosed]⟩
      · rename_i list rest found
        obtain ⟨rfl, notInside⟩ := Text.cut?_eq_some_iff.mp found
        exact ⟨before ++ ['('], ')' :: rest, by simp, by simp [width], notInside,
          (absentPlace_of_closed noOpening notBefore notInside).symm⟩

/-- Each slot is read from a piece of the list, the second from a later one or from nothing. -/
theorem readSlots_pieces (list : Text) (start : Nat) :
    ∃ first firstRest lead second secondRest,
      list = first ++ firstRest ∧ list = lead ++ second ++ secondRest ∧
      ',' ∉ first ∧ ',' ∉ second ∧ (second = [] ∨ first.byteLength < lead.byteLength) ∧
      readSlots list start =
        (readSlot first start (start + list.byteLength),
          readSlot second (start + lead.byteLength) (start + list.byteLength)) := by
  have width : ','.utf8Size = 1 := rfl
  have noComma (piece : Text) (member : piece ∈ list.splitWhere (· = ',')) : ',' ∉ piece := by
    intro comma
    simpa using Text.not_mem_of_mem_splitWhere member ',' comma
  rw [readSlots]
  split
  · rename_i none
    exact absurd none (Text.splitWhere_ne_nil _ list)
  · rename_i first split
    have unmarked := noComma first (by simp [split])
    obtain ⟨_, ⟨_, rfl⟩ | ⟨mark, later, _, _, none⟩⟩ := Text.splitWhere_first split
    · exact ⟨list, [], list, [], [], by simp, by simp, unmarked, by simp, Or.inl rfl, rfl⟩
    · exact absurd none.symm (Text.splitWhere_ne_nil _ later)
  · rename_i first second others split
    have unmarked := noComma first (by simp [split])
    have unmarkedToo := noComma second (by simp [split])
    obtain ⟨_, ⟨none, _⟩ | ⟨mark, later, isComma, same, rest⟩⟩ := Text.splitWhere_first split
    · simp at none
    · obtain rfl : mark = ',' := by simpa using isComma
      obtain ⟨_, secondEnd⟩ := Text.splitWhere_first rest.symm
      have behind : ∃ secondRest, later = second ++ secondRest := by
        rcases secondEnd with ⟨_, rfl⟩ | ⟨mark, last, _, rfl, _⟩
        · exact ⟨[], by simp⟩
        · exact ⟨mark :: last, rfl⟩
      obtain ⟨secondRest, rfl⟩ := behind
      refine ⟨first, ',' :: (second ++ secondRest), first ++ [','], second, secondRest, same,
        by simp [same], unmarked, unmarkedToo, Or.inr ?_, ?_⟩
      · simp [width]
      · simp [width, Nat.add_assoc]

theorem readSlot_of_words {piece type : Text} {rest : List Text}
    (words : Text.words piece = type :: rest) (pieceStart listEnd : Nat) :
    ∃ lead trail, piece = lead ++ Text.trim piece ++ trail ∧ Text.trim piece ≠ [] ∧
      readSlot piece pieceStart listEnd = {
        type, name := rest.head?.getD []
        span := ⟨pieceStart + lead.byteLength,
          pieceStart + lead.byteLength + (Text.trim piece).byteLength⟩ } := by
  obtain ⟨trail, same, _⟩ := Text.eq_append_trim_append piece
  refine ⟨piece.takeWhile Text.isBlank, trail, same, ?_, by rw [readSlot, words]⟩
  intro none
  have trimmed := Text.words_trim piece
  rw [none, words] at trimmed
  simp [Text.words, Text.splitWhere] at trimmed

theorem readSlot_exact {text before line after front piece back listFront listBack : Text}
    (inText : text = before ++ line ++ after) (inLine : line = front ++ piece ++ back)
    (atEnd : line = listFront ++ listBack) (endEq : listFront.byteLength = absentPlace line)
    (noComma : ',' ∉ piece) (noClosing : ')' ∉ piece) :
    (readSlot piece (before.byteLength + front.byteLength)
      (before.byteLength + absentPlace line)).Exact text line
        ⟨before.byteLength, before.byteLength + line.byteLength⟩ := by
  have length := congrArg Text.byteLength atEnd
  rw [Text.byteLength_append] at length
  cases words : Text.words piece with
  | nil =>
      rw [readSlot, words]
      refine ⟨?_, ?_, by simp [Span.isEmpty, Span.emptyAt], by simp, by simp⟩
      · simp only [Span.emptyAt]
        omega
      · rw [Option.isSome_iff_exists]
        refine ⟨[], Text.slice?_eq_some_iff.mpr ⟨before ++ listFront, listBack ++ after, ?_, ?_, rfl⟩⟩
        · rw [inText, atEnd]
          simp
        · simp [endEq, Span.emptyAt]
  | cons type rest =>
      obtain ⟨lead, trail, same, nonempty, slotEq⟩ := readSlot_of_words words
        (before.byteLength + front.byteLength) (before.byteLength + absentPlace line)
      have typed : type ≠ [] := (Text.mem_words (words ▸ List.mem_cons_self)).1
      have positive := Text.byteLength_pos nonempty
      have pieceLength := congrArg Text.byteLength same
      have lineLength := congrArg Text.byteLength inLine
      simp only [Text.byteLength_append] at pieceLength lineLength
      have sliced : Text.slice? text (before.byteLength + front.byteLength + lead.byteLength)
          (before.byteLength + front.byteLength + lead.byteLength +
            (Text.trim piece).byteLength) = some (Text.trim piece) := by
        apply Text.slice?_eq_some_iff.mpr
        refine ⟨before ++ front ++ lead, trail ++ back ++ after, ?_, by simp [Nat.add_assoc], rfl⟩
        rw [inText, inLine]
        conv_lhs => rw [same]
        simp
      rw [slotEq]
      refine ⟨?_, ?_, ?_, ?_, fun untyped => absurd untyped typed⟩
      · dsimp only
        omega
      · rw [sliced]
        rfl
      · simp only [typed, Span.isEmpty, false_iff, decide_eq_true_eq]
        omega
      · intro _
        refine ⟨Text.trim piece, sliced, Text.head?_trim piece, Text.getLast?_trim piece, ?_, ?_,
          ?_, ?_⟩
        · intro comma
          exact noComma (by rw [same]; simp [comma])
        · intro closing
          exact noClosing (by rw [same]; simp [closing])
        · rw [Text.words_trim, words]
          rfl
        · rw [Text.words_trim, words]
          cases rest <;> rfl

theorem readSlot_bounds {piece : Text} {pieceStart listEnd : Nat}
    (typed : (readSlot piece pieceStart listEnd).type ≠ []) :
    pieceStart ≤ (readSlot piece pieceStart listEnd).span.start ∧
      (readSlot piece pieceStart listEnd).span.stop ≤ pieceStart + piece.byteLength := by
  cases words : Text.words piece with
  | nil => simp [readSlot, words] at typed
  | cons type rest =>
      obtain ⟨lead, trail, same, _, slotEq⟩ := readSlot_of_words words pieceStart listEnd
      have length := congrArg Text.byteLength same
      simp only [Text.byteLength_append] at length
      rw [slotEq]
      dsimp only
      omega

theorem slots_exact {text before line after : Text} (inText : text = before ++ line ++ after)
    {wparam lparam : Param}
    (slots : (wparam, lparam) =
      readSlots (parameterList line).1 (before.byteLength + (parameterList line).2)) :
    wparam.Exact text line ⟨before.byteLength, before.byteLength + line.byteLength⟩ ∧
      lparam.Exact text line ⟨before.byteLength, before.byteLength + line.byteLength⟩ ∧
      (wparam.type ≠ [] → lparam.type ≠ [] → wparam.span.stop < lparam.span.start) := by
  obtain ⟨front, back, inLine, startEq, noClosing, endEq⟩ := parameterList_placed line
  generalize (parameterList line).1 = list at *
  rw [← startEq] at slots endEq
  obtain ⟨first, firstRest, lead, second, secondRest, firstEq, secondEq, firstComma, secondComma,
    order, pieces⟩ := readSlots_pieces list (before.byteLength + front.byteLength)
  have listEnd : before.byteLength + front.byteLength + list.byteLength =
      before.byteLength + absentPlace line := by omega
  have atEnd : line = (front ++ list) ++ back := inLine
  have listFrontEq : Text.byteLength (front ++ list) = absentPlace line := by
    rw [Text.byteLength_append, endEq]
  have secondStart : before.byteLength + front.byteLength + lead.byteLength =
      before.byteLength + Text.byteLength (front ++ lead) := by
    rw [Text.byteLength_append, Nat.add_assoc]
  have firstIn : line = front ++ first ++ (firstRest ++ back) := by
    rw [inLine]
    conv_lhs => rw [firstEq]
    simp
  have secondIn : line = (front ++ lead) ++ second ++ (secondRest ++ back) := by
    rw [inLine]
    conv_lhs => rw [secondEq]
    simp
  rw [pieces, listEnd, secondStart, Prod.mk.injEq] at slots
  obtain ⟨rfl, rfl⟩ := slots
  refine ⟨?_, ?_, ?_⟩
  · apply readSlot_exact inText firstIn atEnd listFrontEq firstComma
    intro closing
    exact noClosing (by rw [firstEq]; simp [closing])
  · apply readSlot_exact inText secondIn atEnd listFrontEq secondComma
    intro closing
    exact noClosing (by rw [secondEq]; simp [closing])
  · intro firstTyped secondTyped
    have present : second ≠ [] := by
      rintro rfl
      simp [readSlot, Text.words, Text.splitWhere] at secondTyped
    have between := order.resolve_left present
    have firstStop := (readSlot_bounds firstTyped).2
    have secondStart := (readSlot_bounds secondTyped).1
    have joint := Text.byteLength_append front lead
    omega

end Scanner

open Scanner

/-- Every span of a description is exact: those of a message cover its line and, in order, the
pieces of its parameter list that are not blank. -/
theorem read_spans_exact (text : Text) (declaration : Declaration)
    (member : declaration ∈ (Interface.read text).declarations) : declaration.Exact text := by
  obtain ⟨line, kept, read⟩ := mem_declarations.mp member
  obtain ⟨earlier, raw, later, split, content, numberEq, startEq⟩ :=
    mem_place (List.takeWhile_subset _ kept)
  obtain ⟨_, _, _, _, _, _, _, slots, lineEq, spanEq⟩ := readDeclaration?_eq_some_iff.mp read
  obtain ⟨rest, inText⟩ := Text.eq_endLines_append split
  obtain ⟨ending, rawEq, _⟩ := Text.eq_dropReturn_append raw
  have unbroken : ∀ raw ∈ earlier, '\n' ∉ raw := by
    intro raw member
    exact Text.not_mem_of_mem_rawLines (split ▸ List.mem_append_left _ member)
  have placed : text = Text.endLines earlier ++ Text.dropReturn raw ++ (ending ++ rest) := by
    rw [inText]
    conv_lhs => rw [rawEq]
    simp
  rw [Nat.zero_add] at startEq
  rw [content, startEq] at slots spanEq
  obtain ⟨wparamExact, lparamExact, ordered⟩ := slots_exact placed slots
  refine ⟨?_, ⟨raw, ?_, ?_, ?_, ?_⟩, ordered⟩
  · refine ⟨Text.endLines earlier, ?_, ?_, ?_⟩
    · rw [spanEq]
      apply Text.slice?_eq_some_iff.mpr
      exact ⟨[], _, by rw [placed, List.nil_append, List.append_assoc], rfl, by simp⟩
    · exact Text.endLines_whole earlier
    · rw [Text.count_endLines unbroken, lineEq, numberEq]
      omega
  · rw [lineEq, numberEq, split]
    simp
  · rw [spanEq]
    exact Text.slice?_eq_some_iff.mpr ⟨_, _, placed, rfl, rfl⟩
  · exact spanEq ▸ wparamExact
  · exact spanEq ▸ lparamExact

theorem read_spans_exact_accented :
    let text : Text := "# é\r\nset void G=7( int é,)\r\n"
    let declaration : Declaration := {
      feature := .setter, returnType := "void", name := "G", id := some "7"
      wparam := ⟨"int", "é", ⟨20, 26⟩⟩, lparam := ⟨"", "", ⟨27, 27⟩⟩, line := 2, span := ⟨6, 28⟩ }
    declaration ∈ (Interface.read text).declarations ∧ declaration.Exact text :=
  ⟨by decide, read_spans_exact _ _ (by decide)⟩

end WrapperGen
