import WrapperGen.Diagnostic.Layout
import WrapperGen.Proofs.Header.Outcome
import WrapperGen.Proofs.Interface.Spans
import WrapperGen.Proofs.Stub.Admissibility

/-!
Where a rejected parameter stands. The reader keeps its place in bytes and a diagnostic shows it in
characters, and both mean the piece of the parameter list from which the parameter was read.
-/

namespace WrapperGen

namespace Layout

theorem charOffset_append (front back : Text) :
    charOffset (front ++ back) front.byteLength = front.length := by
  induction front with
  | nil => cases back <;> rfl
  | cons first rest ih =>
      have positive := first.utf8Size_pos
      have present : first.utf8Size + Text.byteLength rest ≠ 0 := by omega
      have remaining : first.utf8Size + Text.byteLength rest - first.utf8Size =
          Text.byteLength rest := by omega
      rw [List.cons_append, Text.byteLength_cons, charOffset, if_neg present, remaining, ih,
        List.length_cons]

/-- The characters between the offsets that two byte offsets become are the slice between these. -/
theorem drop_take_charOffset {text piece : Text} {start stop : Nat}
    (sliced : Text.slice? text start stop = some piece) :
    (text.take (charOffset text stop)).drop (charOffset text start) = piece := by
  obtain ⟨before, after, rfl, rfl, rfl⟩ := Text.slice?_eq_some_iff.mp sliced
  have startOffset : charOffset (before ++ piece ++ after) before.byteLength = before.length := by
    rw [List.append_assoc, charOffset_append]
  have stopOffset : charOffset (before ++ piece ++ after)
      (before.byteLength + piece.byteLength) = (before ++ piece).length := by
    rw [← Text.byteLength_append, charOffset_append]
  rw [startOffset, stopOffset, List.take_left, List.drop_left]

end Layout

/-- The list between the first opening and the first closing parenthesis of a line. -/
def IsParameterList (line list : Text) : Prop :=
  ∃ before after, line = before ++ '(' :: (list ++ ')' :: after) ∧ '(' ∉ before ∧ ')' ∉ before ∧
    ')' ∉ list

namespace Scanner

theorem parameterList_of_nonempty {line : Text} (present : (parameterList line).1 ≠ []) :
    ∃ before after, line = before ++ '(' :: ((parameterList line).1 ++ ')' :: after) ∧
      '(' ∉ before ∧ ')' ∉ before ∧ ')' ∉ (parameterList line).1 ∧
      (parameterList line).2 = before.byteLength + 1 := by
  rw [parameterList] at present ⊢
  split at present
  · contradiction
  · rename_i before after cut
    obtain ⟨same, noOpening⟩ := Text.cut?_eq_some_iff.mp cut
    dsimp only at present ⊢
    split at present
    · contradiction
    · rename_i late
      split at present
      · contradiction
      · rename_i list rest found
        obtain ⟨rfl, notInside⟩ := Text.cut?_eq_some_iff.mp found
        have notBefore : ')' ∉ before := fun early => late (List.contains_iff_mem.mpr early)
        rw [if_neg late]
        exact ⟨before, rest, same, noOpening, notBefore, notInside, rfl⟩

theorem readSlots_second {list : Text} {start : Nat}
    (typed : (readSlots list start).2.type ≠ []) :
    ∃ first second others more, list.splitWhere (· = ',') = first :: second :: others ∧
      list = first ++ ',' :: (second ++ more) ∧
      (readSlots list start).2 =
        readSlot second (start + first.byteLength + 1) (start + list.byteLength) := by
  rw [readSlots] at typed ⊢
  -- with no second piece the slot is read from an empty text and has no type
  split at typed
  · simp [readSlot, Text.words, Text.splitWhere] at typed
  · simp [readSlot, Text.words, Text.splitWhere] at typed
  · rename_i first second others split
    obtain ⟨_, ⟨none, _⟩ | ⟨mark, later, isComma, same, rest⟩⟩ := Text.splitWhere_first split
    · contradiction
    · obtain rfl : mark = ',' := by simpa using isComma
      obtain ⟨_, ⟨_, whole⟩ | ⟨mark, last, _, whole, _⟩⟩ := Text.splitWhere_first rest.symm
      · exact ⟨first, second, others, [], split, by rw [same, whole, List.append_nil], rfl⟩
      · exact ⟨first, second, others, mark :: last, split, by rw [same, whole], rfl⟩

theorem second_slot_covers_piece {line : Text} {start : Nat} {param : Param}
    (slot : param = (readSlots (parameterList line).1 (start + (parameterList line).2)).2)
    (typed : param.type ≠ []) (named : param.name ≠ []) :
    ∃ list piece before after, IsParameterList line list ∧ piece ∈ list.splitWhere (· = ',') ∧
      line = before ++ Text.trim piece ++ after ∧ Text.trim piece ≠ [] ∧
      (Text.words (Text.trim piece)).take 2 = [param.type, param.name] ∧
      param.span.start = start + before.byteLength ∧
      param.span.stop = start + before.byteLength + (Text.trim piece).byteLength := by
  have openingWidth : '('.utf8Size = 1 := rfl
  have commaWidth : ','.utf8Size = 1 := rfl
  obtain ⟨first, second, others, more, split, listEq, read⟩ := readSlots_second (slot ▸ typed)
  have present : (parameterList line).1 ≠ [] := by simp [listEq]
  obtain ⟨before, after, lineEq, noOpening, notBefore, notInside, offsetEq⟩ :=
    parameterList_of_nonempty present
  rw [← slot] at read
  cases words : Text.words second with
  | nil =>
      rw [read, readSlot, words] at typed
      contradiction
  | cons type rest =>
      obtain ⟨lead, trail, secondEq, nonempty, covered⟩ := readSlot_of_words words
        (start + (parameterList line).2 + first.byteLength + 1)
        (start + (parameterList line).2 + (parameterList line).1.byteLength)
      rw [← read] at covered
      -- the blanks around the words of the piece go to what stands before and behind it
      refine ⟨(parameterList line).1, second, before ++ '(' :: first ++ ',' :: lead,
        trail ++ more ++ ')' :: after, ⟨before, after, lineEq, noOpening, notBefore, notInside⟩,
        by simp [split], ?_, nonempty, ?_, ?_, ?_⟩
      · rw [lineEq, listEq]
        conv_lhs => rw [secondEq]
        simp
      · rw [Text.words_trim, words, covered]
        cases rest with
        | nil => simp [covered] at named
        | cons name rest => rfl
      · rw [covered, offsetEq]
        simp only [Text.byteLength_append, Text.byteLength_cons, openingWidth, commaWidth]
        omega
      · rw [covered, offsetEq]
        simp only [Text.byteLength_append, Text.byteLength_cons, openingWidth, commaWidth]
        omega

end Scanner

/-- A rejected parameter lies in a line of a text, which has so many lines before it, and covers the
characters of a trimmed piece of that line's parameter list, of which the first two words are its
type and its name. -/
structure UnknownType.PointsInto (param : UnknownType) (text : Text) (earlier : List Text)
    (line : Text) : Prop where
  number : param.line = earlier.length + 1
  nonempty : param.span.start < param.span.stop
  inside : (Text.endLines earlier).byteLength ≤ param.span.start ∧
    param.span.stop ≤ (Text.endLines earlier).byteLength + line.byteLength
  covers : ∃ list piece, IsParameterList line list ∧ piece ∈ list.splitWhere (· = ',') ∧
    (text.take (Layout.charOffset text param.span.stop)).drop
      (Layout.charOffset text param.span.start) = Text.trim piece ∧
    (Text.words (Text.trim piece)).take 2 = [param.type, param.name]

open Scanner

/-- A rejected parameter is a trimmed piece of the parameter list of a line of a text, behind so many
other lines and behind a beginning of its own line. -/
structure UnknownType.StandsBehind (param : UnknownType) (earlier : List Text)
    (line before : Text) : Prop where
  number : param.line = earlier.length + 1
  start : param.span.start = (Text.endLines earlier).byteLength + before.byteLength
  reads : ∃ list piece after, IsParameterList line list ∧ piece ∈ list.splitWhere (· = ',') ∧
    line = before ++ Text.trim piece ++ after ∧ Text.trim piece ≠ [] ∧
    (Text.words (Text.trim piece)).take 2 = [param.type, param.name] ∧
    param.span.stop = param.span.start + (Text.trim piece).byteLength

theorem Interface.second_standsBehind {text : Text} {declaration : Declaration}
    (member : declaration ∈ (Interface.read text).declarations)
    (typed : declaration.lparam.type ≠ []) (named : declaration.lparam.name ≠ []) :
    ∃ earlier raw later before, Text.rawLines text = earlier ++ raw :: later ∧
      (∀ line ∈ earlier ++ [raw], deprecatedMark.isPrefixOf (Text.dropReturn line) = false) ∧
      declaration.unknownType.StandsBehind earlier (Text.dropReturn raw) before := by
  obtain ⟨line, kept, read⟩ := mem_declarations.mp member
  obtain ⟨_, _, _, _, _, _, _, slots, lineEq, _⟩ := readDeclaration?_eq_some_iff.mp read
  obtain ⟨earlier, raw, later, split, content, numberEq, startEq, unopened⟩ :=
    mem_takeWhile_place kept
  rw [Nat.zero_add] at startEq
  have slot : declaration.lparam = (readSlots (parameterList line.content).1
      (line.start + (parameterList line.content).2)).2 := congrArg Prod.snd slots
  obtain ⟨list, piece, before, after, isList, isPiece, inLine, nonempty, words, first, last⟩ :=
    second_slot_covers_piece slot typed named
  rw [content] at isList inLine
  rw [startEq] at first last
  refine ⟨earlier, raw, later, before, split, unopened, ?_, first, list, piece, after, isList,
    isPiece, inLine, nonempty, words, ?_⟩
  · change declaration.line = earlier.length + 1
    omega
  · change declaration.lparam.span.stop = declaration.lparam.span.start + _
    omega

theorem UnknownType.StandsBehind.pointsInto {param : UnknownType} {text raw before : Text}
    {earlier later : List Text} (split : Text.rawLines text = earlier ++ raw :: later)
    (stands : param.StandsBehind earlier (Text.dropReturn raw) before) :
    param.PointsInto text earlier (Text.dropReturn raw) := by
  obtain ⟨number, start, list, piece, after, isList, isPiece, inLine, nonempty, words, stop⟩ := stands
  have positive := Text.byteLength_pos nonempty
  have length := congrArg Text.byteLength inLine
  rw [Text.byteLength_append, Text.byteLength_append] at length
  have sliced : Text.slice? text param.span.start param.span.stop = some (Text.trim piece) := by
    obtain ⟨rest, inText⟩ := Text.eq_endLines_append split
    obtain ⟨ending, rawEq, _⟩ := Text.eq_dropReturn_append raw
    apply Text.slice?_eq_some_iff.mpr
    refine ⟨Text.endLines earlier ++ before, after ++ ending ++ rest, ?_, ?_, stop.symm⟩
    · rw [inText]
      conv_lhs => rw [rawEq, inLine]
      simp
    · rw [start, Text.byteLength_append]
  exact ⟨number, by omega, ⟨by omega, by omega⟩, list, piece, isList, isPiece,
    Layout.drop_take_charOffset sliced, words⟩

theorem UnknownType.standsBehind_of_rejected {options : Header.Options} {bytes : List UInt8}
    {param : UnknownType}
    (rejected : Header.ofBytes options bytes = .error (.unknownType param)) :
    ∃ text earlier raw later before, Text.decode bytes = .ok text ∧
      Text.rawLines text = earlier ++ raw :: later ∧
      (∀ line ∈ earlier ++ [raw], deprecatedMark.isPrefixOf (Text.dropReturn line) = false) ∧
      param.StandsBehind earlier (Text.dropReturn raw) before := by
  obtain ⟨text, decoded, unmade⟩ := Header.ofBytes_eq_unknownType_iff.mp rejected
  obtain ⟨declaration, found, rfl⟩ := Stub.compileAll_eq_error_iff.mp unmade
  have member := List.mem_of_find?_eq_some found
  have bad := List.find?_some found
  rw [decide_eq_true_eq] at bad
  obtain ⟨earlier, raw, later, before, stands⟩ :=
    Interface.second_standsBehind member bad.1 bad.2.1
  exact ⟨text, earlier, raw, later, before, decoded, stands⟩

/-- Whatever type makes a description be rejected, the rejection points at the parameter that has
it, on a line before the deprecated section. -/
theorem unknownType_points_into_its_line {options : Header.Options} {bytes : List UInt8}
    {param : UnknownType}
    (rejected : Header.ofBytes options bytes = .error (.unknownType param)) :
    ∃ text earlier raw later, Text.decode bytes = .ok text ∧
      Text.rawLines text = earlier ++ raw :: later ∧
      (∀ line ∈ earlier ++ [raw], deprecatedMark.isPrefixOf (Text.dropReturn line) = false) ∧
      param.PointsInto text earlier (Text.dropReturn raw) := by
  obtain ⟨text, earlier, raw, later, before, decoded, split, unopened, stands⟩ :=
    UnknownType.standsBehind_of_rejected rejected
  exact ⟨text, earlier, raw, later, decoded, split, unopened, stands.pointsInto split⟩

theorem unknownType_points_into_its_line_accented :
    let text : Text := "# é\r\nget int A=1(, odd)\nset void Ä=2(int é, \u2003void  ö )\n"
    let param : UnknownType := ⟨"void", "ö", 3, ⟨50, 58⟩⟩
    Header.ofBytes {} text.utf8 = .error (.unknownType param) ∧
      ∃ decoded earlier raw later, Text.decode text.utf8 = .ok decoded ∧
        Text.rawLines decoded = earlier ++ raw :: later ∧
        (∀ line ∈ earlier ++ [raw], deprecatedMark.isPrefixOf (Text.dropReturn line) = false) ∧
        param.PointsInto decoded earlier (Text.dropReturn raw) := by
  intro text param
  let declaration : Declaration := {
    feature := .setter, returnType := "void", name := "Ä", id := some "2"
    wparam := ⟨"int", "é", ⟨39, 45⟩⟩, lparam := ⟨"void", "ö", ⟨50, 58⟩⟩, line := 3, span := ⟨25, 60⟩ }
  have found : (Interface.read text).declarations.find? ((Interface.read text).Inadmissible ·) =
      some declaration := by decide
  have unmade := Stub.compileAll_eq_error_iff.mpr ⟨declaration, found, rfl⟩
  have rejected : Header.ofBytes {} text.utf8 = .error (.unknownType param) :=
    Header.ofBytes_eq_unknownType_iff.mpr ⟨text, Text.decode_utf8 text, unmade⟩
  exact ⟨rejected, unknownType_points_into_its_line rejected⟩

end WrapperGen
