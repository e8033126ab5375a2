import WrapperGen.Diagnostic
import WrapperGen.Proofs.Diagnostic.Location

/-!
Where a diagnostic says that a rejected parameter stands. Lines are counted twice, by the reader in
bytes and by the picture in characters, and more ends a line of the picture; in a text without such
other ends both come to the same line, and the column is the place of the parameter in it.
-/

namespace WrapperGen

/-- No line of the text ends but in a line feed, with at most a carriage return before it. -/
structure Text.EndsPlainly (text : Text) : Prop where
  returns : ∀ after, '\r' :: after <:+ text → after.head? = some '\n'
  others : ∀ char ∈ ['\x0b', '\x0c', '\u0085', '\u2028', '\u2029'], char ∉ text

theorem Text.EndsPlainly.of_append (front : Text) {back : Text}
    (plain : EndsPlainly (front ++ back)) : EndsPlainly back where
  returns after behind := plain.returns after (behind.trans (List.suffix_append front back))
  others char listed inside := plain.others char listed (List.mem_append_right front inside)

namespace Layout

theorem endsLine_iff (char : Char) :
    endsLine char = true ↔
      char = '\n' ∨ char = '\r' ∨ char ∈ ['\x0b', '\x0c', '\u0085', '\u2028', '\u2029'] := by
  have code (other : Char) : char = other ↔ char.toNat = other.toNat := Char.toNat_inj.symm
  simp only [endsLine, Bool.or_eq_true, Bool.and_eq_true, decide_eq_true_eq, List.mem_cons,
    List.not_mem_nil, or_false, code]
  change _ ↔ char.toNat = 10 ∨ char.toNat = 13 ∨ char.toNat = 11 ∨ char.toNat = 12 ∨
    char.toNat = 133 ∨ char.toNat = 8232 ∨ char.toNat = 8233
  omega

/-- The first character of a plain text goes to the line that follows it, unless it is a feed. -/
theorem lines_cons {char : Char} {rest : Text} (plain : Text.EndsPlainly (char :: rest))
    (inside : char ≠ '\n') : lines (char :: rest) = prependChar char (lines rest) := by
  rw [lines]
  by_cases isReturn : char = '\r'
  · have followed : rest.head? = some '\n' :=
      plain.returns rest ⟨[], by rw [isReturn, List.nil_append]⟩
    rw [if_pos ⟨isReturn, followed⟩]
  · have quiet : endsLine char = false := by
      rw [Bool.eq_false_iff, Ne, endsLine_iff]
      rintro (feed | return_ | other)
      · exact inside feed
      · exact isReturn return_
      · exact plain.others char other List.mem_cons_self
    rw [if_neg (fun both => isReturn both.1), quiet]
    rfl

theorem lines_feed {line rest : Text} (unbroken : '\n' ∉ line)
    (plain : Text.EndsPlainly (line ++ '\n' :: rest)) :
    lines (line ++ '\n' :: rest) = (line ++ ['\n']) :: lines rest := by
  induction line with
  | nil => simp [lines, endsLine]
  | cons char line ih =>
      rw [List.mem_cons, not_or] at unbroken
      have whole : Text.EndsPlainly (char :: (line ++ '\n' :: rest)) := plain
      have behind : Text.EndsPlainly (line ++ '\n' :: rest) := .of_append [char] plain
      rw [List.cons_append, lines_cons whole (Ne.symm unbroken.1), ih unbroken.2 behind]
      rfl

theorem lines_last {line : Text} (unbroken : '\n' ∉ line) (plain : Text.EndsPlainly line)
    (nonempty : line ≠ []) : lines line = [line] := by
  induction line with
  | nil => contradiction
  | cons char line ih =>
      rw [List.mem_cons, not_or] at unbroken
      rw [lines_cons plain (Ne.symm unbroken.1)]
      by_cases last : line = []
      · rw [last]
        rfl
      · have behind : Text.EndsPlainly line := .of_append [char] plain
        rw [ih unbroken.2 behind last]
        rfl

theorem locate_first {line : Text} {offset : Nat} (inside : offset < line.length)
    (later : List Text) : locate (line :: later) offset = some ⟨0, line, offset⟩ := by
  cases later with
  | nil => rfl
  | cons second later => rw [locate, if_pos inside]; simp

theorem locate_later {line : Text} {later : List Text} {offset : Nat} {place : Place}
    (found : locate later offset = some place) :
    locate (line :: later) (line.length + offset) =
      some { place with index := place.index + 1 } := by
  cases later with
  | nil => contradiction
  | cons second later =>
      rw [locate, if_neg (by omega), Nat.add_sub_cancel_left, found]
      · rfl
      · simp

theorem exists_locate {lines : List Text} (nonempty : lines ≠ []) (offset : Nat) :
    ∃ place, locate lines offset = some place := by
  induction lines generalizing offset with
  | nil => contradiction
  | cons line later ih =>
      by_cases inside : offset < line.length
      · exact ⟨_, locate_first inside later⟩
      · by_cases last : later = []
        · exact ⟨_, by rw [last, locate]⟩
        · obtain ⟨place, found⟩ := ih last (offset - line.length)
          have split : offset = line.length + (offset - line.length) := by omega
          rw [split]
          exact ⟨_, locate_later found⟩

/-- A character of a line is found on that line, in the column that it has there. -/
theorem locate_lines {text raw : Text} {earlier later : List Text} (plain : text.EndsPlainly)
    (split : Text.rawLines text = earlier ++ raw :: later) {column : Nat}
    (inside : column < raw.length) :
    ∃ line, locate (lines text) ((Text.endLines earlier).length + column) =
      some ⟨earlier.length, line, column⟩ := by
  induction earlier generalizing text with
  | nil =>
      have unbroken : '\n' ∉ raw := by
        apply Text.not_mem_of_mem_rawLines
        rw [split]
        exact List.mem_cons_self
      rw [Text.endLines_nil, List.length_nil, Nat.zero_add]
      rcases (Text.splitWhere_first split).2 with ⟨_, rfl⟩ | ⟨mark, rest, isFeed, rfl, _⟩
      · have nonempty : text ≠ [] := by
          rintro rfl
          contradiction
        rw [lines_last unbroken plain nonempty]
        exact ⟨text, locate_first inside []⟩
      · obtain rfl : mark = '\n' := of_decide_eq_true isFeed
        rw [lines_feed unbroken plain]
        refine ⟨raw ++ ['\n'], locate_first ?_ _⟩
        rw [List.length_append]
        omega
  | cons first earlier ih =>
      have unbroken : '\n' ∉ first := by
        apply Text.not_mem_of_mem_rawLines
        rw [split]
        exact List.mem_cons_self
      rcases (Text.splitWhere_first split).2 with ⟨none, _⟩ | ⟨mark, rest, isFeed, rfl, others⟩
      · simp at none
      · obtain rfl : mark = '\n' := of_decide_eq_true isFeed
        have behind : Text.EndsPlainly rest := by
          apply Text.EndsPlainly.of_append (first ++ ['\n'])
          simpa using plain
        obtain ⟨line, found⟩ := ih behind others.symm
        have offset : (Text.endLines (first :: earlier)).length + column =
            (first ++ ['\n']).length + ((Text.endLines earlier).length + column) := by
          simp only [Text.endLines_cons, List.length_append, List.length_cons, List.length_nil]
          omega
        rw [lines_feed unbroken plain, offset]
        exact ⟨line, locate_later found⟩

end Layout

namespace Snippet

theorem render_fileRow (margin : Nat) (fileName : Text) (place : Layout.Place) :
    (fileRow margin fileName place).render false =
      blanks (margin + 2) ++ "╭─[" ++ fileName ++ ":" ++ Text.ofNat (place.index + 1) ++ ":" ++
        Text.ofNat (place.column + 1) ++ "]\n" ++ (blanks (margin + 2) ++ "│\n") := by
  simp [fileRow, Picture.render, Piece.render, Piece.plain, Piece.inked]

/-- A snippet opens with the place of its first character, if that is in its text. -/
theorem render_draw {snippet : Snippet} {place : Layout.Place}
    (found : Layout.locate (Layout.lines snippet.source) snippet.start = some place) :
    ∃ margin rest, snippet.draw.render false =
      blanks margin ++ "╭─[" ++ snippet.fileName ++ ":" ++ Text.ofNat (place.index + 1) ++ ":" ++
        Text.ofNat (place.column + 1) ++ "]\n" ++ rest := by
  have nonempty : Layout.lines snippet.source ≠ [] := by
    intro none
    rw [none] at found
    contradiction
  obtain ⟨last, foundLast⟩ :=
    Layout.exists_locate nonempty (max (snippet.stop - 1) snippet.start)
  simp only [draw, found, foundLast, List.append_assoc, Picture.render_append, render_fileRow]
  exact ⟨_, _, rfl⟩

end Snippet

theorem Rejection.describe_unknownType (param : UnknownType) (fileName source : Text) :
    ∃ snippet : Snippet, snippet.fileName = fileName ∧ snippet.source = source ∧
      snippet.start = Layout.charOffset source param.span.start ∧
      (unknownType param).describe fileName source false =
        "Error: " ++ (unknownType param).message ++ "\n" ++ snippet.draw.render false := by
  let start := Layout.charOffset source param.span.start
  refine ⟨{
    fileName, source, start
    stop := max (Layout.charOffset source param.span.stop) start
    label := "`" ++ param.type ++ "` cannot be passed as lParam" }, rfl, rfl, rfl, ?_⟩
  rw [describe, picture, Picture.render_append]
  simp [Picture.render, Piece.render, Piece.plain, Piece.inked, start]

theorem UnknownType.StandsBehind.locate {param : UnknownType} {text raw before : Text}
    {earlier later : List Text} (plain : text.EndsPlainly)
    (split : Text.rawLines text = earlier ++ raw :: later)
    (stands : param.StandsBehind earlier (Text.dropReturn raw) before) :
    before <+: raw ∧
    ∃ line, Layout.locate (Layout.lines text) (Layout.charOffset text param.span.start) =
      some ⟨earlier.length, line, before.length⟩ := by
  obtain ⟨_, start, _, piece, after, _, _, inLine, nonempty, _⟩ := stands
  obtain ⟨ending, rawEq, _⟩ := Text.eq_dropReturn_append raw
  obtain ⟨behind, inText⟩ := Text.eq_endLines_append split
  have rawSplit : raw = before ++ (Text.trim piece ++ after ++ ending) := by
    conv_lhs => rw [rawEq, inLine]
    simp
  have offset : Layout.charOffset text param.span.start =
      (Text.endLines earlier).length + before.length := by
    rw [inText, rawSplit, start, ← Text.byteLength_append, ← List.append_assoc, List.append_assoc,
      Layout.charOffset_append, List.length_append]
  have inside : before.length < raw.length := by
    have positive := List.length_pos_iff.mpr nonempty
    rw [rawSplit, List.length_append, List.length_append, List.length_append]
    omega
  rw [offset]
  exact ⟨⟨_, rawSplit.symm⟩, Layout.locate_lines plain split inside⟩

/-- In a text whose lines end plainly the picture of a rejection tells the line of the rejected
parameter, as its message does, and the column of the parameter's first character on that line, both
counted from one. -/
theorem picture_tells_line_of_rejection {options : Header.Options} {bytes : List UInt8}
    {text : Text} {param : UnknownType} (decoded : Text.decode bytes = .ok text)
    (plain : text.EndsPlainly)
    (rejected : Header.ofBytes options bytes = .error (.unknownType param)) (fileName : Text) :
    ∃ earlier raw later before margin rest,
      Text.rawLines text = earlier ++ raw :: later ∧
      param.PointsInto text earlier (Text.dropReturn raw) ∧
      before <+: raw ∧
      param.span.start = (Text.endLines earlier ++ before).byteLength ∧
      (Rejection.unknownType param).describe fileName text false =
        "Error: " ++ "Parsing aborted because of unknown type: " ++ param.type ++ " " ++
          param.name ++ " (line " ++ Text.ofNat param.line ++ ")" ++ "\n" ++
        Snippet.blanks margin ++ "╭─[" ++ fileName ++ ":" ++ Text.ofNat param.line ++ ":" ++
          Text.ofNat (before.length + 1) ++ "]\n" ++ rest := by
  obtain ⟨_, earlier, raw, later, before, decodedToo, split, _, stands⟩ :=
    UnknownType.standsBehind_of_rejected rejected
  rw [decoded, Except.ok.injEq] at decodedToo
  subst decodedToo
  obtain ⟨begins, line, found⟩ := stands.locate plain split
  obtain ⟨snippet, named, source, start, described⟩ :=
    Rejection.describe_unknownType param fileName text
  rw [← start, ← source] at found
  obtain ⟨margin, rest, drawn⟩ := Snippet.render_draw found
  refine ⟨earlier, raw, later, before, margin, rest, split, stands.pointsInto split, begins, ?_, ?_⟩
  · rw [stands.start, Text.byteLength_append]
  · have message : (Rejection.unknownType param).message =
        "Parsing aborted because of unknown type: " ++ param.type ++ " " ++ param.name ++
          " (line " ++ Text.ofNat param.line ++ ")" := rfl
    rw [described, drawn, named, message]
    dsimp only
    rw [← stands.number]
    simp only [List.append_assoc]

theorem picture_tells_line_of_rejection_accented :
    let text : Text := "# é\r\nset void Ä=2(int é, \u2003void  ö )\n"
    let param : UnknownType := ⟨"void", "ö", 2, ⟨31, 39⟩⟩
    Text.decode text.utf8 = .ok text ∧ text.EndsPlainly ∧
      Header.ofBytes {} text.utf8 = .error (.unknownType param) ∧
      ∃ earlier raw later before margin rest,
        Text.rawLines text = earlier ++ raw :: later ∧
        param.PointsInto text earlier (Text.dropReturn raw) ∧
        before <+: raw ∧
        param.span.start = (Text.endLines earlier ++ before).byteLength ∧
        (Rejection.unknownType param).describe "é.iface" text false =
          "Error: " ++ "Parsing aborted because of unknown type: " ++ param.type ++ " " ++
            param.name ++ " (line " ++ Text.ofNat param.line ++ ")" ++ "\n" ++
          Snippet.blanks margin ++ "╭─[" ++ "é.iface" ++ ":" ++ Text.ofNat param.line ++ ":" ++
            Text.ofNat (before.length + 1) ++ "]\n" ++ rest := by
  intro text param
  let declaration : Declaration := {
    feature := .setter, returnType := "void", name := "Ä", id := some "2"
    wparam := ⟨"int", "é", ⟨20, 26⟩⟩, lparam := ⟨"void", "ö", ⟨31, 39⟩⟩, line := 2, span := ⟨6, 41⟩ }
  have found : (Interface.read text).declarations.find? ((Interface.read text).Inadmissible ·) =
      some declaration := by decide
  have unmade := Stub.compileAll_eq_error_iff.mpr ⟨declaration, found, rfl⟩
  have decoded : Text.decode text.utf8 = .ok text := Text.decode_utf8 text
  have rejected : Header.ofBytes {} text.utf8 = .error (.unknownType param) :=
    Header.ofBytes_eq_unknownType_iff.mpr ⟨text, decoded, unmade⟩
  have plain : text.EndsPlainly := by
    refine ⟨fun after behind => ?_, by decide⟩
    have only : after = text.drop 4 := by simpa [text, List.suffix_cons_iff] using behind
    rw [only]
    rfl
  exact ⟨decoded, plain, rejected, picture_tells_line_of_rejection decoded plain rejected "é.iface"⟩

end WrapperGen
