import WrapperGen.Diagnostic
import WrapperGen.Proofs.Text.Replacing
import WrapperGen.Proofs.Text.Words

/-!
Colour in the picture of a rejection. All that colour adds to a text without escape characters are
the control sequences around its pieces, so without these it is the text that is shown without
colour.
-/

namespace WrapperGen

/-! ## Control sequences -/

namespace Text

/-- There is no character in the text that opens a control sequence. -/
def IsEscapeFree (text : Text) : Prop := '\x1b' ∉ text

instance : DecidablePred IsEscapeFree := fun _ => inferInstanceAs (Decidable (¬ _))

@[simp] theorem isEscapeFree_nil : IsEscapeFree [] := List.not_mem_nil

@[simp] theorem isEscapeFree_cons {first : Char} {rest : Text} :
    IsEscapeFree (first :: rest) ↔ '\x1b' ≠ first ∧ IsEscapeFree rest := by
  simp [IsEscapeFree]

@[simp] theorem isEscapeFree_append {front back : Text} :
    IsEscapeFree (front ++ back) ↔ IsEscapeFree front ∧ IsEscapeFree back := by
  simp [IsEscapeFree]

theorem IsEscapeFree.append {front back : Text} (first : front.IsEscapeFree)
    (second : back.IsEscapeFree) : IsEscapeFree (front ++ back) :=
  isEscapeFree_append.mpr ⟨first, second⟩

@[simp] theorem isEscapeFree_replicate {char : Char} (other : '\x1b' ≠ char) (count : Nat) :
    IsEscapeFree (List.replicate count char) := by
  simp [IsEscapeFree, other]

@[simp] theorem isEscapeFree_ofNat (number : Nat) : IsEscapeFree (ofNat number) := by
  intro escape
  have digit := Nat.isDigit_of_mem_toDigits (by decide) (by decide) escape
  contradiction

theorem IsEscapeFree.subset {text part : Text} (escapeFree : text.IsEscapeFree)
    (inside : part ⊆ text) : part.IsEscapeFree := fun escape => escapeFree (inside escape)

/-- Whether a character may stand among the parameters of a sequence that sets the colour. -/
def isStyleParam (char : Char) : Bool := char.isDigit || char = ';'

/-- What stands behind a sequence that sets the colour, if the text starts with one. -/
def behindStyle? : Text → Option Text
  | '\x1b' :: '[' :: rest =>
    match rest.dropWhile isStyleParam with
    | 'm' :: behind => some behind
    | _ => none
  | _ => none

theorem length_behindStyle? {text behind : Text} (found : behindStyle? text = some behind) :
    behind.length < text.length := by
  unfold behindStyle? at found
  split at found
  · rename_i rest
    split at found
    · rename_i later same
      obtain rfl : later = behind := Option.some.inj found
      have shorter := (List.dropWhile_suffix isStyleParam (l := rest)).length_le
      rw [same] at shorter
      simp only [List.length_cons] at shorter ⊢
      omega
    · contradiction
  · contradiction

/-- The text without the sequences in it that set the colour. -/
def withoutStyles : Text → Text
  | [] => []
  | first :: rest =>
    match _found : behindStyle? (first :: rest) with
    | some behind => withoutStyles behind
    | none => first :: withoutStyles rest
termination_by text => text.length
decreasing_by
  · exact length_behindStyle? _found
  · exact Nat.lt_succ_self rest.length

theorem withoutStyles_of_behindStyle? {text behind : Text}
    (found : behindStyle? text = some behind) : withoutStyles text = withoutStyles behind := by
  cases text with
  | nil => contradiction
  | cons first rest =>
      rw [withoutStyles]
      split
      · rename_i later foundToo
        rw [Option.some.inj (found.symm.trans foundToo)]
      · rename_i none
        rw [none] at found
        contradiction

theorem behindStyle?_of_other {first : Char} (other : '\x1b' ≠ first) (rest : Text) :
    behindStyle? (first :: rest) = none := by
  unfold behindStyle?
  split
  · rename_i same
    exact absurd (List.cons.inj same).1.symm other
  · rfl

theorem withoutStyles_append {front : Text} (escapeFree : front.IsEscapeFree) (back : Text) :
    withoutStyles (front ++ back) = front ++ withoutStyles back := by
  induction front with
  | nil => rfl
  | cons first rest ih =>
      obtain ⟨other, others⟩ := isEscapeFree_cons.mp escapeFree
      rw [List.cons_append, withoutStyles]
      split
      · rename_i found
        rw [behindStyle?_of_other other] at found
        contradiction
      · rw [ih others, List.cons_append]

end Text

theorem Text.withoutStyles_start_append (ink : Ink) (back : Text) :
    withoutStyles (ink.start ++ back) = withoutStyles back := by
  apply withoutStyles_of_behindStyle?
  cases ink <;> rfl

theorem Text.withoutStyles_stop_append (back : Text) :
    withoutStyles (Ink.stop ++ back) = withoutStyles back :=
  withoutStyles_of_behindStyle? rfl

/-! ## Pictures -/

/-- No piece of the picture has an escape character in its text. -/
def Picture.IsEscapeFree (picture : Picture) : Prop :=
  ∀ piece ∈ picture, piece.text.IsEscapeFree

theorem Piece.withoutStyles_render_append {piece : Piece} (escapeFree : piece.text.IsEscapeFree)
    (back : Text) :
    Text.withoutStyles (piece.render true ++ back) =
      piece.render false ++ Text.withoutStyles back := by
  obtain ⟨ink, text⟩ := piece
  cases ink with
  | none => exact Text.withoutStyles_append escapeFree back
  | some ink =>
      have untouched : text.replaceAll Ink.stop (Ink.stop ++ ink.start) = text :=
        Text.replaceAll_of_absent (by decide) escapeFree _
      change Text.withoutStyles (ink.start ++ text.replaceAll _ _ ++ Ink.stop ++ back) = text ++ _
      rw [untouched, List.append_assoc, List.append_assoc, Text.withoutStyles_start_append,
        Text.withoutStyles_append escapeFree, Text.withoutStyles_stop_append]

namespace Picture

instance : DecidablePred IsEscapeFree := fun picture =>
  inferInstanceAs (Decidable (∀ piece ∈ picture, piece.text.IsEscapeFree))

theorem withoutStyles_render {picture : Picture} (escapeFree : picture.IsEscapeFree) :
    Text.withoutStyles (picture.render true) = picture.render false := by
  induction picture with
  | nil =>
      rw [render, List.flatMap_nil, Text.withoutStyles]
      rfl
  | cons piece pieces ih =>
      obtain ⟨first, others⟩ := List.forall_mem_cons.mp escapeFree
      rw [render, List.flatMap_cons, Piece.withoutStyles_render_append first]
      exact congrArg (piece.render false ++ ·) (ih others)

theorem isEscapeFree_render {picture : Picture} (escapeFree : picture.IsEscapeFree) :
    (picture.render false).IsEscapeFree := by
  intro escape
  obtain ⟨piece, listed, inside⟩ := List.mem_flatMap.mp escape
  have shown : piece.render false = piece.text := by
    obtain ⟨ink, text⟩ := piece
    cases ink <;> rfl
  exact escapeFree piece listed (shown ▸ inside)

@[simp] theorem isEscapeFree_nil : IsEscapeFree [] := nofun

@[simp] theorem isEscapeFree_cons {piece : Piece} {pieces : Picture} :
    IsEscapeFree (piece :: pieces) ↔ piece.text.IsEscapeFree ∧ IsEscapeFree pieces :=
  List.forall_mem_cons

@[simp] theorem isEscapeFree_append {front back : Picture} :
    IsEscapeFree (front ++ back) ↔ IsEscapeFree front ∧ IsEscapeFree back :=
  List.forall_mem_append

end Picture

namespace Layout

theorem visible_subset (line : Text) : visible line ⊆ line := by
  obtain ⟨trail, same, _⟩ := Text.dropTailWhile_append Text.isBlank line
  conv_rhs => rw [same]
  exact List.subset_append_left _ trail

theorem flatten_prependChar (char : Char) (lines : List Text) :
    (prependChar char lines).flatten = char :: lines.flatten := by
  cases lines <;> rfl

/-- The displayed lines lose nothing of a text. -/
theorem flatten_lines (text : Text) : (lines text).flatten = text := by
  fun_induction lines text with
  | case1 => rfl
  | case2 first rest _ ih => rw [flatten_prependChar, ih]
  | case3 first rest _ _ ih => rw [List.flatten_cons, ih, List.singleton_append]
  | case4 first rest _ _ ih => rw [flatten_prependChar, ih]

theorem mem_of_locate {lines : List Text} {offset : Nat} {place : Place}
    (found : locate lines offset = some place) : place.line ∈ lines := by
  fun_induction locate lines offset generalizing place with
  | case1 => contradiction
  | case2 last offset =>
      obtain rfl := Option.some.inj found
      exact List.mem_singleton_self last
  | case3 line rest offset =>
      obtain rfl := Option.some.inj found
      exact List.mem_cons_self
  | case4 line rest offset _ _ ih =>
      obtain ⟨later, foundLater, rfl⟩ := Option.map_eq_some_iff.mp found
      have inRest := ih foundLater
      exact List.mem_cons_of_mem line inRest

end Layout

namespace Snippet

open Layout (Place)
open Piece (plain inked)

@[simp] theorem text_plain (text : Text) : (plain text).text = text := rfl

@[simp] theorem text_inked (ink : Ink) (text : Text) : (inked ink text).text = text := rfl

@[simp] theorem isEscapeFree_blanks (count : Nat) : (blanks count).IsEscapeFree :=
  Text.isEscapeFree_replicate (by decide) count

theorem isEscapeFree_fileRow {fileName : Text} (named : fileName.IsEscapeFree) (width : Nat)
    (place : Place) : (fileRow width fileName place).IsEscapeFree := by
  simp [fileRow, named]

theorem isEscapeFree_numberedMargin (width index : Nat) :
    (numberedMargin width index).IsEscapeFree := by
  simp [numberedMargin]

theorem isEscapeFree_bareMargin {bar : Text} (escapeFree : bar.IsEscapeFree) (width : Nat) :
    (bareMargin width bar).IsEscapeFree := by
  simp [bareMargin, escapeFree]

theorem isEscapeFree_closingRow (width : Nat) : (closingRow width).IsEscapeFree := by
  simp [closingRow]

theorem isEscapeFree_lineCells {line : Text} (escapeFree : line.IsEscapeFree)
    (start stop column : Nat) : (lineCells start stop column line).IsEscapeFree := by
  induction line generalizing column with
  | nil => exact Picture.isEscapeFree_nil
  | cons char rest ih =>
      obtain ⟨other, others⟩ := Text.isEscapeFree_cons.mp escapeFree
      have drawn : '\x1b' ≠ (Layout.shown column char).1 := by
        unfold Layout.shown
        split
        · exact (by decide : '\x1b' ≠ ' ')
        split
        · exact (by decide : '\x1b' ≠ ' ')
        · exact other
      rw [lineCells]
      generalize Layout.shown column char = cell at drawn ⊢
      obtain ⟨shown, width⟩ := cell
      refine Picture.isEscapeFree_append.mpr ⟨?_, ih others (column + 1)⟩
      intro piece listed
      obtain rfl := List.eq_of_mem_replicate listed
      exact Text.isEscapeFree_cons.mpr ⟨drawn, Text.isEscapeFree_nil⟩

/-- Neither what is drawn first in a cell nor what fills the rest of it has an escape character. -/
def IsEscapeFreeCell (cell : Piece × Piece) : Prop :=
  cell.1.text.IsEscapeFree ∧ cell.2.text.IsEscapeFree

instance : DecidablePred IsEscapeFreeCell := fun _ => inferInstanceAs (Decidable (_ ∧ _))

theorem isEscapeFree_rowCells {cell : Nat → Piece × Piece}
    (escapeFree : ∀ column, IsEscapeFreeCell (cell column)) (column : Nat) (widths : List Nat) :
    (rowCells cell column widths).IsEscapeFree := by
  induction widths generalizing column with
  | nil => exact Picture.isEscapeFree_nil
  | cons width widths ih =>
      cases width with
      | zero => exact ih (column + 1)
      | succ width =>
          have drawn := escapeFree column
          rw [rowCells]
          generalize cell column = both at drawn ⊢
          obtain ⟨head, tail⟩ := both
          obtain ⟨first, others⟩ := drawn
          refine Picture.isEscapeFree_cons.mpr
            ⟨first, Picture.isEscapeFree_append.mpr ⟨?_, ih (column + 1)⟩⟩
          intro piece listed
          obtain rfl := List.eq_of_mem_replicate listed
          exact others

theorem isEscapeFreeCell_underlineCell (start stop column : Nat) :
    IsEscapeFreeCell (underlineCell start stop column) := by
  simp only [underlineCell]
  split
  · split <;> decide
  · split <;> decide

theorem isEscapeFreeCell_labelCell (start stop column : Nat) :
    IsEscapeFreeCell (labelCell start stop column) := by
  unfold labelCell
  split
  · decide
  · split <;> decide

/-- The end of the row with the label. -/
theorem isEscapeFree_labelEnd {label : Text} (labelled : label.IsEscapeFree) :
    Picture.IsEscapeFree [plain " ", plain label, plain "\n"] := by
  simp [labelled]

theorem isEscapeFree_inlineRows {place : Place} (escapeFree : place.line.IsEscapeFree)
    {label : Text} (labelled : label.IsEscapeFree) (width start stop : Nat) :
    (inlineRows width place start stop label).IsEscapeFree := by
  have line := isEscapeFree_lineCells (escapeFree.subset (Layout.visible_subset _)) start stop 0
  have underline := isEscapeFree_rowCells (isEscapeFreeCell_underlineCell start stop)
  have toLabel := isEscapeFree_rowCells (isEscapeFreeCell_labelCell start stop)
  have bar := isEscapeFree_bareMargin (by decide : Text.IsEscapeFree "│") width
  simp only [inlineRows, Picture.isEscapeFree_append, isEscapeFree_numberedMargin, line, bar,
    underline, toLabel, isEscapeFree_labelEnd labelled, true_and, and_true]
  decide

theorem isEscapeFree_spanningRows {first last : Place} (firstFree : first.line.IsEscapeFree)
    (lastFree : last.line.IsEscapeFree) {label : Text} (labelled : label.IsEscapeFree)
    (width start stop : Nat) :
    (spanningRows width first last start stop label).IsEscapeFree := by
  have firstLine := isEscapeFree_lineCells (firstFree.subset (Layout.visible_subset _)) start
    first.line.length 0
  have lastLine := isEscapeFree_lineCells (lastFree.subset (Layout.visible_subset _)) 0 stop 0
  have empty : ∀ widths, (rowCells (fun _ => emptyCell) 0 widths).IsEscapeFree :=
    isEscapeFree_rowCells (fun _ => by decide) 0
  have toLabel : ∀ widths,
      (rowCells (fun _ => (symbol "─", symbol "─")) 0 widths).IsEscapeFree :=
    isEscapeFree_rowCells (fun _ => by decide) 0
  have bar := isEscapeFree_bareMargin (by decide : Text.IsEscapeFree "│") width
  have gap : Picture.IsEscapeFree (if first.index + 1 < last.index then
      bareMargin width "┆" ++ [symbol "┆", plain " ", plain " ", plain " ", plain "\n"]
      else []) := by
    split
    · have gapBar := isEscapeFree_bareMargin (by decide : Text.IsEscapeFree "┆") width
      exact Picture.isEscapeFree_append.mpr ⟨gapBar, by decide⟩
    · exact Picture.isEscapeFree_nil
  simp only [spanningRows, Picture.isEscapeFree_append, isEscapeFree_numberedMargin, firstLine,
    lastLine, empty, toLabel, bar, gap, isEscapeFree_labelEnd labelled, true_and, and_true]
  decide

theorem isEscapeFree_draw {snippet : Snippet} (named : snippet.fileName.IsEscapeFree)
    (escapeFree : snippet.source.IsEscapeFree) (labelled : snippet.label.IsEscapeFree) :
    snippet.draw.IsEscapeFree := by
  have inSource {place : Place} {offset : Nat}
      (found : Layout.locate (Layout.lines snippet.source) offset = some place) :
      place.line.IsEscapeFree := by
    apply escapeFree.subset
    conv_rhs => rw [← Layout.flatten_lines snippet.source]
    exact fun char inside => List.mem_flatten.mpr ⟨_, Layout.mem_of_locate found, inside⟩
  simp only [draw]
  split
  · rename_i first last foundFirst foundLast
    refine Picture.isEscapeFree_append.mpr ⟨Picture.isEscapeFree_append.mpr
      ⟨isEscapeFree_fileRow named _ first, ?_⟩, isEscapeFree_closingRow _⟩
    split
    · exact isEscapeFree_inlineRows (inSource foundFirst) labelled _ _ _
    · exact isEscapeFree_spanningRows (inSource foundFirst) (inSource foundLast) labelled _ _ _
  · exact Picture.isEscapeFree_nil

end Snippet

namespace Rejection

theorem isEscapeFree_message {rejection : Rejection}
    (escapeFree : ∀ param, rejection = unknownType param →
      param.type.IsEscapeFree ∧ param.name.IsEscapeFree) :
    rejection.message.IsEscapeFree := by
  cases rejection with
  | undecodable offset =>
      have reason : Text.IsEscapeFree "Input is not valid UTF-8 text (invalid byte at offset " := by
        decide +kernel
      exact (reason.append (Text.isEscapeFree_ofNat offset)).append (by decide)
  | unknownType param =>
      obtain ⟨typed, named⟩ := escapeFree param rfl
      have reason : Text.IsEscapeFree "Parsing aborted because of unknown type: " := by
        decide +kernel
      have before : Text.IsEscapeFree " (line " := by decide
      exact ((((reason.append typed).append (by decide)).append named).append before).append
        (Text.isEscapeFree_ofNat param.line) |>.append (by decide)

theorem isEscapeFree_picture {param : UnknownType} (typed : param.type.IsEscapeFree)
    (named : param.name.IsEscapeFree) {fileName source : Text} (filed : fileName.IsEscapeFree)
    (escapeFree : source.IsEscapeFree) : (picture param fileName source).IsEscapeFree := by
  have message : (unknownType param).message.IsEscapeFree := by
    apply isEscapeFree_message
    rintro other same
    obtain rfl := unknownType.inj same
    exact ⟨typed, named⟩
  have before : Text.IsEscapeFree "`" := by decide
  have label := (before.append typed).append
    (by decide +kernel : Text.IsEscapeFree "` cannot be passed as lParam")
  have space : Text.IsEscapeFree " " := by decide
  have reason := (space.append message).append (by decide : Text.IsEscapeFree "\n")
  refine Picture.isEscapeFree_append.mpr ⟨?_, Snippet.isEscapeFree_draw filed escapeFree label⟩
  exact Picture.isEscapeFree_cons.mpr
    ⟨by decide, Picture.isEscapeFree_cons.mpr ⟨reason, Picture.isEscapeFree_nil⟩⟩

end Rejection

/-- In the description of a rejection without colour there is no escape character, and the one with
colour is the same text but for sequences that set the colour, wherever the rejection points. -/
theorem colour_only_decorates {rejection : Rejection} {fileName source : Text}
    (clear : ∀ param, rejection = .unknownType param → '\x1b' ∉ param.type ∧ '\x1b' ∉ param.name)
    (clearName : '\x1b' ∉ fileName) (clearSource : '\x1b' ∉ source) :
    '\x1b' ∉ rejection.describe fileName source false ∧
    (rejection.describe fileName source true).withoutStyles =
      rejection.describe fileName source false := by
  cases rejection with
  | undecodable offset =>
      have message := Rejection.isEscapeFree_message clear
      refine ⟨message, ?_⟩
      have alone := Text.withoutStyles_append message []
      rw [List.append_nil, Text.withoutStyles, List.append_nil] at alone
      exact alone
  | unknownType param =>
      obtain ⟨typed, named⟩ := clear param rfl
      have drawn := Rejection.isEscapeFree_picture typed named clearName clearSource
      exact ⟨Picture.isEscapeFree_render drawn, Picture.withoutStyles_render drawn⟩

/-- A part over two lines with a tab and wide characters, and a part that ends before it starts in
an empty text. -/
theorem colour_only_decorates_two_lines :
    let spanning : Rejection := .unknownType ⟨"odd", "ö", 1, ⟨1, 6⟩⟩
    let reversed : Rejection := .unknownType ⟨"odd", "ö", 1, ⟨9, 4⟩⟩
    (spanning.describe "f" "é\tx\n世y" true).withoutStyles =
      ("Error: Parsing aborted because of unknown type: odd ö (line 1)\n" ++
        "   ╭─[f:1:2]\n" ++
        "   │\n" ++
        " 1 │ ╭─▶ é   x\n" ++
        " 2 │ ├─▶ 世y\n" ++
        "   │ │        \n" ++
        "   │ ╰──────── `odd` cannot be passed as lParam\n" ++
        "───╯\n" : Text) ∧
    '\x1b' ∈ spanning.describe "f" "é\tx\n世y" true ∧
    (reversed.describe "f" [] true).withoutStyles =
      "Error: Parsing aborted because of unknown type: odd ö (line 1)\n" := by
  intro spanning reversed
  have clear : ∀ param, spanning = .unknownType param →
      '\x1b' ∉ param.type ∧ '\x1b' ∉ param.name := by
    rintro param same
    obtain rfl := Rejection.unknownType.inj same
    decide
  have clearToo : ∀ param, reversed = .unknownType param →
      '\x1b' ∉ param.type ∧ '\x1b' ∉ param.name := by
    rintro param same
    obtain rfl := Rejection.unknownType.inj same
    decide
  refine ⟨?_, ?_, ?_⟩
  · exact (colour_only_decorates clear (by decide) (by decide)).2.trans (by decide +kernel)
  · decide +kernel
  · exact (colour_only_decorates clearToo (by decide) (by decide)).2.trans (by decide +kernel)

end WrapperGen
