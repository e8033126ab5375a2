import WrapperGen.Diagnostic.Layout
import WrapperGen.Diagnostic.Picture

/-!
A snippet of a text with one part of it marked and labelled: on one line by a line under it, over
several lines by a bracket beside them.
-/

namespace WrapperGen

/-- A marked part of a text, from one character up to another, and its label. -/
structure Snippet where
  fileName : Text
  source : Text
  start : Nat
  stop : Nat
  label : Text
deriving DecidableEq, Repr

namespace Snippet

open Layout (Place)
open Piece (plain inked)

def blanks (count : Nat) : Text := List.replicate count ' '

/-- The line that names the file and the place, under a margin of the given width. -/
def fileRow (width : Nat) (fileName : Text) (place : Place) : Picture := [
  plain (blanks (width + 2)),
  inked .margin "╭", inked .margin "─", inked .margin "[",
  plain (fileName ++ ":" ++ Text.ofNat (place.index + 1) ++ ":" ++ Text.ofNat (place.column + 1)),
  inked .margin "]",
  plain "\n",
  plain (blanks (width + 2)), inked .margin "│", plain "\n"]

def numberedMargin (width index : Nat) : Picture :=
  let number := Text.ofNat (index + 1)
  [plain " ", inked .margin (blanks (width - number.length) ++ number ++ " │"), plain " "]

/-- The margin of any other row, with the given bar. -/
def bareMargin (width : Nat) (bar : Text) : Picture :=
  [plain " ", inked .faintMargin (blanks (width + 1) ++ bar), plain " "]

/-- The last row. -/
def closingRow (width : Nat) : Picture :=
  [inked .margin (List.replicate (width + 2) '─' ++ "╯"), plain "\n"]

/-- The shown characters of a line from a column on; the columns from `start` up to `stop` are
marked. A blank is drawn as often as it is wide. -/
def lineCells (start stop column : Nat) : Text → Picture
  | [] => []
  | char :: rest =>
    let (shown, width) := Layout.shown column char
    let ink : Ink := if start ≤ column && column < stop then .red else .source
    let copies := if Text.isBlank shown then width else 1
    List.replicate copies (inked ink [shown]) ++ lineCells start stop (column + 1) rest

/-- Cells of a row under the line, each with what is drawn first and what fills the rest of it. -/
def rowCells (cell : Nat → Piece × Piece) (column : Nat) : (widths : List Nat) → Picture
  | [] => []
  | 0 :: widths => rowCells cell (column + 1) widths
  | (width + 1) :: widths =>
    let (head, tail) := cell column
    head :: List.replicate width tail ++ rowCells cell (column + 1) widths

def symbol (text : Text) : Piece := inked .red text

def emptyCell : Piece × Piece := (plain " ", plain " ")

/-- A cell of the row that underlines the columns from `start` up to `stop` and from whose middle
the label hangs. -/
def underlineCell (start stop column : Nat) : Piece × Piece :=
  let underlined := start ≤ column && column < stop
  if column = (start + stop) / 2 then
    if underlined then (symbol "┬", symbol "─") else (symbol "│", symbol " ")
  else if underlined then (symbol "─", symbol "─")
  else emptyCell

/-- A cell of the row that leads to the label. -/
def labelCell (start stop column : Nat) : Piece × Piece :=
  if column = (start + stop) / 2 then (symbol "╰", symbol "─")
  else if (start + stop) / 2 < column then (symbol "─", symbol "─")
  else emptyCell

/-- The rows of a part on one line, in columns from `start` up to `stop`. -/
def inlineRows (width : Nat) (place : Place) (start stop : Nat) (label : Text) : Picture :=
  let line := Layout.visible place.line
  let widths := Layout.widths 0 line (stop + 2)
  numberedMargin width place.index ++ lineCells start stop 0 line ++ [plain "\n"] ++
  bareMargin width "│" ++ rowCells (underlineCell start stop) 0 widths ++ [plain "\n"] ++
  bareMargin width "│" ++ rowCells (labelCell start stop) 0 widths ++
    [plain " ", plain label, plain "\n"]

/-- The rows of a part over several lines, from a column of the first up to a column of the last. -/
def spanningRows (width : Nat) (first last : Place) (start stop : Nat) (label : Text) : Picture :=
  let firstLine := Layout.visible first.line
  let lastLine := Layout.visible last.line
  let widths := Layout.widths 0 lastLine (last.line.length + 2)
  numberedMargin width first.index ++
    [symbol "╭", symbol "─", symbol "▶", symbol " "] ++
    lineCells start first.line.length 0 firstLine ++ [plain "\n"] ++
  (if first.index + 1 < last.index then
    bareMargin width "┆" ++ [symbol "┆", plain " ", plain " ", plain " ", plain "\n"]
  else []) ++
  numberedMargin width last.index ++
    [symbol "├", symbol "─", symbol "▶", symbol " "] ++
    lineCells 0 stop 0 lastLine ++ [plain "\n"] ++
  bareMargin width "│" ++ [symbol "│", plain " ", plain " ", plain " "] ++
    rowCells (fun _ => emptyCell) 0 widths ++ [plain "\n"] ++
  bareMargin width "│" ++ [symbol "╰", symbol "─", symbol "─", symbol "─"] ++
    rowCells (fun _ => (symbol "─", symbol "─")) 0 widths ++
    [plain " ", plain label, plain "\n"]

/-- The snippet; nothing is drawn of an empty text. -/
def draw (snippet : Snippet) : Picture :=
  let lines := Layout.lines snippet.source
  -- the part ends on the line of its last character, an empty one where it starts
  let lastChar := max (snippet.stop - 1) snippet.start
  match Layout.locate lines snippet.start, Layout.locate lines lastChar with
  | some first, some last =>
    let width := (Text.ofNat (last.index + 1)).length
    let rows :=
      if first.index = last.index then
        let stop := first.column + (snippet.stop - snippet.start)
        inlineRows width first first.column stop snippet.label
      else
        spanningRows width first last first.column (last.column + 1) snippet.label
    fileRow width snippet.fileName first ++ rows ++ closingRow width
  | _, _ => []

end Snippet

end WrapperGen
