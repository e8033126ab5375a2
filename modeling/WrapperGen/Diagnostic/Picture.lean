import WrapperGen.Text.Basic

/-!
Text for a terminal: pieces, each in an ink of its own or in none. Without colour a picture is the
text of its pieces; with colour each inked piece stands between two control sequences.
-/

namespace WrapperGen

/-- The inks in which pieces are drawn. -/
inductive Ink
  | red
  | boldRed
  | green
  | boldGreen
  | yellow
  | brightWhite
  | boldBlue
  | dimmed
  | margin
  | faintMargin
  | source
deriving DecidableEq, Repr

def Ink.code : Ink → Text
  | red => "31"
  | boldRed => "1;31"
  | green => "32"
  | boldGreen => "1;32"
  | yellow => "33"
  | brightWhite => "97"
  | boldBlue => "1;94"
  | dimmed => "2"
  | margin => "38;5;246"
  | faintMargin => "38;5;240"
  | source => "38;5;249"

def Ink.start (ink : Ink) : Text := "\x1b[" ++ ink.code ++ "m"

/-- The control sequence that ends every ink. -/
def Ink.stop : Text := "\x1b[0m"

/-- A piece of text in an ink, or in none. -/
structure Piece where
  ink : Option Ink
  text : Text
deriving DecidableEq, Repr

abbrev Picture := List Piece

namespace Piece

/-- A piece without ink. -/
def plain (text : Text) : Piece := ⟨none, text⟩

def inked (ink : Ink) (text : Text) : Piece := ⟨some ink, text⟩

/-- The piece on a terminal with or without colour. Where a text in ink ends an ink itself, its own
ink is started again. -/
def render (colour : Bool) (piece : Piece) : Text :=
  match piece.ink with
  | some ink =>
    if colour then ink.start ++ piece.text.replaceAll Ink.stop (Ink.stop ++ ink.start) ++ Ink.stop
    else piece.text
  | none => piece.text

end Piece

/-- The picture on a terminal with or without colour. -/
def Picture.render (colour : Bool) (picture : Picture) : Text :=
  picture.flatMap (Piece.render colour)

@[simp] theorem Picture.render_append (colour : Bool) (first second : Picture) :
    render colour (first ++ second) = render colour first ++ render colour second :=
  List.flatMap_append

end WrapperGen
