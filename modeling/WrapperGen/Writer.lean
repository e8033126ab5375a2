import WrapperGen.Header.Options
import WrapperGen.Text.Lines

/-!
A writer of indented lines. Only `addLine` and `addIndented` look at the indentation, and only
`indent` and `dedent` change it; at level zero `dedent` does nothing.
-/

namespace WrapperGen

/-- What has been written, the latest piece first, and the indentation of the next line. -/
structure Writer where
  lineEnding : LineEnding
  level : Nat := 0
  pieces : List Text := []

namespace Writer

def output (writer : Writer) : Text := writer.pieces.reverse.flatten

def add (writer : Writer) (text : Text) : Writer :=
  { writer with pieces := text :: writer.pieces }

def newLine (writer : Writer) : Writer := writer.add writer.lineEnding.text

def addIndented (writer : Writer) (text : Text) : Writer :=
  writer.add (List.replicate writer.level '\t' ++ text)

def addLine (writer : Writer) (text : Text) : Writer := (writer.addIndented text).newLine

/-- Writes the lines of a block as they are, each with the writer's own ending. -/
def addBlock (writer : Writer) (block : Text) : Writer :=
  block.blockLines.foldl (fun writer line => (writer.add line).newLine) writer

def indent (writer : Writer) : Writer := { writer with level := writer.level + 1 }

def dedent (writer : Writer) : Writer := { writer with level := writer.level - 1 }

inductive Step
  | add (text : Text)
  | addLine (text : Text)
  | addBlock (block : Text)
  | addIndented (text : Text)
  | newLine
  | indent
  | dedent
deriving DecidableEq, Repr

def run (writer : Writer) : Step → Writer
  | .add text => writer.add text
  | .addLine text => writer.addLine text
  | .addBlock block => writer.addBlock block
  | .addIndented text => writer.addIndented text
  | .newLine => writer.newLine
  | .indent => writer.indent
  | .dedent => writer.dedent

end Writer

end WrapperGen
