import WrapperGen.Proofs.Text.Cutting
import WrapperGen.Writer

/-!
What a writer's steps do. A step that writes adds to the end of the output and keeps the level, and
`indent` and `dedent` change the level alone. Written lines can be told apart again.
-/

namespace WrapperGen

/-- What ends a line, without the line feed. -/
def LineEnding.beforeFeed : LineEnding → Text
  | .crlf => ['\r']
  | .lf => []
  | .native => []

theorem LineEnding.text_eq (ending : LineEnding) : ending.text = ending.beforeFeed ++ ['\n'] := by
  cases ending <;> decide

theorem LineEnding.not_mem_beforeFeed (ending : LineEnding) : '\n' ∉ ending.beforeFeed := by
  cases ending <;> decide

namespace Writer

/-- One writer has written the text behind what the other one has, and is like it otherwise. -/
structure Writes (before after : Writer) (text : Text) : Prop where
  output : after.output = before.output ++ text
  level : after.level = before.level
  lineEnding : after.lineEnding = before.lineEnding

theorem Writes.refl (writer : Writer) : writer.Writes writer [] :=
  ⟨(List.append_nil _).symm, rfl, rfl⟩

theorem Writes.trans {first second third : Writer} {front back : Text}
    (left : first.Writes second front) (right : second.Writes third back) :
    first.Writes third (front ++ back) := by
  refine ⟨?_, right.level.trans left.level, right.lineEnding.trans left.lineEnding⟩
  rw [right.output, left.output, List.append_assoc]

theorem writes_add (writer : Writer) (text : Text) : writer.Writes (writer.add text) text :=
  ⟨by simp [output, add], rfl, rfl⟩

theorem writes_newLine (writer : Writer) : writer.Writes writer.newLine writer.lineEnding.text :=
  writes_add writer _

/-- The text as a line of its own at a level. -/
def indented (level : Nat) (ending : LineEnding) (text : Text) : Text :=
  List.replicate level '\t' ++ text ++ ending.text

theorem writes_addLine (writer : Writer) (text : Text) :
    writer.Writes (writer.addLine text) (indented writer.level writer.lineEnding text) :=
  (writes_add writer (List.replicate writer.level '\t' ++ text)).trans (writes_newLine _)

/-- What is written for each of several lines depends on the level and the ending at most, so it is
written as if each line came first. -/
theorem writes_foldl {write : Writer → Text → Writer} (written : Nat → LineEnding → Text → Text)
    (step : ∀ writer line, Writes writer (write writer line)
      (written writer.level writer.lineEnding line)) (writer : Writer) (lines : List Text) :
    writer.Writes (lines.foldl write writer)
      (lines.flatMap (written writer.level writer.lineEnding)) := by
  induction lines generalizing writer with
  | nil => exact Writes.refl writer
  | cons line lines ih =>
      have first := step writer line
      have others := ih (write writer line)
      rw [first.level, first.lineEnding] at others
      exact first.trans others

theorem writes_addBlock (writer : Writer) (block : Text) :
    writer.Writes (writer.addBlock block)
      (block.blockLines.flatMap (indented 0 writer.lineEnding)) := by
  apply writes_foldl fun _ => indented 0
  intro writer line
  exact (writes_add writer line).trans (writes_newLine _)

/-- The line at a level up to its line feed. -/
def upToFeed (level : Nat) (ending : LineEnding) (line : Text) : Text :=
  List.replicate level '\t' ++ line ++ ending.beforeFeed

theorem indented_eq (level : Nat) (ending : LineEnding) (line : Text) :
    indented level ending line = upToFeed level ending line ++ ['\n'] := by
  rw [indented, upToFeed, ending.text_eq, List.append_assoc _ ending.beforeFeed]

theorem flatMap_indented_eq_endLines (level : Nat) (ending : LineEnding) (lines : List Text) :
    lines.flatMap (indented level ending) = Text.endLines (lines.map (upToFeed level ending)) := by
  rw [Text.endLines, List.flatMap_map]
  congr 1
  funext line
  exact indented_eq level ending line

theorem upToFeed_unbroken (level : Nat) (ending : LineEnding) {lines : List Text}
    (unbroken : ∀ line ∈ lines, '\n' ∉ line) :
    ∀ line ∈ lines.map (upToFeed level ending), '\n' ∉ line := by
  intro line member
  obtain ⟨bare, listed, rfl⟩ := List.mem_map.mp member
  simp [upToFeed, unbroken bare listed, ending.not_mem_beforeFeed]

/-- Lines without a line feed in them can be cut apart again in one way only. -/
theorem flatMap_indented_injective {level : Nat} {ending : LineEnding} {lines others : List Text}
    (unbroken : ∀ line ∈ lines, '\n' ∉ line) (unbrokenToo : ∀ line ∈ others, '\n' ∉ line)
    (same : lines.flatMap (indented level ending) = others.flatMap (indented level ending)) :
    lines = others := by
  rw [flatMap_indented_eq_endLines, flatMap_indented_eq_endLines] at same
  have ended := Text.endLines_injective (upToFeed_unbroken level ending unbroken)
    (upToFeed_unbroken level ending unbrokenToo) same
  refine (List.map_inj_right ?_).mp ended
  intro line other alike
  exact List.append_cancel_left (List.append_cancel_right alike)

/-- Lines one level in between two blocks, with an empty line before them and one behind them. -/
theorem output_framed (ending : LineEnding) (first last : Text) (lines : List Text) :
    let start : Writer := { lineEnding := ending }
    let opened := (start.addBlock first).newLine
    let filled := lines.foldl addLine opened.indent
    (filled.dedent.newLine.addBlock last).output =
      first.blockLines.flatMap (indented 0 ending) ++ ending.text ++
        lines.flatMap (indented 1 ending) ++
        (ending.text ++ last.blockLines.flatMap (indented 0 ending)) := by
  intro start opened filled
  have block := writes_addBlock start first
  have opening := block.trans (writes_newLine _)
  have body := writes_foldl indented writes_addLine opened.indent lines
  have closing := (writes_newLine filled.dedent).trans (writes_addBlock _ last)
  -- the ending is the same throughout, and only the level of the lines in between differs
  have blockEnding : (start.addBlock first).lineEnding = ending := block.lineEnding
  have openedEnding : opened.indent.lineEnding = ending := opening.lineEnding
  have openedLevel : opened.indent.level = 1 := congrArg (· + 1) opening.level
  have filledEnding : filled.dedent.lineEnding = ending := body.lineEnding.trans openedEnding
  have closingEnding : filled.dedent.newLine.lineEnding = ending := filledEnding
  have openedOutput : opened.indent.output = _ := opening.output
  have filledOutput : filled.dedent.output = _ := body.output
  rw [closing.output, filledOutput, openedOutput, blockEnding, openedEnding, openedLevel,
    filledEnding, closingEnding]
  rfl

end Writer

end WrapperGen
