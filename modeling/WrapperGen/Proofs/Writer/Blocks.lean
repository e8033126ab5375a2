import WrapperGen.Proofs.Text.Blocks
import WrapperGen.Proofs.Writer

/-!
Blocks that are written. Of a block only the ends of its lines change, so with the same ending it is
written the same way again, unless a line ends with a carriage return of its own that a bare line
feed behind it makes a part of the end.
-/

namespace WrapperGen.Writer

/-- No line with this ending has a carriage return of its own directly before a bare line feed. -/
def KeepsLines (ending : LineEnding) (lines : List Text) : Prop :=
  ending = .crlf ∨ ∀ line ∈ lines, line.getLast? ≠ some '\r'

instance (ending : LineEnding) (lines : List Text) : Decidable (KeepsLines ending lines) :=
  inferInstanceAs (Decidable (_ ∨ _))

theorem keepsLines_iff {ending : LineEnding} {lines : List Text} :
    KeepsLines ending lines ↔
      ∀ line ∈ lines, Text.dropReturn (upToFeed 0 ending line) = line := by
  have bare : (∀ line ∈ lines, Text.dropReturn (line ++ []) = line) ↔
      ∀ line ∈ lines, line.getLast? ≠ some '\r' := by
    simp only [List.append_nil, Text.dropReturn_eq_self_iff]
  cases ending with
  | crlf => exact iff_of_true (Or.inl rfl) fun line _ => Text.dropReturn_append_return line
  | lf => exact (or_iff_right (by decide)).trans bare.symm
  | native => exact (or_iff_right (by decide)).trans bare.symm

theorem blockLines_flatMap_indented (ending : LineEnding) {lines : List Text}
    (unbroken : ∀ line ∈ lines, '\n' ∉ line) :
    Text.blockLines (lines.flatMap (indented 0 ending)) =
      lines.map fun line => Text.dropReturn (upToFeed 0 ending line) := by
  rw [flatMap_indented_eq_endLines,
    Text.blockLines_endLines (upToFeed_unbroken 0 ending unbroken), List.map_map]
  rfl

theorem blockLines_flatMap_indented_eq_iff {ending : LineEnding} {lines : List Text}
    (unbroken : ∀ line ∈ lines, '\n' ∉ line) :
    Text.blockLines (lines.flatMap (indented 0 ending)) = lines ↔ KeepsLines ending lines := by
  rw [blockLines_flatMap_indented ending unbroken, keepsLines_iff]
  constructor
  · intro same
    exact List.map_inj_left.mp (same.trans (List.map_id lines).symm)
  · intro kept
    exact (List.map_congr_left kept).trans (List.map_id lines)

/-- A block is written line by line, each line with the writer's ending in the place of its own. The
text that has been written has the same lines again, and is written as it is when it is taken for a
block itself, if and only if the ending keeps the lines. -/
theorem addBlock_changes_ends_alone (writer : Writer) (block : Text) :
    let lines := block.blockLines
    let appended : Text := lines.flatMap (· ++ writer.lineEnding.text)
    Text.HasLines lines block ∧
      writer.Writes (writer.addBlock block) appended ∧
      (appended.blockLines = lines ↔ KeepsLines writer.lineEnding lines) ∧
      ((∀ other : Writer, other.lineEnding = writer.lineEnding →
        other.Writes (other.addBlock appended) appended) ↔ KeepsLines writer.lineEnding lines) := by
  intro lines appended
  have unbroken : ∀ line ∈ lines, '\n' ∉ line := fun _ => Text.not_mem_of_mem_blockLines
  have cut : appended.blockLines = lines ↔ KeepsLines writer.lineEnding lines :=
    blockLines_flatMap_indented_eq_iff unbroken
  refine ⟨Text.blockLines_eq_iff.mp rfl, writes_addBlock writer block, cut, ?_⟩
  rw [← cut]
  constructor
  · intro again
    have written := (again writer rfl).output
    rw [(writes_addBlock writer appended).output] at written
    -- both are lines with this ending, so they are the same text only if they are the same lines
    have unbrokenToo : ∀ line ∈ appended.blockLines, '\n' ∉ line :=
      fun _ => Text.not_mem_of_mem_blockLines
    exact flatMap_indented_injective unbrokenToo unbroken (List.append_cancel_left written)
  · intro same other ending
    have written := writes_addBlock other appended
    rw [same, ending] at written
    exact written

theorem addBlock_changes_ends_alone_returns :
    let block : Text := "a\r\r\nb\rc\n\n\r"
    let lines : List Text := ["a\r", "b\rc", "", "\r"]
    let appended : Text := "a\r\r\nb\rc\r\n\r\n\r\r\n"
    let writer : Writer := { lineEnding := .crlf }
    let other : Writer := { lineEnding := .crlf, level := 2, pieces := ["\r"] }
    (KeepsLines .crlf lines ∧ writer.Writes (writer.addBlock block) appended ∧
      appended.blockLines = lines ∧ other.Writes (other.addBlock appended) appended) ∧
    ¬ KeepsLines .lf lines ∧ Text.blockLines "a\r\nb\rc\n\n\r\n" ≠ lines := by
  intro block lines appended writer other
  have cutBlock : block.blockLines = lines := by decide
  have kept : KeepsLines .crlf block.blockLines := Or.inl rfl
  have lost : ¬ KeepsLines .lf block.blockLines := by decide
  obtain ⟨-, written, cut, again⟩ := addBlock_changes_ends_alone writer block
  obtain ⟨-, -, cutBare, -⟩ := addBlock_changes_ends_alone { lineEnding := .lf } block
  rw [← cutBlock]
  exact ⟨⟨kept, written, cut.mpr kept, again.mpr kept other rfl⟩, lost, mt cutBare.mp lost⟩

end WrapperGen.Writer
