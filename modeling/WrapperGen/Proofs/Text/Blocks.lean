import WrapperGen.Proofs.Text.Cutting

/-!
The lines of a block. A grammar says what the lines of a text are, by the ends that they have in it,
and the lines that are cut from a text are those and no others.
-/

namespace WrapperGen.Text

/-- The text consists of the lines, each with its end. A line ends with a line feed, and a carriage
return before it belongs to the end; a last line without an end is not empty. -/
inductive HasLines : List Text → Text → Prop
  | none : HasLines [] []
  | last {line : Text} (nonempty : line ≠ []) (unbroken : '\n' ∉ line) : HasLines [line] line
  | feed {line back : Text} {lines : List Text} (unbroken : '\n' ∉ line)
      (plain : line.getLast? ≠ some '\r') (others : HasLines lines back) :
      HasLines (line :: lines) (line ++ '\n' :: back)
  | returned {line back : Text} {lines : List Text} (unbroken : '\n' ∉ line)
      (others : HasLines lines back) : HasLines (line :: lines) (line ++ '\r' :: '\n' :: back)

theorem dropReturn_eq_self_iff {text : Text} :
    dropReturn text = text ↔ text.getLast? ≠ some '\r' := by
  constructor
  · intro same returned
    obtain ⟨front, rfl⟩ := List.getLast?_eq_some_iff.mp returned
    rw [dropReturn_append_return] at same
    simpa using congrArg List.length same
  · exact dropReturn_eq_self

theorem blockLines_append {line : Text} (unbroken : '\n' ∉ line) (back : Text) :
    blockLines (line ++ '\n' :: back) = dropReturn line :: blockLines back := by
  rw [blockLines, blockLines, rawLines_append, rawLines_of_unbroken unbroken]
  cases raws : rawLines back with
  | nil => exact absurd raws (splitWhere_ne_nil _ back)
  | cons raw others => rfl

theorem HasLines.blockLines_eq {lines : List Text} {text : Text} (has : HasLines lines text) :
    text.blockLines = lines := by
  induction has with
  | none => rfl
  | last nonempty unbroken =>
      rw [blockLines, rawLines_of_unbroken unbroken, blockLinesFrom, if_neg nonempty]
  | feed unbroken plain _ ih =>
      rw [blockLines_append unbroken, dropReturn_eq_self plain, ih]
  | @returned line back lines unbroken _ ih =>
      have unbrokenToo : '\n' ∉ line ++ ['\r'] := by simp [unbroken]
      have cut := blockLines_append unbrokenToo back
      rw [dropReturn_append_return, ih, List.append_assoc] at cut
      exact cut

theorem hasLines_blockLines (text : Text) : HasLines text.blockLines text := by
  generalize split : rawLines text = raws
  induction raws generalizing text with
  | nil => exact absurd split (splitWhere_ne_nil _ text)
  | cons first rest ih =>
      have listed : first ∈ rawLines text := split ▸ List.mem_cons_self
      have unbroken : '\n' ∉ first := not_mem_of_mem_rawLines listed
      obtain ⟨_, ⟨rfl, rfl⟩ | ⟨mark, later, isFeed, rfl, others⟩⟩ := splitWhere_first split
      · rw [blockLines, split, blockLinesFrom]
        split
        · rename_i empty
          rw [empty]
          exact .none
        · rename_i nonempty
          exact .last nonempty unbroken
      · obtain rfl : mark = '\n' := by simpa using isFeed
        have behind : HasLines (blockLines later) later := ih later others.symm
        rw [blockLines_append unbroken]
        -- a carriage return before the line feed is of the end, not of the line
        by_cases ended : first.getLast? = some '\r'
        · obtain ⟨line, rfl⟩ := List.getLast?_eq_some_iff.mp ended
          rw [dropReturn_append_return, List.append_assoc]
          exact .returned (fun feed => unbroken (List.mem_append_left _ feed)) behind
        · rw [dropReturn_eq_self ended]
          exact .feed unbroken ended behind

theorem blockLines_eq_iff {text : Text} {lines : List Text} :
    text.blockLines = lines ↔ HasLines lines text := by
  constructor
  · rintro rfl
    exact hasLines_blockLines text
  · exact HasLines.blockLines_eq

/-- Of lines that are ended by a line feed each, those with a carriage return at the end lose it. -/
theorem blockLines_endLines {lines : List Text} (unbroken : ∀ line ∈ lines, '\n' ∉ line) :
    blockLines (endLines lines) = lines.map dropReturn := by
  induction lines with
  | nil => rfl
  | cons line lines ih =>
      simp only [List.forall_mem_cons] at unbroken
      rw [endLines_cons, blockLines_append unbroken.1, ih unbroken.2, List.map_cons]

end WrapperGen.Text
