import WrapperGen.Text.Lines

/-!
Laws of cutting. A cut loses nothing but its marks, so every piece can be found again in the text,
and a cut text is cut the same way when something is added behind a mark.
-/

namespace WrapperGen.Text

@[simp] theorem byteLength_nil : byteLength [] = 0 := rfl

@[simp] theorem byteLength_cons (first : Char) (rest : Text) :
    byteLength (first :: rest) = first.utf8Size + byteLength rest := rfl

@[simp] theorem byteLength_append (front back : Text) :
    byteLength (front ++ back) = byteLength front + byteLength back := by
  induction front with
  | nil => simp
  | cons first rest ih => simp [ih, Nat.add_assoc]

theorem byteLength_pos {text : Text} (nonempty : text ≠ []) : 0 < byteLength text := by
  obtain ⟨first, rest, rfl⟩ := List.exists_cons_of_ne_nil nonempty
  have := first.utf8Size_pos
  rw [byteLength_cons]
  omega

theorem cut?_eq_some_iff {mark : Char} {text before after : Text} :
    cut? mark text = some (before, after) ↔ text = before ++ mark :: after ∧ mark ∉ before := by
  induction text generalizing before with
  | nil => simp [cut?]
  | cons first rest ih =>
      by_cases found : first = mark
      · subst first
        cases before with
        | nil => simp [cut?, eq_comm]
        | cons other before =>
            simp only [cut?, ↓reduceIte, Option.some.injEq, Prod.mk.injEq, List.cons_append,
              List.cons.injEq, List.mem_cons, not_or]
            constructor
            · rintro ⟨impossible, _⟩
              exact absurd impossible (by simp)
            · rintro ⟨⟨same, _⟩, different, _⟩
              exact absurd same different
      · cases before with
        | nil => simp [cut?, found]
        | cons other before =>
            simp only [cut?, found, ↓reduceIte, Option.map_eq_some_iff, Prod.mk.injEq,
              List.cons.injEq, List.cons_append, List.mem_cons, not_or]
            constructor
            · rintro ⟨⟨left, right⟩, cut, ⟨rfl, rfl⟩, rfl⟩
              obtain ⟨rfl, absent⟩ := ih.mp cut
              exact ⟨⟨rfl, rfl⟩, Ne.symm found, absent⟩
            · rintro ⟨⟨rfl, rfl⟩, _, absent⟩
              exact ⟨(before, after), ih.mpr ⟨rfl, absent⟩, ⟨rfl, rfl⟩, rfl⟩

theorem cut?_eq_none_iff {mark : Char} {text : Text} : cut? mark text = none ↔ mark ∉ text := by
  induction text with
  | nil => simp [cut?]
  | cons first rest ih =>
      by_cases found : first = mark
      · simp [cut?, found]
      · simp [cut?, found, ih, Ne.symm found]

theorem cut?_append {mark : Char} {back : Text} (absent : mark ∉ back) (front : Text) :
    cut? mark (front ++ back) =
      (cut? mark front).map fun (before, after) => (before, after ++ back) := by
  cases found : cut? mark front with
  | none =>
      have absentToo := cut?_eq_none_iff.mp found
      exact cut?_eq_none_iff.mpr (by simp [absent, absentToo])
  | some parts =>
      obtain ⟨before, after⟩ := parts
      obtain ⟨rfl, first⟩ := cut?_eq_some_iff.mp found
      exact cut?_eq_some_iff.mpr ⟨by simp, first⟩

theorem takeWhile_before_mark {mark : Char} {before after : Text} (absent : mark ∉ before) :
    (before ++ mark :: after).takeWhile (· ≠ mark) = before := by
  rw [List.takeWhile_append_of_pos]
  · simp
  · intro char member
    simpa using fun same : char = mark => absent (same ▸ member)

theorem splitWhere_eq_splitOnP (isMark : Char → Bool) (text : Text) :
    splitWhere isMark text = text.splitOnP isMark := by
  induction text with
  | nil => simp [splitWhere]
  | cons first rest ih =>
      rw [splitWhere, List.splitOnP_cons_eq_if_modifyHead, ih]
      split
      · rfl
      · cases pieces : rest.splitOnP isMark with
        | nil => exact absurd pieces (List.splitOnP_ne_nil isMark rest)
        | cons piece pieces => rfl

theorem splitWhere_ne_nil (isMark : Char → Bool) (text : Text) : splitWhere isMark text ≠ [] := by
  rw [splitWhere_eq_splitOnP]
  exact List.splitOnP_ne_nil isMark text

theorem splitWhere_append_mark {isMark : Char → Bool} {mark : Char} (marked : isMark mark = true)
    (front back : Text) :
    splitWhere isMark (front ++ mark :: back) =
      splitWhere isMark front ++ splitWhere isMark back := by
  simp only [splitWhere_eq_splitOnP]
  exact List.splitOnP_append_cons front back marked

theorem splitWhere_of_unmarked {isMark : Char → Bool} {text : Text}
    (unmarked : ∀ char ∈ text, isMark char = false) : splitWhere isMark text = [text] := by
  rw [splitWhere_eq_splitOnP]
  exact List.splitOnP_eq_singleton unmarked

/-- The first piece ends where the text does or before the first mark, and the other pieces are
those of the text behind that mark. -/
theorem splitWhere_first {isMark : Char → Bool} {text first : Text} {rest : List Text}
    (split : splitWhere isMark text = first :: rest) :
    (∀ char ∈ first, isMark char = false) ∧
      ((rest = [] ∧ text = first) ∨
        ∃ mark later, isMark mark = true ∧ text = first ++ mark :: later ∧
          rest = splitWhere isMark later) := by
  induction text generalizing first with
  | nil =>
      simp only [splitWhere, List.cons.injEq] at split
      simp [← split.1, ← split.2]
  | cons char text ih =>
      rw [splitWhere] at split
      by_cases marked : isMark char = true
      · simp only [marked, ↓reduceIte, List.cons.injEq] at split
        obtain ⟨rfl, rfl⟩ := split
        exact ⟨by simp, Or.inr ⟨char, text, marked, rfl, rfl⟩⟩
      · cases pieces : splitWhere isMark text with
        | nil => exact absurd pieces (splitWhere_ne_nil isMark text)
        | cons piece others =>
            simp only [marked, Bool.false_eq_true, ↓reduceIte, pieces, List.cons.injEq] at split
            obtain ⟨rfl, rfl⟩ := split
            obtain ⟨unmarked, alone | ⟨mark, later, isMark, same, others⟩⟩ := ih pieces
            · refine ⟨?_, Or.inl ⟨alone.1, by rw [alone.2]⟩⟩
              simpa [marked] using unmarked
            · refine ⟨?_, Or.inr ⟨mark, later, isMark, by rw [same, List.cons_append], others⟩⟩
              simpa [marked] using unmarked

theorem not_mem_of_mem_splitWhere {isMark : Char → Bool} {text piece : Text}
    (member : piece ∈ splitWhere isMark text) : ∀ char ∈ piece, isMark char = false := by
  generalize split : splitWhere isMark text = pieces at member
  induction pieces generalizing text with
  | nil => simp at member
  | cons first rest ih =>
      obtain ⟨unmarked, alone | ⟨_, later, _, _, others⟩⟩ := splitWhere_first split
      · simp only [alone.1, List.mem_singleton] at member
        exact member ▸ unmarked
      · rcases List.mem_cons.mp member with same | inRest
        · exact same ▸ unmarked
        · exact ih others.symm inRest

theorem mem_of_mem_splitWhere {isMark : Char → Bool} {text piece : Text}
    (member : piece ∈ splitWhere isMark text) {char : Char} (inside : char ∈ piece) :
    char ∈ text := by
  generalize split : splitWhere isMark text = pieces at member
  induction pieces generalizing text with
  | nil => simp at member
  | cons first rest ih =>
      obtain ⟨_, ⟨rfl, rfl⟩ | ⟨mark, later, _, rfl, others⟩⟩ := splitWhere_first split
      · rw [List.mem_singleton.mp member] at inside
        exact inside
      · rcases List.mem_cons.mp member with rfl | inRest
        · exact List.mem_append_left _ inside
        · exact List.mem_append_right _ (List.mem_cons_of_mem mark (ih others.symm inRest))

/-- The lines, each ended by a line feed. -/
def endLines (lines : List Text) : Text := lines.flatMap (· ++ ['\n'])

@[simp] theorem endLines_nil : endLines [] = [] := rfl

@[simp] theorem endLines_cons (line : Text) (lines : List Text) :
    endLines (line :: lines) = line ++ '\n' :: endLines lines := by
  simp [endLines]

@[simp] theorem endLines_append (front back : List Text) :
    endLines (front ++ back) = endLines front ++ endLines back := by
  simp [endLines]

theorem endLines_whole (lines : List Text) :
    endLines lines = [] ∨ (endLines lines).getLast? = some '\n' := by
  rcases List.eq_nil_or_concat lines with rfl | ⟨earlier, line, rfl⟩
  · exact Or.inl rfl
  · exact Or.inr (by simp)

theorem rawLines_append (front back : Text) :
    rawLines (front ++ '\n' :: back) = rawLines front ++ rawLines back :=
  splitWhere_append_mark (by simp) front back

theorem not_mem_of_mem_rawLines {text raw : Text} (member : raw ∈ rawLines text) : '\n' ∉ raw := by
  intro feed
  simpa using not_mem_of_mem_splitWhere member '\n' feed

theorem rawLines_of_unbroken {text : Text} (unbroken : '\n' ∉ text) : rawLines text = [text] := by
  apply splitWhere_of_unmarked
  intro char member
  simpa using fun same : char = '\n' => unbroken (same ▸ member)

theorem endLines_rawLines (text : Text) : endLines (rawLines text) = text ++ ['\n'] := by
  generalize split : rawLines text = raws
  induction raws generalizing text with
  | nil => exact absurd split (splitWhere_ne_nil _ text)
  | cons first rest ih =>
      obtain ⟨_, alone | ⟨mark, later, isFeed, same, others⟩⟩ := splitWhere_first split
      · simp [alone.1, alone.2]
      · obtain rfl : mark = '\n' := by simpa using isFeed
        simp [ih later others.symm, same]

theorem mem_of_mem_rawLines {text raw : Text} (member : raw ∈ rawLines text) {char : Char}
    (inside : char ∈ raw) : char ∈ text :=
  mem_of_mem_splitWhere member inside

theorem count_endLines {lines : List Text} (unbroken : ∀ line ∈ lines, '\n' ∉ line) :
    (endLines lines).count '\n' = lines.length := by
  induction lines with
  | nil => rfl
  | cons line lines ih =>
      simp only [List.forall_mem_cons] at unbroken
      simp [ih unbroken.2, List.count_eq_zero.mpr unbroken.1]

theorem length_rawLines (text : Text) : (rawLines text).length = text.count '\n' + 1 := by
  have counted : (endLines (rawLines text)).count '\n' = (rawLines text).length :=
    count_endLines fun _ => not_mem_of_mem_rawLines
  rw [endLines_rawLines, List.count_append] at counted
  exact counted.symm

theorem rawLines_endLines_append {lines : List Text} (unbroken : ∀ line ∈ lines, '\n' ∉ line)
    (back : Text) : rawLines (endLines lines ++ back) = lines ++ rawLines back := by
  induction lines with
  | nil => rfl
  | cons line lines ih =>
      simp only [List.forall_mem_cons] at unbroken
      rw [endLines_cons, List.append_assoc, List.cons_append, rawLines_append,
        rawLines_of_unbroken unbroken.1, ih unbroken.2]
      rfl

theorem endLines_injective {lines others : List Text} (unbroken : ∀ line ∈ lines, '\n' ∉ line)
    (unbrokenToo : ∀ line ∈ others, '\n' ∉ line) (same : endLines lines = endLines others) :
    lines = others := by
  have left := rawLines_endLines_append unbroken []
  have right := rawLines_endLines_append unbrokenToo []
  rw [same, right] at left
  exact (List.append_cancel_right left).symm

theorem eq_endLines_of_whole {text : Text} (whole : text = [] ∨ text.getLast? = some '\n') :
    ∃ lines, text = endLines lines ∧ ∀ line ∈ lines, '\n' ∉ line := by
  rcases whole with rfl | feed
  · exact ⟨[], rfl, by simp⟩
  · obtain ⟨front, rfl⟩ := List.getLast?_eq_some_iff.mp feed
    exact ⟨rawLines front, (endLines_rawLines front).symm, fun _ => not_mem_of_mem_rawLines⟩

/-- A line stands in the text behind the lines before it. -/
theorem eq_endLines_append {text raw : Text} {before after : List Text}
    (split : rawLines text = before ++ raw :: after) :
    ∃ rest, text = endLines before ++ raw ++ rest := by
  have ended := endLines_rawLines text
  rw [split, endLines_append, endLines_cons] at ended
  have last : ∃ rest, '\n' :: endLines after = rest ++ ['\n'] := by
    rcases List.eq_nil_or_concat after with rfl | ⟨earlier, line, rfl⟩
    · exact ⟨[], rfl⟩
    · exact ⟨'\n' :: (endLines earlier ++ line), by simp⟩
  obtain ⟨rest, same⟩ := last
  rw [same, ← List.append_assoc, ← List.append_assoc] at ended
  exact ⟨rest, (List.append_cancel_right ended).symm⟩

@[simp] theorem dropReturn_append_return (text : Text) : dropReturn (text ++ ['\r']) = text := by
  induction text with
  | nil => rfl
  | cons first rest ih =>
      rw [List.cons_append, dropReturn, ih]
      simp

theorem dropReturn_eq_self {text : Text} (other : text.getLast? ≠ some '\r') :
    dropReturn text = text := by
  fun_induction dropReturn text with
  | case1 => rfl
  | case2 => simp at other
  | case3 first rest _ ih =>
      rw [ih]
      intro last
      apply other
      rw [List.getLast?_cons, last, Option.getD_some]

theorem eq_dropReturn_append (text : Text) :
    ∃ ending, text = dropReturn text ++ ending ∧ (ending = [] ∨ ending = ['\r']) := by
  by_cases returned : text.getLast? = some '\r'
  · obtain ⟨front, rfl⟩ := List.getLast?_eq_some_iff.mp returned
    exact ⟨['\r'], by simp, Or.inr rfl⟩
  · exact ⟨[], by simp [dropReturn_eq_self returned], Or.inl rfl⟩

theorem mem_blockLinesFrom {raws : List Text} {line : Text} (member : line ∈ blockLinesFrom raws) :
    ∃ raw ∈ raws, line = raw ∨ line = dropReturn raw := by
  fun_induction blockLinesFrom raws with
  | case1 => contradiction
  | case2 => contradiction
  | case3 last => exact ⟨last, by simp, Or.inl (by simpa using member)⟩
  | case4 raw raws _ ih =>
      rcases List.mem_cons.mp member with rfl | later
      · exact ⟨raw, by simp, Or.inr rfl⟩
      · obtain ⟨found, listed, same⟩ := ih later
        exact ⟨found, List.mem_cons_of_mem raw listed, same⟩

theorem not_mem_of_mem_blockLines {block line : Text} (member : line ∈ blockLines block) :
    '\n' ∉ line := by
  obtain ⟨raw, listed, same⟩ := mem_blockLinesFrom member
  have unbroken : '\n' ∉ raw := not_mem_of_mem_rawLines listed
  rcases same with rfl | rfl
  · exact unbroken
  · obtain ⟨ending, same, _⟩ := eq_dropReturn_append raw
    intro feed
    exact unbroken (same ▸ List.mem_append_left ending feed)

end WrapperGen.Text
