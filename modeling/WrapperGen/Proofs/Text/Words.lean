import Mathlib.Data.List.TakeWhile
import Mathlib.Tactic.Conv
import WrapperGen.Text.Blank
import WrapperGen.Proofs.Text.Cutting

/-!
Words and trimmed texts. A word reaches from white space or an end of the text to white space or an
end, and trimming takes away only what no word needs.
-/

namespace WrapperGen.Text

/-- There is no white space in the text. -/
def IsSolid (text : Text) : Prop := ∀ char ∈ text, isBlank char = false

/-- The text is not empty and has no white space in it. -/
def IsWord (text : Text) : Prop := text ≠ [] ∧ text.IsSolid

instance : DecidablePred IsSolid := fun text =>
  inferInstanceAs (Decidable (∀ char ∈ text, isBlank char = false))

instance : DecidablePred IsWord := fun _ => inferInstanceAs (Decidable (_ ∧ _))

theorem IsSolid.not_mem {text : Text} (solid : text.IsSolid) {blank : Char}
    (isBlank : isBlank blank = true) : blank ∉ text := by
  intro member
  rw [solid blank member] at isBlank
  contradiction

theorem mem_words {text word : Text} (member : word ∈ words text) :
    word ≠ [] ∧ ∀ char ∈ word, isBlank char = false := by
  obtain ⟨piece, nonempty⟩ := List.mem_filter.mp member
  exact ⟨by simpa using nonempty, not_mem_of_mem_splitWhere piece⟩

/-- A word holds only characters of the text. -/
theorem mem_of_mem_words {text word : Text} (member : word ∈ words text) {char : Char}
    (inside : char ∈ word) : char ∈ text :=
  mem_of_mem_splitWhere (List.mem_filter.mp member).1 inside

theorem words_append_blank {blank : Char} (isBlank : isBlank blank = true) (front back : Text) :
    words (front ++ blank :: back) = words front ++ words back := by
  rw [words, splitWhere_append_mark isBlank, List.filter_append]
  rfl

theorem words_cons_blank {blank : Char} (isBlank : isBlank blank = true) (text : Text) :
    words (blank :: text) = words text := by
  simpa [words, splitWhere] using words_append_blank isBlank [] text

theorem words_blank_append {lead : Text} (blank : ∀ char ∈ lead, isBlank char = true)
    (text : Text) : words (lead ++ text) = words text := by
  induction lead with
  | nil => rfl
  | cons first lead ih =>
      simp only [List.forall_mem_cons] at blank
      rw [List.cons_append, words_cons_blank blank.1, ih blank.2]

theorem words_append_blanks {trail : Text} (blank : ∀ char ∈ trail, isBlank char = true)
    (text : Text) : words (text ++ trail) = words text := by
  cases trail with
  | nil => simp
  | cons first trail =>
      simp only [List.forall_mem_cons] at blank
      rw [words_append_blank blank.1, ← List.append_nil trail, words_blank_append blank.2]
      simp [words, splitWhere]

theorem words_eq_singleton {word : Text} (nonempty : word ≠ [])
    (solid : ∀ char ∈ word, isBlank char = false) : words word = [word] := by
  rw [words, splitWhere_of_unmarked solid]
  simp [nonempty]

/-- A text that starts with no white space starts with its first word. -/
theorem words_cons_solid {first : Char} (solid : isBlank first = false) (text : Text) :
    ∃ word tail, first :: text = word ++ tail ∧ word ≠ [] ∧
      (∀ char ∈ tail.head?, isBlank char = true) ∧
      words (first :: text) = word :: words tail := by
  obtain ⟨word, pieces, split⟩ :=
    List.exists_cons_of_ne_nil (splitWhere_ne_nil isBlank (first :: text))
  obtain ⟨_, ⟨rfl, same⟩ | ⟨mark, later, blank, same, rfl⟩⟩ := splitWhere_first split
  · subst word
    refine ⟨first :: text, [], by simp, by simp, by simp, ?_⟩
    rw [words, split]
    simp [words, splitWhere]
  · have nonempty : word ≠ [] := by
      rintro rfl
      obtain rfl : first = mark := by simpa using congrArg List.head? same
      simp [solid] at blank
    refine ⟨word, mark :: later, same, nonempty, by simpa using blank, ?_⟩
    rw [words_cons_blank blank, words, split, List.filter_cons_of_pos (by simpa using nonempty),
      words]

/-- The first word stands behind leading white space, and the other words are those behind it. -/
theorem words_eq_cons {text word : Text} {rest : List Text} (split : words text = word :: rest) :
    ∃ lead tail, text = lead ++ word ++ tail ∧ (∀ char ∈ lead, isBlank char = true) ∧
      (∀ char ∈ tail.head?, isBlank char = true) ∧ words tail = rest := by
  induction text with
  | nil => simp [words, splitWhere] at split
  | cons first text ih =>
      by_cases blank : isBlank first = true
      · rw [words_cons_blank blank] at split
        obtain ⟨lead, tail, same, leading, ends, others⟩ := ih split
        exact ⟨first :: lead, tail, by simp [same], by simpa [blank] using leading, ends, others⟩
      · obtain ⟨found, tail, same, _, ends, words⟩ := words_cons_solid (by simpa using blank) text
        rw [split, List.cons.injEq] at words
        obtain ⟨rfl, rfl⟩ := words
        exact ⟨[], tail, same, by simp, ends, rfl⟩

/-- A word with white space behind it stays a word whatever is written further on. -/
theorem words_append_of_cons_cons {front word next : Text} {rest : List Text}
    (split : words front = word :: next :: rest) (back : Text) :
    ∃ others, words (front ++ back) = word :: others := by
  obtain ⟨lead, tail, rfl, leading, ends, others⟩ := words_eq_cons split
  cases tail with
  | nil => simp [words, splitWhere] at others
  | cons blank tail =>
      have isBlank : isBlank blank = true := ends blank rfl
      obtain ⟨nonempty, solid⟩ := mem_words (split ▸ List.mem_cons_self : word ∈ words _)
      refine ⟨words (tail ++ back), ?_⟩
      rw [List.append_assoc, List.append_assoc, words_blank_append leading, List.cons_append,
        words_append_blank isBlank, words_eq_singleton nonempty solid, List.singleton_append]

theorem dropTailWhile_append (property : Char → Bool) (text : Text) :
    ∃ trail, text = dropTailWhile property text ++ trail ∧
      ∀ char ∈ trail, property char = true := by
  induction text with
  | nil => exact ⟨[], rfl, by simp⟩
  | cons first rest ih =>
      obtain ⟨trail, same, trailing⟩ := ih
      rw [dropTailWhile]
      split
      · rename_i dropped
        rw [dropped, List.nil_append] at same
        subst trail
        split
        · exact ⟨first :: rest, rfl, by simp_all⟩
        · exact ⟨rest, rfl, trailing⟩
      · exact ⟨trail, by rw [List.cons_append, ← same], trailing⟩

theorem getLast?_dropTailWhile (property : Char → Bool) (text : Text) :
    ∀ char ∈ (dropTailWhile property text).getLast?, property char = false := by
  induction text with
  | nil => simp [dropTailWhile]
  | cons first rest ih =>
      rw [dropTailWhile]
      split
      · split
        · simp
        · simp_all
      · rename_i kept nonempty
        rw [List.getLast?_cons_of_ne_nil nonempty]
        exact ih

theorem dropTailWhile_append_of_all {property : Char → Bool} {trail : Text}
    (dropped : ∀ char ∈ trail, property char = true) (text : Text) :
    dropTailWhile property (text ++ trail) = dropTailWhile property text := by
  induction text with
  | nil =>
      induction trail with
      | nil => rfl
      | cons first trail ih =>
          simp only [List.forall_mem_cons] at dropped
          have rest : dropTailWhile property trail = [] := ih dropped.2
          simp only [List.nil_append, dropTailWhile, rest, dropped.1, ↓reduceIte]
  | cons first rest ih => simp only [List.cons_append, dropTailWhile, ih]

theorem trim_append_blanks {trail : Text} (blank : ∀ char ∈ trail, isBlank char = true)
    (text : Text) : trim (text ++ trail) = trim text := by
  rw [trim, trim, List.dropWhile_append]
  split
  · rename_i empty
    have none : trail.dropWhile isBlank = [] := List.dropWhile_eq_nil_iff.mpr blank
    rw [none, List.isEmpty_iff.mp empty]
  · exact dropTailWhile_append_of_all blank _

/-- Trimming leaves the text between its leading and its trailing white space. -/
theorem eq_append_trim_append (text : Text) :
    ∃ trail, text = text.takeWhile isBlank ++ trim text ++ trail ∧
      ∀ char ∈ trail, isBlank char = true := by
  obtain ⟨trail, same, trailing⟩ := dropTailWhile_append isBlank (text.dropWhile isBlank)
  refine ⟨trail, ?_, trailing⟩
  rw [trim, List.append_assoc, ← same, List.takeWhile_append_dropWhile]

theorem words_trim (text : Text) : words (trim text) = words text := by
  obtain ⟨trail, same, trailing⟩ := eq_append_trim_append text
  have leading : ∀ char ∈ text.takeWhile isBlank, isBlank char = true :=
    fun char member => List.mem_takeWhile_imp member
  conv_rhs => rw [same]
  rw [words_append_blanks trailing, words_blank_append leading]

theorem getLast?_trim (text : Text) : ∀ char ∈ (trim text).getLast?, isBlank char = false :=
  getLast?_dropTailWhile isBlank _

theorem head?_trim (text : Text) : ∀ char ∈ (trim text).head?, isBlank char = false := by
  intro char first
  obtain ⟨trail, same, _⟩ := dropTailWhile_append isBlank (text.dropWhile isBlank)
  obtain ⟨rest, trimmed⟩ := List.head?_eq_some_iff.mp first
  rw [trim] at trimmed
  have starts : (text.dropWhile isBlank).head? = some char := by rw [same, trimmed]; rfl
  have := List.head?_dropWhile_not isBlank text
  rw [starts] at this
  simpa using this

end WrapperGen.Text
