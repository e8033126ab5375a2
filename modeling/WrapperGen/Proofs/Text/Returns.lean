import WrapperGen.Proofs.Text.Words

/-!
Carriage returns before line feeds. A text whose lines get one each is cut into the same lines, each
with a carriage return behind it, and has no line feed without one.
-/

namespace WrapperGen.Text

/-- The text with a carriage return put before each line feed. -/
def withReturns (text : Text) : Text :=
  text.flatMap fun char => if char = '\n' then ['\r', '\n'] else [char]

@[simp] theorem withReturns_append (front back : Text) :
    withReturns (front ++ back) = withReturns front ++ withReturns back :=
  List.flatMap_append

theorem withReturns_feed (text : Text) :
    withReturns ('\n' :: text) = '\r' :: '\n' :: withReturns text := rfl

theorem withReturns_cons {char : Char} (other : char ≠ '\n') (text : Text) :
    withReturns (char :: text) = char :: withReturns text := by
  rw [withReturns, List.flatMap_cons, if_neg other]
  rfl

theorem withReturns_of_unbroken {text : Text} (unbroken : '\n' ∉ text) :
    withReturns text = text := by
  induction text with
  | nil => rfl
  | cons first rest ih =>
      obtain ⟨other, absent⟩ := not_or.mp (mt List.mem_cons.mpr unbroken)
      rw [withReturns_cons (Ne.symm other), ih absent]

theorem withReturns_endLines {lines : List Text} (unbroken : ∀ line ∈ lines, '\n' ∉ line) :
    withReturns (endLines lines) = endLines (lines.map (· ++ ['\r'])) := by
  induction lines with
  | nil => rfl
  | cons line lines ih =>
      simp only [List.forall_mem_cons] at unbroken
      rw [endLines_cons, withReturns_append, withReturns_of_unbroken unbroken.1, withReturns_feed,
        ih unbroken.2, List.map_cons, endLines_cons, List.append_assoc, List.singleton_append]

/-- Every line but the last, which has no line feed, gets a carriage return. -/
theorem rawLines_withReturns (text : Text) : ∃ lines last, rawLines text = lines ++ [last] ∧
    rawLines (withReturns text) = lines.map (· ++ ['\r']) ++ [last] := by
  obtain ⟨lines, last, split⟩ := (List.eq_nil_or_concat (rawLines text)).resolve_left
    (splitWhere_ne_nil _ text)
  rw [List.concat_eq_append] at split
  have unbroken : ∀ line ∈ lines ++ [last], '\n' ∉ line :=
    fun line member => not_mem_of_mem_rawLines (split ▸ member)
  have inLines : ∀ line ∈ lines, '\n' ∉ line :=
    fun line member => unbroken line (List.mem_append_left _ member)
  have inReturned : ∀ line ∈ lines.map (· ++ ['\r']), '\n' ∉ line := by
    intro line member
    obtain ⟨plain, listed, rfl⟩ := List.mem_map.mp member
    simp [inLines plain listed]
  have inLast : '\n' ∉ last := unbroken last (by simp)
  have whole : text = endLines lines ++ last := by
    have ended := endLines_rawLines text
    rw [split, endLines_append, endLines_cons, endLines_nil, ← List.append_assoc] at ended
    exact (List.append_cancel_right ended).symm
  refine ⟨lines, last, split, ?_⟩
  rw [whole, withReturns_append, withReturns_endLines inLines, withReturns_of_unbroken inLast,
    rawLines_endLines_append inReturned, rawLines_of_unbroken inLast]

theorem getLast?_cons_of_some {first last : Char} {rest : Text}
    (ends : rest.getLast? = some last) : (first :: rest).getLast? = some last := by
  rw [List.getLast?_cons, ends, Option.getD_some]

theorem return_before_feed {text before after : Text}
    (found : withReturns text = before ++ '\n' :: after) : before.getLast? = some '\r' := by
  induction text generalizing before with
  | nil => simp [withReturns] at found
  | cons first rest ih =>
      by_cases feed : first = '\n'
      · rw [feed, withReturns_feed, List.cons_eq_append_iff] at found
        rcases found with ⟨-, impossible⟩ | ⟨behindReturn, rfl, found⟩
        · simp at impossible
        · rcases List.cons_eq_append_iff.mp found with ⟨rfl, -⟩ | ⟨behindFeed, rfl, later⟩
          · rfl
          · exact getLast?_cons_of_some (getLast?_cons_of_some (ih later))
      · rw [withReturns_cons feed, List.cons_eq_append_iff] at found
        rcases found with ⟨-, same⟩ | ⟨earlier, rfl, later⟩
        · exact absurd (List.cons.inj same).1.symm feed
        · exact getLast?_cons_of_some (ih later)

end WrapperGen.Text
