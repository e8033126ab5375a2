import Mathlib.Tactic.ByContra
import WrapperGen.Proofs.Text.Cutting

/-!
Slices of a text between two byte offsets. An offset that falls inside a character or behind the
end of the text cuts nothing.
-/

namespace WrapperGen.Text

def splitBytes? : Nat → Text → Option (Text × Text)
  | 0, text => some ([], text)
  | _ + 1, [] => none
  | count + 1, first :: rest =>
    if first.utf8Size ≤ count + 1 then
      (splitBytes? (count + 1 - first.utf8Size) rest).map fun (front, back) => (first :: front, back)
    else none

/-- The piece of the text between two byte offsets, if both stand between characters of the text or
at one of its ends. -/
def slice? (text : Text) (start stop : Nat) : Option Text :=
  if start ≤ stop then
    (splitBytes? start text).bind fun (_, rest) =>
      (splitBytes? (stop - start) rest).map fun (piece, _) => piece
  else none

theorem splitBytes?_eq_some_iff {count : Nat} {text front back : Text} :
    splitBytes? count text = some (front, back) ↔
      text = front ++ back ∧ front.byteLength = count := by
  induction text generalizing count front with
  | nil =>
      cases count with
      | zero =>
          simp only [splitBytes?, Option.some.injEq, Prod.mk.injEq]
          constructor
          · rintro ⟨rfl, rfl⟩
            exact ⟨rfl, rfl⟩
          · rintro ⟨empty, _⟩
            obtain ⟨rfl, rfl⟩ := List.append_eq_nil_iff.mp empty.symm
            exact ⟨rfl, rfl⟩
      | succ count =>
          simp only [splitBytes?, reduceCtorEq, false_iff, not_and]
          intro empty
          obtain ⟨rfl, rfl⟩ := List.append_eq_nil_iff.mp empty.symm
          simp
  | cons first rest ih =>
      have positive := first.utf8Size_pos
      cases count with
      | zero =>
          simp only [splitBytes?, Option.some.injEq, Prod.mk.injEq]
          constructor
          · rintro ⟨rfl, rfl⟩
            exact ⟨rfl, rfl⟩
          · rintro ⟨same, none⟩
            have empty : front = [] := by
              by_contra nonempty
              have := byteLength_pos nonempty
              omega
            subst front
            exact ⟨rfl, same⟩
      | succ count =>
          cases front with
          | nil =>
              simp only [splitBytes?, byteLength_nil]
              split <;> simp
          | cons other front =>
              simp only [splitBytes?, List.cons_append, List.cons.injEq, byteLength_cons]
              split
              · simp only [Option.map_eq_some_iff, Prod.exists, Prod.mk.injEq, List.cons.injEq]
                constructor
                · rintro ⟨left, right, cut, ⟨rfl, rfl⟩, rfl⟩
                  obtain ⟨same, length⟩ := ih.mp cut
                  exact ⟨⟨rfl, same⟩, by omega⟩
                · rintro ⟨⟨rfl, same⟩, length⟩
                  exact ⟨front, back, ih.mpr ⟨same, by omega⟩, ⟨rfl, rfl⟩, rfl⟩
              · simp only [reduceCtorEq, false_iff, not_and]
                rintro ⟨rfl, _⟩
                omega

/-- A slice is what stands in the text behind so many bytes and takes so many bytes itself. -/
theorem slice?_eq_some_iff {text piece : Text} {start stop : Nat} :
    slice? text start stop = some piece ↔
      ∃ before after, text = before ++ piece ++ after ∧ before.byteLength = start ∧
        start + piece.byteLength = stop := by
  rw [slice?]
  split
  · simp only [Option.bind_eq_some_iff, Option.map_eq_some_iff, Prod.exists,
      splitBytes?_eq_some_iff]
    constructor
    · rintro ⟨before, rest, ⟨rfl, behind⟩, found, after, ⟨rfl, length⟩, rfl⟩
      exact ⟨before, after, by simp, behind, by omega⟩
    · rintro ⟨before, after, rfl, behind, length⟩
      exact ⟨before, piece ++ after, ⟨by simp, behind⟩, piece, after, ⟨rfl, by omega⟩, rfl⟩
  · simp only [reduceCtorEq, false_iff, not_exists, not_and]
    intro before after _ _ length
    omega

end WrapperGen.Text
