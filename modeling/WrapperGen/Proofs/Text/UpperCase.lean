import WrapperGen.Text.Blank
import WrapperGen.Text.UpperCase

/-!
Upper case and white space. No character has an upper-case form with white space in it unless it is
white space itself.
-/

namespace WrapperGen.Text

/-- The codes of the characters with the property White_Space. -/
def blankCodes : List Nat := [
  0x9, 0xA, 0xB, 0xC, 0xD, 0x20, 0x85, 0xA0, 0x1680, 0x2000, 0x2001, 0x2002, 0x2003, 0x2004, 0x2005,
  0x2006, 0x2007, 0x2008, 0x2009, 0x200A, 0x2028, 0x2029, 0x202F, 0x205F, 0x3000]

theorem isBlank_iff {char : Char} : isBlank char = true ↔ char.toNat ∈ blankCodes := by
  simp only [isBlank, blankCodes, Bool.or_eq_true, Bool.and_eq_true, decide_eq_true_eq,
    List.mem_cons, List.not_mem_nil, or_false]
  omega

theorem isBlank_ofNat {code : Nat} (solid : code ∉ blankCodes) :
    isBlank (Char.ofNat code) = false := by
  rw [← Bool.not_eq_true, isBlank_iff]
  unfold Char.ofNat
  by_cases valid : code.isValidChar
  · rw [dif_pos valid]
    exact solid
  · rw [dif_neg valid]
    decide

theorem caseRuns_solid : ∀ run ∈ caseRuns, ∀ code ∈ blankCodes,
    code < run.upper ∨ run.upper + (run.last - run.first) < code := by
  decide +kernel

theorem caseExpansions_solid : ∀ entry ∈ caseExpansions, ∀ code ∈ entry.2, code ∉ blankCodes := by
  decide +kernel

theorem CaseRun.upper?_solid {run : CaseRun} (member : run ∈ caseRuns) {code upper : Nat}
    (found : run.upper? code = some upper) : upper ∉ blankCodes := by
  intro blank
  rw [upper?] at found
  split at found
  · obtain rfl := Option.some.inj found
    have apart := caseRuns_solid run member _ blank
    omega
  · contradiction

theorem upperChar_solid {char : Char} (solid : isBlank char = false) :
    ∀ upper ∈ upperChar char, isBlank upper = false := by
  intro upper member
  rw [upperChar] at member
  split at member
  · rename_i codes found
    obtain ⟨code, listed, rfl⟩ := List.mem_map.mp member
    obtain ⟨before, after, split, -⟩ := List.lookup_eq_some_iff.mp found
    have entry : (char.toNat, codes) ∈ caseExpansions := by
      rw [split]
      exact List.mem_append_right before List.mem_cons_self
    exact isBlank_ofNat (caseExpansions_solid _ entry code listed)
  · split at member
    · rename_i code found
      obtain ⟨run, listed, moved⟩ := List.exists_of_findSome?_eq_some found
      rw [List.mem_singleton.mp member]
      exact isBlank_ofNat (run.upper?_solid listed moved)
    · rw [List.mem_singleton.mp member]
      exact solid

theorem upperCase_solid {text : Text} (solid : ∀ char ∈ text, isBlank char = false) :
    ∀ upper ∈ upperCase text, isBlank upper = false := by
  intro upper member
  obtain ⟨char, inside, raised⟩ := List.mem_flatMap.mp member
  exact upperChar_solid (solid char inside) upper raised

end WrapperGen.Text
