import Mathlib.Tactic.SplitIfs
import WrapperGen.Json.Printer

/-!
The characters of printed text. Whatever a value holds, no control character is printed for it but
the line feeds of the layout: those of strings are escaped, and numbers have none.
-/

namespace WrapperGen.Json

/-- The text has no control characters but line feeds. -/
def IsPrintable (text : Text) : Prop := ∀ char ∈ text, char = '\n' ∨ ' ' ≤ char

instance (text : Text) : Decidable (IsPrintable text) := Text.decidableForallMem text _

variable {text other : Text}

@[simp] theorem isPrintable_append_iff :
    IsPrintable (text ++ other) ↔ IsPrintable text ∧ IsPrintable other :=
  List.forall_mem_append

namespace IsPrintable

theorem append (printable : IsPrintable text) (printableToo : IsPrintable other) :
    IsPrintable (text ++ other) :=
  isPrintable_append_iff.mpr ⟨printable, printableToo⟩

theorem of_subset (printable : IsPrintable text) (inside : other ⊆ text) : IsPrintable other :=
  fun char listed => printable char (inside listed)

theorem ite {condition : Prop} [Decidable condition] (printable : IsPrintable text)
    (printableToo : IsPrintable other) : IsPrintable (if condition then text else other) := by
  split
  · exact printable
  · exact printableToo

theorem replicate (count : Nat) {char : Char} (visible : ' ' ≤ char) :
    IsPrintable (List.replicate count char) := by
  intro other listed
  rw [List.eq_of_mem_replicate listed]
  exact .inr visible

end IsPrintable

theorem isPrintable_ofNat (number : Nat) : IsPrintable (Text.ofNat number) := by
  intro char listed
  have digit : char.isDigit = true :=
    Nat.isDigit_of_mem_toDigits (by decide) (by decide) listed
  rw [Char.isDigit, Bool.and_eq_true, decide_eq_true_eq] at digit
  exact .inr (Nat.le_trans (by decide) digit.1)

theorem isPrintable_render {digits : Text} (printable : IsPrintable digits) (scale : Int) :
    IsPrintable (Decimal.render digits scale) := by
  have zeros (count : Nat) : IsPrintable (List.replicate count '0') := .replicate count (by decide)
  have front (count : Nat) : IsPrintable (digits.take count) :=
    printable.of_subset (List.take_subset count digits)
  have back (count : Nat) : IsPrintable (digits.drop count) :=
    printable.of_subset (List.drop_subset count digits)
  have fraction : IsPrintable (if (digits.drop 1).isEmpty then [] else ['.'] ++ digits.drop 1) :=
    .ite (by decide) (.append (by decide) (back 1))
  dsimp only [Decimal.render]
  refine .ite ?_ (.ite ?_ (.ite ?_ ?_))
  · exact (printable.append (zeros _)).append (by decide)
  · exact ((front _).append (by decide)).append (back _)
  · exact (IsPrintable.append (by decide) (zeros _)).append printable
  · refine (((front 1).append fraction).append (by decide)).append (.append ?_ (isPrintable_ofNat _))
    exact .ite (by decide) (by decide)

theorem isPrintable_ofBits (bits : UInt64) : IsPrintable (Decimal.ofBits bits) := by
  unfold Decimal.ofBits
  extract_lets sign number
  have signed : IsPrintable sign := .ite (by decide) (by decide)
  -- the digits are found by a long search, which must not be run to see that they are digits
  clear_value sign number
  split
  · exact signed.append (by decide)
  · split
    exact signed.append (isPrintable_render (isPrintable_ofNat _) _)

theorem isPrintable_number (value : Number) : IsPrintable value.print := by
  cases value with
  | natural value => exact isPrintable_ofNat value
  | negative absolute => exact .append (by decide) (isPrintable_ofNat absolute)
  | real bits => exact isPrintable_ofBits bits

theorem isPrintable_escapeChar (char : Char) : IsPrintable (escapeChar char) := by
  have digits : ∀ digit < 16, ' ' ≤ Nat.digitChar digit := by decide
  unfold escapeChar
  split_ifs with quote backslash lineFeed carriageReturn tab backspace formFeed control
  iterate 7
    · decide
  · have code : char.toNat < 32 := control
    have high := digits (char.toNat / 16) (by omega)
    have low := digits (char.toNat % 16) (by omega)
    refine .append (by decide) (List.forall_mem_cons.mpr ⟨.inr high, ?_⟩)
    exact List.forall_mem_singleton.mpr (.inr low)
  · exact List.forall_mem_singleton.mpr (.inr (Char.not_lt.mp control))

@[simp] theorem isPrintable_string (value : Text) : IsPrintable (printString value) := by
  refine .append (.append (by decide) ?_) (by decide)
  intro char listed
  obtain ⟨source, _, inside⟩ := List.mem_flatMap.mp listed
  exact isPrintable_escapeChar source char inside

@[simp] theorem isPrintable_newLine (level : Nat) : IsPrintable (newLine level) :=
  .append (by decide) (.replicate _ (by decide))

mutual

theorem isPrintable_pretty (level : Nat) (value : Json) : IsPrintable (pretty level value) := by
  match value with
  | .null =>
      rw [pretty]
      decide
  | .bool value =>
      rw [pretty]
      exact .ite (by decide) (by decide)
  | .number value =>
      rw [pretty]
      exact isPrintable_number value
  | .string value =>
      rw [pretty]
      exact isPrintable_string value
  | .array [] =>
      rw [pretty]
      decide
  | .array (item :: items) =>
      have first := isPrintable_pretty (level + 1) item
      have others := isPrintable_prettyItems (level + 1) items
      simp only [pretty, isPrintable_append_iff, isPrintable_newLine, first, others]
      decide
  | .object [] =>
      rw [pretty]
      decide
  | .object ((name, value) :: members) =>
      have first := isPrintable_pretty (level + 1) value
      have others := isPrintable_prettyMembers (level + 1) members
      simp only [pretty, isPrintable_append_iff, isPrintable_newLine, isPrintable_string,
        first, others]
      decide

theorem isPrintable_prettyItems (level : Nat) (items : List Json) :
    IsPrintable (prettyItems level items) := by
  match items with
  | [] =>
      rw [prettyItems]
      decide
  | item :: items =>
      have first := isPrintable_pretty level item
      have others := isPrintable_prettyItems level items
      simp only [prettyItems, isPrintable_append_iff, isPrintable_newLine, first, others]
      decide

theorem isPrintable_prettyMembers (level : Nat) (members : List (Text × Json)) :
    IsPrintable (prettyMembers level members) := by
  match members with
  | [] =>
      rw [prettyMembers]
      decide
  | (name, value) :: members =>
      have first := isPrintable_pretty level value
      have others := isPrintable_prettyMembers level members
      simp only [prettyMembers, isPrintable_append_iff, isPrintable_newLine, isPrintable_string,
        first, others]
      decide

end

end WrapperGen.Json
