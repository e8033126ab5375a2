import WrapperGen.Json.Record
import WrapperGen.Proofs.Failing

/-!
Records that are read from objects. The members are looked up one field after the other, so a record
is read back from an object that has a member for each of its fields, wherever they stand in it.
-/

namespace WrapperGen.Json

variable {draft α : Type} {members : List (Text × Json)}

/-- Fields that are found among the members and read one after the other, from one draft to
another. -/
inductive Fills (members : List (Text × Json)) : List (Field draft) → draft → draft → Prop
  | nil {value : draft} : Fills members [] value value
  | cons {field : Field draft} {fields : List (Field draft)} {value next last : draft}
      {member : Json} (found : members.reverse.lookup field.name = some member)
      (reads : field.read value member = .ok next) (others : Fills members fields next last) :
      Fills members (field :: fields) value last

theorem readMembersOf_of_fills {fields : List (Field draft)} {value last : draft}
    (fills : Fills members fields value last) :
    readMembersOf members fields value = .ok last := by
  induction fills with
  | nil => rfl
  | cons found reads others ih =>
      rw [readMembersOf, found]
      simp only [reads, Except.ok_bind, ih]

/-- An object whose members fill a draft is read as the record that the draft becomes. -/
theorem Record.read_object {record : Record draft α} {blank last : draft} {value : α}
    (fills : Fills members record.byName blank last) (complete : record.finish last = .ok value) :
    record.read blank (.object members) = .ok value := by
  rw [Record.read, readMembersOf_of_fills fills, Except.ok_bind, complete]

variable (read : Json → Except Mismatch α) (write : α → Json)

theorem asList_map (back : ∀ item, read (write item) = .ok item) (items : List α) :
    asList read (.array (items.map write)) = .ok items := by
  rw [asList, Except.mapM_eq_ok_iff, List.forall₂_map_left_iff, List.forall₂_same]
  exact fun item _ => back item

theorem asPair_pair (back : ∀ item, read (write item) = .ok item) (first second : α) :
    asPair read (.array [write first, write second]) = .ok (first, second) := by
  simp [asPair, back]

theorem asOption_ofOption (back : ∀ item, read (write item) = .ok item)
    (present : ∀ item, write item ≠ .null) (value : Option α) :
    asOption read (ofOption write value) = .ok value := by
  cases value with
  | none => rfl
  | some item =>
      have filled := present item
      have reads := back item
      rw [ofOption]
      -- whatever the item is written as, it is not the null that stands for an absent one
      cases written : write item with
      | null => exact absurd written filled
      | _ =>
          rw [written] at reads
          rw [asOption, reads, Except.map]
          nofun

end WrapperGen.Json
