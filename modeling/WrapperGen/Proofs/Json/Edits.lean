import WrapperGen.Proofs.Json.Members

/-!
Edits of an object that say nothing new. Members may change places, members without an entry may
come, and members may go that say what holds by default.
-/

namespace WrapperGen.Json

/-- One list of members turned into another. The entries have the given names, and `IsDefault` tells
which members say what holds without them. -/
inductive Edit (names : List Text) (IsDefault : Text × Text → Prop) :
    List (Text × Text) → List (Text × Text) → Prop
  | reorder {members others : List (Text × Text)} (same : members.Perm others) :
      Edit names IsDefault members others
  | add (before after : List (Text × Text)) {member : Text × Text} (unknown : member.1 ∉ names) :
      Edit names IsDefault (before ++ after) (before ++ member :: after)
  | drop (before after : List (Text × Text)) {member : Text × Text} (default : IsDefault member) :
      Edit names IsDefault (before ++ member :: after) (before ++ after)

namespace Schema

variable {draft β : Type} {schema : Schema draft}

/-- Two members may change places. -/
def Commutes (schema : Schema draft) : Prop :=
  ∀ (value : draft) (first second : Text × Text),
    (schema.take? value first >>= fun next => schema.take? next second) =
      schema.take? value second >>= fun next => schema.take? next first

theorem Commutes.foldlM_perm (commutes : schema.Commutes) {members others : List (Text × Text)}
    (same : members.Perm others) (value : draft) :
    members.foldlM schema.take? value = others.foldlM schema.take? value := by
  induction same generalizing value with
  | nil => rfl
  | cons member rest ih =>
      simp only [List.foldlM_cons]
      exact bind_congr ih
  | swap first second rest =>
      simp only [List.foldlM_cons, ← bind_assoc]
      rw [commutes]
  | trans one two ihOne ihTwo => rw [ihOne, ihTwo]

theorem take?_of_unknown {member : Text × Text}
    (unknown : ∀ entry ∈ schema.entries, entry.name ≠ member.1) (value : draft) :
    schema.take? value member = some value := by
  have missing : schema.entries.find? (·.name = member.1) = none := by
    simpa [List.find?_eq_none] using unknown
  rw [take?, missing]

/-- What is made of a draft, whether the member has been read into it or not. -/
def Neglects (schema : Schema draft) (finish : draft → β) (member : Text × Text) : Prop :=
  ∀ value next, schema.take? value member = some next →
    finish next = finish value ∧ (schema.IsComplete next → schema.IsComplete value)

/-- An edit changes nothing in what is made of the draft that is read. -/
theorem Commutes.foldlM_edit (commutes : schema.Commutes) {finish : draft → β}
    {names : List Text} {IsDefault : Text × Text → Prop}
    (known : ∀ entry ∈ schema.entries, entry.name ∈ names)
    (neglects : ∀ member, IsDefault member → schema.Neglects finish member)
    {members others : List (Text × Text)} (edit : Edit names IsDefault members others)
    {start last : draft} (taken : members.foldlM schema.take? start = some last)
    (complete : schema.IsComplete last) :
    ∃ final, others.foldlM schema.take? start = some final ∧ schema.IsComplete final ∧
      finish final = finish last := by
  cases edit with
  | reorder same => exact ⟨last, commutes.foldlM_perm same start ▸ taken, complete, rfl⟩
  | @add before after member unknown =>
      refine ⟨last, ?_, complete, rfl⟩
      have others (value : draft) : schema.take? value member = some value :=
        take?_of_unknown (fun entry listed same => unknown (same ▸ known entry listed)) value
      rw [← taken]
      simp [List.foldlM_append, others]
  | @drop before after member default =>
      -- the member is read last, where it changes nothing that matters any more
      have moved : (before ++ member :: after).Perm ((before ++ after) ++ [member]) := by
        simpa using List.perm_middle.trans (List.perm_append_singleton member _).symm
      rw [commutes.foldlM_perm moved, List.foldlM_append] at taken
      obtain ⟨value, rest, alone⟩ := Option.bind_eq_some_iff.mp taken
      have step : schema.take? value member = some last := by simpa using alone
      obtain ⟨same, keeps⟩ := neglects member default value last step
      exact ⟨value, rest, keeps complete, same.symm⟩

end Schema

end WrapperGen.Json
