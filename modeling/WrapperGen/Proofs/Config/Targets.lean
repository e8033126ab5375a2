import WrapperGen.Config.Reader
import WrapperGen.Proofs.Json.Edits

/-!
Targets that say the same. The entries of a target differ only in their fields, each of which is
given once and in any place; a target does not change if a member is edited that says nothing new.
-/

namespace WrapperGen

open Json (Schema Isolates IsText IsVariant IsObject)

namespace Target

/-- What a target is described by. -/
inductive Field
  | name
  | input
  | output
  | className
  | windowClass
  | dispatch
  | provenance
  | lineEnding
deriving DecidableEq

namespace Field

def all : List Field :=
  [name, input, output, className, windowClass, dispatch, provenance, lineEnding]

def label : Field → Text
  | name => "name"
  | input => "input"
  | output => "output"
  | className => "className"
  | windowClass => "windowClass"
  | dispatch => "dispatch"
  | provenance => "provenance"
  | lineEnding => "lineEnding"

def isRequired : Field → Bool
  | name | output => true
  | _ => false

abbrev Value : Field → Type
  | name | input | output | className => Text
  | windowClass => Option Text
  | dispatch => Dispatch
  | provenance => Bool
  | lineEnding => LineEnding

def read : (field : Field) → Text → Except Json.Error (field.Value × Text)
  | name | input | output | className => Json.readText
  | windowClass => Json.readOptionalText
  | dispatch => Json.readVariant (Dispatch.all.map fun dispatch => (dispatch.label, dispatch))
  | provenance => Json.readBool
  | lineEnding => Json.readVariant (LineEnding.all.map fun ending => (ending.label, ending))

end Field

namespace Draft

def has (draft : Draft) : Field → Bool
  | .name => draft.name.isSome
  | .input => draft.input.isSome
  | .output => draft.output.isSome
  | .className => draft.className.isSome
  | .windowClass => draft.windowClass.isSome
  | .dispatch => draft.dispatch.isSome
  | .provenance => draft.provenance.isSome
  | .lineEnding => draft.lineEnding.isSome

def put (draft : Draft) : (field : Field) → field.Value → Draft
  | .name, value => { draft with name := some value }
  | .input, value => { draft with input := some value }
  | .output, value => { draft with output := some value }
  | .className, value => { draft with className := some value }
  | .windowClass, value => { draft with windowClass := some value }
  | .dispatch, value => { draft with dispatch := some value }
  | .provenance, value => { draft with provenance := some value }
  | .lineEnding, value => { draft with lineEnding := some value }

theorem has_put (draft : Draft) (field : Field) (value : field.Value) (other : Field) :
    (draft.put field value).has other = (decide (field = other) || draft.has other) := by
  cases field <;> cases other <;> rfl

theorem put_comm (draft : Draft) {first second : Field} (apart : first ≠ second)
    (value : first.Value) (other : second.Value) :
    (draft.put first value).put second other = (draft.put second other).put first value := by
  cases first <;> cases second <;> first | rfl | exact absurd rfl apart

end Draft

def Field.entry (field : Field) : Json.Entry Draft where
  name := field.label
  isRequired := field.isRequired
  isPresent draft := draft.has field
  read draft text := (field.read text).map fun (value, rest) => (draft.put field value, rest)

/-- The entries of a target are alike but for their fields. -/
theorem schema_entries : schema.entries = Field.all.map Field.entry := rfl

theorem Field.label_injective {first second : Field} (same : first.label = second.label) :
    first = second := by
  cases first <;> cases second <;> first | rfl | exact absurd same (by decide)

theorem Field.mem_all (field : Field) : field ∈ all := by
  cases field <;> decide

theorem Field.isolates (field : Field) {text : Text} (json : Json.IsJson text) :
    Isolates field.read text := by
  cases field with
  | name | input | output | className => exact Json.recognizes_readText.isolates json
  | windowClass => exact Json.recognizes_readOptionalText.isolates json
  | dispatch => exact (Json.recognizes_readVariant _).isolates json
  | provenance => exact Json.recognizes_readBool.isolates json
  | lineEnding => exact (Json.recognizes_readVariant _).isolates json

theorem isolatesIn {member : Text × Text} (json : Json.IsJson member.2) :
    schema.IsolatesIn member := by
  intro entry listed named draft
  rw [schema_entries, List.mem_map] at listed
  obtain ⟨field, _, rfl⟩ := listed
  exact (field.isolates json).map (draft.put field)

/-- A member has no field and changes nothing, or it gives its field a value for the first time. -/
theorem take?_eq_some_iff {draft next : Draft} {member : Text × Text} :
    schema.take? draft member = some next ↔
      ((∀ field : Field, field.label ≠ member.1) ∧ next = draft) ∨
        ∃ (field : Field) (value : field.Value), field.label = member.1 ∧
          field.read member.2 = .ok (value, []) ∧ draft.has field = false ∧
          next = draft.put field value := by
  cases found : schema.entries.find? (·.name = member.1) with
  | none =>
      rw [List.find?_eq_none, schema_entries] at found
      have unknown (field : Field) : field.label ≠ member.1 := fun named =>
        found field.entry (List.mem_map_of_mem field.mem_all) (decide_eq_true named)
      rw [Schema.take?_of_unknown]
      · constructor
        · rintro ⟨⟩
          exact .inl ⟨unknown, rfl⟩
        · rintro (⟨_, rfl⟩ | ⟨field, _, named, _⟩)
          · rfl
          · exact absurd named (unknown field)
      · rw [schema_entries, List.forall_mem_map]
        exact fun field _ => unknown field
  | some entry =>
      have listed := List.mem_of_find?_eq_some found
      have named : entry.name = member.1 := by simpa using List.find?_some found
      rw [schema_entries, List.mem_map] at listed
      obtain ⟨field, _, rfl⟩ := listed
      rw [Schema.take?_eq_some_iff found]
      constructor
      · rintro ⟨absent, read⟩
        obtain ⟨⟨value, _⟩, alone, made⟩ := Except.map_eq_ok_iff.mp read
        cases made
        exact .inr ⟨field, value, named, alone, absent, rfl⟩
      · rintro (⟨unknown, _⟩ | ⟨other, value, namedToo, alone, absent, rfl⟩)
        · exact absurd named (unknown field)
        · obtain rfl := Field.label_injective (namedToo.trans named.symm)
          exact ⟨absent, Except.map_eq_ok_iff.mpr ⟨_, alone, rfl⟩⟩

theorem take?_swap {draft final : Draft} {first second : Text × Text}
    (taken : (schema.take? draft first >>= fun next => schema.take? next second) = some final) :
    (schema.take? draft second >>= fun next => schema.take? next first) = some final := by
  obtain ⟨next, one, two⟩ := Option.bind_eq_some_iff.mp taken
  refine Option.bind_eq_some_iff.mpr ?_
  simp only [take?_eq_some_iff] at one two ⊢
  obtain ⟨unknown, rfl⟩ | ⟨field, value, named, read, absent, rfl⟩ := one
  · exact ⟨final, two, .inl ⟨unknown, rfl⟩⟩
  · obtain ⟨unknown, rfl⟩ | ⟨other, more, namedToo, readToo, absentToo, rfl⟩ := two
    · exact ⟨draft, .inl ⟨unknown, rfl⟩, .inr ⟨field, value, named, read, absent, rfl⟩⟩
    · -- both are known: the second one has been taken, so it is for another field
      rw [Draft.has_put, Bool.or_eq_false_iff, decide_eq_false_iff_not] at absentToo
      obtain ⟨apart, free⟩ := absentToo
      refine ⟨draft.put other more, .inr ⟨other, more, namedToo, readToo, free, rfl⟩,
        .inr ⟨field, value, named, read, ?_, Draft.put_comm draft apart value more⟩⟩
      rw [Draft.has_put, absent, Bool.or_false]
      exact decide_eq_false (Ne.symm apart)

theorem commutes : schema.Commutes :=
  fun _ _ _ => Option.ext fun _ => ⟨take?_swap, take?_swap⟩

/-- The member says of its field what a target has without it. -/
inductive HasDefault : Text × Text → Prop
  | input {text : Text} (isText : IsText "Scintilla.iface" text) : HasDefault ("input", text)
  | className {text : Text} (isText : IsText "CScintillaImpl" text) : HasDefault ("className", text)
  | windowClass : HasDefault ("windowClass", "null")
  | dispatch {text : Text} (isVariant : IsVariant "sciFnDirect" text) : HasDefault ("dispatch", text)
  | provenance : HasDefault ("provenance", "false")
  | lineEnding {text : Text} (isVariant : IsVariant "native" text) : HasDefault ("lineEnding", text)

/-- What a target has without a member for the field, if there is such a thing. -/
def Field.default? : (field : Field) → Option field.Value
  | name | output => none
  | input => some "Scintilla.iface".toList
  | className => some "CScintillaImpl".toList
  | windowClass => some none
  | dispatch => some .libraryType
  | provenance => some false
  | lineEnding => some .native

theorem ofDraft_put_default {draft : Draft} {field : Field} {value : field.Value}
    (absent : draft.has field = false) (default : field.default? = some value) :
    ofDraft (draft.put field value) = ofDraft draft := by
  cases field with
  | name => cases default
  | output => cases default
  | _ =>
      cases default
      simp only [Draft.has, Option.isSome_eq_false_iff, Option.isNone_iff_eq_none] at absent
      simp [ofDraft, Draft.put, absent]

theorem isComplete_iff {draft : Draft} :
    schema.IsComplete draft ↔ ∀ field : Field, field.isRequired = true → draft.has field = true := by
  rw [Schema.IsComplete, schema_entries, List.forall_mem_map]
  exact ⟨fun complete field => complete field field.mem_all, fun complete field _ => complete field⟩

theorem Field.isRequired_of_default {field : Field} {value : field.Value}
    (default : field.default? = some value) : field.isRequired = false := by
  cases field <;> first | rfl | cases default

theorem isComplete_of_put_default {draft : Draft} {field : Field} {value : field.Value}
    (default : field.default? = some value)
    (complete : schema.IsComplete (draft.put field value)) : schema.IsComplete draft := by
  rw [isComplete_iff] at complete ⊢
  intro other required
  have has := complete other required
  rw [Draft.has_put, Bool.or_eq_true, decide_eq_true_eq] at has
  obtain rfl | has := has
  · rw [Field.isRequired_of_default default] at required
    cases required
  · exact has

theorem HasDefault.exists_field {member : Text × Text} (default : HasDefault member) :
    ∃ (field : Field) (value : field.Value), field.label = member.1 ∧
      field.default? = some value ∧ field.read member.2 = .ok (value, []) := by
  cases default with
  | input isText => exact ⟨.input, _, rfl, rfl, Json.recognizes_readText.reads_form isText⟩
  | className isText => exact ⟨.className, _, rfl, rfl, Json.recognizes_readText.reads_form isText⟩
  | windowClass =>
      have null : Json.IsOptionalText none "null" := rfl
      exact ⟨.windowClass, none, rfl, rfl, Json.recognizes_readOptionalText.reads_form null⟩
  | dispatch isVariant =>
      exact ⟨.dispatch, _, rfl, rfl,
        (Json.recognizes_readVariant _).reads_form ⟨_, rfl, isVariant⟩⟩
  | provenance =>
      have no : Json.IsBool false "false" := rfl
      exact ⟨.provenance, false, rfl, rfl, Json.recognizes_readBool.reads_form no⟩
  | lineEnding isVariant =>
      exact ⟨.lineEnding, _, rfl, rfl,
        (Json.recognizes_readVariant _).reads_form ⟨_, rfl, isVariant⟩⟩

theorem HasDefault.neglects {member : Text × Text} (default : HasDefault member) :
    schema.Neglects ofDraft member := by
  obtain ⟨field, value, named, default, read⟩ := default.exists_field
  intro draft next taken
  obtain ⟨unknown, _⟩ | ⟨other, found, namedToo, readToo, absent, rfl⟩ := take?_eq_some_iff.mp taken
  · exact absurd named (unknown field)
  · obtain rfl := Field.label_injective (namedToo.trans named.symm)
    rw [read, Except.ok.injEq, Prod.mk.injEq] at readToo
    obtain ⟨rfl, _⟩ := readToo
    exact ⟨ofDraft_put_default absent default, isComplete_of_put_default default⟩

/-- The names of the members that a target knows. -/
def known : List Text :=
  ["name", "input", "output", "className", "windowClass", "dispatch", "provenance", "lineEnding"]

theorem name_mem_known : ∀ entry ∈ schema.entries, entry.name ∈ known := by
  rw [schema_entries, List.forall_mem_map]
  decide

theorem isolatesIn_object {members : List (Text × Text)} {text : Text}
    (object : IsObject members text) : ∀ member ∈ members, schema.IsolatesIn member :=
  fun _ listed => isolatesIn (object.isJson_value listed)

theorem isolates_object {members : List (Text × Text)} {text : Text}
    (object : IsObject members text) : Isolates read text :=
  (Schema.isolates_object object (isolatesIn_object object) {}).map ofDraft

theorem read_object_iff {members : List (Text × Text)} {text : Text}
    (object : IsObject members text) {target : Target} :
    read text = .ok (target, []) ↔
      ∃ draft, members.foldlM schema.take? {} = some draft ∧ schema.IsComplete draft ∧
        ofDraft draft = target := by
  rw [read, Except.map_eq_ok_iff]
  constructor
  · rintro ⟨⟨draft, _⟩, found, made⟩
    cases made
    obtain ⟨taken, complete⟩ :=
      (Schema.read_object_alone object (isolatesIn_object object)).mp found
    exact ⟨draft, taken, complete, rfl⟩
  · rintro ⟨draft, taken, complete, rfl⟩
    exact ⟨_, (Schema.read_object_alone object (isolatesIn_object object)).mpr ⟨taken, complete⟩,
      rfl⟩

theorem read_edited {members others : List (Text × Text)} {text other : Text} {target : Target}
    (object : IsObject members text) (objectToo : IsObject others other)
    (edit : Json.Edit known HasDefault members others) (found : read text = .ok (target, [])) :
    read other = .ok (target, []) := by
  obtain ⟨draft, taken, complete, rfl⟩ := (read_object_iff object).mp found
  obtain ⟨final, takenToo, completeToo, same⟩ :=
    commutes.foldlM_edit name_mem_known (fun _ => HasDefault.neglects) edit taken complete
  exact (read_object_iff objectToo).mpr ⟨final, takenToo, completeToo, same⟩

end Target

end WrapperGen
