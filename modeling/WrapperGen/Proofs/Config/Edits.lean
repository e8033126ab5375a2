import Mathlib.Logic.Relation
import WrapperGen.Proofs.Config.Targets

/-!
Configurations that say the same. A configuration does not change if the members of its objects
change places, if members come that it knows nothing of, or if members go that say what holds by
default.
-/

namespace WrapperGen

open Json (Schema Isolates IsObject IsArray IsBlank)

namespace Config

/-- The text of the targets of a configuration, with items of these texts that are all objects. -/
def IsTargets (items : List Text) (text : Text) : Prop :=
  IsArray items text ∧ ∀ item ∈ items, ∃ members, IsObject members item

/-- The text of a configuration that is written as an object with these members, and its targets as
objects. -/
def IsWritten (members : List (Text × Text)) (text : Text) : Prop :=
  (∃ before object after, IsBlank before ∧ IsBlank after ∧ IsObject members object ∧
    text = before ++ (object ++ after)) ∧
  ∀ member ∈ members, member.1 = ("targets" : Text) → ∃ items, IsTargets items member.2

namespace IsTargets

variable {items : List Text} {text : Text} (written : IsTargets items text)

include written

theorem isolates_item : ∀ item ∈ items, Isolates Target.read item := by
  intro item listed
  obtain ⟨members, object⟩ := written.2 item listed
  exact Target.isolates_object object

theorem starts : ∀ item ∈ items, Json.Starts item := by
  intro item listed
  obtain ⟨members, object⟩ := written.2 item listed
  exact object.isJson.starts

theorem isolates : Isolates (Json.readList Target.read) text :=
  Json.isolates_array written.1 written.isolates_item written.starts

theorem read_iff {targets : List Target} :
    Json.readList Target.read text = .ok (targets, []) ↔
      Json.ReadsAll Target.read items targets :=
  Json.readList_array_alone written.1 written.isolates_item written.starts

end IsTargets

theorem isolatesIn {member : Text × Text}
    (written : member.1 = ("targets" : Text) → ∃ items, IsTargets items member.2) :
    schema.IsolatesIn member := by
  intro entry listed named draft
  obtain rfl := List.mem_singleton.mp listed
  obtain ⟨items, targets⟩ := written named.symm
  exact targets.isolates.map fun value => ({ targets := some value } : Draft)

/-- A member is unknown and changes nothing, or it gives the targets for the first time. -/
theorem take?_eq_some_iff {draft next : Draft} {member : Text × Text} :
    schema.take? draft member = some next ↔
      (member.1 ≠ ("targets" : Text) ∧ next = draft) ∨
        (member.1 = ("targets" : Text) ∧ draft.targets = none ∧
          ∃ targets, Json.readList Target.read member.2 = .ok (targets, []) ∧
            next = { targets := some targets }) := by
  by_cases named : member.1 = ("targets" : Text)
  · obtain ⟨_, text⟩ := member
    obtain rfl : _ = ("targets" : Text) := named
    have found : schema.entries.find? (·.name = ("targets" : Text)) = some _ := rfl
    rw [Schema.take?_eq_some_iff found, Except.bind_eq_ok_iff]
    constructor
    · rintro ⟨absent, ⟨targets, _⟩, read, made⟩
      cases made
      exact .inr ⟨rfl, by simpa using absent, targets, read, rfl⟩
    · rintro (⟨other, _⟩ | ⟨_, absent, targets, read, rfl⟩)
      · exact absurd rfl other
      · exact ⟨by simp [absent], _, read, rfl⟩
  · rw [Schema.take?_of_unknown]
    · constructor
      · rintro ⟨⟩
        exact .inl ⟨named, rfl⟩
      · rintro (⟨_, rfl⟩ | ⟨same, _⟩)
        · rfl
        · exact absurd same named
    · intro entry listed same
      obtain rfl := List.mem_singleton.mp listed
      exact named same.symm

theorem take?_swap {draft final : Draft} {first second : Text × Text}
    (taken : (schema.take? draft first >>= fun next => schema.take? next second) = some final) :
    (schema.take? draft second >>= fun next => schema.take? next first) = some final := by
  obtain ⟨next, one, two⟩ := Option.bind_eq_some_iff.mp taken
  refine Option.bind_eq_some_iff.mpr ?_
  simp only [take?_eq_some_iff] at one two ⊢
  obtain ⟨unknown, rfl⟩ | ⟨named, absent, targets, read, rfl⟩ := one
  · exact ⟨final, two, .inl ⟨unknown, rfl⟩⟩
  · obtain ⟨unknown, rfl⟩ | ⟨_, present, _⟩ := two
    · exact ⟨draft, .inl ⟨unknown, rfl⟩, .inr ⟨named, absent, targets, read, rfl⟩⟩
    · cases present

theorem commutes : schema.Commutes :=
  fun _ _ _ => Option.ext fun _ => ⟨take?_swap, take?_swap⟩

/-- The member says of the targets what a configuration has without it. -/
inductive HasDefault : Text × Text → Prop
  | targets {text : Text} (plain : Json.readList Target.read text = .ok ([.plain], [])) :
      HasDefault ("targets", text)

theorem isComplete (draft : Draft) : schema.IsComplete draft := by
  intro entry listed required
  obtain rfl := List.mem_singleton.mp listed
  cases required

theorem HasDefault.neglects {member : Text × Text} (default : HasDefault member) :
    schema.Neglects ofDraft member := by
  obtain ⟨plain⟩ := default
  intro draft next taken
  refine ⟨?_, fun _ => isComplete draft⟩
  obtain ⟨unknown, _⟩ | ⟨_, absent, targets, read, rfl⟩ := take?_eq_some_iff.mp taken
  · exact absurd rfl unknown
  · rw [plain, Except.ok.injEq, Prod.mk.injEq] at read
    obtain ⟨rfl, _⟩ := read
    obtain ⟨_ | _⟩ := draft
    · rfl
    · cases absent

theorem parse_iff {members : List (Text × Text)} {text : Text} (written : IsWritten members text)
    {config : Config} :
    parse text = .ok config ↔
      ∃ draft, members.foldlM schema.take? {} = some draft ∧ ofDraft draft = config := by
  obtain ⟨⟨before, object, after, blank, blankToo, isObject, rfl⟩, targets⟩ := written
  have isolates (member : Text × Text) (listed : member ∈ members) : schema.IsolatesIn member :=
    isolatesIn (targets member listed)
  have ended : Json.readEnd after = .ok () := by
    have skipped := Json.skipSpace_append blankToo []
    rw [List.append_nil] at skipped
    rw [Json.readEnd, skipped]
    rfl
  rw [parse, Except.bind_eq_ok_iff]
  simp only [Prod.exists, Schema.read_object isObject isolates blank, isComplete, and_true]
  constructor
  · rintro ⟨draft, _, ⟨taken, rfl⟩, finished⟩
    rw [ended] at finished
    exact ⟨draft, taken, Except.ok.inj finished⟩
  · rintro ⟨draft, taken, rfl⟩
    refine ⟨draft, after, ⟨taken, rfl⟩, ?_⟩
    rw [ended]
    rfl

/-! Edits -/

/-- One text of a configuration turned into another, by an edit of its own members or of those of a
target. -/
inductive Edit : Text → Text → Prop
  | members {members others : List (Text × Text)} {text other : Text}
      (written : IsWritten members text) (edit : Json.Edit ["targets"] HasDefault members others)
      (writtenToo : IsWritten others other) : Edit text other
  | target (before after : List (Text × Text)) (front back : List Text)
      {members others : List (Text × Text)} {text other value changed item edited : Text}
      (written : IsWritten (before ++ ("targets".toList, value) :: after) text)
      (targets : IsTargets (front ++ item :: back) value) (object : IsObject members item)
      (edit : Json.Edit Target.known Target.HasDefault members others)
      (objectToo : IsObject others edited) (targetsToo : IsTargets (front ++ edited :: back) changed)
      (writtenToo : IsWritten (before ++ ("targets".toList, changed) :: after) other) :
      Edit text other

theorem take?_of_reads {value changed : Text}
    (reads : ∀ targets, Json.readList Target.read value = .ok (targets, []) →
      Json.readList Target.read changed = .ok (targets, []))
    {draft next : Draft} (taken : schema.take? draft ("targets", value) = some next) :
    schema.take? draft ("targets", changed) = some next := by
  obtain ⟨unknown, _⟩ | ⟨_, absent, targets, read, rfl⟩ := take?_eq_some_iff.mp taken
  · exact absurd rfl unknown
  · exact take?_eq_some_iff.mpr (.inr ⟨rfl, absent, targets, reads targets read, rfl⟩)

/-- One edit leaves the configuration that is read as it is. -/
theorem Edit.parse {text other : Text} (edit : Edit text other) {config : Config}
    (parsed : Config.parse text = .ok config) : Config.parse other = .ok config := by
  cases edit with
  | members written edit writtenToo =>
      obtain ⟨draft, taken, rfl⟩ := (parse_iff written).mp parsed
      have known : ∀ entry ∈ schema.entries, entry.name ∈ ["targets".toList] := by
        intro entry listed
        obtain rfl := List.mem_singleton.mp listed
        exact List.mem_singleton_self _
      obtain ⟨final, takenToo, _, same⟩ := commutes.foldlM_edit known
        (fun _ => HasDefault.neglects) edit taken (isComplete draft)
      exact (parse_iff writtenToo).mpr ⟨final, takenToo, same⟩
  | target before after front back written targets object edit objectToo targetsToo writtenToo =>
      -- the drafts are the same up to the changed member and from there on
      obtain ⟨draft, taken, rfl⟩ := (parse_iff written).mp parsed
      refine (parse_iff writtenToo).mpr ⟨draft, ?_, rfl⟩
      rw [List.foldlM_append] at taken ⊢
      obtain ⟨first, start, rest⟩ := Option.bind_eq_some_iff.mp taken
      rw [List.foldlM_cons] at rest
      obtain ⟨second, member, others⟩ := Option.bind_eq_some_iff.mp rest
      refine Option.bind_eq_some_iff.mpr ⟨first, start, ?_⟩
      rw [List.foldlM_cons]
      refine Option.bind_eq_some_iff.mpr ⟨second, take?_of_reads (fun list read => ?_) member, others⟩
      rw [targets.read_iff] at read
      rw [targetsToo.read_iff]
      exact read.replace fun _ => Target.read_edited object objectToo edit

/-- Edits that say nothing new, however many, leave the configuration that is read as it is. -/
theorem parse_edited {text other : Text} (edits : Relation.ReflTransGen Edit text other)
    {config : Config} (parsed : parse text = .ok config) : parse other = .ok config := by
  induction edits with
  | refl => exact parsed
  | tail _ edit ih => exact edit.parse ih

/-- A target that no longer says that it is without a note. -/
theorem parse_edited_minimal :
    let config : Config := ⟨[{ name := "min", output := "out.h" }]⟩
    let text : Text := "\x7b\"targets\":[\x7b\"name\":\"min\"," ++
      "\"provenance\":false,\"output\":\"out.h\"\x7d]\x7d"
    let other : Text := "\x7b\"targets\":[\x7b\"name\":\"min\",\"output\":\"out.h\"\x7d]\x7d"
    Relation.ReflTransGen Edit text other ∧ parse text = .ok config ∧ parse other = .ok config := by
  intro config text other
  have member {name value : Text} (plain : ∀ char ∈ name, ' ' ≤ char ∧ char ≠ '"' ∧ char ≠ '\\')
      (json : Json.IsJson value) :
      Json.IsMember (name, value) ('"' :: (name ++ '"' :: ':' :: value)) :=
    .mk (.of_plain plain) json (.mk .nil .nil)
  have string (value : Text) (plain : ∀ char ∈ value, ' ' ≤ char ∧ char ≠ '"' ∧ char ≠ '\\') :
      Json.IsJson ('"' :: (value ++ ['"'])) := .string (Json.Spells.of_plain plain).isString
  have name : Json.IsMember ("name", _) _ := member (by decide) (string "min" (by decide))
  have output : Json.IsMember ("output", _) _ := member (by decide) (string "out.h" (by decide))
  have provenance : Json.IsMember ("provenance", "false") _ := member (by decide) .false
  have long : IsObject [_, _, _] _ := ⟨_, _, .cons name (.cons provenance (.cons output .nil)),
    .cons .nil (.cons .nil .nil (.cons .nil .nil (.nil .nil))), rfl⟩
  have short : IsObject [_, _] _ :=
    ⟨_, _, .cons name (.cons output .nil), .cons .nil (.cons .nil .nil (.nil .nil)), rfl⟩
  have targets {members : List (Text × Text)} {item : Text} (object : IsObject members item) :
      IsTargets [item] ('[' :: (item ++ [']'])) :=
    ⟨⟨_, .cons .nil (.nil .nil), rfl⟩, List.forall_mem_singleton.mpr ⟨_, object⟩⟩
  have written {members : List (Text × Text)} {item : Text} (object : IsObject members item) :
      IsWritten [("targets", '[' :: (item ++ [']']))]
        ("\x7b\"targets\":[" ++ (item ++ "]\x7d".toList)) := by
    have listed : Json.IsMember ("targets", '[' :: (item ++ [']'])) _ := member (by decide)
      (.array (List.forall_mem_singleton.mpr object.isJson) (.cons .nil (.nil .nil)))
    refine ⟨⟨[], _, [], .nil, .nil, ⟨_, _, .cons listed .nil, .cons .nil (.nil .nil), rfl⟩, ?_⟩,
      List.forall_mem_singleton.mpr fun _ => ⟨_, targets object⟩⟩
    simp
  have edit : Edit text other := by
    have edited := Edit.target [] [] [] [] (written long) (targets long) long
      (.drop [_] _ .provenance) short (targets short) (written short)
    simpa [text, other] using edited
  have parsed : parse text = .ok config := by
    dsimp only [text, config]
    cbv
  exact ⟨.single edit, parsed, parse_edited (.single edit) parsed⟩

end Config

end WrapperGen
