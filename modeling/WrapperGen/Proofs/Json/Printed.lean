import Mathlib.Data.List.Nodup
import WrapperGen.Proofs.Json.Members

/-!
Values of a known shape in printed text. A reader finds a value in the text that is printed for it,
wherever that stands; arrays are found item by item and objects member by member.
-/

namespace WrapperGen.Json

variable {α : Type} {read : Text → Except Error (α × Text)} {value : α}

/-- The text is a value of the format that the reader takes for the given one, behind any blanks and
before whatever may stand behind a value. -/
structure Conveys (read : Text → Except Error (α × Text)) (value : α) (text : Text) : Prop where
  isJson : IsJson text
  reads : ∀ {gap rest : Text}, IsBlank gap → IsClosed rest →
    read (gap ++ (text ++ rest)) = .ok (value, rest)

namespace Conveys

variable {text : Text}

theorem reads_alone (conveys : Conveys read value text) : read text = .ok (value, []) := by
  have found : read ([] ++ (text ++ [])) = _ := conveys.reads .nil .nil
  rwa [List.nil_append, List.append_nil] at found

theorem isolates (conveys : Conveys read value text) : Isolates read text := by
  intro gap rest after other blank closed
  simp only [conveys.reads blank closed, conveys.reads_alone, Except.ok.injEq, Prod.mk.injEq,
    and_true, eq_comm]

theorem map {β : Type} (conveys : Conveys read value text) (form : α → β) :
    Conveys (fun text => (read text).map fun (value, rest) => (form value, rest)) (form value)
      text where
  isJson := conveys.isJson
  reads blank closed := by rw [conveys.reads blank closed]; rfl

end Conveys

/-! Single values -/

theorem spells_escaped (value : Text) : Spells (value.flatMap escapeChar) value := by
  obtain ⟨body, spells, same⟩ := readString_eq_ok_iff.mp (readString_escaped value [])
  rwa [List.append_cancel_right same]

theorem isText_pretty (level : Nat) (value : Text) :
    IsText value (pretty level (.string value)) := by
  refine ⟨_, spells_escaped value, ?_⟩
  rw [pretty, printString]
  rfl

theorem Recognizes.conveys {form : α → Text → Prop} (recognizes : Recognizes read form)
    {text : Text} (formed : form value text) : Conveys read value text where
  isJson := recognizes.isJson formed
  reads blank closed :=
    (recognizes.reads_between (recognizes.isJson formed) blank closed).mpr ⟨formed, rfl⟩

theorem conveys_string (level : Nat) (value : Text) :
    Conveys readText value (pretty level (.string value)) :=
  recognizes_readText.conveys (isText_pretty level value)

theorem conveys_optional (level : Nat) (value : Option Text) :
    Conveys readOptionalText value (pretty level (ofOption .string value)) := by
  apply recognizes_readOptionalText.conveys
  cases value with
  | none => rw [ofOption, pretty, IsOptionalText]
  | some value => exact isText_pretty level value

theorem conveys_bool (level : Nat) (value : Bool) :
    Conveys readBool value (pretty level (.bool value)) := by
  apply recognizes_readBool.conveys
  rw [pretty]
  cases value with
  | false => rfl
  | true => rfl

theorem conveys_variant {variants : List (Text × α)} {name : Text}
    (known : variants.lookup name = some value) (level : Nat) :
    Conveys (readVariant variants) value (pretty level (.string name)) :=
  (recognizes_readVariant variants).conveys ⟨name, known, .inl (isText_pretty level name)⟩

/-- The whole number at which the text stands, which may be of any size. -/
def readCount (text : Text) : Except Error (Nat × Text) :=
  match spanDigits (skipSpace text) with
  | ([], _) | ('0' :: _ :: _, _) => .error (.fault .invalidNumber)
  | (digits, rest) => .ok (Nat.ofDigitChars 10 digits 0, rest)

theorem head_ofNat {number : Nat} (positive : 0 < number) :
    (Text.ofNat number).head? ≠ some '0' := by
  have leading : ∀ digit < 10, 0 < digit → Nat.digitChar digit ≠ '0' := by decide
  induction number using Nat.strongRecOn with
  | ind number ih =>
      rw [Text.ofNat, Nat.toDigits_eq_if (by decide)]
      split
      · rename_i small
        intro zero
        exact leading number small positive (Option.some.inj zero)
      · rename_i large
        have front := ih (number / 10) (by omega) (by omega)
        rwa [List.head?_append_of_ne_nil _ Nat.toDigits_ne_nil]

theorem IsWhole.isJson {text : Text} (isWhole : IsWhole text) : IsJson text := by
  have unsigned := IsUnsigned.mk isWhole .none .none
  rw [List.append_nil, List.append_nil] at unsigned
  exact .number (.positive unsigned)

theorem isWhole_ofNat (number : Nat) : IsWhole (Text.ofNat number) := by
  rcases Nat.eq_zero_or_pos number with rfl | positive
  · exact .zero
  · refine .digits ⟨Nat.toDigits_ne_nil, fun char listed => ?_⟩ (head_ofNat positive)
    exact Nat.isDigit_of_mem_toDigits (by decide) (by decide) listed

theorem readCount_whole {text gap rest : Text} (isWhole : IsWhole text) (blank : IsBlank gap)
    (closed : IsClosed rest) :
    readCount (gap ++ (text ++ rest)) = .ok (Nat.ofDigitChars 10 text 0, rest) := by
  have starts : Starts text := isWhole.isJson.starts
  rw [readCount, skipSpace_append blank, skipSpace_of_starts starts,
    spanDigits_append isWhole.all_isDigit closed.lacksDigit]
  split
  · rename_i empty
    obtain ⟨first, others, rfl, _⟩ := starts
    cases empty
  · rename_i zero
    cases isWhole with
    | zero => cases zero
    | digits digits leading => simp [(Prod.mk.inj zero).1] at leading
  · rename_i pair
    obtain ⟨rfl, rfl⟩ := Prod.mk.inj pair
    rfl

theorem conveys_ofNat (level number : Nat) :
    Conveys readCount number (pretty level (.ofNat number)) := by
  have printed : pretty level (.ofNat number) = Text.ofNat number := by
    rw [ofNat, pretty, Number.print]
  have isWhole := isWhole_ofNat number
  rw [printed]
  refine ⟨isWhole.isJson, fun blank closed => ?_⟩
  rw [readCount_whole isWhole blank closed, Text.ofNat, Nat.ofDigitChars_ten_toDigits]

/-! Arrays -/

theorem isBlank_newLine (level : Nat) : IsBlank (newLine level) := by
  intro char listed
  rcases List.mem_append.mp listed with feed | indent
  · rw [List.mem_singleton.mp feed]
    decide
  · rw [List.eq_of_mem_replicate indent]
    decide

theorem continues_prettyItems (level outer : Nat) (items : List Json) :
    Continues ']' (items.map (pretty level))
      (prettyItems level items ++ (newLine outer ++ [']'])) := by
  induction items with
  | nil => exact .nil (isBlank_newLine outer)
  | cons item items ih =>
      have step : Continues ']' (pretty level item :: _) _ := .cons .nil (isBlank_newLine level) ih
      simpa [prettyItems] using step

theorem IsArray.isJson {items : List Text} {text : Text} (array : IsArray items text)
    (values : ∀ item ∈ items, IsJson item) : IsJson text := by
  obtain ⟨rest, listed, rfl⟩ := array
  exact .array values listed

theorem pretty_array_cons (level : Nat) (item : Json) (items : List Json) :
    pretty level (.array (item :: items)) =
      '[' :: (newLine (level + 1) ++ (pretty (level + 1) item ++ (prettyItems (level + 1) items ++
        (newLine level ++ [']'])))) := by
  simp [pretty]

theorem isArray_pretty (level : Nat) (items : List Json) :
    IsArray (items.map (pretty (level + 1))) (pretty level (.array items)) := by
  cases items with
  | nil => exact ⟨_, .nil .nil, by rw [pretty]; rfl⟩
  | cons item items =>
      have others := continues_prettyItems (level + 1) level items
      exact ⟨_, .cons (isBlank_newLine (level + 1)) others, pretty_array_cons level item items⟩

theorem conveys_array {β : Type} {readItem : Text → Except Error (α × Text)} {level : Nat}
    {sources : List β} {item : β → Json} {value : β → α}
    (conveys : ∀ source ∈ sources,
      Conveys readItem (value source) (pretty (level + 1) (item source))) :
    Conveys (readList readItem) (sources.map value) (pretty level (.array (sources.map item))) := by
  have array := isArray_pretty level (sources.map item)
  have each : ∀ text ∈ (sources.map item).map (pretty (level + 1)),
      IsJson text ∧ Isolates readItem text := by
    rw [List.map_map, List.forall_mem_map]
    intro source listed
    exact ⟨(conveys source listed).isJson, (conveys source listed).isolates⟩
  have readsAll : ReadsAll readItem ((sources.map item).map (pretty (level + 1)))
      (sources.map value) := by
    rw [ReadsAll, List.map_map, List.forall₂_map_left_iff, List.forall₂_map_right_iff,
      List.forall₂_same]
    exact fun source listed => (conveys source listed).reads_alone
  refine ⟨array.isJson fun text listed => (each text listed).1, fun blank _ => ?_⟩
  refine (readList_array array ?_ ?_ blank).mpr ⟨readsAll, rfl⟩
  · exact fun text listed => (each text listed).2
  · exact fun text listed => (each text listed).1.starts

/-! Objects -/

variable {draft : Type} {schema : Schema draft}

/-- A member as it is printed, behind its indentation. -/
def prettyMember (level : Nat) (member : Text × Json) : Text :=
  printString member.1 ++ (": " ++ pretty level member.2)

theorem isMember_pretty {level : Nat} {member : Text × Json}
    (json : IsJson (pretty level member.2)) :
    IsMember (member.map id (pretty level)) (prettyMember level member) := by
  have blank : IsBlank [' '] := List.forall_mem_singleton.mpr (by decide)
  refine .mk (spells_escaped member.1) json ?_
  have pairs : Pairs (member.1.flatMap escapeChar, pretty level member.2) _ := .mk .nil blank
  simpa [prettyMember, printString] using pairs

theorem continues_prettyMembers (level outer : Nat) (members : List (Text × Json)) :
    Continues '}' (members.map (prettyMember level))
      (prettyMembers level members ++ (newLine outer ++ ['}'])) := by
  induction members with
  | nil => exact .nil (isBlank_newLine outer)
  | cons member members ih =>
      have step : Continues '}' (prettyMember level member :: _) _ :=
        .cons .nil (isBlank_newLine level) ih
      simpa [prettyMembers, prettyMember] using step

theorem pretty_object_cons (level : Nat) (member : Text × Json) (members : List (Text × Json)) :
    pretty level (.object (member :: members)) =
      '{' :: (newLine (level + 1) ++ (prettyMember (level + 1) member ++
        (prettyMembers (level + 1) members ++ (newLine level ++ ['}'])))) := by
  simp [pretty, prettyMember]

theorem isObject_pretty {level : Nat} {members : List (Text × Json)}
    (values : ∀ member ∈ members, IsJson (pretty (level + 1) member.2)) :
    IsObject (members.map (·.map id (pretty (level + 1)))) (pretty level (.object members)) := by
  have written : List.Forall₂ IsMember (members.map (·.map id (pretty (level + 1))))
      (members.map (prettyMember (level + 1))) := by
    rw [List.forall₂_map_left_iff, List.forall₂_map_right_iff, List.forall₂_same]
    exact fun member listed => isMember_pretty (values member listed)
  cases members with
  | nil => exact ⟨[], _, written, .nil .nil, by rw [pretty]; rfl⟩
  | cons member members =>
      have others := continues_prettyMembers (level + 1) level members
      exact ⟨_, _, written, .cons (isBlank_newLine (level + 1)) others,
        pretty_object_cons level member members⟩

/-- Members that are found one after the other in their printed texts, from one draft to another. -/
inductive Schema.Gathers (schema : Schema draft) (level : Nat) :
    draft → List (Text × Json) → draft → Prop
  | nil {value : draft} : Gathers schema level value [] value
  | cons {value last : draft} {put : draft → draft} {entry : Entry draft} {name : Text}
      {member : Json} {members : List (Text × Json)}
      (found : schema.entries.find? (·.name = name) = some entry)
      (absent : entry.isPresent value = false)
      (conveys : ∀ start, Conveys (entry.read start) (put start) (pretty level member))
      (others : Gathers schema level (put value) members last) :
      Gathers schema level value ((name, member) :: members) last

namespace Schema.Gathers

variable {level : Nat} {start last : draft} {members : List (Text × Json)}

theorem isJson (gathers : schema.Gathers level start members last) :
    ∀ member ∈ members, IsJson (pretty level member.2) := by
  induction gathers with
  | nil => nofun
  | cons found absent conveys others ih =>
      exact List.forall_mem_cons.mpr ⟨(conveys start).isJson, ih⟩

/-- No two entries have one name, so the one that a member is for is the only one for it. -/
theorem isolatesIn (gathers : schema.Gathers level start members last)
    (apart : (schema.entries.map (·.name)).Nodup) :
    ∀ member ∈ members.map (·.map id (pretty level)), schema.IsolatesIn member := by
  induction gathers with
  | nil => nofun
  | cons found absent conveys others ih =>
      refine List.forall_mem_cons.mpr ⟨?_, ih⟩
      intro entry listed named value
      have foundNamed := List.find?_some found
      rw [decide_eq_true_eq] at foundNamed
      have same := List.inj_on_of_nodup_map apart listed (List.mem_of_find?_eq_some found)
        (named.trans foundNamed.symm)
      rw [same]
      exact (conveys value).isolates

theorem foldlM (gathers : schema.Gathers level start members last) :
    (members.map (·.map id (pretty level))).foldlM schema.take? start = some last := by
  induction gathers with
  | nil => rfl
  | cons found absent conveys others ih =>
      rw [List.map_cons, List.foldlM_cons,
        (take?_eq_some_iff found).mpr ⟨absent, (conveys _).reads_alone⟩]
      exact ih

end Schema.Gathers

theorem Schema.conveys_object {level : Nat} {start last : draft} {members : List (Text × Json)}
    (apart : (schema.entries.map (·.name)).Nodup)
    (gathers : schema.Gathers (level + 1) start members last) (complete : schema.IsComplete last) :
    Conveys (schema.read start) last (pretty level (.object members)) := by
  have object := isObject_pretty gathers.isJson
  refine ⟨object.isJson, fun blank _ => ?_⟩
  exact (read_object object (gathers.isolatesIn apart) blank).mpr ⟨⟨gathers.foldlM, complete⟩, rfl⟩

end WrapperGen.Json
