import WrapperGen.Json.Schema
import WrapperGen.Proofs.Json.Readers

/-!
Reading objects member by member. The draft that is read from an object depends on the names of its
members and on the texts of their values alone: not on the blanks, nor on how the names are spelled.
-/

namespace WrapperGen.Json

theorem Continues.length_lt {close : Char} {pieces : List Text} {tail : Text}
    (continues : Continues close pieces tail) : pieces.length < tail.length := by
  induction continues with
  | nil blank => simp
  | cons blank blankToo others ih =>
      simp only [List.length_append, List.length_cons]
      omega

theorem Lists.length_le {close : Char} {pieces : List Text} {text : Text}
    (listed : Lists close pieces text) : pieces.length ≤ text.length := by
  cases listed with
  | nil blank => simp
  | cons blank others =>
      have others := others.length_lt
      simp only [List.length_append, List.length_cons]
      omega

/-! Members -/

variable {draft : Type} {schema : Schema draft}

/-- What a member makes of a draft: nothing if it has no entry. There is no such draft if the value,
read by itself, is not what the entry is for, or if the draft has the entry already. -/
def Schema.take? (schema : Schema draft) (value : draft) (member : Text × Text) : Option draft :=
  match schema.entries.find? (·.name = member.1) with
  | none => some value
  | some entry =>
    if entry.isPresent value then none
    else match entry.read value member.2 with
      | .ok (next, []) => some next
      | _ => none

/-- The value of the member is read alike wherever it stands, if it is read at all. -/
def Schema.IsolatesIn (schema : Schema draft) (member : Text × Text) : Prop :=
  ∀ entry ∈ schema.entries, entry.name = member.1 → ∀ value, Isolates (entry.read value) member.2

theorem Schema.take?_eq_some_iff {value next : draft} {member : Text × Text} {entry : Entry draft}
    (found : schema.entries.find? (·.name = member.1) = some entry) :
    schema.take? value member = some next ↔
      entry.isPresent value = false ∧ entry.read value member.2 = .ok (next, []) := by
  rw [take?, found]
  simp only
  split
  · rename_i present
    simp [present]
  · rename_i absent
    split
    · rename_i read
      simp [absent, read]
    · rename_i other
      simp only [reduceCtorEq, false_iff, not_and]
      exact fun _ read => other _ read

theorem Schema.readMember_eq_ok_iff {member : Text × Text} (json : IsJson member.2)
    (isolates : schema.IsolatesIn member) {before after rest behind : Text}
    (blank : IsBlank before) (blankToo : IsBlank after) (closed : IsClosed rest)
    {value next : draft} :
    schema.readMember value member.1 (before ++ ':' :: (after ++ (member.2 ++ rest))) =
        .ok (next, behind) ↔ schema.take? value member = some next ∧ behind = rest := by
  cases found : schema.entries.find? (·.name = member.1) with
  | none =>
      rw [readMember, take?, found]
      simp [readColon_append blank, skip_value json blankToo closed, eq_comm]
  | some entry =>
      have listed := List.mem_of_find?_eq_some found
      have named : entry.name = member.1 := by simpa using List.find?_some found
      rw [readMember, take?_eq_some_iff found, found]
      simp only [readColon_append blank, Except.ok_bind]
      split
      · rename_i present
        simp [present]
      · rename_i absent
        rw [isolates entry listed named value blankToo closed]
        simp [absent]

theorem readMembers_member {member : Text × Text} {piece text rest behind : Text} {isFirst : Bool}
    (isMember : IsMember member piece) (isolates : schema.IsolatesIn member)
    (closed : IsClosed rest)
    (key : ∀ inner, piece ++ rest = '"' :: inner → nextKey isFirst text = .ok (some inner))
    {start last : draft} (fuel : Nat) :
    readMembers schema.readMember (fuel + 1) isFirst start text = .ok (last, behind) ↔
      ∃ next, schema.take? start member = some next ∧
        readMembers schema.readMember fuel false next rest = .ok (last, behind) := by
  cases isMember with
  | @mk name spelled value piece spells json pairs =>
      cases pairs with
      | @mk _ before after _ blank blankToo =>
          have read {next : draft} {tail : Text} :
              schema.readMember start name (before ++ ':' :: (after ++ (value ++ rest))) =
                  .ok (next, tail) ↔ schema.take? start (name, value) = some next ∧ tail = rest :=
            Schema.readMember_eq_ok_iff json isolates blank blankToo closed
          have found : nextKey isFirst text = .ok (some (spelled ++ '"' ::
              (before ++ ':' :: (after ++ (value ++ rest))))) := key _ (by simp)
          rw [readMembers, found]
          simp only [readString_eq_ok_iff.mpr ⟨_, spells, rfl⟩]
          cases taken : schema.readMember start name (before ++ ':' :: (after ++ (value ++ rest))) with
          | error failure =>
              have untaken (next : draft) : schema.take? start (name, value) ≠ some next := by
                intro given
                cases taken.symm.trans (read.mpr ⟨given, rfl⟩)
              simp [untaken]
          | ok result =>
              obtain ⟨next, tail⟩ := result
              obtain ⟨given, rfl⟩ := read.mp taken
              simp [given]

theorem nextKey_brace {isFirst : Bool} {gap : Text} (blank : IsBlank gap) (rest : Text) :
    nextKey isFirst (gap ++ '}' :: rest) = .ok none := by
  simp [nextKey, blank]

theorem endObject_brace {gap : Text} (blank : IsBlank gap) (rest : Text) :
    endObject (gap ++ '}' :: rest) = .ok rest := by
  simp [endObject, blank]

theorem nextKey_comma {before after : Text} (blank : IsBlank before) (blankToo : IsBlank after)
    (inner : Text) : nextKey false (before ++ ',' :: (after ++ '"' :: inner)) = .ok (some inner) := by
  simp [nextKey, blank, blankToo]

theorem readMembers_continues {members : List (Text × Text)} {pieces : List Text} {tail : Text}
    (continues : Continues '}' pieces tail) (written : List.Forall₂ IsMember members pieces)
    (isolates : ∀ member ∈ members, schema.IsolatesIn member) {fuel : Nat}
    (enough : pieces.length < fuel) {rest behind : Text} {start last : draft} :
    readMembers schema.readMember fuel false start (tail ++ rest) = .ok (last, behind) ↔
      members.foldlM schema.take? start = some last ∧ behind = rest := by
  obtain ⟨fuel, rfl⟩ : ∃ less, fuel = less + 1 := Nat.exists_eq_succ_of_ne_zero (by omega)
  induction continues generalizing members start fuel with
  | nil blank =>
      obtain rfl := List.forall₂_nil_right_iff.mp written
      rw [readMembers, List.append_assoc, List.singleton_append, nextKey_brace blank]
      simp [endObject_brace blank, Except.map, eq_comm]
  | cons blank blankToo continues ih =>
      obtain ⟨member, members, isMember, others, rfl⟩ := List.forall₂_cons_right_iff.mp written
      obtain ⟨first, further⟩ := List.forall_mem_cons.mp isolates
      have closed := continues.isClosed (by decide) rest
      rw [readMembers_member isMember first closed]
      · rw [List.length_cons] at enough
        obtain ⟨fuel, rfl⟩ : ∃ less, fuel = less + 1 := Nat.exists_eq_succ_of_ne_zero (by omega)
        simp only [ih others further fuel (by omega), List.foldlM_cons, Option.bind_eq_bind,
          Option.bind_eq_some_iff, ← and_assoc, exists_and_right]
      · intro inner start
        simp only [List.append_assoc, List.cons_append, start]
        exact nextKey_comma blank blankToo inner

theorem readMembers_lists {members : List (Text × Text)} {pieces : List Text} {inner : Text}
    (listed : Lists '}' pieces inner) (written : List.Forall₂ IsMember members pieces)
    (isolates : ∀ member ∈ members, schema.IsolatesIn member) {fuel : Nat}
    (enough : pieces.length ≤ fuel) {rest behind : Text} {start last : draft} :
    readMembers schema.readMember (fuel + 1) true start (inner ++ rest) = .ok (last, behind) ↔
      members.foldlM schema.take? start = some last ∧ behind = rest := by
  cases listed with
  | nil blank =>
      obtain rfl := List.forall₂_nil_right_iff.mp written
      rw [readMembers, List.append_assoc, List.singleton_append, nextKey_brace blank]
      simp [endObject_brace blank, Except.map, eq_comm]
  | cons blank continues =>
      obtain ⟨member, members, isMember, others, rfl⟩ := List.forall₂_cons_right_iff.mp written
      obtain ⟨first, further⟩ := List.forall_mem_cons.mp isolates
      have closed := continues.isClosed (by decide) rest
      rw [readMembers_member isMember first closed]
      · simp only [readMembers_continues continues others further (Nat.lt_of_succ_le enough),
          List.foldlM_cons, Option.bind_eq_bind, Option.bind_eq_some_iff, ← and_assoc,
          exists_and_right]
      · intro inner start
        simp only [List.append_assoc, start]
        exact nextKey_true_eq_ok_iff.mpr ⟨_, blank, rfl⟩

/-- The draft has all entries that have to be present. -/
def Schema.IsComplete (schema : Schema draft) (value : draft) : Prop :=
  ∀ entry ∈ schema.entries, entry.isRequired = true → entry.isPresent value = true

theorem Schema.isComplete_iff {value : draft} :
    schema.IsComplete value ↔
      schema.entries.find? (fun entry => entry.isRequired && !entry.isPresent value) = none := by
  simp [IsComplete, List.find?_eq_none]

theorem Schema.read_object {members : List (Text × Text)} {text : Text}
    (object : IsObject members text) (isolates : ∀ member ∈ members, schema.IsolatesIn member)
    {gap rest behind : Text} (blank : IsBlank gap) {start last : draft} :
    schema.read start (gap ++ (text ++ rest)) = .ok (last, behind) ↔
      (members.foldlM schema.take? start = some last ∧ schema.IsComplete last) ∧
        behind = rest := by
  obtain ⟨pieces, inner, written, listed, rfl⟩ := object
  have enough : pieces.length ≤ (inner ++ rest).length := by
    have size := listed.length_le
    rw [List.length_append]
    omega
  have read {value : draft} {tail : Text} :
      readMembers schema.readMember ((inner ++ rest).length + 1) true start (inner ++ rest) =
          .ok (value, tail) ↔ members.foldlM schema.take? start = some value ∧ tail = rest :=
    readMembers_lists listed written isolates enough
  have opened : skipSpace (gap ++ ('{' :: inner ++ rest)) = '{' :: (inner ++ rest) := by
    simp [blank]
  simp only [Schema.read, opened]
  rw [Except.bind_eq_ok_iff]
  simp only [Prod.exists, read, isComplete_iff]
  constructor
  · rintro ⟨value, tail, ⟨taken, rfl⟩, finished⟩
    split at finished
    · cases finished
    · rename_i complete
      cases finished
      exact ⟨⟨taken, complete⟩, rfl⟩
  · rintro ⟨⟨taken, complete⟩, rfl⟩
    refine ⟨last, _, ⟨taken, rfl⟩, ?_⟩
    rw [complete]
    rfl

theorem Schema.read_object_alone {members : List (Text × Text)} {text : Text}
    (object : IsObject members text) (isolates : ∀ member ∈ members, schema.IsolatesIn member)
    {start last : draft} :
    schema.read start text = .ok (last, []) ↔
      members.foldlM schema.take? start = some last ∧ schema.IsComplete last := by
  have read : schema.read start ([] ++ (text ++ [])) = .ok (last, []) ↔ _ :=
    read_object object isolates .nil
  rw [List.nil_append, List.append_nil] at read
  rw [read, and_iff_left rfl]

theorem Schema.isolates_object {members : List (Text × Text)} {text : Text}
    (object : IsObject members text) (isolates : ∀ member ∈ members, schema.IsolatesIn member)
    (start : draft) : Isolates (schema.read start) text := by
  intro gap rest after value blank closed
  rw [read_object object isolates blank, read_object_alone object isolates]

/-! Items -/

variable {α : Type} {readItem : Text → Except Error (α × Text)}

theorem nextItem_bracket {isFirst : Bool} {gap : Text} (blank : IsBlank gap) (rest : Text) :
    nextItem isFirst (gap ++ ']' :: rest) = .ok none := by
  simp [nextItem, blank]

theorem endArray_bracket {gap : Text} (blank : IsBlank gap) (rest : Text) :
    endArray (gap ++ ']' :: rest) = .ok rest := by
  simp [endArray, blank]

theorem nextItem_blank {gap item : Text} (blank : IsBlank gap) (starts : Starts item)
    (rest : Text) : nextItem true (gap ++ (item ++ rest)) = .ok (some (item ++ rest)) := by
  have start := skipSpace_of_starts starts rest
  obtain ⟨first, others, rfl, solid⟩ := starts
  have inside : first ≠ ']' := fun same => solid (same ▸ by decide)
  simp only [nextItem, skipSpace_append blank, start]
  simp [inside]

theorem nextItem_comma {before after item : Text} (blank : IsBlank before)
    (blankToo : IsBlank after) (starts : Starts item) (rest : Text) :
    nextItem false (before ++ ',' :: (after ++ (item ++ rest))) = .ok (some (item ++ rest)) := by
  have start := skipSpace_of_starts starts rest
  obtain ⟨first, others, rfl, solid⟩ := starts
  have inside : first ≠ ']' := fun same => solid (same ▸ by decide)
  have comma : skipSpace (',' :: (after ++ (first :: others ++ rest))) =
      ',' :: (after ++ (first :: others ++ rest)) := rfl
  simp only [nextItem, skipSpace_append blank, comma, skipSpace_append blankToo, start]
  simp [inside]

/-- The items, each read by itself, have these values. -/
def ReadsAll (readItem : Text → Except Error (α × Text)) : List Text → List α → Prop :=
  List.Forall₂ fun item value => readItem item = .ok (value, [])

theorem readItems_item {item text rest last behind : Text} {items : List Text} {isFirst : Bool}
    {fuel : Nat} (isolates : Isolates readItem item) (closed : IsClosed rest)
    (found : nextItem isFirst text = .ok (some (item ++ rest)))
    (others : ∀ {values : List α}, readItems readItem fuel false rest = .ok (values, behind) ↔
      ReadsAll readItem items values ∧ behind = last) {values : List α} :
    readItems readItem (fuel + 1) isFirst text = .ok (values, behind) ↔
      ReadsAll readItem (item :: items) values ∧ behind = last := by
  have read {value : α} {tail : Text} :
      readItem (item ++ rest) = .ok (value, tail) ↔ readItem item = .ok (value, []) ∧ tail = rest :=
    isolates .nil closed
  rw [readItems, found, ReadsAll, List.forall₂_cons_left_iff]
  simp only
  cases taken : readItem (item ++ rest) with
  | error failure =>
      have unread (value : α) : readItem item ≠ .ok (value, []) := by
        intro alone
        cases taken.symm.trans (read.mpr ⟨alone, rfl⟩)
      simp [unread]
  | ok result =>
      obtain ⟨value, tail⟩ := result
      obtain ⟨alone, rfl⟩ := read.mp taken
      simp only [Except.map_eq_ok_iff, Prod.exists, Prod.mk.injEq]
      constructor
      · rintro ⟨more, _, found, rfl, rfl⟩
        obtain ⟨rests, ends⟩ := others.mp found
        exact ⟨⟨value, more, alone, rests, rfl⟩, ends⟩
      · rintro ⟨⟨first, more, aloneToo, rests, rfl⟩, ends⟩
        obtain ⟨rfl, _⟩ := Prod.mk.inj (Except.ok.inj (alone.symm.trans aloneToo))
        exact ⟨more, behind, others.mpr ⟨rests, ends⟩, rfl, rfl⟩

theorem readItems_continues {items : List Text} {tail : Text} (continues : Continues ']' items tail)
    (isolates : ∀ item ∈ items, Isolates readItem item) (starts : ∀ item ∈ items, Starts item)
    {fuel : Nat} (enough : items.length < fuel) {rest behind : Text} {values : List α} :
    readItems readItem fuel false (tail ++ rest) = .ok (values, behind) ↔
      ReadsAll readItem items values ∧ behind = rest := by
  obtain ⟨fuel, rfl⟩ : ∃ less, fuel = less + 1 := Nat.exists_eq_succ_of_ne_zero (by omega)
  induction continues generalizing values fuel with
  | nil blank =>
      rw [readItems, List.append_assoc, List.singleton_append, nextItem_bracket blank]
      simp [endArray_bracket blank, Except.map, ReadsAll, eq_comm]
  | cons blank blankToo continues ih =>
      obtain ⟨first, further⟩ := List.forall_mem_cons.mp isolates
      obtain ⟨start, starts⟩ := List.forall_mem_cons.mp starts
      rw [List.length_cons] at enough
      obtain ⟨fuel, rfl⟩ : ∃ less, fuel = less + 1 := Nat.exists_eq_succ_of_ne_zero (by omega)
      refine readItems_item first (continues.isClosed (by decide) rest) ?_
        (ih further starts fuel (by omega))
      simp only [List.append_assoc, List.cons_append]
      exact nextItem_comma blank blankToo start _

theorem readList_array {items : List Text} {text : Text} (array : IsArray items text)
    (isolates : ∀ item ∈ items, Isolates readItem item) (starts : ∀ item ∈ items, Starts item)
    {gap rest behind : Text} (blank : IsBlank gap) {values : List α} :
    readList readItem (gap ++ (text ++ rest)) = .ok (values, behind) ↔
      ReadsAll readItem items values ∧ behind = rest := by
  obtain ⟨inner, listed, rfl⟩ := array
  have opened : skipSpace (gap ++ ('[' :: inner ++ rest)) = '[' :: (inner ++ rest) := by
    simp [blank]
  simp only [readList, opened]
  have size := listed.length_le
  cases listed with
  | nil blank =>
      rw [readItems, List.append_assoc, List.singleton_append, nextItem_bracket blank]
      simp [endArray_bracket blank, Except.map, ReadsAll, eq_comm]
  | cons blank continues =>
      obtain ⟨first, further⟩ := List.forall_mem_cons.mp isolates
      obtain ⟨start, starts⟩ := List.forall_mem_cons.mp starts
      rw [List.append_assoc, List.append_assoc]
      refine readItems_item first (continues.isClosed (by decide) rest)
        (nextItem_blank blank start _) (readItems_continues continues further starts ?_)
      simp only [List.length_append, List.length_cons] at size ⊢
      omega

theorem ReadsAll.replace {front back : List Text} {item other : Text} {values : List α}
    (reads : ReadsAll readItem (front ++ item :: back) values)
    (same : ∀ value, readItem item = .ok (value, []) → readItem other = .ok (value, [])) :
    ReadsAll readItem (front ++ other :: back) values := by
  induction front generalizing values with
  | nil =>
      obtain ⟨value, rest, alone, others, rfl⟩ := List.forall₂_cons_left_iff.mp reads
      exact .cons (same value alone) others
  | cons first front ih =>
      obtain ⟨value, rest, alone, others, rfl⟩ := List.forall₂_cons_left_iff.mp reads
      exact .cons alone (ih others)

theorem readList_array_alone {items : List Text} {text : Text} (array : IsArray items text)
    (isolates : ∀ item ∈ items, Isolates readItem item) (starts : ∀ item ∈ items, Starts item)
    {values : List α} :
    readList readItem text = .ok (values, []) ↔ ReadsAll readItem items values := by
  have read : readList readItem ([] ++ (text ++ [])) = .ok (values, []) ↔ _ :=
    readList_array array isolates starts .nil
  rw [List.nil_append, List.append_nil] at read
  rw [read, and_iff_left rfl]

theorem isolates_array {items : List Text} {text : Text} (array : IsArray items text)
    (isolates : ∀ item ∈ items, Isolates readItem item) (starts : ∀ item ∈ items, Starts item) :
    Isolates (readList readItem) text := by
  intro gap rest after values blank closed
  rw [readList_array array isolates starts blank, readList_array_alone array isolates starts]

end WrapperGen.Json
