import WrapperGen.Json.Schema
import WrapperGen.Proofs.Json.Skipping

/-!
Reading values where they stand. A reader that knows what it is to find reads the text of a value by
itself as it reads it between any blanks and whatever may follow a value.
-/

namespace WrapperGen.Json

variable {α : Type} {read : Text → Except Error (α × Text)}

/-- The text is read alike by itself and between blanks and what may stand behind a value. -/
def Isolates (read : Text → Except Error (α × Text)) (text : Text) : Prop :=
  ∀ ⦃gap rest after : Text⦄ ⦃value : α⦄, IsBlank gap → IsClosed rest →
    (read (gap ++ (text ++ rest)) = .ok (value, after) ↔
      read text = .ok (value, []) ∧ after = rest)

/-- The reader finds the values that have a form, each in its form and behind a blank. -/
structure Recognizes (read : Text → Except Error (α × Text)) (form : α → Text → Prop) : Prop where
  isJson : ∀ {value : α} {text : Text}, form value text → IsJson text
  not_isNumber : ∀ {value : α} {text : Text}, form value text → ¬ IsNumber text
  reads : ∀ {text rest : Text} {value : α}, read text = .ok (value, rest) ↔
    ∃ gap found, IsBlank gap ∧ form value found ∧ text = gap ++ (found ++ rest)

theorem Isolates.map {β : Type} {text : Text} (isolates : Isolates read text) (form : α → β) :
    Isolates (fun text => (read text).map fun (value, rest) => (form value, rest)) text := by
  intro gap rest after result blank closed
  simp only [Except.map_eq_ok_iff, Prod.exists, Prod.mk.injEq]
  constructor
  · rintro ⟨value, _, found, made, rfl⟩
    obtain ⟨alone, rfl⟩ := (isolates blank closed).mp found
    exact ⟨⟨value, [], alone, made, rfl⟩, rfl⟩
  · rintro ⟨⟨value, _, alone, made, rfl⟩, rfl⟩
    exact ⟨value, after, (isolates blank closed).mpr ⟨alone, rfl⟩, made, rfl⟩

theorem IsBlank.append {gap other : Text} (blank : IsBlank gap) (blankToo : IsBlank other) :
    IsBlank (gap ++ other) :=
  List.forall_mem_append.mpr ⟨blank, blankToo⟩

/-- Where a value stands, no other one stands. -/
theorem IsJson.unique {gap other text found rest after : Text} (json : IsJson text)
    (jsonToo : IsJson found) (noNumber : ¬ IsNumber found) (blank : IsBlank gap)
    (blankToo : IsBlank other) (closed : IsClosed rest)
    (same : gap ++ (text ++ rest) = other ++ (found ++ after)) : text = found ∧ rest = after := by
  -- both are passed over in the one text, so they end at the same place
  have passed := json.isSkipped gap rest (2 * text.length + 2 * found.length) blank
    (fun _ => closed) (by omega)
  rw [same, jsonToo.isSkipped other after _ blankToo (fun number => absurd number noNumber)
    (by omega), Except.ok.injEq] at passed
  have start := congrArg skipSpace same
  rw [skipSpace_append blank, skipSpace_append blankToo, skipSpace_of_starts json.starts,
    skipSpace_of_starts jsonToo.starts, passed] at start
  exact ⟨List.append_cancel_right start, passed.symm⟩

namespace Recognizes

variable {form : α → Text → Prop} (recognizes : Recognizes read form)

include recognizes

theorem reads_between {gap text rest after : Text} {value : α} (json : IsJson text)
    (blank : IsBlank gap) (closed : IsClosed rest) :
    read (gap ++ (text ++ rest)) = .ok (value, after) ↔ form value text ∧ after = rest := by
  rw [recognizes.reads]
  constructor
  · rintro ⟨other, found, blankToo, formed, same⟩
    obtain ⟨rfl, rfl⟩ := json.unique (recognizes.isJson formed) (recognizes.not_isNumber formed)
      blank blankToo closed same
    exact ⟨formed, rfl⟩
  · rintro ⟨formed, rfl⟩
    exact ⟨gap, text, blank, formed, rfl⟩

theorem reads_alone {text : Text} {value : α} (json : IsJson text) :
    read text = .ok (value, []) ↔ form value text := by
  have alone : read ([] ++ (text ++ [])) = .ok (value, []) ↔ _ :=
    recognizes.reads_between json .nil .nil
  rw [List.nil_append, List.append_nil] at alone
  rw [alone, and_iff_left rfl]

theorem reads_form {text : Text} {value : α} (formed : form value text) :
    read text = .ok (value, []) :=
  (recognizes.reads_alone (recognizes.isJson formed)).mpr formed

theorem isolates {text : Text} (json : IsJson text) : Isolates read text := by
  intro gap rest after value blank closed
  rw [recognizes.reads_between json blank closed, recognizes.reads_alone json]

end Recognizes

/-! Single values -/

/-- The text of a string with the value. -/
def IsText (value text : Text) : Prop := ∃ body, Spells body value ∧ text = '"' :: (body ++ ['"'])

/-- The text of a string with the value, or null for no value. -/
def IsOptionalText : Option Text → Text → Prop
  | none, text => text = "null"
  | some value, text => IsText value text

def IsBool (value : Bool) (text : Text) : Prop := text = if value then "true" else "false"

/-- The name of a variant, or an object with that name and null. -/
def IsVariant (name text : Text) : Prop := IsText name text ∨ IsObject [(name, "null")] text

theorem IsText.isJson {value text : Text} (isText : IsText value text) : IsJson text := by
  obtain ⟨body, spells, rfl⟩ := isText
  exact .string spells.isString

theorem not_isNumber_cons {first : Char} (sign : first ≠ '-') (digit : first.isDigit = false)
    (rest : Text) : ¬ IsNumber (first :: rest) := by
  intro number
  obtain ⟨other, others, split, isSign | isDigit⟩ := number.starts
  · exact sign ((List.cons.inj split).1.trans isSign)
  · rw [← (List.cons.inj split).1, digit] at isDigit
    cases isDigit

theorem readWord_eq_ok_iff {word text rest : Text} :
    readWord word text = .ok rest ↔ text = word ++ rest := by
  induction word generalizing text with
  | nil => simp [readWord]
  | cons expected word ih =>
      cases text with
      | nil => simp [readWord]
      | cons first text =>
          rw [readWord]
          split
          · rename_i same
            simp [ih, same]
          · rename_i other
            simp [other]

/-- The first character of the word has been looked at before the others are read. -/
theorem exists_gap_of_readWord {text others word rest : Text} {first : Char}
    (found : skipSpace text = first :: others) (read : readWord word others = .ok rest) :
    ∃ gap, IsBlank gap ∧ text = gap ++ (first :: word ++ rest) := by
  obtain ⟨gap, blank, split⟩ := exists_gap text
  rw [found, readWord_eq_ok_iff.mp read] at split
  exact ⟨gap, blank, split⟩

theorem recognizes_readText : Recognizes readText IsText where
  isJson := IsText.isJson
  not_isNumber := by
    rintro value text ⟨body, spells, rfl⟩
    exact not_isNumber_cons (by decide) (by decide) _
  reads := by
    intro text rest value
    constructor
    · intro read
      obtain ⟨gap, blank, split⟩ := exists_gap text
      unfold readText at read
      split at read
      · cases read
      · rename_i others found
        obtain ⟨body, spells, rfl⟩ := readString_eq_ok_iff.mp read
        refine ⟨gap, _, blank, ⟨body, spells, rfl⟩, ?_⟩
        rw [split, found]
        simp
      · cases read
    · rintro ⟨gap, _, blank, ⟨body, spells, rfl⟩, rfl⟩
      simp [readText, blank, readString_eq_ok_iff.mpr ⟨_, spells, rfl⟩]

theorem recognizes_readBool : Recognizes readBool IsBool where
  isJson := by
    rintro (_ | _) text rfl
    · exact .false
    · exact .true
  not_isNumber := by
    rintro (_ | _) text rfl
    · exact not_isNumber_cons (by decide) (by decide) _
    · exact not_isNumber_cons (by decide) (by decide) _
  reads := by
    intro text rest value
    constructor
    · intro read
      unfold readBool at read
      split at read
      · cases read
      · rename_i others found
        obtain ⟨after, word, made⟩ := Except.map_eq_ok_iff.mp read
        cases made
        obtain ⟨gap, blank, split⟩ := exists_gap_of_readWord found word
        exact ⟨gap, _, blank, rfl, split⟩
      · rename_i others found
        obtain ⟨after, word, made⟩ := Except.map_eq_ok_iff.mp read
        cases made
        obtain ⟨gap, blank, split⟩ := exists_gap_of_readWord found word
        exact ⟨gap, _, blank, rfl, split⟩
      · cases read
    · rintro ⟨gap, _, blank, rfl, rfl⟩
      cases value
      · simp [readBool, blank, readWord, Except.map]
      · simp [readBool, blank, readWord, Except.map]

theorem recognizes_readOptionalText : Recognizes readOptionalText IsOptionalText where
  isJson := by
    rintro (_ | value) text form
    · exact form ▸ .null
    · exact IsText.isJson form
  not_isNumber := by
    rintro (_ | value) text form
    · exact form ▸ not_isNumber_cons (by decide) (by decide) _
    · exact recognizes_readText.not_isNumber form
  reads := by
    intro text rest value
    constructor
    · intro read
      unfold readOptionalText at read
      split at read
      · rename_i others found
        obtain ⟨after, word, made⟩ := Except.map_eq_ok_iff.mp read
        cases made
        obtain ⟨gap, blank, split⟩ := exists_gap_of_readWord found word
        exact ⟨gap, _, blank, rfl, split⟩
      · obtain ⟨gap, blank, split⟩ := exists_gap text
        obtain ⟨⟨inner, after⟩, found, made⟩ := Except.map_eq_ok_iff.mp read
        cases made
        obtain ⟨between, string, blankToo, isText, start⟩ := recognizes_readText.reads.mp found
        refine ⟨gap ++ between, string, blank.append blankToo, isText, ?_⟩
        rw [split, start, List.append_assoc]
    · rintro ⟨gap, found, blank, form, rfl⟩
      cases value with
      | none =>
          obtain rfl := form
          simp [readOptionalText, blank, readWord, Except.map]
      | some value =>
          obtain ⟨body, spells, rfl⟩ := form
          simp [readOptionalText, readText, blank, readString_eq_ok_iff.mpr ⟨_, spells, rfl⟩,
            Except.map]

/-! Variants -/

theorem readColon_eq_ok_iff {text rest : Text} :
    readColon text = .ok rest ↔ ∃ gap, IsBlank gap ∧ text = gap ++ ':' :: rest := by
  constructor
  · intro read
    obtain ⟨gap, blank, split⟩ := exists_gap text
    unfold readColon at read
    split at read
    · cases read
    · rename_i others found
      cases read
      exact ⟨gap, blank, by rw [split, found]⟩
    · cases read
  · rintro ⟨gap, blank, rfl⟩
    exact readColon_append blank rest

theorem readNull_eq_ok_iff {text rest : Text} :
    readNull text = .ok rest ↔ ∃ gap, IsBlank gap ∧ text = gap ++ ("null" ++ rest) := by
  constructor
  · intro read
    unfold readNull at read
    split at read
    · cases read
    · rename_i others found
      exact exists_gap_of_readWord found read
    · cases read
  · rintro ⟨gap, blank, rfl⟩
    simp [readNull, blank, readWord]

theorem nextKey_true_eq_ok_iff {text rest : Text} :
    nextKey true text = .ok (some rest) ↔ ∃ gap, IsBlank gap ∧ text = gap ++ '"' :: rest := by
  constructor
  · intro read
    obtain ⟨gap, blank, split⟩ := exists_gap text
    unfold nextKey at read
    split at read
    · cases read
    · rename_i first others found
      simp only [↓reduceIte] at read
      split_ifs at read with closes quote
      · cases read
      · obtain rfl := Option.some.inj (Except.ok.inj read)
        exact ⟨gap, blank, by rw [split, found, quote]⟩
  · rintro ⟨gap, blank, rfl⟩
    simp [nextKey, blank]

theorem isObject_singleton_iff {name value text : Text} :
    IsObject [(name, value)] text ↔ ∃ key first second third last, Spells key name ∧ IsJson value ∧
      IsBlank first ∧ IsBlank second ∧ IsBlank third ∧ IsBlank last ∧
      text = '{' :: (first ++ '"' :: (key ++ '"' :: (second ++ ':' :: (third ++ (value ++
        (last ++ ['}']))))) ) := by
  constructor
  · rintro ⟨pieces, rest, written, listed, rfl⟩
    obtain ⟨piece, _, ⟨spells, json, pairs⟩, none, rfl⟩ := List.forall₂_cons_left_iff.mp written
    obtain rfl := List.forall₂_nil_left_iff.mp none
    obtain ⟨blankBefore, blankAfter⟩ := pairs
    cases listed with
    | cons blank others =>
        cases others with
        | nil blankLast =>
            exact ⟨_, _, _, _, _, spells, json, blank, blankBefore, blankAfter, blankLast, by simp⟩
  · rintro ⟨key, first, second, third, last, spells, json, blank, before, after, final, rfl⟩
    refine ⟨[_], _, .cons (.mk spells json (.mk before after)) .nil, .cons blank (.nil final), ?_⟩
    simp

theorem variantOf_eq_ok_iff {variants : List (Text × α)} {name : Text} {value : α} :
    variantOf variants name = .ok value ↔ variants.lookup name = some value := by
  unfold variantOf
  split
  · rename_i found
    simp [found]
  · rename_i missing
    simp [missing]

theorem recognizes_readVariant (variants : List (Text × α)) :
    Recognizes (readVariant variants) fun value text =>
      ∃ name, variants.lookup name = some value ∧ IsVariant name text where
  isJson := by
    rintro value text ⟨name, _, isText | object⟩
    · exact isText.isJson
    · exact object.isJson
  not_isNumber := by
    rintro value text ⟨name, _, isText | ⟨_, _, _, _, rfl⟩⟩
    · exact recognizes_readText.not_isNumber isText
    · exact not_isNumber_cons (by decide) (by decide) _
  reads := by
    intro text rest value
    constructor
    · intro read
      obtain ⟨gap, blank, split⟩ := exists_gap text
      unfold readVariant at read
      split at read
      · cases read
      · rename_i others found
        obtain ⟨⟨name, after⟩, string, read⟩ := Except.bind_eq_ok_iff.mp read
        obtain ⟨variant, known, made⟩ := Except.bind_eq_ok_iff.mp read
        cases made
        obtain ⟨body, spells, rfl⟩ := readString_eq_ok_iff.mp string
        refine ⟨gap, _, blank, ⟨name, variantOf_eq_ok_iff.mp known, .inl ⟨body, spells, rfl⟩⟩, ?_⟩
        rw [split, found]
        simp
      · rename_i others found
        obtain ⟨next, key, read⟩ := Except.bind_eq_ok_iff.mp read
        cases next with
        | none => cases read
        | some inner =>
            obtain ⟨⟨name, after⟩, string, read⟩ := Except.bind_eq_ok_iff.mp read
            obtain ⟨variant, known, read⟩ := Except.bind_eq_ok_iff.mp read
            obtain ⟨behind, colon, read⟩ := Except.bind_eq_ok_iff.mp read
            obtain ⟨last, null, read⟩ := Except.bind_eq_ok_iff.mp read
            split at read
            · cases read
            · rename_i final closing
              cases read
              obtain ⟨first, blankFirst, rfl⟩ := nextKey_true_eq_ok_iff.mp key
              obtain ⟨body, spells, rfl⟩ := readString_eq_ok_iff.mp string
              obtain ⟨second, blankSecond, rfl⟩ := readColon_eq_ok_iff.mp colon
              obtain ⟨third, blankThird, rfl⟩ := readNull_eq_ok_iff.mp null
              obtain ⟨fourth, blankFourth, closed⟩ := exists_gap last
              refine ⟨gap, _, blank, ⟨name, variantOf_eq_ok_iff.mp known, .inr
                (isObject_singleton_iff.mpr ⟨body, first, second, third, fourth, spells, .null,
                  blankFirst, blankSecond, blankThird, blankFourth, rfl⟩)⟩, ?_⟩
              rw [split, found, closed, closing]
              simp
            · cases read
      · cases read
    · rintro ⟨gap, found, blank, ⟨name, known, ⟨body, spells, rfl⟩ | object⟩, rfl⟩
      · simp [readVariant, blank, readString_eq_ok_iff.mpr ⟨_, spells, rfl⟩,
          variantOf_eq_ok_iff.mpr known]
      · obtain ⟨key, first, second, third, last, spells, _, blankFirst, blankSecond, blankThird,
          blankLast, rfl⟩ := isObject_singleton_iff.mp object
        simp [readVariant, blank, nextKey_true_eq_ok_iff.mpr ⟨_, blankFirst, rfl⟩,
          readString_eq_ok_iff.mpr ⟨_, spells, rfl⟩, variantOf_eq_ok_iff.mpr known,
          readColon_append blankSecond, readNull, blankThird, readWord, blankLast]

end WrapperGen.Json
