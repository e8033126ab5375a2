import WrapperGen.Proofs.Json.Spelling

/-!
The grammar of JSON text. Values are told apart by their first character and end before a blank, a
comma or a closing mark; objects and arrays are their pieces with commas and blanks between them.
-/

namespace WrapperGen.Json

def blanks : List Char := [' ', '\n', '\t', '\r']

/-- What may stand behind a value. -/
def enders : List Char := [' ', '\n', '\t', '\r', ',', ']', '}']

def IsBlank (text : Text) : Prop := ∀ char ∈ text, char ∈ blanks

/-- The text ends, or it starts with what may stand behind a value. -/
def IsClosed (text : Text) : Prop := ∀ first, text.head? = some first → first ∈ enders

/-! Numbers -/

def IsDigits (text : Text) : Prop := text ≠ [] ∧ ∀ char ∈ text, char.isDigit = true

/-- A whole number, which starts with a zero only if that is all of it. -/
inductive IsWhole : Text → Prop
  | zero : IsWhole ['0']
  | digits {text : Text} (digits : IsDigits text) (leading : text.head? ≠ some '0') : IsWhole text

inductive IsFraction : Text → Prop
  | none : IsFraction []
  | some {text : Text} (digits : IsDigits text) : IsFraction ('.' :: text)

inductive IsExponent : Text → Prop
  | none : IsExponent []
  | some {mark : Char} {sign text : Text} (marked : mark = 'e' ∨ mark = 'E')
      (signed : sign = [] ∨ sign = ['+'] ∨ sign = ['-']) (digits : IsDigits text) :
      IsExponent (mark :: (sign ++ text))

inductive IsUnsigned : Text → Prop
  | mk {first second third : Text} (whole : IsWhole first) (fraction : IsFraction second)
      (exponent : IsExponent third) : IsUnsigned (first ++ (second ++ third))

inductive IsNumber : Text → Prop
  | positive {text : Text} (unsigned : IsUnsigned text) : IsNumber text
  | negative {text : Text} (unsigned : IsUnsigned text) : IsNumber ('-' :: text)

/-! Values -/

/-- Pieces that follow others, each behind a comma, up to the mark that closes them. -/
inductive Continues (close : Char) : List Text → Text → Prop
  | nil {gap : Text} (blank : IsBlank gap) : Continues close [] (gap ++ [close])
  | cons {before after piece rest : Text} {pieces : List Text} (blank : IsBlank before)
      (blankToo : IsBlank after) (others : Continues close pieces rest) :
      Continues close (piece :: pieces) (before ++ ',' :: (after ++ (piece ++ rest)))

/-- Pieces with commas between them, up to the mark that closes them. -/
inductive Lists (close : Char) : List Text → Text → Prop
  | nil {gap : Text} (blank : IsBlank gap) : Lists close [] (gap ++ [close])
  | cons {gap piece rest : Text} {pieces : List Text} (blank : IsBlank gap)
      (others : Continues close pieces rest) : Lists close (piece :: pieces) (gap ++ (piece ++ rest))

/-- A member as it stands in an object, of what stands between the quotes of its key and of its
value. -/
inductive Pairs : Text × Text → Text → Prop
  | mk {key before after value : Text} (blank : IsBlank before) (blankToo : IsBlank after) :
      Pairs (key, value) ('"' :: (key ++ '"' :: (before ++ ':' :: (after ++ value))))

/-- The text of a value, with no blanks around it. -/
inductive IsJson : Text → Prop
  | null : IsJson "null"
  | true : IsJson "true"
  | false : IsJson "false"
  | number {text : Text} (number : IsNumber text) : IsJson text
  | string {body : Text} (string : IsString body) : IsJson ('"' :: (body ++ ['"']))
  | array {items : List Text} {rest : Text} (values : ∀ item ∈ items, IsJson item)
      (listed : Lists ']' items rest) : IsJson ('[' :: rest)
  | object {members : List (Text × Text)} {pieces : List Text} {rest : Text}
      (keys : ∀ member ∈ members, IsString member.1)
      (values : ∀ member ∈ members, IsJson member.2)
      (written : List.Forall₂ Pairs members pieces) (listed : Lists '}' pieces rest) :
      IsJson ('{' :: rest)

/-- A member as it stands in an object, of its name and of the text of its value. -/
inductive IsMember : Text × Text → Text → Prop
  | mk {name key value piece : Text} (spells : Spells key name) (json : IsJson value)
      (pairs : Pairs (key, value) piece) : IsMember (name, value) piece

/-- The text of an object with members of these names and texts of values. -/
def IsObject (members : List (Text × Text)) (text : Text) : Prop :=
  ∃ pieces rest, List.Forall₂ IsMember members pieces ∧ Lists '}' pieces rest ∧ text = '{' :: rest

/-- The text of an array with items of these texts. -/
def IsArray (items : List Text) (text : Text) : Prop := ∃ rest, Lists ']' items rest ∧ text = '[' :: rest

theorem IsObject.isJson {members : List (Text × Text)} {text : Text}
    (object : IsObject members text) : IsJson text := by
  obtain ⟨pieces, rest, written, listed, rfl⟩ := object
  suffices keyed : ∃ keyed : List (Text × Text), (∀ member ∈ keyed, IsString member.1) ∧
      (∀ member ∈ keyed, IsJson member.2) ∧ List.Forall₂ Pairs keyed pieces by
    obtain ⟨keyed, keys, values, pairs⟩ := keyed
    exact .object keys values pairs listed
  clear listed
  induction written with
  | nil => exact ⟨[], nofun, nofun, .nil⟩
  | cons first others ih =>
      obtain ⟨keyed, keys, values, pairs⟩ := ih
      obtain ⟨spells, json, piece⟩ := first
      exact ⟨_ :: keyed, List.forall_mem_cons.mpr ⟨spells.isString, keys⟩,
        List.forall_mem_cons.mpr ⟨json, values⟩, .cons piece pairs⟩

theorem IsObject.isJson_value {members : List (Text × Text)} {text : Text}
    (object : IsObject members text) {member : Text × Text} (listed : member ∈ members) :
    IsJson member.2 := by
  obtain ⟨pieces, rest, written, listing⟩ := object
  clear listing
  induction written with
  | nil => cases listed
  | cons first others ih =>
      rcases List.mem_cons.mp listed with rfl | further
      · cases first with
        | mk spells json pairs => exact json
      · exact ih further

/-! Blanks and ends -/

theorem IsBlank.nil : IsBlank [] := fun _ => nofun

theorem IsClosed.nil : IsClosed [] := fun _ => nofun

@[simp] theorem skipSpace_cons (first : Char) (rest : Text) :
    skipSpace (first :: rest) =
      if first = ' ' ∨ first = '\n' ∨ first = '\t' ∨ first = '\r' then skipSpace rest
      else first :: rest := by
  simp only [skipSpace, List.dropWhile_cons, Bool.or_eq_true, decide_eq_true_eq, or_assoc]

theorem skipSpace_of_mem {first : Char} (blank : first ∈ blanks) (rest : Text) :
    skipSpace (first :: rest) = skipSpace rest := by
  rw [skipSpace_cons, if_pos]
  simpa [blanks] using blank

theorem skipSpace_of_not_mem {first : Char} (solid : first ∉ blanks) (rest : Text) :
    skipSpace (first :: rest) = first :: rest := by
  rw [skipSpace_cons, if_neg]
  simpa [blanks] using solid

@[simp] theorem skipSpace_append {gap : Text} (blank : IsBlank gap) (text : Text) :
    skipSpace (gap ++ text) = skipSpace text := by
  induction gap with
  | nil => rfl
  | cons first rest ih =>
      obtain ⟨here, there⟩ := List.forall_mem_cons.mp blank
      rw [List.cons_append, skipSpace_of_mem here, ih there]

theorem exists_gap (text : Text) : ∃ gap, IsBlank gap ∧ text = gap ++ skipSpace text := by
  induction text with
  | nil => exact ⟨[], .nil, rfl⟩
  | cons first rest ih =>
      by_cases blank : first ∈ blanks
      · obtain ⟨gap, blanks, split⟩ := ih
        refine ⟨first :: gap, List.forall_mem_cons.mpr ⟨blank, blanks⟩, ?_⟩
        rw [skipSpace_of_mem blank, List.cons_append, ← split]
      · exact ⟨[], .nil, (skipSpace_of_not_mem blank rest).symm⟩

theorem isClosed_cons {first : Char} (ender : first ∈ enders) (rest : Text) :
    IsClosed (first :: rest) := by
  rintro char ⟨⟩
  exact ender

theorem IsBlank.isClosed_append {gap text : Text} (blank : IsBlank gap) (closed : IsClosed text) :
    IsClosed (gap ++ text) := by
  have listed : ∀ char ∈ blanks, char ∈ enders := by decide
  cases gap with
  | nil => exact closed
  | cons char gap => exact isClosed_cons (listed char (blank char List.mem_cons_self)) _

theorem Continues.isClosed {close : Char} {pieces : List Text} {text : Text}
    (continues : Continues close pieces text) (closes : close ∈ enders) (rest : Text) :
    IsClosed (text ++ rest) := by
  cases continues with
  | nil blank =>
      rw [List.append_assoc]
      exact blank.isClosed_append (isClosed_cons closes _)
  | cons blank blankToo others =>
      rw [List.append_assoc]
      exact blank.isClosed_append (isClosed_cons (by decide) _)

theorem not_isDigit_of_mem_enders : ∀ char ∈ enders, char.isDigit = false := by decide

/-! Starts -/

/-- The text starts with something else than what may stand behind a value. -/
def Starts (text : Text) : Prop := ∃ first rest, text = first :: rest ∧ first ∉ enders

theorem IsUnsigned.starts {text : Text} (unsigned : IsUnsigned text) :
    ∃ first rest, text = first :: rest ∧ first.isDigit = true := by
  cases unsigned with
  | mk whole fraction exponent =>
      cases whole with
      | zero => exact ⟨_, _, rfl, rfl⟩
      | digits digits leading =>
          obtain ⟨first, rest, rfl⟩ := List.exists_cons_of_ne_nil digits.1
          exact ⟨_, _, rfl, digits.2 first List.mem_cons_self⟩

theorem IsNumber.starts {text : Text} (number : IsNumber text) :
    ∃ first rest, text = first :: rest ∧ (first = '-' ∨ first.isDigit = true) := by
  cases number with
  | positive unsigned =>
      obtain ⟨first, rest, split, digit⟩ := unsigned.starts
      exact ⟨first, rest, split, .inr digit⟩
  | negative unsigned => exact ⟨_, _, rfl, .inl rfl⟩

theorem IsJson.starts {text : Text} (json : IsJson text) : Starts text := by
  cases json with
  | null => exact ⟨_, _, rfl, by decide⟩
  | true => exact ⟨_, _, rfl, by decide⟩
  | false => exact ⟨_, _, rfl, by decide⟩
  | number number =>
      obtain ⟨first, rest, split, rfl | digit⟩ := number.starts
      · exact ⟨_, _, split, by decide⟩
      · refine ⟨first, rest, split, fun ender => ?_⟩
        rw [not_isDigit_of_mem_enders first ender] at digit
        cases digit
  | string string => exact ⟨_, _, rfl, by decide⟩
  | array values listed => exact ⟨_, _, rfl, by decide⟩
  | object keys values written listed => exact ⟨_, _, rfl, by decide⟩

theorem skipSpace_of_starts {text : Text} (starts : Starts text) (rest : Text) :
    skipSpace (text ++ rest) = text ++ rest := by
  have listed : ∀ char ∈ blanks, char ∈ enders := by decide
  obtain ⟨first, others, rfl, solid⟩ := starts
  exact skipSpace_of_not_mem (fun blank => solid (listed first blank)) _

end WrapperGen.Json
