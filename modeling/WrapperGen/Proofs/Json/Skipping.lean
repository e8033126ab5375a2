import WrapperGen.Json.Value
import WrapperGen.Proofs.Json.Grammar

/-!
Passing over values. Whatever a value holds and however deep it is nested, it is passed over from its
first character to its last.
-/

namespace WrapperGen.Json

/-! Numbers -/

/-- No digit stands at the start of the text. -/
def LacksDigit (text : Text) : Prop := ∀ first, text.head? = some first → first.isDigit = false

theorem IsClosed.lacksDigit {text : Text} (closed : IsClosed text) : LacksDigit text :=
  fun first found => not_isDigit_of_mem_enders first (closed first found)

theorem IsExponent.lacksDigit {exponent rest : Text} (isExponent : IsExponent exponent)
    (closed : IsClosed rest) : LacksDigit (exponent ++ rest) := by
  cases isExponent with
  | none => exact closed.lacksDigit
  | some marked signed digits =>
      rintro first ⟨⟩
      rcases marked with rfl | rfl <;> rfl

theorem IsFraction.lacksDigit {fraction exponent rest : Text} (isFraction : IsFraction fraction)
    (isExponent : IsExponent exponent) (closed : IsClosed rest) :
    LacksDigit (fraction ++ (exponent ++ rest)) := by
  cases isFraction with
  | none => exact isExponent.lacksDigit closed
  | some digits =>
      rintro first ⟨⟩
      rfl

theorem spanDigits_append {digits rest : Text} (all : ∀ char ∈ digits, char.isDigit = true)
    (ends : LacksDigit rest) : spanDigits (digits ++ rest) = (digits, rest) := by
  have stops : rest.takeWhile Char.isDigit = [] ∧ rest.dropWhile Char.isDigit = rest := by
    cases rest with
    | nil => exact ⟨rfl, rfl⟩
    | cons first rest =>
        have other : ¬ first.isDigit = true := by simp [ends first rfl]
        exact ⟨List.takeWhile_cons_of_neg other, List.dropWhile_cons_of_neg other⟩
  rw [spanDigits, List.takeWhile_append_of_pos all, List.dropWhile_append_of_pos all, stops.1,
    stops.2, List.append_nil]

theorem skipDigits_append {digits rest : Text} (isDigits : IsDigits digits)
    (ends : LacksDigit rest) : skipDigits (digits ++ rest) = .ok rest := by
  rw [skipDigits, spanDigits_append isDigits.2 ends]
  cases digits with
  | nil => exact absurd rfl isDigits.1
  | cons digit digits => rfl

theorem ne_of_isDigit {first char : Char} (digit : first.isDigit = true)
    (other : char.isDigit = false) : first ≠ char := by
  rintro rfl
  rw [digit] at other
  cases other

theorem skipExponent_append {sign digits rest : Text}
    (signed : sign = [] ∨ sign = ['+'] ∨ sign = ['-']) (isDigits : IsDigits digits)
    (ends : LacksDigit rest) : skipExponent (sign ++ (digits ++ rest)) = .ok rest := by
  rw [← skipDigits_append isDigits ends]
  rcases signed with rfl | rfl | rfl
  · obtain ⟨first, others, rfl⟩ := List.exists_cons_of_ne_nil isDigits.1
    have digit := isDigits.2 first List.mem_cons_self
    have noPlus : first ≠ '+' := ne_of_isDigit digit rfl
    have noMinus : first ≠ '-' := ne_of_isDigit digit rfl
    simp [skipExponent, noPlus, noMinus]
  · rfl
  · rfl

/-- The text after the exponent that may end a number. -/
def skipPower : Text → Except Error Text
  | 'e' :: rest | 'E' :: rest => skipExponent rest
  | rest => .ok rest

/-- The text after the fraction and the exponent that may follow a whole number. -/
def skipDecimals : Text → Except Error Text
  | '.' :: rest => (skipDigits rest).bind skipPower
  | rest => skipPower rest

theorem bind_skipPower (skipped : Except Error Text) :
    (match skipped with
      | .ok ('e' :: rest) | .ok ('E' :: rest) => skipExponent rest
      | result => result) = skipped.bind skipPower := by
  split
  · rfl
  · rfl
  · rename_i noMark noCapital
    cases skipped with
    | error failure => rfl
    | ok text => simp_all [Except.bind, skipPower]

theorem skipPower_append {exponent rest : Text} (isExponent : IsExponent exponent)
    (closed : IsClosed rest) : skipPower (exponent ++ rest) = .ok rest := by
  cases isExponent with
  | none =>
      rw [List.nil_append]
      unfold skipPower
      split
      · exact absurd (closed 'e' rfl) (by decide)
      · exact absurd (closed 'E' rfl) (by decide)
      · rfl
  | some marked signed digits =>
      have passed := skipExponent_append signed digits closed.lacksDigit
      rw [← List.append_assoc] at passed
      rcases marked with rfl | rfl
      · exact passed
      · exact passed

theorem skipDecimals_append {fraction exponent rest : Text} (isFraction : IsFraction fraction)
    (isExponent : IsExponent exponent) (closed : IsClosed rest) :
    skipDecimals (fraction ++ (exponent ++ rest)) = .ok rest := by
  rw [← skipPower_append isExponent closed]
  cases isFraction with
  | none =>
      rw [List.nil_append]
      unfold skipDecimals
      split
      · -- no point stands where an exponent or the end is looked for
        rename_i point
        cases isExponent with
        | none => exact absurd (closed '.' (by simp_all)) (by decide)
        | some marked signed digits => rcases marked with rfl | rfl <;> cases point
      · rfl
  | some digits =>
      rw [List.cons_append, skipDecimals, skipDigits_append digits (isExponent.lacksDigit closed)]
      rfl

theorem IsWhole.all_isDigit {text : Text} (isWhole : IsWhole text) :
    ∀ char ∈ text, char.isDigit = true := by
  cases isWhole with
  | zero => decide
  | digits digits leading => exact digits.2

theorem skipNumber_whole {whole tail : Text} (isWhole : IsWhole whole) (ends : LacksDigit tail) :
    skipNumber (whole ++ tail) = skipDecimals tail := by
  rw [skipNumber, spanDigits_append isWhole.all_isDigit ends]
  split
  · rename_i empty
    cases isWhole with
    | zero => cases empty
    | digits digits leading => exact absurd (Prod.mk.inj empty).1 digits.1
  · rename_i zero
    cases isWhole with
    | zero => cases zero
    | digits digits leading => simp [(Prod.mk.inj zero).1] at leading
  · rename_i pair
    obtain ⟨rfl, rfl⟩ := Prod.mk.inj pair
    exact bind_skipPower (skipDigits _)
  · rename_i pair
    obtain ⟨rfl, rfl⟩ := Prod.mk.inj pair
    rfl
  · rename_i pair
    obtain ⟨rfl, rfl⟩ := Prod.mk.inj pair
    rfl
  · rename_i noPoint noMark noCapital pair
    obtain ⟨rfl, rfl⟩ := Prod.mk.inj pair
    simp [skipDecimals, skipPower]

theorem skipNumber_append {text rest : Text} (unsigned : IsUnsigned text)
    (closed : IsClosed rest) : skipNumber (text ++ rest) = .ok rest := by
  cases unsigned with
  | mk whole fraction exponent =>
      rw [List.append_assoc, List.append_assoc,
        skipNumber_whole whole (fraction.lacksDigit exponent closed),
        skipDecimals_append fraction exponent closed]

/-! Values -/

/-- The text is passed over with fuel of twice its length. What is no number ends by itself. -/
def IsSkipped (value : Text) : Prop :=
  ∀ gap rest fuel, IsBlank gap → (IsNumber value → IsClosed rest) → 2 * value.length ≤ fuel →
    skipValue fuel (gap ++ (value ++ rest)) = .ok rest

theorem skipItems_step {gap item text : Text} {fuel : Nat} (blank : IsBlank gap)
    (skipped : IsSkipped item) (closed : IsClosed text) (enough : 2 * item.length ≤ fuel) :
    skipItems (fuel + 1) (gap ++ (item ++ text)) =
      match skipSpace text with
      | [] => .error (.fault .listEnds)
      | ',' :: rest => skipItems fuel rest
      | ']' :: rest => .ok rest
      | _ => .error (.fault .listCommaExpected) := by
  rewrite [skipItems, skipped gap text fuel blank (fun _ => closed) enough]
  rfl

theorem skipItems_continues {item tail : Text} {items : List Text}
    (continues : Continues ']' items tail) (skipped : ∀ value ∈ item :: items, IsSkipped value)
    {gap : Text} (blank : IsBlank gap) (rest : Text) {fuel : Nat}
    (enough : 2 * (item ++ tail).length + 1 ≤ fuel) :
    skipItems fuel (gap ++ (item ++ (tail ++ rest))) = .ok rest := by
  -- an item and its comma pay for themselves and for the step to the next item
  obtain ⟨fuel, rfl⟩ : ∃ less, fuel = less + 1 := Nat.exists_eq_succ_of_ne_zero (by omega)
  induction continues generalizing item gap fuel with
  | nil blankToo =>
      have ends : Continues ']' [] _ := .nil blankToo
      have closed := ends.isClosed (by decide) rest
      rw [List.length_append] at enough
      rw [skipItems_step blank (skipped item List.mem_cons_self) closed (by omega)]
      simp [blankToo]
  | @cons before after next text pieces blankToo blankThen others ih =>
      have goes : Continues ']' (next :: pieces) _ := .cons blankToo blankThen others
      have closed := goes.isClosed (by decide) rest
      obtain ⟨first, further⟩ := List.forall_mem_cons.mp skipped
      simp only [List.length_append, List.length_cons] at enough
      rw [skipItems_step blank first closed (by omega)]
      obtain ⟨fuel, rfl⟩ : ∃ less, fuel = less + 1 := Nat.exists_eq_succ_of_ne_zero (by omega)
      have others := ih further blankThen fuel (by simp only [List.length_append]; omega)
      simp [blankToo, others]

theorem readColon_append {gap : Text} (blank : IsBlank gap) (text : Text) :
    readColon (gap ++ ':' :: text) = .ok text := by
  simp [readColon, blank]

theorem Pairs.length_le {member : Text × Text} {piece : Text} (pairs : Pairs member piece) :
    member.2.length ≤ piece.length := by
  cases pairs
  simp only [List.length_cons, List.length_append]
  omega

theorem skipMembers_step {member : Text × Text} {gap piece text : Text} {fuel : Nat}
    (blank : IsBlank gap) (pairs : Pairs member piece) (key : IsString member.1)
    (skipped : IsSkipped member.2) (closed : IsClosed text)
    (enough : 2 * piece.length ≤ fuel) :
    skipMembers (fuel + 1) (gap ++ (piece ++ text)) =
      match skipSpace text with
      | [] => .error (.fault .objectEnds)
      | ',' :: rest => skipMembers fuel rest
      | '}' :: rest => .ok rest
      | _ => .error (.fault .objectCommaExpected) := by
  have fits := pairs.length_le
  cases pairs with
  | mk blankBefore blankAfter =>
      have passed := skipped _ text fuel blankAfter (fun _ => closed) (by omega)
      simp only [skipMembers, skipSpace_append blank, List.cons_append, List.append_assoc,
        skipSpace_cons, Char.reduceEq, or_self, ↓reduceIte, skipString_body key,
        readColon_append blankBefore]
      rewrite [passed]
      rfl

theorem skipMembers_continues {member : Text × Text} {members : List (Text × Text)}
    {piece tail : Text} {pieces : List Text} (continues : Continues '}' pieces tail)
    (written : List.Forall₂ Pairs (member :: members) (piece :: pieces))
    (keys : ∀ entry ∈ member :: members, IsString entry.1)
    (skipped : ∀ entry ∈ member :: members, IsSkipped entry.2)
    {gap : Text} (blank : IsBlank gap) (rest : Text) {fuel : Nat}
    (enough : 2 * (piece ++ tail).length + 1 ≤ fuel) :
    skipMembers fuel (gap ++ (piece ++ (tail ++ rest))) = .ok rest := by
  obtain ⟨fuel, rfl⟩ : ∃ less, fuel = less + 1 := Nat.exists_eq_succ_of_ne_zero (by omega)
  induction continues generalizing member members piece gap fuel with
  | nil blankToo =>
      have ends : Continues '}' [] _ := .nil blankToo
      have closed := ends.isClosed (by decide) rest
      obtain ⟨pairs, _⟩ := List.forall₂_cons.mp written
      rw [List.length_append] at enough
      rw [skipMembers_step blank pairs (keys _ List.mem_cons_self) (skipped _ List.mem_cons_self)
        closed (by omega)]
      simp [blankToo]
  | @cons before after next text pieces blankToo blankThen others ih =>
      have goes : Continues '}' (next :: pieces) _ := .cons blankToo blankThen others
      have closed := goes.isClosed (by decide) rest
      obtain ⟨pairs, written⟩ := List.forall₂_cons.mp written
      simp only [List.length_append, List.length_cons] at enough
      rw [skipMembers_step blank pairs (keys _ List.mem_cons_self) (skipped _ List.mem_cons_self)
        closed (by omega)]
      obtain ⟨fuel, rfl⟩ : ∃ less, fuel = less + 1 := Nat.exists_eq_succ_of_ne_zero (by omega)
      obtain ⟨second, others, _, _, rfl⟩ := List.forall₂_cons_right_iff.mp written
      have others := ih written (fun entry listed => keys entry (List.mem_cons_of_mem _ listed))
        (fun entry listed => skipped entry (List.mem_cons_of_mem _ listed)) blankThen fuel
        (by simp only [List.length_append]; omega)
      simp [blankToo, others]

theorem skipValue_append {gap : Text} (blank : IsBlank gap) (text : Text) (fuel : Nat) :
    skipValue fuel (gap ++ text) = skipValue fuel text := by
  cases fuel with
  | zero => rw [skipValue, skipValue]
  | succ fuel => rw [skipValue, skipValue, skipSpace_append blank]

theorem isSkipped_of_starts {value : Text} (starts : Starts value)
    (skips : ∀ rest fuel, (IsNumber value → IsClosed rest) → 2 * value.length ≤ fuel + 1 →
      skipValue (fuel + 1) (value ++ rest) = .ok rest) : IsSkipped value := by
  intro gap rest fuel blank ends enough
  obtain ⟨fuel, rfl⟩ : ∃ less, fuel = less + 1 := by
    obtain ⟨first, others, rfl, _⟩ := starts
    rw [List.length_cons] at enough
    exact Nat.exists_eq_succ_of_ne_zero (by omega)
  rw [skipValue_append blank, skips rest fuel ends enough]

theorem skipValue_digit {first : Char} (digit : first.isDigit = true) (rest : Text) (fuel : Nat) :
    skipValue (fuel + 1) (first :: rest) = skipNumber (first :: rest) := by
  have other {char : Char} (noDigit : char.isDigit = false) : first ≠ char :=
    ne_of_isDigit digit noDigit
  have solid : skipSpace (first :: rest) = first :: rest := by
    refine skipSpace_of_not_mem (fun blank => ?_) rest
    have noDigit : ∀ char ∈ blanks, char.isDigit = false := by decide
    exact other (noDigit first blank) rfl
  rw [skipValue, solid]
  change (if _ then _ else _) = _
  rw [if_neg (other rfl), if_neg (other rfl), if_neg (other rfl), if_neg (other rfl), if_pos digit]

theorem skipValue_number {value rest : Text} (number : IsNumber value) (closed : IsClosed rest)
    (fuel : Nat) : skipValue (fuel + 1) (value ++ rest) = .ok rest := by
  cases number with
  | positive unsigned =>
      rw [← skipNumber_append unsigned closed]
      obtain ⟨first, others, rfl, digit⟩ := unsigned.starts
      exact skipValue_digit digit (others ++ rest) fuel
  | negative unsigned =>
      rw [← skipNumber_append unsigned closed]
      simp [skipValue]

theorem skipValue_array {gap item : Text} (blank : IsBlank gap) (starts : Starts item)
    (text : Text) (fuel : Nat) :
    skipValue (fuel + 1) ('[' :: (gap ++ (item ++ text))) = skipItems fuel (item ++ text) := by
  have start := skipSpace_of_starts starts text
  obtain ⟨first, others, rfl, solid⟩ := starts
  have inside : first ≠ ']' := by
    rintro rfl
    exact solid (by decide)
  rw [skipValue, skipSpace_cons, if_neg (by decide)]
  simp only [skipSpace_append blank, start]
  simp [inside]

theorem skipValue_object {gap : Text} (blank : IsBlank gap) (text : Text) (fuel : Nat) :
    skipValue (fuel + 1) ('{' :: (gap ++ '"' :: text)) = skipMembers fuel ('"' :: text) := by
  rw [skipValue, skipSpace_cons, if_neg (by decide)]
  simp only [skipSpace_append blank, skipSpace_cons]
  rfl

/-- Every value is passed over to its end, whatever it is made of. -/
theorem IsJson.isSkipped {value : Text} (json : IsJson value) : IsSkipped value := by
  -- the fuel is spent twice for each level: once by the value, once by its items or members
  induction json with
  | null => exact isSkipped_of_starts IsJson.null.starts fun _ _ _ _ => rfl
  | true => exact isSkipped_of_starts IsJson.true.starts fun _ _ _ _ => rfl
  | false => exact isSkipped_of_starts IsJson.false.starts fun _ _ _ _ => rfl
  | number number =>
      refine isSkipped_of_starts (IsJson.number number).starts fun rest fuel ends _ => ?_
      exact skipValue_number number (ends number) fuel
  | string string =>
      refine isSkipped_of_starts (IsJson.string string).starts fun rest fuel _ _ => ?_
      simp [skipValue, skipString_body string]
  | array values listed ih =>
      refine isSkipped_of_starts (IsJson.array values listed).starts fun rest fuel _ enough => ?_
      cases listed with
      | nil blank => simp [skipValue, blank]
      | cons blank others =>
          simp only [List.length_append, List.length_cons] at enough
          simp only [List.cons_append, List.append_assoc]
          rw [skipValue_array blank (values _ List.mem_cons_self).starts]
          exact skipItems_continues others ih .nil rest (by simp only [List.length_append]; omega)
  | object keys values written listed ih =>
      refine isSkipped_of_starts (IsJson.object keys values written listed).starts
        fun rest fuel _ enough => ?_
      cases listed with
      | nil blank => simp [skipValue, blank]
      | cons blank others =>
          simp only [List.length_append, List.length_cons] at enough
          obtain ⟨member, members, pairs, _, rfl⟩ := List.forall₂_cons_right_iff.mp written
          have passed : skipMembers fuel _ = .ok rest :=
            skipMembers_continues others written keys ih .nil rest
              (by simp only [List.length_append]; omega)
          obtain ⟨blankBefore, blankAfter⟩ := pairs
          simp only [List.cons_append, List.append_assoc, List.nil_append] at passed ⊢
          rw [skipValue_object blank, passed]

theorem skip_value {gap value rest : Text} (json : IsJson value) (blank : IsBlank gap)
    (closed : IsClosed rest) : skip (gap ++ (value ++ rest)) = .ok rest := by
  apply json.isSkipped gap rest _ blank (fun _ => closed)
  simp only [List.length_append]
  omega

end WrapperGen.Json
