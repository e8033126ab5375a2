import WrapperGen.Proofs.Failing
import WrapperGen.Proofs.Json.Strings

/-!
How strings are spelled. A character stands for itself or is escaped, one beyond the basic plane by
the two halves of a surrogate pair; a half that stands alone belongs to a string as it is written,
but to none that can be read.
-/

namespace WrapperGen.Json

/-- Four hexadecimal digits and the number that they write. -/
def IsCode (digits : Text) (unit : Nat) : Prop :=
  digits.length = 4 ∧ ∃ values, digits.mapM hexDigit? = some values ∧
    values.foldl (fun value digit => 16 * value + digit) 0 = unit

/-- What may stand between the quotes of a string. -/
inductive IsString : Text → Prop
  | nil : IsString []
  | plain {char : Char} {rest : Text} (visible : ' ' ≤ char) (quote : char ≠ '"')
      (backslash : char ≠ '\\') (others : IsString rest) : IsString (char :: rest)
  | escape {letter : Char} {rest : Text}
      (known : letter ∈ ['"', '\\', '/', 'b', 'f', 'n', 'r', 't']) (others : IsString rest) :
      IsString ('\\' :: letter :: rest)
  | code {digits rest : Text} {unit : Nat} (code : IsCode digits unit) (others : IsString rest) :
      IsString ('\\' :: 'u' :: (digits ++ rest))

/-- What may stand behind a backslash, and the character that it writes. -/
inductive Escapes : Text → Char → Prop
  | letter {letter char : Char} (known : shortEscape? letter = some char) : Escapes [letter] char
  | code {digits : Text} {unit : Nat} (code : IsCode digits unit)
      (whole : unit < 0xD800 ∨ 0xDFFF < unit) : Escapes ('u' :: digits) (Char.ofNat unit)
  | pair {digits others : Text} {high low : Nat} (first : IsCode digits high)
      (second : IsCode others low) (leading : 0xD800 ≤ high ∧ high ≤ 0xDBFF)
      (trailing : 0xDC00 ≤ low ∧ low ≤ 0xDFFF) :
      Escapes ('u' :: (digits ++ '\\' :: 'u' :: others))
        (Char.ofNat (0x10000 + 0x400 * (high - 0xD800) + (low - 0xDC00)))

/-- What stands between the quotes of a string that has a value, and that value. -/
inductive Spells : Text → Text → Prop
  | nil : Spells [] []
  | plain {char : Char} {rest value : Text} (visible : ' ' ≤ char) (quote : char ≠ '"')
      (backslash : char ≠ '\\') (others : Spells rest value) :
      Spells (char :: rest) (char :: value)
  | escape {escape rest value : Text} {char : Char} (escapes : Escapes escape char)
      (others : Spells rest value) : Spells ('\\' :: (escape ++ rest)) (char :: value)

/-! Escapes -/

theorem readHex_eq_ok_iff {text rest : Text} {unit : Nat} :
    readHex text = .ok (unit, rest) ↔ ∃ digits, IsCode digits unit ∧ text = digits ++ rest := by
  constructor
  · intro read
    unfold readHex at read
    split at read
    · rename_i first second third fourth others
      split at read
      · rename_i values found
        obtain ⟨rfl, rfl⟩ := Prod.mk.inj (Except.ok.inj read)
        exact ⟨[first, second, third, fourth], ⟨rfl, values, found, rfl⟩, rfl⟩
      · cases read
    · cases read
  · rintro ⟨digits, ⟨four, values, found, rfl⟩, rfl⟩
    obtain ⟨first, second, third, fourth, rfl⟩ := List.length_eq_four.mp four
    simp only [List.cons_append, List.nil_append, readHex, found]

theorem readCodeEscape_eq_ok_iff {text rest : Text} {char : Char} :
    readCodeEscape text = .ok (char, rest) ↔
      ∃ escape, Escapes ('u' :: escape) char ∧ text = escape ++ rest := by
  constructor
  · intro read
    unfold readCodeEscape at read
    split at read
    · cases read
    · rename_i unit after hex
      obtain ⟨digits, code, rfl⟩ := readHex_eq_ok_iff.mp hex
      split_ifs at read with lone whole
      · obtain ⟨rfl, rfl⟩ := Prod.mk.inj (Except.ok.inj read)
        exact ⟨digits, .code code (by omega), rfl⟩
      · split at read
        · split at read
          · cases read
          · rename_i others low after hex
            obtain ⟨others, second, rfl⟩ := readHex_eq_ok_iff.mp hex
            split_ifs at read with unpaired
            obtain ⟨rfl, rfl⟩ := Prod.mk.inj (Except.ok.inj read)
            refine ⟨digits ++ '\\' :: 'u' :: others, ?_, by simp⟩
            exact .pair code second (by omega) (by omega)
        all_goals cases read
  · rintro ⟨escape, escapes, rfl⟩
    cases escapes with
    | letter known => cases (show shortEscape? 'u' = none from rfl).symm.trans known
    | code code whole =>
        simp only [readCodeEscape, readHex_eq_ok_iff.mpr ⟨_, code, rfl⟩]
        rw [if_neg (by omega), if_pos (by omega)]
    | pair first second leading trailing =>
        simp only [readCodeEscape, List.append_assoc, List.cons_append,
          readHex_eq_ok_iff.mpr ⟨_, first, rfl⟩, readHex_eq_ok_iff.mpr ⟨_, second, rfl⟩]
        rw [if_neg (by omega), if_neg (by omega), if_neg (by omega)]

theorem readEscape_eq_ok_iff {text rest : Text} {char : Char} :
    readEscape text = .ok (char, rest) ↔
      ∃ escape, Escapes escape char ∧ text = escape ++ rest := by
  cases text with
  | nil =>
      refine iff_of_false nofun ?_
      rintro ⟨escape, escapes, split⟩
      cases escapes <;> cases split
  | cons first text =>
      by_cases coded : first = 'u'
      · subst coded
        rw [readEscape, if_pos rfl, readCodeEscape_eq_ok_iff]
        constructor
        · rintro ⟨escape, escapes, rfl⟩
          exact ⟨'u' :: escape, escapes, rfl⟩
        · rintro ⟨escape, escapes, split⟩
          cases escape with
          | nil => cases escapes
          | cons letter escape =>
              obtain ⟨rfl, rfl⟩ := List.cons.inj split
              exact ⟨escape, escapes, rfl⟩
      · rw [readEscape, if_neg coded]
        constructor
        · intro read
          split at read
          · rename_i known
            obtain ⟨rfl, rfl⟩ := Prod.mk.inj (Except.ok.inj read)
            exact ⟨[first], .letter known, rfl⟩
          · cases read
        · rintro ⟨escape, escapes, split⟩
          cases escapes with
          | letter known =>
              obtain ⟨rfl, rfl⟩ := List.cons.inj split
              simp only [known]
          | code code whole => exact absurd (List.cons.inj split).1 coded
          | pair first second leading trailing => exact absurd (List.cons.inj split).1 coded

/-! Strings -/

theorem readString_plain {char : Char} (visible : ' ' ≤ char) (quote : char ≠ '"')
    (backslash : char ≠ '\\') (rest : Text) :
    readString (char :: rest) =
      (readString rest).map fun (chars, rest) => (char :: chars, rest) := by
  rw [readString, if_neg quote, if_neg backslash, if_neg (Char.not_lt.mpr visible)]

/-- A string is read to its closing quote, and its value is the one that is spelled there. -/
theorem readString_eq_ok_iff {text value rest : Text} :
    readString text = .ok (value, rest) ↔
      ∃ body, Spells body value ∧ text = body ++ '"' :: rest := by
  constructor
  · intro read
    induction text using readString.induct generalizing value with
    | case1 => simp [readString] at read
    | case2 others =>
        rw [readString, if_pos rfl] at read
        cases read
        exact ⟨[], .nil, rfl⟩
    | case3 others error failed _ =>
        unfold readString at read
        rw [if_neg (by decide), if_pos rfl] at read
        split at read
        · cases read
        · rename_i found
          cases failed.symm.trans found
    | case4 others char after escape _ shorter ih =>
        rw [readString_escape escape] at read
        obtain ⟨⟨chars, last⟩, inner, made⟩ := Except.map_eq_ok_iff.mp read
        cases made
        obtain ⟨body, spells, rfl⟩ := ih inner
        obtain ⟨escape, escapes, rfl⟩ := readEscape_eq_ok_iff.mp escape
        exact ⟨_, .escape escapes spells, by simp⟩
    | case5 char others quote backslash control =>
        rw [readString, if_neg quote, if_neg backslash, if_pos control] at read
        cases read
    | case6 char others quote backslash visible ih =>
        rw [readString_plain (Char.not_lt.mp visible) quote backslash] at read
        obtain ⟨⟨chars, last⟩, inner, made⟩ := Except.map_eq_ok_iff.mp read
        cases made
        obtain ⟨body, spells, rfl⟩ := ih inner
        exact ⟨_, .plain (Char.not_lt.mp visible) quote backslash spells, rfl⟩
  · rintro ⟨body, spells, rfl⟩
    induction spells with
    | nil => rw [List.nil_append, readString, if_pos rfl]
    | plain visible quote backslash others ih =>
        rw [List.cons_append, readString_plain visible quote backslash, ih]
        rfl
    | escape escapes others ih =>
        rw [List.cons_append, List.append_assoc,
          readString_escape (readEscape_eq_ok_iff.mpr ⟨_, escapes, rfl⟩), ih]
        rfl

theorem Spells.of_plain {text : Text}
    (plain : ∀ char ∈ text, ' ' ≤ char ∧ char ≠ '"' ∧ char ≠ '\\') : Spells text text := by
  induction text with
  | nil => exact .nil
  | cons char text ih =>
      obtain ⟨⟨visible, quote, backslash⟩, others⟩ := List.forall_mem_cons.mp plain
      exact .plain visible quote backslash (ih others)

/-! What is passed over -/

theorem skipString_of_escape {text rest : Text} (escape : skipEscape text = .ok rest) :
    skipString ('\\' :: text) = skipString rest := by
  rw [skipString, if_neg (by decide), if_pos rfl]
  split
  · rename_i failed
    rw [escape] at failed
    cases failed
  · rename_i skipped
    rw [escape] at skipped
    cases skipped
    rfl

theorem skipEscape_code {digits : Text} {unit : Nat} (code : IsCode digits unit) (rest : Text) :
    skipEscape ('u' :: (digits ++ rest)) = .ok rest := by
  simp only [skipEscape, ↓reduceIte, readHex_eq_ok_iff.mpr ⟨_, code, rfl⟩]

theorem skipEscape_letter {letter : Char}
    (known : letter ∈ ['"', '\\', '/', 'b', 'f', 'n', 'r', 't']) (rest : Text) :
    skipEscape (letter :: rest) = .ok rest := by
  obtain rfl | rfl | rfl | rfl | rfl | rfl | rfl | rfl : letter = '"' ∨ letter = '\\' ∨
      letter = '/' ∨ letter = 'b' ∨ letter = 'f' ∨ letter = 'n' ∨ letter = 'r' ∨ letter = 't' := by
    simpa using known
  all_goals rfl

theorem skipString_body {body : Text} (string : IsString body) (rest : Text) :
    skipString (body ++ '"' :: rest) = .ok rest := by
  induction string with
  | nil => rw [List.nil_append, skipString, if_pos rfl]
  | plain visible quote backslash others ih =>
      rw [List.cons_append, skipString, if_neg quote, if_neg backslash,
        if_neg (Char.not_lt.mpr visible), ih]
  | escape known others ih =>
      rw [List.cons_append, List.cons_append, skipString_of_escape (skipEscape_letter known _), ih]
  | code code others ih =>
      rw [List.cons_append, List.cons_append, List.append_assoc,
        skipString_of_escape (skipEscape_code code _), ih]

theorem Escapes.isString {escape rest : Text} {char : Char} (escapes : Escapes escape char)
    (others : IsString rest) : IsString ('\\' :: (escape ++ rest)) := by
  cases escapes with
  | letter known =>
      refine .escape ?_ others
      obtain ⟨before, after, table, -⟩ := List.lookup_eq_some_iff.mp known
      have letters := congrArg (List.map Prod.fst) table
      simp only [List.map_cons, List.map_nil, List.map_append] at letters
      simp [letters]
  | code code whole => exact .code code others
  | pair first second leading trailing =>
      simpa using IsString.code first (.code second others)

theorem Spells.isString {body value : Text} (spells : Spells body value) : IsString body := by
  induction spells with
  | nil => exact .nil
  | plain visible quote backslash others ih => exact .plain visible quote backslash ih
  | escape escapes others ih => exact escapes.isString ih

end WrapperGen.Json
