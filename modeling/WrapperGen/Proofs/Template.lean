import WrapperGen.Header
import WrapperGen.Proofs.Text.Cutting
import WrapperGen.Proofs.Text.Replacing

/-!
Filling the marks of a template. They are filled key after key, each key in the whole text, and in a
template whose texts and marks can be told apart this comes to filling all of them at once, as long
as no brace comes in with a value.
-/

namespace WrapperGen

namespace Template

/-- There is no brace in the text. -/
def IsBraceless (text : Text) : Prop := '\x7b' ∉ text ∧ '\x7d' ∉ text

instance : DecidablePred IsBraceless := fun _ => inferInstanceAs (Decidable (_ ∧ _))

theorem mark_ne_nil (key : Text) : mark key ≠ [] := List.cons_ne_nil _ _

/-- A mark starts with two braces, and where a text does so its first brace is not its last. -/
theorem braces_of_marked {key text : Text} (marked : mark key <+: text) :
    ∃ rest, text = '\x7b' :: '\x7b' :: rest := by
  obtain ⟨rest, rfl⟩ := marked
  exact ⟨key ++ "\x7d\x7d" ++ rest, rfl⟩

/-- A part of a template: text that stays, or a mark that is to be filled. -/
inductive Part
  | literal (text : Text)
  | placeholder (key : Text)
deriving DecidableEq, Repr

namespace Part

def text : Part → Text
  | literal text => text
  | placeholder key => mark key

def key? : Part → Option Text
  | literal _ => none
  | placeholder key => some key

/-- Two opening braces come together in marks alone, and the keys of these have no brace. -/
def IsWellFormed : Part → Prop
  | literal text =>
    ¬ ("\x7b\x7b" : Text) <:+: text ∧ text.head? ≠ some '\x7b' ∧ text.getLast? ≠ some '\x7b'
  | placeholder key => IsBraceless key

instance : DecidablePred IsWellFormed
  | literal _ => inferInstanceAs (Decidable (¬ _ ∧ _ ∧ _))
  | placeholder key => inferInstanceAs (Decidable (IsBraceless key))

/-- The text of the part when it is filled: for a mark the value of the first pair with its key, and
the mark itself if there is none. -/
def filled (values : List (Text × Text)) : Part → Text
  | literal text => text
  | placeholder key => (values.lookup key).getD (mark key)

/-- The part with the marks of one key filled. -/
def substitute (key value : Text) : Part → Part
  | literal text => literal text
  | placeholder other => if other = key then literal value else placeholder other

theorem text_filled_nil (part : Part) : part.filled [] = part.text := by
  cases part <;> rfl

theorem filled_substitute (key value : Text) (values : List (Text × Text)) (part : Part) :
    (part.substitute key value).filled values = part.filled ((key, value) :: values) := by
  cases part with
  | literal text => rfl
  | placeholder other =>
      by_cases same : other = key
      · rw [substitute, if_pos same, filled, filled, same, List.lookup_cons_self, Option.getD_some]
      · rw [substitute, if_neg same, filled, filled, List.lookup_cons, beq_false_of_ne same]

theorem isWellFormed_literal {value : Text} (braceless : IsBraceless value) :
    (literal value).IsWellFormed := by
  refine ⟨?_, ?_, ?_⟩
  · intro inside
    exact braceless.1 (inside.subset (by decide))
  · intro first
    exact braceless.1 (List.mem_of_head? first)
  · intro last
    exact braceless.1 (List.mem_of_getLast? last)

theorem IsWellFormed.substitute {part : Part} (wellFormed : part.IsWellFormed) (key : Text)
    {value : Text} (braceless : IsBraceless value) :
    (part.substitute key value).IsWellFormed := by
  cases part with
  | literal text => exact wellFormed
  | placeholder other =>
      rw [Part.substitute]
      split
      · exact isWellFormed_literal braceless
      · exact wellFormed

end Part

/-- The text of all parts. -/
def textOf (parts : List Part) : Text := parts.flatMap Part.text

@[simp] theorem textOf_cons (part : Part) (parts : List Part) :
    textOf (part :: parts) = part.text ++ textOf parts := rfl

/-- The text of all parts, each filled by itself. -/
def filledAtOnce (values : List (Text × Text)) (parts : List Part) : Text :=
  parts.flatMap (Part.filled values)

/-- No mark starts in a literal text, whatever follows it. -/
theorem not_marked_of_literal {text later : Text}
    (wellFormed : (Part.literal text).IsWellFormed) (nonempty : later ≠ [])
    (ending : later <:+ text) (key back : Text) : ¬ mark key <+: later ++ back := by
  intro marked
  obtain ⟨rest, same⟩ := braces_of_marked marked
  obtain ⟨unmarked, -, last⟩ := wellFormed
  match later, nonempty, same with
  | [first], _, same =>
      obtain rfl : first = '\x7b' := (List.cons.inj same).1
      obtain ⟨front, rfl⟩ := ending
      exact last (by simp)
  | first :: second :: more, _, same =>
      simp only [List.cons_append, List.cons.injEq] at same
      obtain ⟨rfl, rfl, -⟩ := same
      exact unmarked (List.IsInfix.trans ⟨[], more, rfl⟩ ending.isInfix)

theorem key_eq_of_marked {key other back : Text} (braceless : IsBraceless key)
    (bracelessToo : IsBraceless other) (marked : mark key <+: mark other ++ back) :
    other = key := by
  obtain ⟨rest, same⟩ := marked
  have behind : key ++ '\x7d' :: ('\x7d' :: rest) = other ++ '\x7d' :: ('\x7d' :: back) := by
    simpa [mark] using same
  -- both keys end at the first closing brace
  have cut := congrArg (List.takeWhile (· ≠ '\x7d')) behind
  rw [Text.takeWhile_before_mark braceless.2, Text.takeWhile_before_mark bracelessToo.2] at cut
  exact cut.symm

/-- In a mark no mark of another key starts, whatever follows it. -/
theorem not_marked_of_mark {key other later : Text} (different : other ≠ key)
    (braceless : IsBraceless key) (bracelessToo : IsBraceless other) (nonempty : later ≠ [])
    (ending : later <:+ mark other) (back : Text) : ¬ mark key <+: later ++ back := by
  intro marked
  obtain ⟨rest, same⟩ := braces_of_marked marked
  have unopened : '\x7b' ∉ other ++ "\x7d\x7d".toList := by
    simp [bracelessToo.1]
  obtain ⟨first, more, rfl⟩ := List.exists_cons_of_ne_nil nonempty
  simp only [List.cons_append, List.cons.injEq] at same
  obtain ⟨rfl, same⟩ := same
  rcases List.suffix_cons_iff.mp ending with whole | ending
  · exact different (key_eq_of_marked braceless bracelessToo (whole ▸ marked))
  · rcases List.suffix_cons_iff.mp ending with behind | inside
    · obtain rfl : more = other ++ "\x7d\x7d".toList := (List.cons.inj behind).2
      apply unopened
      cases other with
      | nil => exact absurd (List.cons.inj same).1 (by decide)
      | cons char other => exact (List.cons.inj same).1 ▸ List.mem_cons_self
    · exact unopened (inside.subset List.mem_cons_self)

theorem replaceAll_textOf {parts : List Part} (wellFormed : ∀ part ∈ parts, part.IsWellFormed)
    {key : Text} (braceless : IsBraceless key) (value : Text) :
    (textOf parts).replaceAll (mark key) value =
      textOf (parts.map (Part.substitute key value)) := by
  induction parts with
  | nil => rfl
  | cons part parts ih =>
      simp only [List.forall_mem_cons] at wellFormed
      obtain ⟨first, others⟩ := wellFormed
      rw [textOf_cons, List.map_cons, textOf_cons, ← ih others]
      cases part with
      | literal text =>
          exact Text.replaceAll_append
            (fun _ nonempty ending => not_marked_of_literal first nonempty ending key _) value
      | placeholder other =>
          by_cases same : other = key
          · subst same
            rw [Part.substitute, if_pos rfl]
            exact Text.replaceAll_pattern_append (mark_ne_nil other) value _
          · rw [Part.substitute, if_neg same]
            exact Text.replaceAll_append (fun _ nonempty ending =>
              not_marked_of_mark same braceless first nonempty ending _) value

theorem fill_textOf {parts : List Part} (wellFormed : ∀ part ∈ parts, part.IsWellFormed)
    {values : List (Text × Text)}
    (braceless : ∀ pair ∈ values, IsBraceless pair.1 ∧ IsBraceless pair.2) :
    fill (textOf parts) values = filledAtOnce values parts := by
  induction values generalizing parts with
  | nil =>
      exact congrArg parts.flatMap (funext fun part => (Part.text_filled_nil part).symm)
  | cons pair values ih =>
      obtain ⟨key, value⟩ := pair
      simp only [List.forall_mem_cons] at braceless
      obtain ⟨⟨keyBraceless, valueBraceless⟩, others⟩ := braceless
      have substituted : ∀ part ∈ parts.map (Part.substitute key value), part.IsWellFormed := by
        intro part listed
        obtain ⟨before, member, rfl⟩ := List.mem_map.mp listed
        exact (wellFormed before member).substitute key valueBraceless
      calc fill (textOf parts) ((key, value) :: values)
          = fill (textOf (parts.map (Part.substitute key value))) values :=
            congrArg (fill · values) (replaceAll_textOf wellFormed keyBraceless value)
        _ = filledAtOnce values (parts.map (Part.substitute key value)) := ih substituted others
        _ = filledAtOnce ((key, value) :: values) parts := by
            rw [filledAtOnce, List.flatMap_map]
            exact congrArg parts.flatMap (funext (Part.filled_substitute key value values))

theorem lookup_exchanged {first second : Text × Text} (different : first.1 ≠ second.1)
    (values : List (Text × Text)) (key : Text) :
    (second :: first :: values).lookup key = (first :: second :: values).lookup key := by
  rw [List.lookup_cons, List.lookup_cons, List.lookup_cons, List.lookup_cons]
  by_cases found : key = first.1
  · rw [beq_false_of_ne (found ▸ different : key ≠ second.1)]
  · rw [beq_false_of_ne found]

theorem lookup_eq_of_perm {values reordered : List (Text × Text)} (same : values.Perm reordered)
    (distinct : (values.map Prod.fst).Nodup) (key : Text) :
    reordered.lookup key = values.lookup key := by
  induction same with
  | nil => rfl
  | cons pair _ ih =>
      rw [List.lookup_cons, List.lookup_cons, ih (List.nodup_cons.mp distinct).2]
  | swap first second values =>
      have different : second.1 ≠ first.1 := by
        intro same
        simp [same] at distinct
      exact lookup_exchanged different values key
  | trans left _ first second =>
      rw [second ((left.map Prod.fst).nodup_iff.mp distinct), first distinct]

/-- Only the first value of each key counts. -/
theorem filledAtOnce_eq_of_lookup {values others : List (Text × Text)}
    (same : ∀ key, others.lookup key = values.lookup key) (parts : List Part) :
    filledAtOnce others parts = filledAtOnce values parts := by
  apply congrArg parts.flatMap
  funext part
  cases part with
  | literal text => rfl
  | placeholder key => rw [Part.filled, same, Part.filled]

theorem fill_eq_of_perm {parts : List Part} (wellFormed : ∀ part ∈ parts, part.IsWellFormed)
    {values others : List (Text × Text)}
    (braceless : ∀ pair ∈ values, IsBraceless pair.1 ∧ IsBraceless pair.2)
    (reordered : values.Perm others) (same : ∀ key, others.lookup key = values.lookup key) :
    fill (textOf parts) others = fill (textOf parts) values := by
  have bracelessToo : ∀ pair ∈ others, IsBraceless pair.1 ∧ IsBraceless pair.2 :=
    fun pair member => braceless pair (reordered.mem_iff.mpr member)
  rw [fill_textOf wellFormed braceless, fill_textOf wellFormed bracelessToo]
  exact filledAtOnce_eq_of_lookup same parts

/-! ## The parts of a template -/

/-- The key of a mark that the text starts with, and what follows the mark. -/
def leadingKey? : Text → Option (Text × Text)
  | '\x7b' :: '\x7b' :: behind =>
    match Text.cut? '\x7d' behind with
    | some (key, '\x7d' :: rest) => some (key, rest)
    | _ => none
  | _ => none

/-- Puts a character before the parts of what follows it. -/
def prependChar (char : Char) : List Part → List Part
  | .literal text :: parts =>
    match leadingKey? (char :: text) with
    | some (key, rest) => .placeholder key :: .literal rest :: parts
    | none => .literal (char :: text) :: parts
  | parts => .literal [char] :: parts

/-- The parts of which a template is put together. -/
def parts (template : Text) : List Part := template.foldr prependChar []

theorem eq_mark_append_of_leadingKey? {text key rest : Text}
    (leading : leadingKey? text = some (key, rest)) : text = mark key ++ rest := by
  unfold leadingKey? at leading
  split at leading
  · rename_i behind
    split at leading
    · rename_i found after cut
      obtain ⟨rfl, -⟩ := Text.cut?_eq_some_iff.mp cut
      simp only [Option.some.injEq, Prod.mk.injEq] at leading
      obtain ⟨rfl, rfl⟩ := leading
      simp [mark]
    · contradiction
  · contradiction

theorem textOf_prependChar (char : Char) (parts : List Part) :
    textOf (prependChar char parts) = char :: textOf parts := by
  unfold prependChar
  split
  · rename_i text parts
    split
    · rename_i key rest leading
      have same := eq_mark_append_of_leadingKey? leading
      simp only [textOf_cons, Part.text]
      rw [← List.append_assoc, ← same, List.cons_append]
    · rfl
  · rfl

theorem textOf_parts (template : Text) : textOf (parts template) = template := by
  induction template with
  | nil => rfl
  | cons first rest ih =>
      rw [parts, List.foldr_cons, textOf_prependChar]
      exact congrArg (first :: ·) ih

/-- The text is the template with every mark replaced by a value that is listed for it, and with
nothing else changed. -/
structure IsFilled (template : Text) (values : List (Text × Text)) (text : Text) : Prop where
  wellFormed : ∀ part ∈ parts template, part.IsWellFormed
  listed : ∀ part ∈ parts template, ∀ key ∈ part.key?, key ∈ values.map Prod.fst
  replaced : text = filledAtOnce values (parts template)

theorem isFilled_fill {template : Text} {values : List (Text × Text)}
    (fits : ∀ part ∈ parts template,
      part.IsWellFormed ∧ ∀ key ∈ part.key?, key ∈ values.map Prod.fst)
    (braceless : ∀ pair ∈ values, IsBraceless pair.1 ∧ IsBraceless pair.2) :
    IsFilled template values (fill template values) := by
  refine ⟨fun part member => (fits part member).1, fun part member => (fits part member).2, ?_⟩
  have filled := fill_textOf (fun part member => (fits part member).1) braceless
  rw [textOf_parts] at filled
  exact filled

end Template

namespace Header

open Template (IsBraceless IsFilled)

/-- What the marks of the first block stand for. -/
def openingValues (options : Options) : List (Text × Text) := [
  ("class_name", options.className),
  ("window_class", options.windowClass),
  ("fn_type", options.dispatch.functionType)]

/-- What the marks of the last block stand for. -/
def closingValues (options : Options) : List (Text × Text) := [
  ("fn_alias", aliasDeclaration options.dispatch),
  ("fn_type", options.dispatch.functionType)]

theorem isBraceless_functionType (dispatch : Dispatch) : IsBraceless dispatch.functionType := by
  cases dispatch <;> decide

theorem isBraceless_aliasDeclaration (dispatch : Dispatch) :
    IsBraceless (aliasDeclaration dispatch) := by
  cases dispatch <;> decide +kernel

theorem isFilled_filledOpening {options : Options} (className : IsBraceless options.className)
    (windowClass : IsBraceless options.windowClass) :
    IsFilled opening (openingValues options) (filledOpening options) := by
  apply Template.isFilled_fill
  · change ∀ part ∈ Template.parts opening, part.IsWellFormed ∧
      ∀ key ∈ part.key?, key ∈ (["class_name", "window_class", "fn_type"] : List Text)
    decide +kernel
  · simp only [openingValues, List.forall_mem_cons, List.not_mem_nil, false_implies, implies_true,
      and_true]
    exact ⟨⟨by decide, className⟩, ⟨by decide, windowClass⟩, by decide,
      isBraceless_functionType options.dispatch⟩

theorem isFilled_filledClosing (options : Options) :
    IsFilled closing (closingValues options) (filledClosing options) := by
  apply Template.isFilled_fill
  · change ∀ part ∈ Template.parts closing, part.IsWellFormed ∧
      ∀ key ∈ part.key?, key ∈ (["fn_alias", "fn_type"] : List Text)
    decide +kernel
  · simp only [closingValues, List.forall_mem_cons, List.not_mem_nil, false_implies, implies_true,
      and_true]
    exact ⟨⟨by decide, isBraceless_aliasDeclaration options.dispatch⟩, by decide,
      isBraceless_functionType options.dispatch⟩

end Header

open Template (IsBraceless IsFilled)

/-- In a template that is put together from literal texts and marks, and with keys and values
without braces, filling key after key comes to filling each mark by itself with the first value for
its key, so pairs with different keys may change places. Both blocks of a header are such templates,
and in each of them every mark has a value. -/
theorem marks_filled_at_once :
    (∀ (parts : List Template.Part) (values : List (Text × Text)),
      (∀ part ∈ parts, part.IsWellFormed) →
      (∀ pair ∈ values, IsBraceless pair.1 ∧ IsBraceless pair.2) →
      let filled := Template.fill (Template.textOf parts) values
      filled = Template.filledAtOnce values parts ∧
      (∀ front first second back, values = front ++ first :: second :: back →
        first.1 ≠ second.1 →
        Template.fill (Template.textOf parts) (front ++ second :: first :: back) = filled) ∧
      ∀ reordered, values.Perm reordered → (values.map Prod.fst).Nodup →
        Template.fill (Template.textOf parts) reordered = filled) ∧
    (∀ template, Template.textOf (Template.parts template) = template) ∧
    ∀ options : Header.Options, IsBraceless options.className → IsBraceless options.windowClass →
      IsFilled Header.opening (Header.openingValues options) (Header.filledOpening options) ∧
      IsFilled Header.closing (Header.closingValues options) (Header.filledClosing options) := by
  refine ⟨?_, Template.textOf_parts, ?_⟩
  · intro parts values wellFormed braceless filled
    refine ⟨Template.fill_textOf wellFormed braceless, ?_, ?_⟩
    · rintro front first second back rfl different
      apply Template.fill_eq_of_perm wellFormed braceless
      · exact (List.Perm.swap second first back).append_left front
      · intro key
        rw [List.lookup_append, List.lookup_append, Template.lookup_exchanged different]
    · intro reordered same distinct
      exact Template.fill_eq_of_perm wellFormed braceless same
        (Template.lookup_eq_of_perm same distinct)
  · intro options className windowClass
    exact ⟨Header.isFilled_filledOpening className windowClass,
      Header.isFilled_filledClosing options⟩

/-- The first value of a key that is listed twice is taken, an empty value brings two marks
together, and a mark without a value stays. -/
theorem marks_filled_at_once_adjacent :
    let parts : List Template.Part := [.placeholder "a", .placeholder "b", .placeholder "a",
      .literal "\x7d\x7da\x7bb", .placeholder "c", .literal []]
    let repeated : List (Text × Text) := [("a", "x"), ("b", []), ("a", "y")]
    let values : List (Text × Text) := [("b", []), ("a", "c")]
    let options : Header.Options := { className := "class_name", dispatch := .privateAlias }
    (∀ part ∈ parts, part.IsWellFormed) ∧
    Template.fill (Template.textOf parts) repeated =
      ("xx\x7d\x7da\x7bb" : Text) ++ Template.mark "c" ∧
    Template.fill (Template.textOf parts) values.reverse =
      Template.fill (Template.textOf parts) values ∧
    IsFilled Header.opening (Header.openingValues options) (Header.filledOpening options) := by
  intro parts repeated values options
  obtain ⟨general, -, blocks⟩ := marks_filled_at_once
  have wellFormed : ∀ part ∈ parts, part.IsWellFormed := by decide
  refine ⟨wellFormed, ?_, ?_, ?_⟩
  · exact (general parts repeated wellFormed (by decide)).1.trans (by decide)
  · exact (general parts values wellFormed (by decide)).2.2 _ (List.reverse_perm values).symm
      (by decide)
  · exact (blocks options (by decide) (by decide)).1

end WrapperGen
