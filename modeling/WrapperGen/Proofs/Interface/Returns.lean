import Mathlib.Data.List.Forall2
import WrapperGen.Proofs.Interface.Reordering
import WrapperGen.Proofs.Text.Returns

/-!
Descriptions with carriage returns at the ends of their lines. One is cut off with the line feed,
and others are white space behind everything that is looked for in a line, so they change no more
than the places of what is read.
-/

namespace WrapperGen

/-- The message without the offsets at which it stands. -/
def Declaration.spanless (declaration : Declaration) : Declaration :=
  { declaration with
    wparam := declaration.wparam.unplaced
    lparam := declaration.lparam.unplaced
    span := .emptyAt 0 }

def Entry.spanless : Entry → Entry
  | .declaration said => .declaration said.spanless
  | said => said

def Interface.spanless (interface : Interface) : Interface :=
  { interface with declarations := interface.declarations.map (·.spanless) }

theorem Entry.spanless_moved (bytes : Nat) (entry : Entry) :
    (entry.moved 0 bytes).spanless = entry.spanless := by
  cases entry <;> rfl

theorem Interface.spanless_prepend (entry : Entry) (later : Interface) :
    (later.prepend entry).spanless = later.spanless.prepend entry.spanless := by
  cases entry <;> rfl

/-- What the end of a line can leave behind: at most one carriage return. -/
def IsLineTail (tail : Text) : Prop := tail = [] ∨ tail = ['\r']

theorem IsLineTail.blank {tail : Text} (isTail : IsLineTail tail) :
    ∀ char ∈ tail, Text.isBlank char = true := by
  rcases isTail with rfl | rfl
  · exact List.forall_mem_nil _
  · have returned : Text.isBlank '\r' = true := by decide
    exact List.forall_mem_singleton.mpr returned

theorem IsLineTail.not_mem {tail : Text} (isTail : IsLineTail tail) {char : Char}
    (other : char ≠ '\r') : char ∉ tail := by
  rcases isTail with rfl | rfl
  · simp
  · simpa using other

namespace Scanner

variable {tail : Text}

theorem words_append_tail (isTail : IsLineTail tail) (line : Text) :
    Text.words (line ++ tail) = Text.words line :=
  Text.words_append_blanks isTail.blank line

theorem cut?_append_tail (isTail : IsLineTail tail) {mark : Char} (other : mark ≠ '\r')
    (line : Text) : Text.cut? mark (line ++ tail) =
      (Text.cut? mark line).map fun (before, after) => (before, after ++ tail) :=
  Text.cut?_append (isTail.not_mem other) line

theorem readCategory?_append_tail (isTail : IsLineTail tail) (line : Text) (number : Nat) :
    readCategory? (line ++ tail) number = readCategory? line number := by
  rw [readCategory?, readCategory?, words_append_tail isTail]

theorem readEnumeration?_append_tail (isTail : IsLineTail tail) (line : Text) (number : Nat) :
    readEnumeration? (line ++ tail) number = readEnumeration? line number := by
  rw [readEnumeration?, readEnumeration?, cut?_append_tail isTail (by decide)]
  cases Text.cut? '=' line with
  | none => rfl
  | some parts => simp only [Option.map_some, words_append_tail isTail]

/-- The number of a message ends at its parameter list or with its last character. -/
theorem readId?_append_tail (isTail : IsLineTail tail) (head rest : Text) :
    readId? head (rest ++ tail) = readId? head rest := by
  have trimmed : Text.trim ((rest ++ tail).takeWhile (· ≠ '(')) =
      Text.trim (rest.takeWhile (· ≠ '(')) := by
    by_cases opened : '(' ∈ rest
    · obtain ⟨before, after, rfl, absent⟩ := List.eq_append_cons_of_mem opened
      rw [List.append_assoc, List.cons_append, Text.takeWhile_before_mark absent,
        Text.takeWhile_before_mark absent]
    · have whole {text : Text} (absent : '(' ∉ text) : text.takeWhile (· ≠ '(') = text := by
        apply List.takeWhile_eq_self_iff.mpr
        intro char member
        simpa using fun same : char = '(' => absent (same ▸ member)
      have absent : '(' ∉ rest ++ tail := by
        simp [opened, isTail.not_mem (by decide : '(' ≠ '\r')]
      rw [whole absent, whole opened, Text.trim_append_blanks isTail.blank]
  rw [readId?, readId?, trimmed]

theorem parameterList_append_tail (isTail : IsLineTail tail) (line : Text) :
    (parameterList (line ++ tail)).1 = (parameterList line).1 := by
  rw [parameterList, parameterList, cut?_append_tail isTail (by decide)]
  cases Text.cut? '(' line with
  | none => rfl
  | some parts =>
      obtain ⟨before, after⟩ := parts
      simp only [Option.map_some, cut?_append_tail isTail (by decide : ')' ≠ '\r')]
      split
      · rfl
      · cases Text.cut? ')' after with
        | none => rfl
        | some list => rfl

theorem readDeclaration?_append_tail (isTail : IsLineTail tail) (line : Text) (number : Nat) :
    (readDeclaration? (line ++ tail) number 0).map (·.spanless) =
      (readDeclaration? line number 0).map (·.spanless) := by
  rw [readDeclaration?, readDeclaration?, cut?_append_tail isTail (by decide)]
  cases Text.cut? '=' line with
  | none => rfl
  | some parts =>
      obtain ⟨head, rest⟩ := parts
      simp only [Option.map_some]
      split
      · rename_i keyword returnType name _ _
        cases Feature.ofKeyword? keyword with
        | none => rfl
        | some feature =>
            have first := readSlots_moved (parameterList line).1 0 (parameterList (line ++ tail)).2
            have second := readSlots_moved (parameterList line).1 0 (parameterList line).2
            simp only [Option.map_some, parameterList_append_tail isTail,
              readId?_append_tail isTail, first, second]
            rfl
      · rfl

/-- What a line says apart from offsets depends neither on its end nor on where it starts. -/
theorem says?_append_tail (isTail : IsLineTail tail) (line : Text) (number start other : Nat) :
    (PlacedLine.says? ⟨line ++ tail, number, other⟩).map (·.spanless) =
      (PlacedLine.says? ⟨line, number, start⟩).map (·.spanless) := by
  have unplaced (content : Text) (place : Nat) :
      (PlacedLine.says? ⟨content, number, place⟩).map (·.spanless) =
        (PlacedLine.says? ⟨content, number, 0⟩).map (·.spanless) := by
    have moved := says?_moved 0 place ⟨content, number, 0⟩
    simp only [PlacedLine.moved, Nat.add_zero, Nat.zero_add] at moved
    rw [moved, Option.map_map]
    simp only [Function.comp_def, Entry.spanless_moved]
  rw [unplaced _ other, unplaced _ start, PlacedLine.says?, PlacedLine.says?, readEntry?,
    readEntry?, words_append_tail isTail]
  dsimp only
  split
  · rfl
  · split
    · rw [readCategory?_append_tail isTail]
    · split
      · rw [readEnumeration?_append_tail isTail]
      · have read := readDeclaration?_append_tail isTail line number
        have said := congrArg (Option.map Entry.declaration) read
        rw [Option.map_map, Option.map_map] at said ⊢
        exact said

theorem isPrefixOf_append_tail (isTail : IsLineTail tail) (line : Text) :
    deprecatedMark.isPrefixOf (line ++ tail) = deprecatedMark.isPrefixOf line := by
  rcases isTail with rfl | rfl
  · rw [List.append_nil]
  · rw [Bool.eq_iff_iff, List.isPrefixOf_iff_prefix, List.isPrefixOf_iff_prefix,
      List.prefix_concat_iff]
    apply or_iff_right
    intro whole
    have last := congrArg List.getLast? whole
    rw [List.getLast?_concat] at last
    exact absurd last (by decide)

/-- Two lines are the same but for what their ends leave behind. -/
def SameUpToTail (raw other : Text) : Prop :=
  ∃ tail, IsLineTail tail ∧ Text.dropReturn other = Text.dropReturn raw ++ tail

theorem readLines_spanless {raws others : List Text} (alike : List.Forall₂ SameUpToTail raws others)
    (number start otherStart : Nat) :
    (readLines number otherStart others).spanless = (readLines number start raws).spanless := by
  induction alike generalizing number start otherStart with
  | nil => rfl
  | @cons raw other _ _ same _ ih =>
      obtain ⟨tail, isTail, content⟩ := same
      have said := says?_append_tail isTail (Text.dropReturn raw) number start otherStart
      have later := ih (number + 1) (start + raw.byteLength + 1) (otherStart + other.byteLength + 1)
      simp only [PlacedLine.says?] at said
      simp only [readLines, content, isPrefixOf_append_tail isTail]
      split
      · rfl
      · cases first : readEntry? (Text.dropReturn raw ++ tail) number otherStart with
        | none =>
            rw [first, Option.map_none, eq_comm, Option.map_eq_none_iff] at said
            simp only [said, later]
        | some entry =>
            rw [first, Option.map_some, eq_comm, Option.map_eq_some_iff] at said
            obtain ⟨second, found, same⟩ := said
            simp only [found, Interface.spanless_prepend, same, later]

theorem sameUpToTail_refl (raw : Text) : SameUpToTail raw raw :=
  ⟨[], Or.inl rfl, (List.append_nil _).symm⟩

theorem sameUpToTail_return (raw : Text) : SameUpToTail raw (raw ++ ['\r']) := by
  obtain ⟨tail, same, isTail⟩ := Text.eq_dropReturn_append raw
  refine ⟨tail, isTail, ?_⟩
  rw [Text.dropReturn_append_return]
  exact same

theorem read_withReturns_spanless (text : Text) :
    (Interface.read text.withReturns).spanless = (Interface.read text).spanless := by
  obtain ⟨lines, last, plain, returned⟩ := Text.rawLines_withReturns text
  rw [Interface.read, Interface.read, plain, returned]
  have ended : List.Forall₂ SameUpToTail lines (lines.map (· ++ ['\r'])) := by
    rw [List.forall₂_map_right_iff, List.forall₂_same]
    exact fun line _ => sameUpToTail_return line
  have unended : List.Forall₂ SameUpToTail [last] [last] := .cons (sameUpToTail_refl last) .nil
  exact readLines_spanless (List.rel_append ended unended) 1 0 0

end Scanner

def Entry.line : Entry → Nat
  | .declaration said => said.line
  | .enumeration said => said.line
  | .category said => said.line

/-- The description with each message moved on by one byte for each line before it. -/
def Interface.drifted (interface : Interface) : Interface :=
  { interface with
    declarations := interface.declarations.map fun said => said.moved 0 (said.line - 1) }

theorem Interface.drifted_prepend {entry : Entry} {number : Nat} (placed : entry.line = number + 1)
    (later : Interface) :
    (later.prepend entry).drifted = later.drifted.prepend (entry.moved 0 number) := by
  cases entry with
  | declaration said =>
      have before : said.line - 1 = number := by
        rw [Entry.line] at placed
        omega
      rw [← before]
      rfl
  | enumeration said => rfl
  | category said => rfl

namespace Scanner

theorem line_of_says? {line : PlacedLine} {entry : Entry} (said : line.says? = some entry) :
    entry.line = line.number := by
  cases entry with
  | declaration => exact (says?_declaration said).2.1
  | enumeration => exact (says?_enumeration said).2.1
  | category => exact (says?_category said).2.1

/-- Behind so many lines with a carriage return each, a line is read so many bytes further on. -/
theorem readLines_cons_drifted {raw other : Text} {rest others : List Text} {number start : Nat}
    (same : Text.dropReturn other = Text.dropReturn raw)
    (later : readLines (number + 2) (start + number + other.byteLength + 1) others =
      (readLines (number + 2) (start + raw.byteLength + 1) rest).drifted) :
    readLines (number + 1) (start + number) (other :: others) =
      (readLines (number + 1) start (raw :: rest)).drifted := by
  have moved := says?_moved 0 number ⟨Text.dropReturn raw, number + 1, start⟩
  simp only [PlacedLine.moved, PlacedLine.says?, Nat.add_zero] at moved
  simp only [readLines, same, later]
  split
  · rfl
  · rw [moved]
    cases said : readEntry? (Text.dropReturn raw) (number + 1) start with
    | none => rfl
    | some entry =>
        have saidThere : PlacedLine.says? ⟨Text.dropReturn raw, number + 1, start⟩ = some entry :=
          said
        exact (Interface.drifted_prepend (line_of_says? saidThere) _).symm

theorem readLines_drifted {lines : List Text} (plain : ∀ line ∈ lines, '\r' ∉ line) (last : Text)
    (number start : Nat) :
    readLines (number + 1) (start + number) (lines.map (· ++ ['\r']) ++ [last]) =
      (readLines (number + 1) start (lines ++ [last])).drifted := by
  induction lines generalizing number start with
  | nil => exact readLines_cons_drifted rfl rfl
  | cons line lines ih =>
      simp only [List.forall_mem_cons] at plain
      have kept : Text.dropReturn line = line := by
        apply Text.dropReturn_eq_self
        exact fun ends => plain.1 (List.mem_of_getLast? ends)
      apply readLines_cons_drifted
      · rw [Text.dropReturn_append_return, kept]
      · have width : Text.byteLength ['\r'] = 1 := rfl
        have place : start + number + Text.byteLength (line ++ ['\r']) + 1 =
            start + line.byteLength + 1 + (number + 1) := by
          rw [Text.byteLength_append, width]
          omega
        rw [place]
        exact ih plain.2 (number + 1) (start + line.byteLength + 1)

theorem read_withReturns_of_plain {text : Text} (plain : '\r' ∉ text) :
    Interface.read text.withReturns = (Interface.read text).drifted := by
  obtain ⟨lines, last, split, returned⟩ := Text.rawLines_withReturns text
  rw [Interface.read, Interface.read, split, returned]
  apply readLines_drifted _ last 0 0
  intro line member inside
  exact plain (Text.mem_of_mem_rawLines (split ▸ List.mem_append_left _ member) inside)

end Scanner

end WrapperGen
