import WrapperGen.Proofs.Header.Frame

/-!
The note that names the source of a header. It is written as it is between the first block and the
stubs, so the header is as it would be without it but for the lines of the note, and these are one
line only if there is no line feed in the name.
-/

namespace WrapperGen

namespace Header

/-- Two headers agree but for one line that the second one has besides, and this is a comment. -/
structure HasOneNoteMore (bare noted : Text) : Prop where
  longer : noted.rawLines.length = bare.rawLines.length + 1
  comment : ∃ index note, noted.rawLines[index]? = some note ∧
    '\t' :: ("// Auto-generated from " : Text) <+: note ∧
    noted.rawLines.eraseIdx index = bare.rawLines

/-- The note with its indentation, up to its line feed. -/
def noteLine (ending : LineEnding) (source : Text) : Text :=
  stubLine ending (provenanceNote source)

theorem prefix_noteLine (ending : LineEnding) (source : Text) :
    '\t' :: ("// Auto-generated from " : Text) <+: noteLine ending source := by
  have front : ("// Auto-generated from " : Text) <+: provenanceNote source :=
    (List.prefix_append _ source).trans (List.prefix_append _ _)
  exact List.cons_prefix_cons.mpr ⟨rfl, front.trans (List.prefix_append _ _)⟩

theorem count_between {front back : Text} (unbroken : '\n' ∉ front) (unbrokenToo : '\n' ∉ back)
    (middle : Text) : (front ++ middle ++ back).count '\n' = middle.count '\n' := by
  rw [List.count_append, List.count_append, List.count_eq_zero.mpr unbroken,
    List.count_eq_zero.mpr unbrokenToo, Nat.zero_add, Nat.add_zero]

theorem count_provenanceNote (source : Text) :
    (provenanceNote source).count '\n' = source.count '\n' :=
  count_between (by decide) (by decide) source

theorem not_mem_provenanceNote {source : Text} (unbroken : '\n' ∉ source) :
    '\n' ∉ provenanceNote source := by
  rw [← List.count_eq_zero, count_provenanceNote, List.count_eq_zero]
  exact unbroken

theorem count_noteLine (ending : LineEnding) (source : Text) :
    (noteLine ending source).count '\n' = source.count '\n' :=
  (count_between (by decide : '\n' ∉ ['\t']) ending.not_mem_beforeFeed _).trans
    (count_provenanceNote source)

theorem rawLines_noteLine {ending : LineEnding} {source : Text} (unbroken : '\n' ∉ source) :
    (noteLine ending source).rawLines = [noteLine ending source] := by
  apply Text.rawLines_of_unbroken
  rw [← List.count_eq_zero, count_noteLine, List.count_eq_zero]
  exact unbroken

theorem assemble_noted (options : Options) (stubs : List Text) : ∃ opening rest : Text,
    ∀ source, assemble { options with provenance := source } stubs = opening ++ '\n' ::
      ((source.map provenanceNote).toList.flatMap (Writer.indented 1 options.lineEnding) ++
        rest) := by
  let blocks := (filledOpening options).blockLines.flatMap (Writer.indented 0 options.lineEnding)
  refine ⟨blocks ++ options.lineEnding.beforeFeed,
    stubs.flatMap (Writer.indented 1 options.lineEnding) ++ backOf options, ?_⟩
  intro source
  have front : frontOf { options with provenance := source } =
      blocks ++ (options.lineEnding.beforeFeed ++ ['\n']) ++
        (source.map provenanceNote).toList.flatMap (Writer.indented 1 options.lineEnding) := by
    rw [← options.lineEnding.text_eq]
    rfl
  have back : backOf { options with provenance := source } = backOf options := rfl
  rw [assemble_eq, front, back]
  simp only [List.append_assoc, List.cons_append, List.nil_append]

/-- The lines of the note stand between lines that are the same with and without it. -/
theorem rawLines_assemble (options : Options) (stubs : List Text) (source : Text) :
    ∃ front back : List Text,
      (assemble { options with provenance := none } stubs).rawLines = front ++ back ∧
      (assemble { options with provenance := some source } stubs).rawLines =
        front ++ (noteLine options.lineEnding source).rawLines ++ back := by
  obtain ⟨opening, rest, assembled⟩ := assemble_noted options stubs
  have note : Writer.indented 1 options.lineEnding (provenanceNote source) =
      noteLine options.lineEnding source ++ ['\n'] :=
    Writer.indented_eq 1 options.lineEnding (provenanceNote source)
  refine ⟨opening.rawLines, rest.rawLines, ?_, ?_⟩
  · rw [assembled none, Text.rawLines_append]
    rfl
  · rw [assembled (some source), Text.rawLines_append, List.append_assoc, Option.map_some,
      Option.toList_some, List.flatMap_singleton, note, List.append_assoc, List.singleton_append,
      Text.rawLines_append]

theorem hasOneNoteMore_iff (options : Options) (stubs : List Text) (source : Text) :
    HasOneNoteMore (assemble { options with provenance := none } stubs)
      (assemble { options with provenance := some source } stubs) ↔ '\n' ∉ source := by
  obtain ⟨front, back, bare, noted⟩ := rawLines_assemble options stubs source
  constructor
  · intro one
    have longer := one.longer
    rw [bare, noted, List.length_append, List.length_append, List.length_append,
      Text.length_rawLines, count_noteLine] at longer
    exact List.count_eq_zero.mp (by omega)
  · intro unbroken
    rw [rawLines_noteLine unbroken, List.append_assoc, List.singleton_append] at noted
    refine ⟨?_, front.length, noteLine options.lineEnding source, ?_, prefix_noteLine _ _, ?_⟩
    · rw [bare, noted, List.length_append, List.length_append, List.length_cons, Nat.add_assoc]
    · rw [noted, List.getElem?_append_right (Nat.le_refl _), Nat.sub_self, List.getElem?_cons_zero]
    · rw [bare, noted, List.eraseIdx_append_of_length_le (Nat.le_refl _), Nat.sub_self,
        List.eraseIdx_cons_zero]

end Header

/-- A note leaves every line of a header as it is and adds as many lines as the name of the source
has, which is the one comment line that is wanted unless there is a line feed in the name. -/
theorem provenance_note_is_one_line_iff (options : Header.Options) (interface : Interface)
    (source : Text) {bare : Text}
    (compiled : Header.ofInterface { options with provenance := none } interface = .ok bare) :
    ∃ noted front back,
      Header.ofInterface { options with provenance := some source } interface = .ok noted ∧
      bare.rawLines = front ++ back ∧
      noted.rawLines = front ++ (Header.noteLine options.lineEnding source).rawLines ++ back ∧
      noted.rawLines.length = bare.rawLines.length + 1 + source.count '\n' ∧
      (Header.HasOneNoteMore bare noted ↔ '\n' ∉ source) := by
  obtain ⟨stubs, made, rfl⟩ := Header.ofInterface_eq_ok_iff.mp compiled
  obtain ⟨front, back, bareLines, notedLines⟩ := Header.rawLines_assemble options stubs source
  refine ⟨_, front, back, Header.ofInterface_eq_ok_iff.mpr ⟨stubs, made, rfl⟩, bareLines,
    notedLines, ?_, Header.hasOneNoteMore_iff options stubs source⟩
  rw [bareLines, notedLines, List.length_append, List.length_append, List.length_append,
    Text.length_rawLines, Header.count_noteLine]
  omega

theorem provenance_note_is_one_line_iff_braces :
    let options : Header.Options := { className := "\x7b\x7bA\n", lineEnding := .crlf }
    let interface := Interface.read "fun void A=1(,)\n"
    let source : Text := "\x7b\x7bclass_name\x7d\x7d\r*/"
    ∃ bare noted, Header.ofInterface { options with provenance := none } interface = .ok bare ∧
      Header.ofInterface { options with provenance := some source } interface = .ok noted ∧
      '\n' ∉ source ∧ Header.HasOneNoteMore bare noted := by
  intro options interface source
  have made : Stub.compileAll interface = .ok ["void A() \x7b Call(SCI_A); \x7d"] :=
    Stub.compileAll_eq_ok_of_perm (by decide) (by decide) (by decide)
  have compiled := Header.ofInterface_eq_ok_iff.mpr
    ⟨_, made, (rfl : Header.assemble { options with provenance := none } _ = _)⟩
  have unbroken : '\n' ∉ source := by decide
  obtain ⟨noted, _, _, compiledToo, _, _, _, one⟩ :=
    provenance_note_is_one_line_iff options interface source compiled
  exact ⟨_, noted, compiled, compiledToo, unbroken, one.mpr unbroken⟩

/-- The rest of a name with a line feed stands on a line of its own, which is no comment. -/
theorem provenance_note_breaks :
    let options : Header.Options := { lineEnding := .lf }
    let interface := Interface.read "fun void A=1(,)\n"
    ∃ bare noted, Header.ofInterface { options with provenance := none } interface = .ok bare ∧
      Header.ofInterface { options with provenance := some "a\nb" } interface = .ok noted ∧
      ("b by scigen" : Text) ∈ noted.rawLines ∧ ¬ Header.HasOneNoteMore bare noted := by
  intro options interface
  have made : Stub.compileAll interface = .ok ["void A() \x7b Call(SCI_A); \x7d"] :=
    Stub.compileAll_eq_ok_of_perm (by decide) (by decide) (by decide)
  refine ⟨_, _, Header.ofInterface_eq_ok_iff.mpr ⟨_, made, rfl⟩,
    Header.ofInterface_eq_ok_iff.mpr ⟨_, made, rfl⟩, ?_, ?_⟩
  · obtain ⟨front, back, _, noted⟩ := Header.rawLines_assemble options _ "a\nb"
    have inNote : ("b by scigen" : Text) ∈ (Header.noteLine .lf "a\nb").rawLines := by decide
    rw [noted]
    exact List.mem_append_left back (List.mem_append_right front inNote)
  · rw [Header.hasOneNoteMore_iff]
    decide

end WrapperGen
