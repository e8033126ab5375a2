import WrapperGen.Proofs.Command.Preparation

/-!
Projects in other places. The name of a file does not depend on the directory in which it is looked
for, and nothing else of the path to an input gets into a header, so a project that is moved or
looked at from elsewhere gives the headers that it gave before.
-/

namespace WrapperGen

namespace Path

theorem join_ends (base path : Path) :
    ∃ front, (base.join path).components = front ++ path.components := by
  by_cases absolute : path.isAbsolute = true
  · rw [join, if_pos absolute]
    exact ⟨[], rfl⟩
  · rw [join, if_neg absolute]
    split
    · rename_i closed
      rcases List.eq_nil_or_concat base.text with empty | ⟨before, last, ending⟩
      · rw [empty]
        exact ⟨[], rfl⟩
      · have slash : last = '/' := by simpa [ending] using closed
        refine ⟨components ⟨before⟩, ?_⟩
        rw [ending, slash, components, List.concat_append]
        exact Text.splitWhere_append_mark (by simp) before path.text
    · refine ⟨base.components, ?_⟩
      rw [components, List.append_assoc, List.singleton_append]
      exact Text.splitWhere_append_mark (by simp) base.text path.text

/-- A path that names a file names it from every directory. -/
theorem fileName?_join {path : Path} {name : Text} (named : path.fileName? = some name)
    (base : Path) : (base.join path).fileName? = some name := by
  obtain ⟨front, ends⟩ := join_ends base path
  unfold fileName? at named ⊢
  rw [ends, List.reverse_append, List.dropWhile_append]
  cases kept : path.components.reverse.dropWhile isIdle with
  | nil =>
      rw [kept] at named
      contradiction
  | cons last before =>
      rw [kept] at named
      exact named

end Path

namespace Target

/-- The job for a target of a configuration that lies in the given directory. -/
def jobIn (target : Target) (base : Path) : Job where
  target
  input := target.inputPath base
  output := target.outputPath base

variable {target : Target} {name : Text}

theorem options_inputPath (named : Path.fileName? ⟨target.input⟩ = some name) (base : Path) :
    target.options (target.inputPath base) = target.options ⟨target.input⟩ := by
  have found : (target.inputPath base).fileName? = some name := Path.fileName?_join named base
  rw [options, options, found, named]

/-- What a target comes to in a directory, told from the text that its input holds. -/
theorem renderIn_jobIn (named : Path.fileName? ⟨target.input⟩ = some name) {base : Path}
    {files : FileTree} {bytes : List UInt8} {text : Text}
    (read : files.read (target.inputPath base) = .ok bytes) (decoded : Text.decode bytes = .ok text) :
    (target.jobIn base).renderIn files =
      match Header.ofInterface (target.options ⟨target.input⟩) (.read text) with
      | .error param => .error (.uncompilable param name text)
      | .ok header => .ok {
          job := target.jobIn base
          header
          methods := (Interface.read text).declarations.length } := by
  have found : (target.jobIn base).input.fileName? = some name := Path.fileName?_join named base
  have options : (target.jobIn base).target.options (target.jobIn base).input =
      target.options ⟨target.input⟩ := options_inputPath named base
  have input : files.read (target.jobIn base).input = .ok bytes := read
  rw [Job.renderIn_of_decoded input decoded, Job.renderFrom, options, found]
  rfl

end Target

/-- A target whose input names a file has the same choices for its header wherever its configuration
lies, with that name in the note on provenance. From the same bytes in two directories it gets the
same header, or it fails in both because they are no text or for the same parameter; the path to the
input is told in the first of these failures alone. -/
theorem headers_ignore_location {target : Target} {name : Text}
    (named : Path.fileName? ⟨target.input⟩ = some name) (here there : Path) :
    (target.inputPath here).fileName? = some name ∧
    (target.options (target.inputPath here)).provenance =
      (if target.provenance then some name else none) ∧
    target.options (target.inputPath here) = target.options (target.inputPath there) ∧
    ∀ (session elsewhere : Session) (bytes : List UInt8),
      session.files.read (target.inputPath here) = .ok bytes →
      elsewhere.files.read (target.inputPath there) = .ok bytes →
      let outcome := (session.run (target.jobIn here).render).1
      let moved := (elsewhere.run (target.jobIn there).render).1
      (∃ header methods, outcome = .ok ⟨target.jobIn here, header, methods⟩ ∧
        moved = .ok ⟨target.jobIn there, header, methods⟩) ∨
      (∃ offset, outcome = .error (.undecodable (target.inputPath here) offset) ∧
        moved = .error (.undecodable (target.inputPath there) offset)) ∨
      ∃ param text, outcome = .error (.uncompilable param name text) ∧
        moved = .error (.uncompilable param name text) := by
  have found : (target.inputPath here).fileName? = some name := Path.fileName?_join named here
  refine ⟨found, by rw [Target.options, found]; rfl, ?_, ?_⟩
  · rw [Target.options_inputPath named, Target.options_inputPath named]
  · intro session elsewhere bytes read readToo outcome moved
    have asked : outcome = (target.jobIn here).renderIn session.files :=
      congrArg Prod.fst (Session.run_render session _)
    have askedToo : moved = (target.jobIn there).renderIn elsewhere.files :=
      congrArg Prod.fst (Session.run_render elsewhere _)
    rw [asked, askedToo]
    cases decoded : Text.decode bytes with
    | error offset =>
        right; left
        exact ⟨offset, Job.renderIn_of_undecodable read decoded,
          Job.renderIn_of_undecodable readToo decoded⟩
    | ok text =>
        rw [Target.renderIn_jobIn named read decoded, Target.renderIn_jobIn named readToo decoded]
        cases Header.ofInterface (target.options ⟨target.input⟩) (.read text) with
        | error param =>
            right; right
            exact ⟨param, text, rfl, rfl⟩
        | ok header =>
            left
            exact ⟨header, _, rfl, rfl⟩

theorem headers_ignore_location_relative_and_nested :
    let target : Target :=
      { name := "a", input := "./é.iface", output := "x.h", provenance := true }
    let content : Node := .file (Text.utf8 "fun void A=1(,)\n")
    let session : Session := ⟨⟨[(["p"], .directory), (["é.iface", "p"], content)]⟩, []⟩
    let elsewhere : Session :=
      ⟨⟨[(["q"], .directory), (["r", "q"], .directory), (["é.iface", "r", "q"], content)]⟩, []⟩
    Path.fileName? ⟨target.input⟩ = some "é.iface".toList ∧
    ∃ header methods,
      (session.run (target.jobIn "p").render).1 = .ok ⟨target.jobIn "p", header, methods⟩ ∧
      (elsewhere.run (target.jobIn "/q/r/").render).1 =
        .ok ⟨target.jobIn "/q/r/", header, methods⟩ := by
  intro target content session elsewhere
  have named : Path.fileName? ⟨target.input⟩ = some "é.iface".toList := by decide
  obtain ⟨_, _, _, agree⟩ := headers_ignore_location named "p" "/q/r/"
  have read : session.files.read (target.inputPath "p") = .ok (Text.utf8 "fun void A=1(,)\n") := rfl
  have made : (session.run (target.jobIn "p").render).1 = .ok _ :=
    (congrArg Prod.fst (Session.run_render session _)).trans
      (Job.renderIn_of_compiled read Stub.compileAll_sample)
  refine ⟨named, ?_⟩
  rcases agree session elsewhere _ read rfl with same | ⟨_, failed, _⟩ | ⟨_, _, failed, _⟩
  · exact same
  · rw [made] at failed
    contradiction
  · rw [made] at failed
    contradiction

end WrapperGen
