import WrapperGen.Header
import WrapperGen.Proofs.TypeTable

/-!
Which messages have a stub. Only the second parameter of a message can be rejected, and the first
rejected one decides for the whole description.
-/

namespace WrapperGen

/-- What is reported of a message whose second parameter cannot be passed. -/
def Declaration.unknownType (declaration : Declaration) : UnknownType :=
  ⟨declaration.lparam.type, declaration.lparam.name, declaration.line, declaration.lparam.span⟩

/-- The second parameter of the message has a type and a name, and the type is the one without
values or is neither built in nor an enumeration of the description. -/
def Interface.Inadmissible (interface : Interface) (declaration : Declaration) : Prop :=
  declaration.lparam.type ≠ [] ∧ declaration.lparam.name ≠ [] ∧
    (declaration.lparam.type = "void" ∨
      declaration.lparam.type ∉ TypeTable.builtinNames ∧
        declaration.lparam.type ∉ interface.enumerationNames)

instance (interface : Interface) : DecidablePred interface.Inadmissible :=
  fun _ => inferInstanceAs (Decidable (_ ∧ _ ∧ (_ ∨ _ ∧ _)))

theorem inadmissible_iff_of_known {interface : Interface} {declaration : Declaration} {type : Text}
    (typed : declaration.lparam.type ≠ []) (named : declaration.lparam.name ≠ [])
    (known : (TypeTable.ofInterface interface).lookup? declaration.lparam.type = some type) :
    interface.Inadmissible declaration ↔ declaration.lparam.type = "void" := by
  constructor
  · rintro ⟨-, -, valueless | unknown⟩
    · exact valueless
    · rw [TypeTable.lookup?_ofInterface_eq_none_iff.mpr unknown] at known
      contradiction
  · intro valueless
    exact ⟨typed, named, Or.inl valueless⟩

theorem mapM_eq_find? {α β ε : Type} {compile : α → Except ε β} {bad : α → Prop}
    [DecidablePred bad] {fault : α → ε} {value : α → β}
    (decided : ∀ item, compile item = if bad item then .error (fault item) else .ok (value item))
    (items : List α) :
    items.mapM compile = match items.find? (bad ·) with
      | some item => .error (fault item)
      | none => .ok (items.map value) := by
  induction items with
  | nil => rfl
  | cons first rest ih =>
      rw [List.mapM_cons, decided, ih]
      by_cases rejected : bad first
      · simp [rejected, bind, Except.bind]
      · cases found : rest.find? (bad ·) with
        | some item => simp [rejected, found, bind, Except.bind]
        | none => simp [rejected, found, bind, Except.bind, pure, Except.pure]

namespace Stub

open TypeTable (IsPassable)

/-- What is passed for a second parameter that can be passed. -/
def secondValue (type name : Text) : Text :=
  if name.isEmpty then "0"
  else if isPointerType type then cast "intptr_t" name
  else name

/-- The stub of a message whose second parameter can be passed. -/
def ofAdmissible (types : TypeTable) (declaration : Declaration) : Stub :=
  let wparam := declaration.wparam
  let lparam := declaration.lparam
  let firstType := types.resolve wparam.type
  let secondType := types.resolve lparam.type
  let first := if firstType.isEmpty then [] else [(firstType, wparam.name)]
  let second := if secondType.isEmpty then [] else [(secondType, lparam.name)]
  { returnType := types.resolve declaration.returnType
    name := declaration.name
    params := first ++ second
    arguments :=
      if !secondType.isEmpty then
        [firstArgument firstType wparam.name, secondValue secondType lparam.name]
      else if !firstType.isEmpty then [firstArgument firstType wparam.name]
      else [] }

theorem secondArgument_of_passes {type : Text} {declaration : Declaration}
    (passes : declaration.lparam.name = [] ∨ IsPassable type) :
    secondArgument type declaration = .ok (secondValue type declaration.lparam.name) := by
  rw [secondArgument, secondValue]
  by_cases unnamed : declaration.lparam.name.isEmpty = true
  · simp only [unnamed, ↓reduceIte]
  · have passable : IsPassable type := passes.resolve_left (by simpa using unnamed)
    simp only [unnamed, Bool.false_eq_true, ↓reduceIte]
    by_cases pointer : isPointerType type = true
    · simp only [pointer, ↓reduceIte]
    · have byValue : isValueType type = true := passable.resolve_left pointer
      simp only [pointer, byValue, Bool.false_eq_true, ↓reduceIte]

theorem secondArgument_of_named {type : Text} {declaration : Declaration}
    (named : declaration.lparam.name ≠ []) (impassable : ¬ IsPassable type) :
    secondArgument type declaration =
      .error { declaration.unknownType with type } := by
  obtain ⟨pointer, byValue⟩ := not_or.mp impassable
  have nonempty : ¬ declaration.lparam.name.isEmpty = true := by simpa using named
  simp only [secondArgument, nonempty, pointer, byValue, Bool.false_eq_true, ↓reduceIte]
  rfl

theorem ofDeclaration_of_resolved {types : TypeTable} {declaration : Declaration}
    (resolved : resolveSecond types declaration = .ok (types.resolve declaration.lparam.type))
    (passes : types.resolve declaration.lparam.type = [] ∨ declaration.lparam.name = [] ∨
      IsPassable (types.resolve declaration.lparam.type)) :
    ofDeclaration types declaration = .ok (ofAdmissible types declaration) := by
  rw [ofDeclaration, ofAdmissible, resolved]
  by_cases absent : (types.resolve declaration.lparam.type).isEmpty = true
  · by_cases alone : (types.resolve declaration.wparam.type).isEmpty = true
    · simp [absent, alone, bind, Except.bind, pure, Except.pure]
    · simp [absent, alone, bind, Except.bind, pure, Except.pure]
  · have argument := secondArgument_of_passes (passes.resolve_left (by simpa using absent))
    simp [absent, argument, bind, Except.bind, pure, Except.pure]

theorem ofDeclaration_of_unresolved {types : TypeTable} {declaration : Declaration}
    {reason : UnknownType} (unresolved : resolveSecond types declaration = .error reason) :
    ofDeclaration types declaration = .error reason := by
  rw [ofDeclaration, unresolved]
  rfl

theorem ofDeclaration_of_refused {types : TypeTable} {declaration : Declaration} {type : Text}
    {reason : UnknownType} (resolved : resolveSecond types declaration = .ok type)
    (present : type ≠ []) (refused : secondArgument type declaration = .error reason) :
    ofDeclaration types declaration = .error reason := by
  have nonempty : ¬ type.isEmpty = true := by simpa using present
  rw [ofDeclaration, resolved]
  simp [nonempty, refused, bind, Except.bind]

theorem resolveSecond_of_blank {types : TypeTable} {declaration : Declaration}
    (blank : declaration.lparam.type = [] ∨ declaration.lparam.name = []) :
    resolveSecond types declaration = .ok (types.resolve declaration.lparam.type) := by
  have lenient : (declaration.lparam.type.isEmpty || declaration.lparam.name.isEmpty) = true := by
    simpa using blank
  simp only [resolveSecond, lenient, ↓reduceIte]

theorem resolveSecond_of_strict (types : TypeTable) {declaration : Declaration}
    (typed : declaration.lparam.type ≠ []) (named : declaration.lparam.name ≠ []) :
    resolveSecond types declaration = match types.lookup? declaration.lparam.type with
      | some type => .ok type
      | none => .error declaration.unknownType := by
  have strict : (declaration.lparam.type.isEmpty || declaration.lparam.name.isEmpty) = false := by
    simpa using And.intro typed named
  simp only [resolveSecond, strict, Bool.false_eq_true, ↓reduceIte]
  rfl

/-- A message is rejected exactly if it is inadmissible, wherever the rejection arises. -/
theorem ofDeclaration_ofInterface (interface : Interface) (declaration : Declaration) :
    ofDeclaration (.ofInterface interface) declaration =
      if interface.Inadmissible declaration then .error declaration.unknownType
      else .ok (ofAdmissible (.ofInterface interface) declaration) := by
  by_cases untyped : declaration.lparam.type = []
  · rw [if_neg fun bad => bad.1 untyped]
    have none : (TypeTable.ofInterface interface).resolve declaration.lparam.type = [] := by
      rw [untyped]
      rfl
    exact ofDeclaration_of_resolved (resolveSecond_of_blank (.inl untyped)) (.inl none)
  by_cases unnamed : declaration.lparam.name = []
  · rw [if_neg fun bad => bad.2.1 unnamed]
    exact ofDeclaration_of_resolved (resolveSecond_of_blank (.inr unnamed)) (.inr (.inl unnamed))
  have strict := resolveSecond_of_strict (.ofInterface interface) untyped unnamed
  cases known : (TypeTable.ofInterface interface).lookup? declaration.lparam.type with
  | none =>
      have unknown := TypeTable.lookup?_ofInterface_eq_none_iff.mp known
      rw [if_pos ⟨untyped, unnamed, .inr unknown⟩]
      rw [known] at strict
      exact ofDeclaration_of_unresolved strict
  | some type =>
      have passable := TypeTable.isPassable_iff_of_known known
      have resolved := TypeTable.resolve_of_known untyped known
      have bad := inadmissible_iff_of_known untyped unnamed known
      rw [known] at strict
      by_cases valueless : declaration.lparam.type = "void"
      · rw [if_pos (bad.mpr valueless)]
        have spelling : type = TypeTable.void := by
          rw [valueless, TypeTable.lookup?_ofInterface_void, Option.some_inj] at known
          exact known.symm
        subst spelling
        have refused := secondArgument_of_named unnamed TypeTable.not_isPassable_void
        rw [ofDeclaration_of_refused strict (by decide) refused]
        simp only [Declaration.unknownType, valueless, TypeTable.void]
      · rw [if_neg fun inadmissible => valueless (bad.mp inadmissible)]
        rw [← resolved] at strict
        exact ofDeclaration_of_resolved strict (.inr (.inr (resolved ▸ passable.mpr valueless)))

theorem compile_ofInterface (interface : Interface) (declaration : Declaration) :
    compile (.ofInterface interface) declaration =
      if interface.Inadmissible declaration then .error declaration.unknownType
      else .ok (ofAdmissible (.ofInterface interface) declaration).render := by
  rw [compile, ofDeclaration_ofInterface]
  split
  · rfl
  · rfl

theorem compileAll_eq (interface : Interface) :
    compileAll interface =
      match interface.declarations.find? (interface.Inadmissible ·) with
      | some declaration => .error declaration.unknownType
      | none => .ok ((interface.declarations.map fun declaration =>
          (ofAdmissible (.ofInterface interface) declaration).render).mergeSort
            Text.bytewiseLE) := by
  rw [compileAll, mapM_eq_find? (compile_ofInterface interface)]
  cases interface.declarations.find? (interface.Inadmissible ·) with
  | some declaration => rfl
  | none => rfl

theorem compileAll_eq_error_iff {interface : Interface} {reason : UnknownType} :
    compileAll interface = .error reason ↔
      ∃ declaration, interface.declarations.find? (interface.Inadmissible ·) = some declaration ∧
        declaration.unknownType = reason := by
  rw [compileAll_eq]
  cases interface.declarations.find? (interface.Inadmissible ·) with
  | some declaration => simp
  | none => simp

theorem compileAll_isOk_iff (interface : Interface) :
    (∃ stubs, compileAll interface = .ok stubs) ↔
      ∀ declaration ∈ interface.declarations, ¬ interface.Inadmissible declaration := by
  rw [compileAll_eq]
  cases found : interface.declarations.find? (interface.Inadmissible ·) with
  | some declaration =>
      have member := List.mem_of_find?_eq_some found
      have bad := List.find?_some found
      simp only [decide_eq_true_eq] at bad
      constructor
      · rintro ⟨stubs, rejected⟩
        cases rejected
      · intro admissible
        exact absurd bad (admissible declaration member)
  | none =>
      refine iff_of_true ⟨_, rfl⟩ ?_
      simpa using found

end Stub

theorem Header.ofInterface_isOk_iff (options : Header.Options) (interface : Interface) :
    (∃ header, Header.ofInterface options interface = .ok header) ↔
      ∃ stubs, Stub.compileAll interface = .ok stubs := by
  rw [Header.ofInterface]
  cases Stub.compileAll interface with
  | error reason =>
      constructor
      · rintro ⟨header, rejected⟩
        cases rejected
      · rintro ⟨stubs, rejected⟩
        cases rejected
  | ok stubs => exact iff_of_true ⟨_, rfl⟩ ⟨stubs, rfl⟩

/-- Stubs and header are made unless a message is inadmissible, and the first such message is what
both report. -/
theorem rejected_by_first_inadmissible (interface : Interface) (options : Header.Options) :
    ((∃ stubs, Stub.compileAll interface = .ok stubs) ↔
      ∀ declaration ∈ interface.declarations, ¬ interface.Inadmissible declaration) ∧
    ((∃ header, Header.ofInterface options interface = .ok header) ↔
      ∀ declaration ∈ interface.declarations, ¬ interface.Inadmissible declaration) ∧
    ∀ declaration, interface.declarations.find? (interface.Inadmissible ·) = some declaration →
      Stub.compileAll interface = .error {
        type := declaration.lparam.type
        name := declaration.lparam.name
        line := declaration.line
        span := declaration.lparam.span } ∧
      Header.ofInterface options interface = .error {
        type := declaration.lparam.type
        name := declaration.lparam.name
        line := declaration.line
        span := declaration.lparam.span } := by
  refine ⟨Stub.compileAll_isOk_iff interface, ?_, ?_⟩
  · rw [Header.ofInterface_isOk_iff, Stub.compileAll_isOk_iff]
  · intro declaration first
    have rejected : Stub.compileAll interface = .error declaration.unknownType := by
      rw [Stub.compileAll_eq, first]
    refine ⟨rejected, ?_⟩
    rw [Header.ofInterface, rejected]
    rfl

theorem rejected_by_first_inadmissible_void :
    let interface := Interface.read
      "fun odd A=1(odd x, odd)\nenu void=V\nset void B=2(, void y)\nset void C=3(, odd z)\n"
    let first : Declaration := {
      feature := .setter
      returnType := "void"
      name := "B"
      id := some "2"
      wparam := ⟨[], [], ⟨56, 56⟩⟩
      lparam := ⟨"void", "y", ⟨50, 56⟩⟩
      line := 3
      span := ⟨35, 57⟩ }
    interface.declarations.find? (interface.Inadmissible ·) = some first ∧
      Stub.compileAll interface = .error ⟨"void", "y", 3, ⟨50, 56⟩⟩ ∧
      Header.ofInterface {} interface = .error ⟨"void", "y", 3, ⟨50, 56⟩⟩ := by
  intro interface first
  have found : interface.declarations.find? (interface.Inadmissible ·) = some first := by decide
  exact ⟨found, (rejected_by_first_inadmissible interface {}).2.2 first found⟩

end WrapperGen
