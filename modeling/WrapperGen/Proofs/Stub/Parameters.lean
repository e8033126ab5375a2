import WrapperGen.Proofs.Interface.WellFormed
import WrapperGen.Proofs.Stub.Enumerations

/-!
Parameters in their own places. The signature of a method and the call in its body are put together
from the same two slots: a slot with a type is declared, and the slots up to the last one with a
type are passed, each as the number that its place takes.
-/

namespace WrapperGen

/-- One of the two numbers that a message takes: the slot that describes it and its C++ type. -/
structure Slot where
  param : Param
  number : Text
deriving DecidableEq, Repr

namespace Slot

/-- The slot as the signature declares it. -/
def declared (slot : Slot) (types : TypeTable) : Text :=
  types.resolve slot.param.type ++ " " ++ slot.param.name

/-- The slot as the call passes it. -/
def passed (slot : Slot) (types : TypeTable) : Text :=
  if slot.param.name = [] then "0"
  else if isPointerType (types.resolve slot.param.type) then
    "reinterpret_cast<" ++ slot.number ++ ">(" ++ slot.param.name ++ ")"
  else slot.param.name

end Slot

namespace Declaration

def first (declaration : Declaration) : Slot := ⟨declaration.wparam, "uintptr_t"⟩

def second (declaration : Declaration) : Slot := ⟨declaration.lparam, "intptr_t"⟩

/-- The slots that stand in the signature. -/
def declaredSlots (declaration : Declaration) : List Slot :=
  [declaration.first, declaration.second].filter fun slot => slot.param.type ≠ []

/-- The slots that the call passes on. -/
def passedSlots (declaration : Declaration) : List Slot :=
  if declaration.lparam.type ≠ [] then [declaration.first, declaration.second]
  else if declaration.wparam.type ≠ [] then [declaration.first]
  else []

theorem first_ne_second (declaration : Declaration) : declaration.first ≠ declaration.second := by
  intro same
  have numbers : ("uintptr_t" : Text) = "intptr_t" := congrArg Slot.number same
  exact absurd numbers (by decide)

theorem declaredSlots_eq (declaration : Declaration) :
    declaration.declaredSlots =
      (if declaration.wparam.type = [] then [] else [declaration.first]) ++
        if declaration.lparam.type = [] then [] else [declaration.second] := by
  have keeps (slot : Slot) (slots : List Slot) :
      (slot :: slots).filter (fun slot => slot.param.type ≠ []) =
        (if slot.param.type = [] then [] else [slot]) ++
          slots.filter fun slot => slot.param.type ≠ [] := by
    rw [List.filter_cons]
    by_cases absent : slot.param.type = []
    · simp [absent]
    · simp [absent]
  rw [declaredSlots, keeps, keeps, List.filter_nil, List.append_nil]
  rfl

/-- An absent slot of a message has no name either. -/
structure NamesOnlyTyped (declaration : Declaration) : Prop where
  first : declaration.wparam.type = [] → declaration.wparam.name = []
  second : declaration.lparam.type = [] → declaration.lparam.name = []

theorem mem_declaredSlots {declaration : Declaration} (closed : declaration.NamesOnlyTyped)
    {slot : Slot} (passed : slot ∈ declaration.passedSlots) (named : slot.param.name ≠ []) :
    slot ∈ declaration.declaredSlots := by
  have listed : slot = declaration.first ∨ slot = declaration.second := by
    unfold passedSlots at passed
    split at passed
    · simpa using passed
    · split at passed
      · exact Or.inl (List.mem_singleton.mp passed)
      · contradiction
  have typed : slot.param.type ≠ [] := by
    rcases listed with rfl | rfl
    · exact mt closed.first named
    · exact mt closed.second named
  exact List.mem_filter.mpr ⟨by simpa using listed, decide_eq_true typed⟩

theorem count_passedSlots {declaration : Declaration} {slot : Slot}
    (declared : slot ∈ declaration.declaredSlots) : declaration.passedSlots.count slot = 1 := by
  obtain ⟨listed, typed⟩ := List.mem_filter.mp declared
  have typed := of_decide_eq_true typed
  have distinct := declaration.first_ne_second
  have eitherOne : slot = declaration.first ∨ slot = declaration.second := by simpa using listed
  unfold passedSlots
  rcases eitherOne with rfl | rfl
  · have present : declaration.wparam.type ≠ [] := typed
    split
    · simp [distinct.symm]
    · simp
  · have present : declaration.lparam.type ≠ [] := typed
    simp [present, distinct]

end Declaration

theorem Scanner.read_namesOnlyTyped {text : Text} {declaration : Declaration}
    (member : declaration ∈ (Interface.read text).declarations) :
    declaration.NamesOnlyTyped := by
  have formed := read_declarations_wellFormed declaration member
  exact ⟨formed.wparam.named, formed.lparam.named⟩

namespace Stub

variable (interface : Interface) (declaration : Declaration)

theorem signature_ofAdmissible :
    (ofAdmissible (.ofInterface interface) declaration).signature =
      Text.join ", " (declaration.declaredSlots.map (·.declared (.ofInterface interface))) := by
  rw [signature, declaration.declaredSlots_eq]
  simp only [ofAdmissible, List.isEmpty_iff, TypeTable.resolve_eq_nil_iff, List.map_append,
    apply_ite (List.map _)]
  rfl

theorem arguments_ofAdmissible :
    (ofAdmissible (.ofInterface interface) declaration).arguments =
      declaration.passedSlots.map (·.passed (.ofInterface interface)) := by
  have firstPassed : firstArgument ((TypeTable.ofInterface interface).resolve
      declaration.wparam.type) declaration.wparam.name =
        declaration.first.passed (.ofInterface interface) := by
    simp only [firstArgument, List.isEmpty_iff]
    rfl
  have secondPassed : secondValue ((TypeTable.ofInterface interface).resolve
      declaration.lparam.type) declaration.lparam.name =
        declaration.second.passed (.ofInterface interface) := by
    simp only [secondValue, List.isEmpty_iff]
    rfl
  simp only [ofAdmissible, firstPassed, secondPassed, Bool.not_eq_true',
    List.isEmpty_eq_false_iff, ne_eq, TypeTable.resolve_eq_nil_iff]
  unfold Declaration.passedSlots
  split
  · rfl
  · split
    · rfl
    · rfl

variable {interface declaration}

/-- A second parameter that is passed as it is has a type that is taken by value. -/
theorem isValueType_of_passed_bare (admissible : ¬ interface.Inadmissible declaration)
    (typed : declaration.lparam.type ≠ []) (named : declaration.lparam.name ≠ [])
    (bare : declaration.second.passed (.ofInterface interface) = declaration.lparam.name) :
    isValueType ((TypeTable.ofInterface interface).resolve declaration.lparam.type) = true := by
  have notPointer : ¬ isPointerType
      ((TypeTable.ofInterface interface).resolve declaration.lparam.type) = true := by
    intro pointer
    have lengths := congrArg List.length bare
    simp [Slot.passed, Declaration.second, named, pointer] at lengths
    omega
  cases known : (TypeTable.ofInterface interface).lookup? declaration.lparam.type with
  | none =>
      have unknown := TypeTable.lookup?_ofInterface_eq_none_iff.mp known
      exact absurd ⟨typed, named, Or.inr unknown⟩ admissible
  | some type =>
      have notVoid : declaration.lparam.type ≠ "void" := fun valueless =>
        admissible ⟨typed, named, Or.inl valueless⟩
      rw [TypeTable.resolve_of_known typed known] at notPointer ⊢
      exact ((TypeTable.isPassable_iff_of_known known).mpr notVoid).resolve_left notPointer

end Stub

/-- The signature of a method holds the slots of its message that have a type, and its call passes
the slots up to the last such one, each in its place. So what the call names is declared, what is
declared with a name is passed once, and a second parameter is passed as it is only if its type is
one of five. -/
theorem method_passes_its_parameters {text : Text} {declaration : Declaration} {method : Text}
    (listed : declaration ∈ (Interface.read text).declarations)
    (compiled : Stub.compile (.ofInterface (Interface.read text)) declaration = .ok method) :
    let types := TypeTable.ofInterface (Interface.read text)
    let result := types.resolve declaration.returnType
    let signature := Text.join ", " (declaration.declaredSlots.map (·.declared types))
    let arguments := declaration.passedSlots.map (·.passed types)
    let call := "Call(" ++ Text.join ", " (messageConstant declaration.name :: arguments) ++ ")"
    let value := if result = "void*" then "reinterpret_cast<void*>(" ++ call ++ ")" else call
    let body := if result = "void" then value else "return " ++ value
    method =
      result ++ " " ++ declaration.name ++ "(" ++ signature ++ ") \x7b " ++ body ++ "; \x7d" ∧
    (∀ slot ∈ declaration.passedSlots, slot.param.name ≠ [] →
      slot ∈ declaration.declaredSlots) ∧
    (∀ slot ∈ declaration.declaredSlots, slot.param.name ≠ [] →
      declaration.passedSlots.count slot = 1) ∧
    (declaration.lparam.name ≠ [] →
      declaration.second.passed types = declaration.lparam.name →
      types.resolve declaration.lparam.type ∈
        (["int", "bool", "Colour", "Line", "Position"] : List Text)) := by
  intro types result signature arguments call value body
  have closed := Scanner.read_namesOnlyTyped listed
  rw [Stub.compile_ofInterface] at compiled
  split at compiled
  · contradiction
  · rename_i admissible
    refine ⟨?_, ?_, ?_, ?_⟩
    · rw [← Except.ok.inj compiled, Stub.render, Stub.signature_ofAdmissible, Stub.call,
        Stub.arguments_ofAdmissible]
      rfl
    · intro slot passed named
      exact Declaration.mem_declaredSlots closed passed named
    · intro slot declared _
      exact Declaration.count_passedSlots declared
    · intro named bare
      have typed := mt closed.second named
      exact List.contains_iff_mem.mp
        (Stub.isValueType_of_passed_bare admissible typed named bare)

theorem method_passes_its_parameters_second_only :
    let text : Text := "get pointer f=1(,string s)\n"
    let declaration : Declaration := {
      feature := .getter
      returnType := "pointer"
      name := "f"
      id := some "1"
      wparam := ⟨[], [], ⟨25, 25⟩⟩
      lparam := ⟨"string", "s", ⟨17, 25⟩⟩
      line := 1
      span := ⟨0, 26⟩ }
    let method : Text := "void* f(const char* s) \x7b " ++
      "return reinterpret_cast<void*>(Call(SCI_F, 0, reinterpret_cast<intptr_t>(s))); \x7d"
    (declaration ∈ (Interface.read text).declarations ∧
      Stub.compile (.ofInterface (Interface.read text)) declaration = .ok method) ∧
    (declaration.second ∈ declaration.declaredSlots ∧
      declaration.passedSlots.count declaration.second = 1) := by
  intro text declaration method
  have listed : declaration ∈ (Interface.read text).declarations := by decide
  have compiled :
      Stub.compile (.ofInterface (Interface.read text)) declaration = .ok method :=
    Stub.compile_eq_ok_iff.mpr ⟨by decide, by decide⟩
  have declared : declaration.second ∈ declaration.declaredSlots := by decide
  have parameters := method_passes_its_parameters listed compiled
  exact ⟨⟨listed, compiled⟩, declared, parameters.2.2.1 _ declared (by decide)⟩

end WrapperGen
