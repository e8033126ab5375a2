import Mathlib.Data.List.Forall2
import Mathlib.Data.List.Perm.Basic

/-!
Steps that may fail. A sequence of steps is taken apart into what each of them gave, and a list of
steps fails with the first of them that does.
-/

namespace Except

variable {ε δ α β : Type}

@[simp] theorem ok_bind (value : α) (next : α → Except ε β) : (ok value >>= next) = next value := rfl

@[simp] theorem error_bind (error : ε) (next : α → Except ε β) :
    (Except.error error >>= next) = .error error := rfl

@[simp] theorem pure_eq_ok (value : α) : (pure value : Except ε α) = ok value := rfl

@[simp] theorem throw_eq_error (failure : ε) : (throw failure : Except ε α) = error failure := rfl

@[simp] theorem mapError_ok (wording : ε → δ) (value : α) :
    (ok value : Except ε α).mapError wording = ok value := rfl

@[simp] theorem mapError_error (wording : ε → δ) (failure : ε) :
    (error failure : Except ε α).mapError wording = error (wording failure) := rfl

@[simp] theorem isOk_ok (value : α) : (ok value : Except ε α).isOk = true := rfl

@[simp] theorem isOk_error (failure : ε) : (error failure : Except ε α).isOk = false := rfl

theorem bind_of_eq_ok {first : Except ε α} {value : α} (found : first = ok value)
    (next : α → Except ε β) : (first >>= next) = next value := by
  rw [found, ok_bind]

theorem bind_eq_ok_iff {first : Except ε α} {next : α → Except ε β} {result : β} :
    (first >>= next) = ok result ↔ ∃ value, first = ok value ∧ next value = ok result := by
  cases first with
  | error failure => simp
  | ok value => simp

theorem map_eq_ok_iff {first : Except ε α} {form : α → β} {result : β} :
    first.map form = ok result ↔ ∃ value, first = ok value ∧ form value = result := by
  cases first with
  | error failure => simp [Except.map]
  | ok value => simp [Except.map]

theorem mapM_eq_ok_iff {step : α → Except ε β} {items : List α} {results : List β} :
    items.mapM step = ok results ↔
      List.Forall₂ (fun item result => step item = ok result) items results := by
  induction items generalizing results with
  | nil => simp [eq_comm]
  | cons item items ih =>
      simp only [List.mapM_cons, bind_eq_ok_iff, pure_eq_ok, ok.injEq, ih]
      constructor
      · rintro ⟨first, taken, rest, others, rfl⟩
        exact .cons taken others
      · intro steps
        obtain ⟨first, rest, taken, others, rfl⟩ := List.forall₂_cons_left_iff.mp steps
        exact ⟨first, taken, rest, others, rfl⟩

theorem eq_ok_of_mapM_eq_ok {step : α → Except ε β} {items : List α} {results : List β}
    (taken : items.mapM step = ok results) {item : α} (member : item ∈ items) :
    ∃ result ∈ results, step item = ok result := by
  have steps := mapM_eq_ok_iff.mp taken
  clear taken
  induction steps with
  | nil => cases member
  | cons first rest ih =>
      rcases List.mem_cons.mp member with rfl | later
      · exact ⟨_, List.mem_cons_self, first⟩
      · obtain ⟨result, listed, found⟩ := ih later
        exact ⟨result, List.mem_cons_of_mem _ listed, found⟩

theorem mapM_eq_error_iff {step : α → Except ε β} {items : List α} {failure : ε} :
    items.mapM step = error failure ↔
      ∃ item, items.find? (fun item => !(step item).isOk) = some item ∧ step item = error failure := by
  induction items with
  | nil => simp
  | cons item items ih =>
      rw [List.mapM_cons, List.find?_cons]
      cases taken : step item with
      | error reason => simp [taken]
      | ok first =>
          cases others : items.mapM step with
          | error reason =>
              rw [others] at ih
              simpa using ih
          | ok rest =>
              rw [others] at ih
              simpa using ih

theorem mapM_congr {step other : α → Except ε β} {items : List α}
    (same : ∀ item ∈ items, step item = other item) : items.mapM step = items.mapM other := by
  induction items with
  | nil => rfl
  | cons item items ih =>
      rw [List.forall_mem_cons] at same
      rw [List.mapM_cons, List.mapM_cons, same.1, ih same.2]

/-- Steps that are taken in another order give the same results in another order. -/
theorem mapM_of_perm {step : α → Except ε β} {items others : List α} {results : List β}
    (same : items.Perm others) (taken : items.mapM step = ok results) :
    ∃ more, others.mapM step = ok more ∧ results.Perm more := by
  obtain ⟨more, steps, perm⟩ := List.perm_comp_forall₂ same.symm (mapM_eq_ok_iff.mp taken)
  exact ⟨more, mapM_eq_ok_iff.mpr steps, perm.symm⟩

theorem cases_of_mapError_eq {wording : ε → δ} {first second : Except ε α}
    (same : first.mapError wording = second.mapError wording) :
    (∃ value, first = ok value ∧ second = ok value) ∨
      ∃ failure other, first = error failure ∧ second = error other ∧
        wording failure = wording other := by
  cases first with
  | ok value =>
      cases second with
      | ok other =>
          rw [mapError_ok, mapError_ok, ok.injEq] at same
          exact Or.inl ⟨value, rfl, congrArg ok same.symm⟩
      | error other => contradiction
  | error failure =>
      cases second with
      | ok value => contradiction
      | error other => exact Or.inr ⟨failure, other, rfl, rfl, error.inj same⟩

end Except
