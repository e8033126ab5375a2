import WrapperGen.Path
import WrapperGen.Proofs.Text.Cutting

/-!
The paths above a path. They are the parent and the paths above the parent, so what makes them one
after the other makes the directories in which a file is to stand.
-/

namespace WrapperGen.Path

theorem splitWhere_join {pieces : List Text} (nonempty : pieces ≠ [])
    (unmarked : ∀ piece ∈ pieces, ∀ char ∈ piece, decide (char = '/') = false) :
    (Text.join "/" pieces).splitWhere (· = '/') = pieces := by
  induction pieces with
  | nil => exact absurd rfl nonempty
  | cons piece pieces ih =>
      rw [List.forall_mem_cons] at unmarked
      cases pieces with
      | nil => exact Text.splitWhere_of_unmarked unmarked.1
      | cons second others =>
          have joined : Text.join "/" (piece :: second :: others) =
              piece ++ '/' :: Text.join "/" (second :: others) := by
            simp [Text.join]
          rw [joined, Text.splitWhere_append_mark (by simp), ih (by simp) unmarked.2,
            Text.splitWhere_of_unmarked unmarked.1]
          rfl

theorem isAbsolute_iff (path : Path) :
    path.isAbsolute = true ↔ ∃ second rest, path.components = [] :: second :: rest := by
  rcases path with ⟨text⟩
  cases text with
  | nil => simp [isAbsolute, components, Text.splitWhere]
  | cons first text =>
      have pieces := Text.splitWhere_ne_nil (· = '/') text
      simp only [isAbsolute, components, Text.splitWhere, List.head?_cons]
      by_cases slash : first = '/'
      · obtain ⟨second, rest, split⟩ := List.exists_cons_of_ne_nil pieces
        simp [slash, split]
      · obtain ⟨second, rest, split⟩ := List.exists_cons_of_ne_nil pieces
        simp [slash, split]

/-- The origin of a path shows in how its components begin. -/
theorem origin_eq_of_append {path other : Path} {rest : List Text} {last : Text} {front : List Text}
    (solid : isIdle last = false) (ends : other.components = front ++ [last])
    (begins : path.components = other.components ++ rest) : path.origin = other.origin := by
  have absolute : path.isAbsolute = other.isAbsolute := by
    rw [Bool.eq_iff_iff, isAbsolute_iff, isAbsolute_iff, begins, ends]
    cases front with
    | nil =>
        have full : last ≠ [] := by
          rintro rfl
          simp [isIdle] at solid
        simp [full]
    | cons first front =>
        cases front with
        | nil => simp
        | cons second front => simp
  have first : path.components.head? = other.components.head? := by
    rw [begins, ends]
    cases front with
    | nil => rfl
    | cons first front => rfl
  rw [origin, origin, absolute, first]

theorem above_dropWhile (origin : Path) (names : List Text) :
    above origin (names.dropWhile isIdle) = above origin names := by
  induction names with
  | nil => rfl
  | cons name names ih =>
      by_cases idle : isIdle name = true
      · rw [List.dropWhile_cons_of_pos idle, ih, above, if_pos idle]
      · rw [List.dropWhile_cons_of_neg idle]

theorem ancestors_origin (path : Path) : path.origin.ancestors = above path.origin [] := by
  rw [origin]
  split
  · decide
  · split <;> decide

theorem split_of_dropWhile {names others : List Text} {kept : Text}
    (found : names.dropWhile isIdle = kept :: others) :
    isIdle kept = false ∧ ∃ skipped, names = skipped ++ kept :: others := by
  constructor
  · have first := List.head?_dropWhile_not isIdle names
    simpa [found] using first
  · exact ⟨names.takeWhile isIdle, by rw [← found, List.takeWhile_append_dropWhile]⟩

theorem components_join {path : Path} {kept rest : List Text} (nonempty : kept ≠ [])
    (begins : path.components = kept ++ rest) :
    components ⟨Text.join "/" kept⟩ = kept := by
  refine splitWhere_join nonempty fun piece member => ?_
  have listed : piece ∈ path.components := begins ▸ List.mem_append_left rest member
  exact Text.not_mem_of_mem_splitWhere listed

theorem ancestors_eq_cons {path parent : Path} (above : path.parent? = some parent) :
    path.ancestors = parent :: parent.ancestors := by
  rw [parent?, ancestors, ← above_dropWhile] at above
  rw [ancestors, ← above_dropWhile]
  cases kept : path.components.reverse.dropWhile isIdle with
  | nil =>
      rw [kept, Path.above] at above
      rw [Path.above]
      split at above
      · next isHere =>
          rw [if_pos isHere]
          obtain rfl : "" = parent := by simpa using above
          decide
      · simp at above
  | cons last before =>
      obtain ⟨solid, ending, outer⟩ := split_of_dropWhile kept
      rw [kept, Path.above, if_neg (by simp [solid])] at above
      rw [Path.above, if_neg (by simp [solid]), ← above_dropWhile]
      cases higher : before.dropWhile isIdle with
      | nil =>
          simp only [higher, List.head?_cons, Option.some.injEq] at above ⊢
          rw [← above, ancestors_origin]
      | cons name earlier =>
          simp only [higher, List.head?_cons, Option.some.injEq] at above ⊢
          -- the parent has the components up to `name`, and so the same origin
          obtain ⟨busy, between, inner⟩ := split_of_dropWhile higher
          have begins : path.components = (earlier.reverse ++ [name]) ++
              (between.reverse ++ last :: ending.reverse) := by
            rw [← List.reverse_reverse path.components, outer, inner]
            simp
          have components : parent.components = earlier.reverse ++ [name] := by
            rw [← above, List.reverse_cons]
            exact components_join (by simp) begins
          have origin := origin_eq_of_append busy components (components ▸ begins)
          rw [ancestors, components, ← origin, above]
          simp

theorem join_components (path : Path) : Text.join "/" path.components = path.text := by
  rcases path with ⟨text⟩
  simp only [components]
  induction text with
  | nil => rfl
  | cons first rest ih =>
      obtain ⟨piece, pieces, split⟩ :=
        List.exists_cons_of_ne_nil (Text.splitWhere_ne_nil (· = '/') rest)
      rw [split] at ih
      rw [Text.splitWhere, split]
      split
      · rename_i slash
        rw [← ih, of_decide_eq_true slash]
        rfl
      · rw [← ih]
        cases pieces with
        | nil => rfl
        | cons second others => rfl

theorem join_begins (kept rest : List Text) :
    Text.join "/" kept <+: Text.join "/" (kept ++ rest) := by
  induction kept with
  | nil => exact List.nil_prefix
  | cons piece pieces ih =>
      cases pieces with
      | nil =>
          cases rest with
          | nil => exact List.prefix_refl _
          | cons second others => exact ⟨"/" ++ Text.join "/" (second :: others), by simp [Text.join]⟩
      | cons second others =>
          simp only [List.cons_append, Text.join] at ih ⊢
          exact (List.prefix_append_right_inj _).mpr ih

/-- The components that lead somewhere. -/
def names (path : Path) : List Text := path.components.filter fun name => !isIdle name

theorem names_of_last {path : Path} {front : List Text} {last : Text}
    (split : path.components = front ++ [last]) (busy : isIdle last = false) :
    path.names = front.filter (fun name => !isIdle name) ++ [last] := by
  rw [names, split, List.filter_append, List.filter_cons_of_pos (by simp [busy]), List.filter_nil]

/-- The path does not go on behind its last name. -/
def Trimmed (path : Path) : Prop :=
  path.names = [] ∨ ∃ front last, path.components = front ++ [last] ∧ isIdle last = false

theorem origin_names (path : Path) : path.origin.names = [] := by
  rw [origin]
  split
  · decide
  · split <;> decide

theorem origin_begins (path : Path) : path.origin.text <+: path.text := by
  rw [origin]
  split
  · rename_i absolute
    obtain ⟨rest, text⟩ := List.head?_eq_some_iff.mp (of_decide_eq_true absolute)
    exact ⟨rest, text.symm⟩
  · split
    · rename_i here
      obtain ⟨rest, components⟩ := List.head?_eq_some_iff.mp here
      rw [← join_components path, components]
      exact join_begins ["."] rest
    · exact List.nil_prefix

theorem filter_of_dropWhile {names kept : List Text} (found : names.dropWhile isIdle = kept) :
    names.reverse.filter (fun name => !isIdle name) =
      kept.reverse.filter fun name => !isIdle name := by
  induction names with
  | nil => rw [← found, List.dropWhile_nil]
  | cons name names ih =>
      by_cases idle : isIdle name = true
      · rw [List.dropWhile_cons_of_pos idle] at found
        rw [← ih found, List.reverse_cons, List.filter_append, List.filter_cons_of_neg (by simp [idle]),
          List.filter_nil, List.append_nil]
      · rw [List.dropWhile_cons_of_neg idle] at found
        rw [found]

theorem names_eq_of_dropWhile {path : Path} {kept : List Text}
    (found : path.components.reverse.dropWhile isIdle = kept) :
    path.names = kept.reverse.filter fun name => !isIdle name := by
  rw [names, ← filter_of_dropWhile found, List.reverse_reverse]

/-- The parent of a path is the path up to the last name before its own. -/
theorem parent?_eq_some {path parent : Path} (above : path.parent? = some parent) :
    parent.text <+: path.text ∧ parent.names = path.names.dropLast ∧ parent.Trimmed := by
  rw [parent?, ancestors, ← above_dropWhile] at above
  cases kept : path.components.reverse.dropWhile isIdle with
  | nil =>
      rw [kept, Path.above] at above
      rw [names_eq_of_dropWhile kept]
      split at above
      · obtain rfl : "" = parent := by simpa using above
        exact ⟨by simp, by decide, .inl (by decide)⟩
      · simp at above
  | cons last before =>
      obtain ⟨solid, ending, outer⟩ := split_of_dropWhile kept
      rw [names_eq_of_dropWhile kept, List.reverse_cons, List.filter_append,
        List.filter_cons_of_pos (by simp [solid]), List.filter_nil, List.dropLast_concat]
      rw [kept, Path.above, if_neg (by simp [solid])] at above
      cases higher : before.dropWhile isIdle with
      | nil =>
          simp only [higher, List.head?_cons, Option.some.injEq] at above
          rw [filter_of_dropWhile higher, ← above, origin_names]
          exact ⟨origin_begins path, rfl, .inl (origin_names path)⟩
      | cons name earlier =>
          simp only [higher, List.head?_cons, Option.some.injEq] at above
          obtain ⟨busy, between, inner⟩ := split_of_dropWhile higher
          have begins : path.components = (earlier.reverse ++ [name]) ++
              (between.reverse ++ last :: ending.reverse) := by
            rw [← List.reverse_reverse path.components, outer, inner]
            simp
          have components : parent.components = earlier.reverse ++ [name] := by
            rw [← above, List.reverse_cons]
            exact components_join (by simp) begins
          refine ⟨?_, ?_, .inr ⟨earlier.reverse, name, components, busy⟩⟩
          · rw [← above, List.reverse_cons, ← join_components path, begins]
            exact join_begins _ _
          · rw [names, components, filter_of_dropWhile higher, List.reverse_cons]

theorem parent?_ne_none {path : Path} (named : path.names ≠ []) : path.parent? ≠ none := by
  rw [parent?, ancestors, ← above_dropWhile]
  cases kept : path.components.reverse.dropWhile isIdle with
  | nil => exact absurd (names_eq_of_dropWhile kept) named
  | cons last before =>
      obtain ⟨solid, _⟩ := split_of_dropWhile kept
      rw [Path.above, if_neg (by simp [solid])]
      cases before.dropWhile isIdle with
      | nil => simp
      | cons name earlier => simp

/-- The names in a path above another one are its first names. -/
theorem names_of_mem_ancestors {path higher : Path} (above : higher ∈ path.ancestors) :
    higher.names <+: path.names.dropLast := by
  induction listed : path.ancestors generalizing path with
  | nil => simp [listed] at above
  | cons parent others ih =>
      have found : path.parent? = some parent := by rw [parent?, listed, List.head?_cons]
      obtain ⟨_, names, _⟩ := parent?_eq_some found
      have rest := ancestors_eq_cons found
      rw [listed, List.cons.injEq] at rest
      rw [listed] at above
      rcases List.mem_cons.mp above with rfl | further
      · exact names ▸ List.prefix_refl _
      · rw [← names]
        refine (ih (rest.2 ▸ further) rest.2.symm).trans ?_
        exact List.dropLast_prefix parent.names

end WrapperGen.Path
