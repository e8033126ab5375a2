import WrapperGen.Text.Basic

/-!
Replacing a pattern in a text, which goes through the text from the left: what stands before the
first occurrence stays, and behind an occurrence it goes on as at the start.
-/

namespace WrapperGen.Text

theorem replaceFrom_passed (pattern replacement passed back : Text) :
    replaceFrom pattern replacement passed.length (passed ++ back) =
      replaceAll back pattern replacement := by
  induction passed with
  | nil => rfl
  | cons first rest ih => exact ih

theorem replaceAll_pattern_append {pattern : Text} (nonempty : pattern ≠ [])
    (replacement back : Text) :
    replaceAll (pattern ++ back) pattern replacement =
      replacement ++ replaceAll back pattern replacement := by
  obtain ⟨first, rest, rfl⟩ := List.exists_cons_of_ne_nil nonempty
  have found : (first :: rest).isPrefixOf (first :: (rest ++ back)) = true :=
    List.isPrefixOf_iff_prefix.mpr (List.prefix_append (first :: rest) back)
  rw [List.cons_append, replaceAll, replaceFrom, if_pos found]
  exact congrArg (replacement ++ ·) (replaceFrom_passed _ _ rest back)

/-- Text in front stays as it is if the pattern starts nowhere in it. -/
theorem replaceAll_append {front back pattern : Text}
    (absent : ∀ later, later ≠ [] → later <:+ front → ¬ pattern <+: later ++ back)
    (replacement : Text) :
    replaceAll (front ++ back) pattern replacement =
      front ++ replaceAll back pattern replacement := by
  induction front with
  | nil => rfl
  | cons first rest ih =>
      have here : ¬ pattern.isPrefixOf (first :: (rest ++ back)) = true := by
        rw [List.isPrefixOf_iff_prefix]
        exact absent (first :: rest) (List.cons_ne_nil first rest) (List.suffix_refl _)
      have behind := ih fun later nonempty ending =>
        absent later nonempty (ending.trans (List.suffix_cons first rest))
      rw [List.cons_append, replaceAll, replaceFrom, if_neg here]
      exact congrArg (first :: ·) behind

theorem replaceAll_of_absent {text pattern : Text} {char : Char} (inPattern : char ∈ pattern)
    (absent : char ∉ text) (replacement : Text) : replaceAll text pattern replacement = text := by
  have nowhere : ∀ later, later ≠ [] → later <:+ text → ¬ pattern <+: later ++ [] := by
    intro later _ ending begins
    rw [List.append_nil] at begins
    exact absent (ending.subset (begins.subset inPattern))
  have untouched := replaceAll_append nowhere replacement
  rw [List.append_nil] at untouched
  exact untouched.trans (List.append_nil text)

end WrapperGen.Text
