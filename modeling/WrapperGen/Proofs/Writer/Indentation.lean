import Mathlib.Data.Finset.Lattice.Fold
import WrapperGen.Proofs.Writer

/-!
The indentation of a writer over a run of steps. A level never falls below zero, so it is not the
number of steps in less the number of steps out; it is how far that number stands above the lowest
value that it has had since the start.
-/

namespace WrapperGen.Writer

/-- What a step writes behind all that is written, at a level. -/
def Step.written (ending : LineEnding) (level : Nat) : Step → Text
  | add text => text
  | addLine text => List.replicate level '\t' ++ text ++ ending.text
  | addBlock block => block.blockLines.flatMap (· ++ ending.text)
  | addIndented text => List.replicate level '\t' ++ text
  | newLine => ending.text
  | indent => []
  | dedent => []

/-- A new writer after so many steps. -/
def after (ending : LineEnding) (steps : List Step) : Writer :=
  steps.foldl run { lineEnding := ending }

/-- The number of steps that indent less the number of those that take an indentation back. -/
def net (steps : List Step) : Int := steps.count .indent - steps.count .dedent

/-! ## One step -/

theorem output_run (writer : Writer) (step : Step) :
    (writer.run step).output = writer.output ++ step.written writer.lineEnding writer.level := by
  cases step with
  | add text => exact (writes_add writer text).output
  | addLine text => exact (writes_addLine writer text).output
  | addBlock block => exact (writes_addBlock writer block).output
  | addIndented text => exact (writes_add writer _).output
  | newLine => exact (writes_newLine writer).output
  | indent => exact (List.append_nil _).symm
  | dedent => exact (List.append_nil _).symm

theorem lineEnding_run (writer : Writer) (step : Step) :
    (writer.run step).lineEnding = writer.lineEnding := by
  cases step with
  | addBlock block => exact (writes_addBlock writer block).lineEnding
  | _ => rfl

theorem level_run_of_emitter (writer : Writer) {step : Step} (noIndent : step ≠ .indent)
    (noDedent : step ≠ .dedent) : (writer.run step).level = writer.level := by
  cases step with
  | addBlock block => exact (writes_addBlock writer block).level
  | indent => contradiction
  | dedent => contradiction
  | _ => rfl

theorem level_run (writer : Writer) (step : Step) :
    ((writer.run step).level : Int) = max 0 (writer.level + net [step]) := by
  by_cases isIndent : step = .indent
  · subst isIndent
    change ((writer.level + 1 : Nat) : Int) = max 0 (writer.level + 1)
    omega
  by_cases isDedent : step = .dedent
  · subst isDedent
    change ((writer.level - 1 : Nat) : Int) = max 0 (writer.level + (-1 : Int))
    omega
  · have still : net [step] = 0 := by
      simp [net, isIndent, isDedent]
    rw [level_run_of_emitter writer isIndent isDedent, still]
    omega

/-! ## A run -/

theorem after_append (ending : LineEnding) (steps : List Step) (step : Step) :
    after ending (steps ++ [step]) = (after ending steps).run step := by
  rw [after, List.foldl_append]
  rfl

theorem net_append (front back : List Step) : net (front ++ back) = net front + net back := by
  simp only [net, List.count_append]
  omega

theorem lineEnding_after (ending : LineEnding) (steps : List Step) :
    (after ending steps).lineEnding = ending := by
  induction steps using List.reverseRecOn with
  | nil => rfl
  | append_singleton steps step ih => rw [after_append, lineEnding_run, ih]

theorem output_after_grows (ending : LineEnding) (front back : List Step) :
    (after ending front).output <+: (after ending (front ++ back)).output := by
  induction back using List.reverseRecOn with
  | nil => rw [List.append_nil]
  | append_singleton back step ih =>
      rw [← List.append_assoc, after_append, output_run]
      exact ih.trans (List.prefix_append _ _)

/-- The lowest net number of any beginning of the steps that is at most so long. -/
def lowest (steps : List Step) (count : Nat) : Int :=
  (Finset.range (count + 1)).inf' Finset.nonempty_range_add_one fun first => net (steps.take first)

theorem lowest_succ (steps : List Step) (count : Nat) :
    lowest steps (count + 1) = min (net (steps.take (count + 1))) (lowest steps count) := by
  simp only [lowest, Finset.range_add_one (n := count + 1)]
  rw [Finset.inf'_insert]

theorem level_after (ending : LineEnding) (steps : List Step) (count : Nat) :
    ((after ending (steps.take count)).level : Int) =
      net (steps.take count) - lowest steps count := by
  induction count with
  | zero => rfl
  | succ count ih =>
      have bound : lowest steps count ≤ net (steps.take count) :=
        Finset.inf'_le _ (Finset.self_mem_range_succ count)
      rw [lowest_succ]
      cases found : steps[count]? with
      | none =>
          have same : steps.take (count + 1) = steps.take count := by
            rw [List.take_add_one, found, Option.toList_none, List.append_nil]
          rw [same, ih]
          omega
      | some step =>
          have longer : steps.take (count + 1) = steps.take count ++ [step] := by
            rw [List.take_add_one, found, Option.toList_some]
          rw [longer, after_append, level_run, ih, net_append]
          omega

/-- At each point of a run the level is the net number of indentations so far less the lowest that
this number has been. A step that writes adds to the output, `addLine` and `addIndented` behind as
many tabs as the level says and the others behind none, and keeps the level; `indent` and `dedent`
write nothing; and what has been written stays. -/
theorem level_above_lowest (ending : LineEnding) (steps : List Step) :
    (∀ count, ((after ending (steps.take count)).level : Int) =
      net (steps.take count) -
        (Finset.range (count + 1)).inf' Finset.nonempty_range_add_one
          fun first => net (steps.take first)) ∧
    (∀ count step, steps[count]? = some step →
      let before := after ending (steps.take count)
      let behind := after ending (steps.take (count + 1))
      behind.output = before.output ++ step.written ending before.level ∧
      (step = .indent ∨ step = .dedent → behind.output = before.output) ∧
      (step ≠ .indent → step ≠ .dedent → behind.level = before.level)) ∧
    ∀ count later, count ≤ later →
      (after ending (steps.take count)).output <+: (after ending (steps.take later)).output := by
  refine ⟨level_after ending steps, ?_, ?_⟩
  · intro count step found before behind
    have taken : behind = before.run step := by
      change after ending (steps.take (count + 1)) = _
      rw [List.take_add_one, found, Option.toList_some, after_append]
    have written : behind.output = before.output ++ step.written ending before.level := by
      rw [taken, output_run, lineEnding_after]
    refine ⟨written, ?_, ?_⟩
    · rintro (rfl | rfl)
      · exact written.trans (List.append_nil _)
      · exact written.trans (List.append_nil _)
    · intro noIndent noDedent
      rw [taken, level_run_of_emitter before noIndent noDedent]
  · intro count later earlier
    obtain ⟨back, split⟩ := List.take_prefix_take_left earlier
    rw [← split]
    exact output_after_grows ending _ back

theorem level_above_lowest_unbalanced :
    let steps : List Step := [.dedent, .addLine "a", .indent, .indent, .addIndented "b", .dedent,
      .dedent, .dedent, .dedent, .indent, .addBlock "c\rd\ne", .addLine "f"]
    steps[11]? = some (.addLine "f") ∧
    (after .crlf (steps.take 11)).level = 1 ∧
    (after .crlf (steps.take 12)).output =
      (after .crlf (steps.take 11)).output ++ "\tf\r\n".toList := by
  intro steps
  obtain ⟨level, written, -⟩ := level_above_lowest .crlf steps
  have one : (after .crlf (steps.take 11)).level = 1 :=
    Int.ofNat_inj.mp ((level 11).trans (by decide))
  refine ⟨rfl, one, ?_⟩
  rw [(written 11 (.addLine "f") rfl).1, one]
  rfl

end WrapperGen.Writer
