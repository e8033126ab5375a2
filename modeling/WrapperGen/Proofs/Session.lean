import WrapperGen.Proofs.FileTree.Change
import WrapperGen.Proofs.Path
import WrapperGen.Session

/-!
Runs in sessions. Questions leave the session as it is, and making directories changes nothing but
the directories that were missing.
-/

namespace WrapperGen.Session

variable {ε α β : Type} (session : Session)

theorem run_tryCatch_of_ok {command : ExceptT ε (StateM Session) α} {value : α} {after : Session}
    (ran : session.run command = (.ok value, after))
    (handler : ε → ExceptT ε (StateM Session) α) :
    session.run (tryCatch command handler) = (.ok value, after) := by
  have stepped : command session = _ := ran
  simp only [Session.run, tryCatch, tryCatchThe, MonadExceptOf.tryCatch, ExceptT.tryCatch,
    ExceptT.run_mk, StateT.run, bind, StateT.bind, stepped]
  rfl

theorem run_tryCatch_of_error {command : ExceptT ε (StateM Session) α} {error : ε}
    {after : Session} (ran : session.run command = (.error error, after))
    (handler : ε → ExceptT ε (StateM Session) α) :
    session.run (tryCatch command handler) = after.run (handler error) := by
  have stepped : command session = _ := ran
  simp only [Session.run, tryCatch, tryCatchThe, MonadExceptOf.tryCatch, ExceptT.tryCatch,
    ExceptT.run_mk, StateT.run, bind, StateT.bind, stepped]
  rfl

theorem run_mapM {ask : α → ExceptT ε (StateM Session) β} {answer : α → Except ε β}
    (asks : ∀ item, session.run (ask item) = (answer item, session)) (items : List α) :
    session.run (items.mapM ask) = (items.mapM answer, session) := by
  induction items with
  | nil => rfl
  | cons item items ih =>
      rw [List.mapM_cons, List.mapM_cons, run_bind, asks]
      cases answer item with
      | error failure => rfl
      | ok first =>
          simp only [run_bind, ih]
          cases items.mapM answer with
          | error failure => rfl
          | ok rest => rfl

theorem run_forM_cons (command : α → ExceptT ε (StateM Session) Unit) (item : α)
    (items : List α) :
    session.run ((item :: items).forM command) =
      match session.run (command item) with
      | (.ok _, after) => after.run (items.forM command)
      | (.error failure, after) => (.error failure, after) := by
  rw [List.forM_eq_forM, List.forM_cons, run_bind]
  rcases session.run (command item) with ⟨_ | _, after⟩ <;> rfl

/-- A list of commands fails with the first that does, in the session that those before it leave. -/
theorem run_forM_eq_error_iff {command : α → ExceptT ε (StateM Session) Unit} {items : List α}
    {failure : ε} {after : Session} :
    session.run (items.forM command) = (.error failure, after) ↔
      ∃ before item later middle, items = before ++ item :: later ∧
        session.run (before.forM command) = (.ok (), middle) ∧
        middle.run (command item) = (.error failure, after) := by
  induction items generalizing session with
  | nil =>
      constructor
      · intro failed
        cases failed
      · rintro ⟨before, item, later, middle, split, _⟩
        simp at split
  | cons first rest ih =>
      rw [run_forM_cons]
      constructor
      · intro failed
        rcases ran : session.run (command first) with ⟨reason | _, next⟩
        · rw [ran] at failed
          exact ⟨[], first, rest, session, rfl, rfl, by rw [ran]; exact failed⟩
        · rw [ran] at failed
          obtain ⟨before, item, later, middle, rfl, done, stopped⟩ := (ih next).mp failed
          refine ⟨first :: before, item, later, middle, rfl, ?_, stopped⟩
          rw [run_forM_cons, ran]
          exact done
      · rintro ⟨before, item, later, middle, split, done, stopped⟩
        cases before with
        | nil =>
            obtain ⟨rfl, rfl⟩ := List.cons.inj split
            obtain rfl : session = middle := congrArg Prod.snd done
            rw [stopped]
        | cons head before =>
            obtain ⟨rfl, rfl⟩ := List.cons.inj split
            rw [run_forM_cons] at done
            rcases ran : session.run (command first) with ⟨reason | _, next⟩
            · rw [ran] at done
              cases done
            · rw [ran] at done
              exact (ih next).mpr ⟨before, item, later, middle, rfl, done, stopped⟩

theorem run_liftM (command : StateM Session α) :
    session.run (liftM command : ExceptT ε (StateM Session) α) =
      (.ok (command session).1, (command session).2) := rfl

theorem run_unlessDirectory (path : Path) (fault : Fault) :
    session.run (Host.unlessDirectory path fault) =
      (if session.files.isDirectory path then .ok () else .error fault, session) := by
  rw [Host.unlessDirectory, run_bind, run_isDirectory]
  cases session.files.isDirectory path with
  | false => rfl
  | true => rfl

theorem run_makeDirectory (path : Path) :
    session.run (Host.makeDirectory path) =
      match session.files.makeDirectory path with
      | .ok files => (.ok (), { session with files })
      | .error fault => (.error fault, session) :=
  run_change session _

/-- What a command prints nothing for and does to the files. -/
structure Changes (written made : List Path) (before after : Session) : Prop where
  printed : after.printed = before.printed
  files : before.files.ChangesOnly written made after.files

namespace Changes

variable {written made : List Path} {before after : Session}

theorem refl (written made : List Path) (session : Session) : Changes written made session session :=
  ⟨rfl, .refl written made session.files⟩

theorem mono {others above : List Path} (changes : Changes written made before after)
    (files : written ⊆ others) (directories : made ⊆ above) : Changes others above before after :=
  ⟨changes.printed, changes.files.mono files directories⟩

theorem trans {between : Session} (first : Changes written made before between)
    (second : Changes written made between after) : Changes written made before after :=
  ⟨second.printed.trans first.printed, first.files.trans second.files⟩

end Changes

theorem makeDirectory_changes (path : Path) :
    Changes [] [path] session (session.run (Host.makeDirectory path)).2 := by
  rw [run_makeDirectory]
  cases made : session.files.makeDirectory path with
  | error fault => exact .refl _ _ session
  | ok files => exact ⟨rfl, FileTree.makeDirectory_changesOnly made⟩

theorem makeFirst_changes (paths : List Path) :
    Changes [] paths session (session.run (Host.makeFirst paths)).2 := by
  induction paths generalizing session with
  | nil => exact .refl _ _ session
  | cons path parents ih =>
      have attempt (start : Session) :
          Changes [] (path :: parents) start (start.run (Host.makeDirectory path)).2 :=
        (makeDirectory_changes start path).mono (List.nil_subset _) (by simp)
      rw [Host.makeFirst]
      split
      · exact .refl _ _ session
      · have first := attempt session
        rcases ran : session.run (Host.makeDirectory path) with ⟨fault | _, middle⟩
        · rw [run_tryCatch_of_error session ran]
          rw [ran] at first
          cases fault with
          | notFound =>
              -- those above are made first, and then the directory is tried again
              have above : Changes [] (path :: parents) middle
                  (middle.run (Host.makeFirst parents)).2 :=
                (ih middle).mono (List.nil_subset _) (List.subset_cons_self path parents)
              simp only [run_bind]
              rcases higher : middle.run (Host.makeFirst parents) with ⟨fault | _, next⟩
              · rw [higher] at above
                exact first.trans above
              · rw [higher] at above
                have again := attempt next
                rcases last : next.run (Host.makeDirectory path) with ⟨fault | _, final⟩
                · rw [last] at again
                  simp only [run_tryCatch_of_error next last, run_unlessDirectory]
                  exact (first.trans above).trans again
                · rw [last] at again
                  simp only [run_tryCatch_of_ok next last]
                  exact (first.trans above).trans again
          | _ =>
              simp only [run_unlessDirectory]
              exact first
        · rw [run_tryCatch_of_ok session ran]
          rw [ran] at first
          exact first

theorem makeDirectories_changes (path : Path) :
    Changes [] (path :: path.ancestors) session (session.run (Host.makeDirectories path)).2 :=
  makeFirst_changes session _

end WrapperGen.Session
