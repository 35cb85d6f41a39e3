import SchemaClasses.Files.FileTree
import SchemaClasses.Proofs.Steps
import SchemaClasses.Run

/-!
# Outcomes of runs on a tree

What an action of a run gives on a tree of files, and the actions that only read the tree.
-/

namespace SchemaClasses

section Outcome

variable {α β : Type} {action : ExceptT Failure (StateM FileTree) α}

@[simp]
theorem outcome_attempt (failure : SystemError → Failure)
    (action : StateM FileTree (Except SystemError α)) (tree : FileTree) :
    outcome (attempt failure action) tree =
      ((action.run tree).1.mapError failure, (action.run tree).2) :=
  rfl

/-- An action gives what `read` reads in the tree, and leaves the tree as it is. -/
def Reads (action : ExceptT Failure (StateM FileTree) α) (read : FileTree → Except Failure α) :
    Prop :=
  ∀ tree, outcome action tree = (read tree, tree)

theorem Reads.pure (value : α) : Reads (Pure.pure value) fun _ => .ok value :=
  fun _ => rfl

theorem Reads.mk_pure (result : Except Failure α) :
    Reads (ExceptT.mk (Pure.pure result)) fun _ => result :=
  fun _ => rfl

theorem Reads.throw (failure : Failure) :
    Reads (throw failure : ExceptT Failure (StateM FileTree) α) fun _ => .error failure :=
  fun _ => rfl

theorem Reads.attempt {failure : SystemError → Failure}
    {action : StateM FileTree (Except SystemError α)} {read : FileTree → Except SystemError α}
    (actionReads : ∀ tree, action.run tree = (read tree, tree)) :
    Reads (SchemaClasses.attempt failure action) fun tree => (read tree).mapError failure := by
  intro tree
  rw [outcome_attempt, actionReads tree]

theorem Reads.bind {read : FileTree → Except Failure α}
    {next : α → ExceptT Failure (StateM FileTree) β} {readNext : α → FileTree → Except Failure β}
    (reads : Reads action read) (nextReads : ∀ value, Reads (next value) (readNext value)) :
    Reads (action >>= next) fun tree => read tree >>= fun value => readNext value tree := by
  intro tree
  change outcome (action >>= next) tree = (read tree >>= fun value => readNext value tree, tree)
  rw [outcome_bind, reads tree]
  cases read tree with
  | error failure => rfl
  | ok value => exact nextReads value tree

end Outcome
end SchemaClasses
