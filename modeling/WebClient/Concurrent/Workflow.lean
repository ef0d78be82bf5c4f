import WebClient.Reply.Basic
import WebClient.Concurrent.Activity

/-!
# Workflow — activities that make several calls at once

A workflow takes atomic steps like an activity, and may start several activities together: all of
them send their requests before any answer is looked at, and the workflow goes on when all have
finished.

`Workflow.run` performs a workflow while nothing else happens; the answers are then looked at in the
order of the activities.
-/

namespace WebClient

/-- An activity that may start activities together. -/
inductive Workflow (σ : Type) (α : Type) where
  | done (result : α)
  /-- An atomic step: what it makes of the state, and how to go on, given the state before. -/
  | atomic (update : σ → σ) (next : σ → Workflow σ α)
  /-- Starts activities together and goes on with their results, in the order of the activities. -/
  | gather (activities : List (Activity σ Reply)) (next : List Reply → Workflow σ α)

namespace Workflow

variable {σ α β : Type}

def bind : Workflow σ α → (α → Workflow σ β) → Workflow σ β
  | .done a, f => f a
  | .atomic update next, f => .atomic update fun s => (next s).bind f
  | .gather activities next, f => .gather activities fun replies => (next replies).bind f

instance : Monad (Workflow σ) where
  pure := .done
  bind := bind

instance : MonadStateOf σ (Workflow σ) where
  get := .atomic id fun s => .done s
  set s := .atomic (fun _ => s) fun _ => .done ()
  modifyGet f := .atomic (fun s => (f s).2) fun s => .done (f s).1

/-- Starts activities together and waits for all of them. -/
def all (activities : List (Activity σ Reply)) : Workflow σ (List Reply) :=
  .gather activities .done

def single (activity : Activity σ Reply) : Workflow σ Reply :=
  .gather [activity] fun replies => .done (replies.headD default)

/-- Performs a workflow while nothing else happens. -/
def run (backend : Backend) : Workflow σ α → Wired σ → α × Wired σ
  | .done a, w => (a, w)
  | .atomic update next, w => (next w.state).run backend { w with state := update w.state }
  | .gather activities next, w =>
    let (launched, w) := Activity.launchAll backend activities w
    let (replies, w) := Activity.runAll backend launched w
    (next replies).run backend w

/-- Running a sequence is running its parts in order. -/
theorem run_bind (backend : Backend) (workflow : Workflow σ α) (f : α → Workflow σ β)
    (w : Wired σ) :
    (workflow.bind f).run backend w =
      (f (workflow.run backend w).1).run backend (workflow.run backend w).2 := by
  induction workflow generalizing w with
  | done a => rfl
  | atomic update next ih => exact ih _ _
  | gather activities next ih => exact ih _ _

end Workflow
end WebClient
