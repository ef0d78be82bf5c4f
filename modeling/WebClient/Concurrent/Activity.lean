import WebClient.Gateway.Wire

/-!
# Activity — what the client does, step by step

An activity is a finite sequence of atomic steps on a shared state, with exchanges with the backend
in between.  Nothing happens between the reading and the writing of one step; between two steps, and
while an answer is awaited, other activities may take steps.

* In `do` notation every `modifyGet`, `modify` or `get` is one atomic step, and `exchange` sends a
  request and waits for what becomes of it.
* `Activity.run` performs an activity while nothing else happens.
-/

namespace WebClient

/-- A state shared by activities, and the requests sent so far, oldest first. -/
structure Wired (σ : Type) where
  state : σ
  sent : List Request

/-- An activity with result type `α` on a shared state `σ`. -/
inductive Activity (σ : Type) (α : Type) where
  | done (result : α)
  /-- An atomic step: what it makes of the state, and how to go on, given the state before. -/
  | atomic (update : σ → σ) (next : σ → Activity σ α)
  /-- Sends a request and goes on with what becomes of it. -/
  | exchange (request : Request) (next : Outcome → Activity σ α)

namespace Activity

variable {σ α β : Type}

def bind : Activity σ α → (α → Activity σ β) → Activity σ β
  | .done a, f => f a
  | .atomic update next, f => .atomic update fun s => (next s).bind f
  | .exchange request next, f => .exchange request fun o => (next o).bind f

instance : Monad (Activity σ) where
  pure := .done
  bind := bind

instance : MonadStateOf σ (Activity σ) where
  get := .atomic id fun s => .done s
  set s := .atomic (fun _ => s) fun _ => .done ()
  modifyGet f := .atomic (fun s => (f s).2) fun s => .done (f s).1

/-- Sends a request and waits for what becomes of it. -/
def send (request : Request) : Activity σ Outcome := .exchange request .done

/-- Performs an activity while nothing else happens. -/
def run (backend : Backend) : Activity σ α → Wired σ → α × Wired σ
  | .done a, w => (a, w)
  | .atomic update next, w => (next w.state).run backend { w with state := update w.state }
  | .exchange request next, w =>
    (next (backend w.sent request)).run backend { w with sent := w.sent ++ [request] }

/-- Performs an activity up to its first exchange and sends the request; what remains is an activity
that has the answer but has not looked at it. -/
def launch (backend : Backend) : Activity σ α → Wired σ → Activity σ α × Wired σ
  | .done a, w => (.done a, w)
  | .atomic update next, w => (next w.state).launch backend { w with state := update w.state }
  | .exchange request next, w =>
    (next (backend w.sent request), { w with sent := w.sent ++ [request] })

def launchAll (backend : Backend) :
    List (Activity σ α) → Wired σ → List (Activity σ α) × Wired σ
  | [], w => ([], w)
  | activity :: activities, w =>
    let (launched, w) := activity.launch backend w
    let (rest, w) := launchAll backend activities w
    (launched :: rest, w)

def runAll (backend : Backend) : List (Activity σ α) → Wired σ → List α × Wired σ
  | [], w => ([], w)
  | activity :: activities, w =>
    let (a, w) := activity.run backend w
    let (rest, w) := runAll backend activities w
    (a :: rest, w)

/-- Running a sequence is running its parts in order. -/
theorem run_bind (backend : Backend) (activity : Activity σ α) (f : α → Activity σ β)
    (w : Wired σ) :
    (activity.bind f).run backend w =
      (f (activity.run backend w).1).run backend (activity.run backend w).2 := by
  induction activity generalizing w with
  | done a => rfl
  | atomic update next ih => exact ih _ _
  | exchange request next ih => exact ih _ _

/-- Launching an activity and then performing what remains is performing the activity. -/
theorem run_launch (backend : Backend) (activity : Activity σ α) (w : Wired σ) :
    (activity.launch backend w).1.run backend (activity.launch backend w).2 =
      activity.run backend w := by
  induction activity generalizing w with
  | done a => rfl
  | atomic update next ih => exact ih _ _
  | exchange request next _ => rfl

end Activity
end WebClient
