import Phrasebook.Fetching

/-!
# Programs that fetch side by side

A pool runs several programs at once. A task of the pool moves in steps: it sends the question its
program asks, and it goes on when the answer is there; between the two, other tasks may move. A
schedule says which task moves next. When the schedule ends, the tasks that are still under way are
run to their ends, so every program of a pool ends, in whatever order the schedule lets them.
-/

set_option autoImplicit false

namespace Phrasebook

/-- A program of a pool. -/
inductive Task (α : Type) where
  /-- The program is about to ask, or has ended. -/
  | running (program : Fetching α)
  /-- The question has been answered and the program has not gone on yet. -/
  | waiting (answer : Answer) (resume : Answer → Fetching α)

namespace Task

variable {α : Type} {m : Type → Type} [Monad m]

/-- Moves the task by one step. A program that has ended stays as it is. -/
def step (fetch : String → m Answer) : Task α → m (Task α)
  | .running (.done value) => pure (.running (.done value))
  | .running (.ask locale resume) => do
    let answer ← fetch locale
    pure (.waiting answer resume)
  | .waiting answer resume => pure (.running (resume answer))

/-- Runs the task to its end. -/
def finish (fetch : String → m Answer) : Task α → m α
  | .running program => program.run fetch
  | .waiting answer resume => (resume answer).run fetch

end Task

namespace Pool

variable {α : Type} {m : Type → Type} [Monad m]

/-- Moves the tasks in the order of the schedule. A number that no task has moves none. -/
def runSchedule (fetch : String → m Answer) : List Nat → List (Task α) → m (List (Task α))
  | [], tasks => pure tasks
  | index :: rest, tasks =>
    match tasks[index]? with
    | none => runSchedule fetch rest tasks
    | some task => do
      let moved ← task.step fetch
      runSchedule fetch rest (tasks.set index moved)

/-- Runs the tasks to their ends. -/
def finishAll (fetch : String → m Answer) : List (Task α) → m (List α)
  | [] => pure []
  | task :: rest => do
    let value ← task.finish fetch
    let values ← finishAll fetch rest
    pure (value :: values)

/-- Runs the programs side by side and waits for all of them. The values stand in the order of the
programs, whatever the schedule. -/
def joinAll (fetch : String → m Answer) (schedule : List Nat) (programs : List (Fetching α)) :
    m (List α) := do
  let tasks ← runSchedule fetch schedule (programs.map .running)
  finishAll fetch tasks

end Pool

end Phrasebook
