import Mathlib.Data.List.Forall2
import Phrasebook.Pool
import Phrasebook.Proofs.Runs

/-!
# Programs that run side by side

What a pool gives does not depend on its schedule. Two invariants of the tasks carry this through a
run, one step at a time.

Against any source, a task that is bound to end with some property stays bound to end with it,
however the others move in between (`joinAll_ends`). Against a steady source a task also keeps the
value it will end with, and what it has still to ask for is what it had, less what has been asked;
so the values of a pool are those of its programs, and the source is asked for exactly what the
programs ask for, in some order (`joinAll_of_steady`).
-/

set_option autoImplicit false

namespace Phrasebook

variable {α β γ σ : Type}

/-! ## Against any source -/

namespace Fetching

/-- Whatever is answered, the program ends with a value that has the property. -/
def Ends (P : α → Prop) : Fetching α → Prop
  | done value => P value
  | ask _ resume => ∀ answer, (resume answer).Ends P

/-- Two programs in turn end well when the first does and the second does behind it. -/
theorem Ends.bind {P : α → Prop} {Q : β → Prop} {p : Fetching α} {next : α → Fetching β}
    (h : p.Ends P) (hnext : ∀ a, P a → (next a).Ends Q) : (p.bind next).Ends Q := by
  induction p with
  | done a => exact hnext a h
  | ask locale resume ih => exact fun answer => ih answer (h answer)

/-- A program that ends well gives a good result against every source. -/
theorem Ends.run {P : α → Prop} {p : Fetching α} (h : p.Ends P)
    (fetch : String → StateM σ Answer) (s : σ) : P ((p.run fetch).run s).1 := by
  induction p generalizing s with
  | done a => exact h
  | ask locale resume ih => exact ih _ (h _) _

/-- Every program ends in some result. -/
theorem ends_true (p : Fetching α) : p.Ends fun _ => True := by
  induction p with
  | done a => trivial
  | ask locale resume ih => exact ih

end Fetching

namespace Task

/-- Whatever is answered, the task ends with a value that has the property. -/
def Ends (P : α → Prop) : Task α → Prop
  | running program => program.Ends P
  | waiting answer resume => (resume answer).Ends P

/-- A step leaves a task that ends well. -/
theorem Ends.step {P : α → Prop} {task : Task α} (h : task.Ends P)
    (fetch : String → StateM σ Answer) (s : σ) : ((task.step fetch).run s).1.Ends P := by
  cases task with
  | running program =>
    cases program with
    | done value => exact h
    | ask locale resume => exact h _
  | waiting answer resume => exact h

/-- Finishing a task that ends well gives a good result. -/
theorem Ends.finish {P : α → Prop} {task : Task α} (h : task.Ends P)
    (fetch : String → StateM σ Answer) (s : σ) : P ((task.finish fetch).run s).1 := by
  cases task with
  | running program => exact Fetching.Ends.run h fetch s
  | waiting answer resume => exact Fetching.Ends.run h fetch s

end Task

/-- A relation between two lists survives an exchange at one place that it cannot see. -/
theorem forall₂_set {R : γ → β → Prop} {xs : List γ} {ys : List β} (h : List.Forall₂ R xs ys)
    {i : Nat} {old new : β} (hi : ys[i]? = some old) (hnew : ∀ x, R x old → R x new) :
    List.Forall₂ R xs (ys.set i new) := by
  induction h generalizing i with
  | nil => exact .nil
  | @cons x y xs ys hxy hrest ih =>
    cases i with
    | zero =>
      have hy : y = old := by simpa using hi
      exact .cons (hnew x (hy ▸ hxy)) hrest
    | succ i => exact .cons hxy (ih (by simpa using hi))

namespace Pool

/-- A schedule of steps leaves every task in its place, and ending well. -/
theorem runSchedule_ends {P : γ → α → Prop} {labels : List γ} (fetch : String → StateM σ Answer)
    (schedule : List Nat) {tasks : List (Task α)}
    (h : List.Forall₂ (fun label task => Task.Ends (P label) task) labels tasks) (s : σ) :
    List.Forall₂ (fun label task => Task.Ends (P label) task) labels
      ((runSchedule fetch schedule tasks).run s).1 := by
  induction schedule generalizing tasks s with
  | nil => exact h
  | cons index rest ih =>
    cases htask : tasks[index]? with
    | none =>
      rw [runSchedule, htask]
      exact ih h s
    | some task =>
      rw [runSchedule, htask]
      exact ih (forall₂_set h htask fun label hends => hends.step fetch s) _

/-- Finishing all tasks gives good results, each in its place. -/
theorem finishAll_ends {P : γ → α → Prop} {labels : List γ} {tasks : List (Task α)}
    (h : List.Forall₂ (fun label task => Task.Ends (P label) task) labels tasks)
    (fetch : String → StateM σ Answer) (s : σ) :
    List.Forall₂ P labels ((finishAll fetch tasks).run s).1 := by
  induction h generalizing s with
  | nil => exact .nil
  | cons hends _ ih => exact .cons (hends.finish fetch s) (ih _)

/-- Against any source and under any schedule, each program of a pool ends with what it is bound to
end with, in the place of the program. -/
theorem joinAll_ends {P : γ → α → Prop} {labels : List γ} {programs : List (Fetching α)}
    (h : List.Forall₂ (fun label program => Fetching.Ends (P label) program) labels programs)
    (fetch : String → StateM σ Answer) (schedule : List Nat) (s : σ) :
    List.Forall₂ P labels ((joinAll fetch schedule programs).run s).1 := by
  have hstart : List.Forall₂ (fun label task => Task.Ends (P label) task) labels
      (programs.map Task.running) := List.forall₂_map_right_iff.2 h
  exact finishAll_ends (runSchedule_ends fetch schedule hstart s) fetch _

end Pool

/-! ## Against a steady source -/

namespace Task

/-- What the task ends with under fixed answers. -/
def value (answers : String → Answer) : Task α → α
  | running program => program.value answers
  | waiting answer resume => (resume answer).value answers

/-- What the task has still to ask for under fixed answers. -/
def asked (answers : String → Answer) : Task α → List String
  | running program => program.asked answers
  | waiting answer resume => (resume answer).asked answers

variable {fetch : String → StateM σ Answer} {answers : String → Answer}

/-- A step keeps the value of a task and asks for the next of what the task has to ask for, if it
asks for anything. -/
theorem step_of_steady (h : Fetching.Steady fetch answers) (task : Task α) (s : σ) :
    ∃ now moved, (task.step fetch).run s = (moved, Fetching.afterAsking fetch now s) ∧
      moved.value answers = task.value answers ∧
      task.asked answers = now ++ moved.asked answers := by
  cases task with
  | running program =>
    cases program with
    | done value => exact ⟨[], _, rfl, rfl, rfl⟩
    | ask locale resume =>
      have hanswer : ((fetch locale).run s).1 = answers locale := h locale s
      refine ⟨[locale], .waiting (answers locale) resume, ?_, rfl, rfl⟩
      rw [← hanswer]
      rfl
  | waiting answer resume => exact ⟨[], _, rfl, rfl, rfl⟩

/-- Against a source that does not change, finishing a task gives its value and asks what it
asks. -/
theorem finish_of_steady (h : Fetching.Steady fetch answers) (task : Task α) (s : σ) :
    (task.finish fetch).run s
      = (task.value answers, Fetching.afterAsking fetch (task.asked answers) s) := by
  cases task with
  | running program => exact Fetching.run_of_steady h program s
  | waiting answer resume => exact Fetching.run_of_steady h (resume answer) s

end Task

namespace Pool

variable {fetch : String → StateM σ Answer} {answers : String → Answer}

/-- A schedule moves the tasks on their ways and off none of them: their values stay, and what has
been asked for in between is missing, up to its order, from what they have still to ask for. -/
theorem runSchedule_of_steady (h : Fetching.Steady fetch answers) (schedule : List Nat)
    (tasks : List (Task α)) (s : σ) :
    ∃ now moved, (runSchedule fetch schedule tasks).run s
        = (moved, Fetching.afterAsking fetch now s) ∧
      moved.map (Task.value answers) = tasks.map (Task.value answers) ∧
      (now ++ moved.flatMap (Task.asked answers)).Perm (tasks.flatMap (Task.asked answers)) := by
  induction schedule generalizing tasks s with
  | nil => exact ⟨[], tasks, rfl, rfl, List.Perm.refl _⟩
  | cons index rest ih =>
    cases htask : tasks[index]? with
    | none =>
      rw [runSchedule, htask]
      exact ih tasks s
    | some task =>
      obtain ⟨now, moved, hstep, hvalue, hasked⟩ := Task.step_of_steady h task s
      obtain ⟨hlt, hget⟩ := List.getElem?_eq_some_iff.1 htask
      obtain ⟨before, behind, htasks, -, hset⟩ : ∃ before behind,
          tasks = before ++ tasks[index] :: behind ∧ before.length = index ∧
            tasks.set index moved = before ++ moved :: behind := List.exists_of_set hlt
      rw [hget] at htasks
      obtain ⟨later, others, hrest, hvalues, hperm⟩ :=
        ih (tasks.set index moved) (Fetching.afterAsking fetch now s)
      refine ⟨now ++ later, others, ?_, ?_, ?_⟩
      · rw [runSchedule, htask, Fetching.afterAsking_append, ← hrest]
        have hbind : (do
              let moved ← task.step fetch
              runSchedule fetch rest (tasks.set index moved) : StateM σ _).run s
            = (runSchedule fetch rest (tasks.set index ((task.step fetch).run s).1)).run
                ((task.step fetch).run s).2 := rfl
        rw [hbind, hstep]
      · rw [hvalues, hset, htasks]
        simp [hvalue]
      · rw [hset] at hperm
        rw [htasks]
        simp only [List.flatMap_append, List.flatMap_cons, hasked, List.append_assoc] at hperm ⊢
        exact (hperm.append_left now).trans (List.perm_append_comm_assoc _ _ _)

/-- Against a source that does not change, finishing all tasks gives their values and asks what they
ask. -/
theorem finishAll_of_steady (h : Fetching.Steady fetch answers) (tasks : List (Task α)) (s : σ) :
    (finishAll fetch tasks).run s
      = (tasks.map (Task.value answers),
          Fetching.afterAsking fetch (tasks.flatMap (Task.asked answers)) s) := by
  induction tasks generalizing s with
  | nil => rfl
  | cons task rest ih =>
    have hbind : (finishAll fetch (task :: rest)).run s
        = (((task.finish fetch).run s).1
              :: ((finishAll fetch rest).run ((task.finish fetch).run s).2).1,
            ((finishAll fetch rest).run ((task.finish fetch).run s).2).2) := rfl
    rw [hbind, Task.finish_of_steady h, ih, List.flatMap_cons, Fetching.afterAsking_append]
    rfl

/-- Against a steady source a pool gives the values of its programs, in their order, and asks for
what they ask for, in some order. -/
theorem joinAll_of_steady (h : Fetching.Steady fetch answers) (schedule : List Nat)
    (programs : List (Fetching α)) (s : σ) :
    ∃ order, order.Perm (programs.flatMap (Fetching.asked answers)) ∧
      (joinAll fetch schedule programs).run s
        = (programs.map (Fetching.value answers), Fetching.afterAsking fetch order s) := by
  obtain ⟨now, moved, hschedule, hvalues, hperm⟩ :=
    runSchedule_of_steady h schedule (programs.map Task.running) s
  refine ⟨now ++ moved.flatMap (Task.asked answers), ?_, ?_⟩
  · rw [List.flatMap_map] at hperm
    exact hperm
  · have hbind : (joinAll fetch schedule programs).run s
        = (finishAll fetch ((runSchedule fetch schedule (programs.map Task.running)).run s).1).run
            ((runSchedule fetch schedule (programs.map Task.running)).run s).2 := rfl
    rw [hbind, hschedule, finishAll_of_steady h, hvalues, List.map_map,
      Fetching.afterAsking_append]
    rfl

end Pool

end Phrasebook
