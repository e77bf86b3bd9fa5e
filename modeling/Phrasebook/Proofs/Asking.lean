import Phrasebook.Proofs.SideBySide

/-!
# What programs ask for

Of a source that may answer differently every time only its questions can be known. A program that
asks for nothing but names of some kind (`Fetching.Asks`), whatever it is answered, keeps every
invariant of the source that such questions keep. The same holds of programs that run side by side
under any schedule (`Pool.joinAll_keeps`). `watched` is a source together with the names it has been
asked for, so what a run asks of any source at all can be read off in the end.
-/

set_option autoImplicit false

namespace Phrasebook

variable {α β σ : Type}

namespace Fetching

/-- Whatever is answered, the program asks for names with the property only. -/
def Asks (P : String → Prop) : Fetching α → Prop
  | done _ => True
  | ask name resume => P name ∧ ∀ answer, (resume answer).Asks P

/-- Two programs in turn ask for nothing else when neither does. -/
theorem Asks.bind {P : String → Prop} {p : Fetching α} {next : α → Fetching β} (h : p.Asks P)
    (hnext : ∀ a, (next a).Asks P) : (p.bind next).Asks P := by
  induction p with
  | done a => exact hnext a
  | ask name resume ih => exact ⟨h.1, fun answer => ih answer (h.2 answer)⟩

/-- The source keeps the invariant when it is asked for a name with the property. -/
def Keeps (P : String → Prop) (I : σ → Prop) (fetch : String → StateM σ Answer) : Prop :=
  ∀ name s, P name → I s → I ((fetch name).run s).2

variable {P : String → Prop} {I : σ → Prop} {fetch : String → StateM σ Answer}

/-- Running a program keeps what every question that it asks keeps. -/
theorem Asks.run {p : Fetching α} (h : p.Asks P) (hkeeps : Keeps P I fetch) {s : σ} (hs : I s) :
    I ((p.run fetch).run s).2 := by
  induction p generalizing s with
  | done a => exact hs
  | ask name resume ih => exact ih _ (h.2 _) (hkeeps name s h.1 hs)

end Fetching

/-! ## Side by side -/

namespace Task

/-- Whatever is answered, the task asks for names with the property only. -/
def Asks (P : String → Prop) : Task α → Prop
  | running program => program.Asks P
  | waiting answer resume => (resume answer).Asks P

variable {P : String → Prop} {I : σ → Prop} {fetch : String → StateM σ Answer}

/-- A step of a task keeps what its questions keep, and the rest of the task asks for no more. -/
theorem Asks.step {task : Task α} (h : task.Asks P) (hkeeps : Fetching.Keeps P I fetch) {s : σ}
    (hs : I s) : ((task.step fetch).run s).1.Asks P ∧ I ((task.step fetch).run s).2 := by
  cases task with
  | running program =>
    cases program with
    | done value => exact ⟨h, hs⟩
    | ask name resume => exact ⟨h.2 _, hkeeps name s h.1 hs⟩
  | waiting answer resume => exact ⟨h, hs⟩

/-- Finishing a task keeps what its questions keep. -/
theorem Asks.finish {task : Task α} (h : task.Asks P) (hkeeps : Fetching.Keeps P I fetch) {s : σ}
    (hs : I s) : I ((task.finish fetch).run s).2 := by
  cases task with
  | running program => exact Fetching.Asks.run h hkeeps hs
  | waiting answer resume => exact Fetching.Asks.run h hkeeps hs

end Task

namespace Pool

variable {P : String → Prop} {I : σ → Prop} {fetch : String → StateM σ Answer}

/-- A schedule of steps keeps what the questions of all tasks keep. -/
theorem runSchedule_keeps (hkeeps : Fetching.Keeps P I fetch) (schedule : List Nat)
    {tasks : List (Task α)} (h : ∀ task ∈ tasks, task.Asks P) {s : σ} (hs : I s) :
    (∀ task ∈ ((runSchedule fetch schedule tasks).run s).1, task.Asks P) ∧
      I ((runSchedule fetch schedule tasks).run s).2 := by
  induction schedule generalizing tasks s with
  | nil => exact ⟨h, hs⟩
  | cons index rest ih =>
    cases htask : tasks[index]? with
    | none =>
      rw [runSchedule, htask]
      exact ih h hs
    | some task =>
      obtain ⟨hasks, hkept⟩ := (h task (List.mem_of_getElem? htask)).step hkeeps hs
      rw [runSchedule, htask]
      refine ih ?_ hkept
      intro other hother
      rcases List.mem_or_eq_of_mem_set hother with hmem | rfl
      · exact h other hmem
      · exact hasks

/-- Finishing all tasks keeps what their questions keep. -/
theorem finishAll_keeps (hkeeps : Fetching.Keeps P I fetch) {tasks : List (Task α)}
    (h : ∀ task ∈ tasks, task.Asks P) {s : σ} (hs : I s) : I ((finishAll fetch tasks).run s).2 := by
  induction tasks generalizing s with
  | nil => exact hs
  | cons task rest ih =>
    exact ih (fun other hother => h other (List.mem_cons_of_mem _ hother))
      ((h task List.mem_cons_self).finish hkeeps hs)

/-- Programs that ask for names with the property only keep an invariant of the source under any
schedule. -/
theorem joinAll_keeps (hkeeps : Fetching.Keeps P I fetch) (schedule : List Nat)
    {programs : List (Fetching α)} (h : ∀ program ∈ programs, program.Asks P) {s : σ} (hs : I s) :
    I ((joinAll fetch schedule programs).run s).2 := by
  have hstart : ∀ task ∈ programs.map Task.running, task.Asks P := by
    intro task htask
    obtain ⟨program, hprogram, rfl⟩ := List.mem_map.1 htask
    exact h program hprogram
  obtain ⟨hasks, hkept⟩ := runSchedule_keeps hkeeps schedule hstart hs
  exact finishAll_keeps hkeeps hasks hkept

end Pool

/-! ## Watching a source -/

/-- The function, together with the names that it has been called with, in order. -/
def watched (call : String → StateM σ β) (name : String) : StateM (List String × σ) β :=
  fun (names, s) =>
    let (result, s) := (call name).run s
    (result, names ++ [name], s)

/-- Names with the property leave only such names behind. -/
theorem keeps_watched (P : String → Prop) (fetch : String → StateM σ Answer) :
    Fetching.Keeps P (fun s => ∀ name ∈ s.1, P name) (watched fetch) := by
  intro name s hname hs other hother
  rcases List.mem_append.1 hother with hmem | hmem
  · exact hs other hmem
  · exact List.mem_singleton.1 hmem ▸ hname

end Phrasebook
