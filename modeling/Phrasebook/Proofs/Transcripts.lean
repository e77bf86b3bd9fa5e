import Phrasebook.Proofs.SideBySide

/-!
# What a source answers on the way

A source may answer differently every time it is asked, and the programs of a pool share what it has
answered among them in an order that only the schedule knows. Still each program has had a
conversation of its own, which takes it from its first question to its value (`Fetching.Gives`), and
the source has had these conversations and nothing else, in some order (`Pool.joinAll_gives`). Where
no question was asked twice, the answers can be fixed afterwards, and the value of each program is
the one under fixed answers (`Fetching.Gives.of_answers`).
-/

set_option autoImplicit false

namespace Phrasebook

variable {α σ : Type}

namespace Fetching

/-! ## Conversations -/

/-- What the source answers when it is asked for the locales in turn, with the locales. -/
def transcript (fetch : String → StateM σ Answer) : List String → σ → List (String × Answer)
  | [], _ => []
  | locale :: rest, s =>
    (locale, ((fetch locale).run s).1) :: transcript fetch rest ((fetch locale).run s).2

/-- Two rows of questions have the transcript of one behind that of the other. -/
theorem transcript_append (fetch : String → StateM σ Answer) (before behind : List String) (s : σ) :
    transcript fetch (before ++ behind) s
      = transcript fetch before s ++ transcript fetch behind (afterAsking fetch before s) := by
  induction before generalizing s with
  | nil => rfl
  | cons locale before ih =>
    rw [List.cons_append, transcript, ih, transcript, afterAsking_cons, List.cons_append]

/-- A transcript has the questions in their order. -/
@[simp] theorem map_fst_transcript (fetch : String → StateM σ Answer) (locales : List String)
    (s : σ) : (transcript fetch locales s).map Prod.fst = locales := by
  induction locales generalizing s with
  | nil => rfl
  | cons locale rest ih => rw [transcript, List.map_cons, ih]

/-- The program ends with the value when it gets the answers of the conversation, in which it asks
for exactly what it wants to know. -/
def Gives : Fetching α → List (String × Answer) → α → Prop
  | done a, conversation, value => conversation = [] ∧ value = a
  | ask locale resume, conversation, value =>
    ∃ answer rest, conversation = (locale, answer) :: rest ∧ (resume answer).Gives rest value

/-- Every run is a conversation with the source. -/
theorem run_gives (fetch : String → StateM σ Answer) (p : Fetching α) (s : σ) :
    ∃ order value, (p.run fetch).run s = (value, afterAsking fetch order s) ∧
      p.Gives (transcript fetch order s) value := by
  induction p generalizing s with
  | done a => exact ⟨[], a, rfl, rfl, rfl⟩
  | ask locale resume ih =>
    obtain ⟨order, value, hrun, hgives⟩ :=
      ih ((fetch locale).run s).1 ((fetch locale).run s).2
    exact ⟨locale :: order, value, hrun, _, _, rfl, hgives⟩

/-- Under fixed answers that agree with a conversation, the program has the same value. -/
theorem Gives.of_answers {p : Fetching α} {conversation : List (String × Answer)} {value : α}
    (h : p.Gives conversation value) {answers : String → Answer}
    (hanswers : ∀ entry ∈ conversation, answers entry.1 = entry.2) : p.value answers = value := by
  induction p generalizing conversation with
  | done a => exact h.2.symm
  | ask locale resume ih =>
    obtain ⟨answer, rest, rfl, hrest⟩ := h
    have hfirst : answers locale = answer := hanswers _ List.mem_cons_self
    rw [Fetching.value, hfirst]
    exact ih answer hrest fun entry hentry => hanswers entry (List.mem_cons_of_mem _ hentry)

/-- A transcript in which nothing is asked twice fixes the answers. -/
theorem exists_answers (fetch : String → StateM σ Answer) {order : List String}
    (hnodup : order.Nodup) (s : σ) :
    ∃ answers : String → Answer, ∀ entry ∈ transcript fetch order s, answers entry.1 = entry.2 := by
  induction order generalizing s with
  | nil => exact ⟨fun locale => .error (.notFound locale), by simp [transcript]⟩
  | cons locale rest ih =>
    obtain ⟨hnew, hrest⟩ := List.nodup_cons.1 hnodup
    obtain ⟨answers, hanswers⟩ := ih hrest ((fetch locale).run s).2
    refine ⟨fun other => if other = locale then ((fetch locale).run s).1 else answers other, ?_⟩
    intro entry hentry
    rw [transcript, List.mem_cons] at hentry
    rcases hentry with rfl | hentry
    · exact if_pos rfl
    · have hmem : entry.1 ∈ rest := by
        rw [← map_fst_transcript fetch rest ((fetch locale).run s).2]
        exact List.mem_map_of_mem hentry
      have hne : entry.1 ≠ locale := fun heq => hnew (heq ▸ hmem)
      exact (if_neg hne).trans (hanswers entry hentry)

/-- With fixed answers a transcript is known from what has been asked for. -/
theorem mem_transcript {fetch : String → StateM σ Answer} {order : List String} {s : σ}
    {answers : String → Answer}
    (hanswers : ∀ entry ∈ transcript fetch order s, answers entry.1 = entry.2)
    {locale : String} {answer : Answer} :
    (locale, answer) ∈ transcript fetch order s ↔ locale ∈ order ∧ answers locale = answer := by
  constructor
  · intro hmem
    refine ⟨?_, hanswers _ hmem⟩
    rw [← map_fst_transcript fetch order s]
    exact List.mem_map_of_mem hmem
  · rintro ⟨hlocale, rfl⟩
    rw [← map_fst_transcript fetch order s] at hlocale
    obtain ⟨entry, hentry, rfl⟩ := List.mem_map.1 hlocale
    rw [hanswers entry hentry]
    exact hentry

end Fetching

/-! ## Conversations side by side -/

open Fetching (transcript afterAsking)

namespace Task

/-- What is left of the task ends with the value when it gets the answers of the conversation. -/
def Gives : Task α → List (String × Answer) → α → Prop
  | running program => program.Gives
  | waiting answer resume => (resume answer).Gives

/-- A step has its part of the conversation: what the moved task goes on to say belongs behind
it. -/
theorem step_gives (fetch : String → StateM σ Answer) (task : Task α) (s : σ) :
    ∃ now moved, (task.step fetch).run s = (moved, afterAsking fetch now s) ∧
      ∀ conversation value, moved.Gives conversation value →
        task.Gives (transcript fetch now s ++ conversation) value := by
  cases task with
  | running program =>
    cases program with
    | done a => exact ⟨[], _, rfl, fun _ _ h => h⟩
    | ask locale resume =>
      exact ⟨[locale], .waiting ((fetch locale).run s).1 resume, rfl,
        fun conversation _ h => ⟨_, conversation, rfl, h⟩⟩
  | waiting answer resume => exact ⟨[], _, rfl, fun _ _ h => h⟩

/-- Finishing a task asks a row of questions and gives what they make it give. -/
theorem finish_gives (fetch : String → StateM σ Answer) (task : Task α) (s : σ) :
    ∃ order value, (task.finish fetch).run s = (value, afterAsking fetch order s) ∧
      task.Gives (transcript fetch order s) value := by
  cases task with
  | running program => exact Fetching.run_gives fetch program s
  | waiting answer resume => exact Fetching.run_gives fetch (resume answer) s

end Task

namespace Pool

/-- Each task ends with its value at the end of its conversation. -/
abbrev AllGive (tasks : List (Task α)) (talks : List (List (String × Answer) × α)) : Prop :=
  List.Forall₂ (fun task talk => task.Gives talk.1 talk.2) tasks talks

/-- One task says something first. The others are not concerned, and all that is said is what was
said before with that added somewhere. -/
theorem AllGive.of_set {tasks : List (Task α)} {index : Nat} {task moved : Task α}
    {talks : List (List (String × Answer) × α)} (h : AllGive (tasks.set index moved) talks)
    (htask : tasks[index]? = some task) {first : List (String × Answer)}
    (hfirst : ∀ conversation value, moved.Gives conversation value →
      task.Gives (first ++ conversation) value) :
    ∃ longer, AllGive tasks longer ∧ longer.map Prod.snd = talks.map Prod.snd ∧
      (first ++ talks.flatMap Prod.fst).Perm (longer.flatMap Prod.fst) := by
  induction tasks generalizing index talks with
  | nil => cases htask
  | cons head rest ih =>
    cases index with
    | zero =>
      have hhead : head = task := by simpa using htask
      obtain ⟨talk, talks, hmoved, hrest, rfl⟩ := List.forall₂_cons_left_iff.1 h
      refine ⟨(first ++ talk.1, talk.2) :: talks,
        .cons (hhead ▸ hfirst talk.1 talk.2 hmoved) hrest, rfl, ?_⟩
      simp
    | succ index =>
      obtain ⟨talk, talks, hhead, hrest, rfl⟩ := List.forall₂_cons_left_iff.1 h
      obtain ⟨longer, hlonger, hvalues, hperm⟩ := ih hrest (by simpa using htask)
      refine ⟨talk :: longer, .cons hhead hlonger, ?_, ?_⟩
      · rw [List.map_cons, List.map_cons, hvalues]
      · rw [List.flatMap_cons, List.flatMap_cons]
        exact (List.perm_append_comm_assoc _ _ _).trans (hperm.append_left talk.1)

/-- What the moved tasks give is what the tasks give on longer talks, which begin with what the
schedule asked. -/
theorem runSchedule_gives (fetch : String → StateM σ Answer) (schedule : List Nat)
    (tasks : List (Task α)) (s : σ) :
    ∃ now moved, (runSchedule fetch schedule tasks).run s = (moved, afterAsking fetch now s) ∧
      ∀ talks, AllGive moved talks →
        ∃ longer, AllGive tasks longer ∧ longer.map Prod.snd = talks.map Prod.snd ∧
          (transcript fetch now s ++ talks.flatMap Prod.fst).Perm (longer.flatMap Prod.fst) := by
  induction schedule generalizing tasks s with
  | nil => exact ⟨[], tasks, rfl, fun talks h => ⟨talks, h, rfl, List.Perm.refl _⟩⟩
  | cons index rest ih =>
    cases htask : tasks[index]? with
    | none =>
      rw [runSchedule, htask]
      exact ih tasks s
    | some task =>
      obtain ⟨now, moved, hstep, hgives⟩ := Task.step_gives fetch task s
      obtain ⟨later, others, hrest, hothers⟩ :=
        ih (tasks.set index moved) (afterAsking fetch now s)
      refine ⟨now ++ later, others, ?_, ?_⟩
      · rw [runSchedule, htask, Fetching.afterAsking_append, ← hrest]
        have hbind : (do
              let moved ← task.step fetch
              runSchedule fetch rest (tasks.set index moved) : StateM σ _).run s
            = (runSchedule fetch rest (tasks.set index ((task.step fetch).run s).1)).run
                ((task.step fetch).run s).2 := rfl
        rw [hbind, hstep]
      · intro talks htalks
        obtain ⟨between, hbetween, hvalues, hperm⟩ := hothers talks htalks
        obtain ⟨longer, hlonger, hsame, hall⟩ := hbetween.of_set htask hgives
        refine ⟨longer, hlonger, hsame.trans hvalues, ?_⟩
        rw [Fetching.transcript_append, List.append_assoc]
        exact (hperm.append_left _).trans hall

/-- Finishing all tasks asks their questions one task after the other, and gives what they make them
give. -/
theorem finishAll_gives (fetch : String → StateM σ Answer) (tasks : List (Task α)) (s : σ) :
    ∃ order talks, (finishAll fetch tasks).run s
        = (talks.map Prod.snd, afterAsking fetch order s) ∧
      AllGive tasks talks ∧ transcript fetch order s = talks.flatMap Prod.fst := by
  induction tasks generalizing s with
  | nil => exact ⟨[], [], rfl, .nil, rfl⟩
  | cons task rest ih =>
    obtain ⟨first, value, hfinish, hgives⟩ := Task.finish_gives fetch task s
    obtain ⟨order, talks, hrest, htalks, hsaid⟩ := ih (afterAsking fetch first s)
    refine ⟨first ++ order, (transcript fetch first s, value) :: talks, ?_,
      .cons hgives htalks, ?_⟩
    · have hbind : (finishAll fetch (task :: rest)).run s
          = (((task.finish fetch).run s).1
                :: ((finishAll fetch rest).run ((task.finish fetch).run s).2).1,
              ((finishAll fetch rest).run ((task.finish fetch).run s).2).2) := rfl
      rw [hbind, hfinish, hrest, Fetching.afterAsking_append]
      rfl
    · rw [Fetching.transcript_append, hsaid, List.flatMap_cons]

/-- Against any source and under any schedule, each program of a pool has a conversation of its own
and ends with what that gives, and the source has these conversations and no other, in some
order. -/
theorem joinAll_gives (fetch : String → StateM σ Answer) (schedule : List Nat)
    (programs : List (Fetching α)) (s : σ) :
    ∃ order talks, (joinAll fetch schedule programs).run s
        = (talks.map Prod.snd, afterAsking fetch order s) ∧
      List.Forall₂ (fun program talk => Fetching.Gives program talk.1 talk.2) programs talks ∧
      (transcript fetch order s).Perm (talks.flatMap Prod.fst) := by
  obtain ⟨now, moved, hschedule, hmoved⟩ :=
    runSchedule_gives fetch schedule (programs.map Task.running) s
  obtain ⟨later, talks, hfinish, htalks, hsaid⟩ :=
    finishAll_gives fetch moved (afterAsking fetch now s)
  obtain ⟨longer, hlonger, hvalues, hperm⟩ := hmoved talks htalks
  refine ⟨now ++ later, longer, ?_, List.forall₂_map_left_iff.1 hlonger, ?_⟩
  · have hbind : (joinAll fetch schedule programs).run s
        = (finishAll fetch ((runSchedule fetch schedule (programs.map Task.running)).run s).1).run
            ((runSchedule fetch schedule (programs.map Task.running)).run s).2 := rfl
    rw [hbind, hschedule, hvalues, Fetching.afterAsking_append]
    exact hfinish
  · rw [Fetching.transcript_append, hsaid]
    exact hperm

/-- The values of the programs are those under fixed answers that agree with all that was said. -/
theorem values_of_answers {programs : List (Fetching α)}
    {talks : List (List (String × Answer) × α)}
    (h : List.Forall₂ (fun program talk => Fetching.Gives program talk.1 talk.2) programs talks)
    {answers : String → Answer}
    (hanswers : ∀ entry ∈ talks.flatMap Prod.fst, answers entry.1 = entry.2) :
    talks.map Prod.snd = programs.map (Fetching.value answers) := by
  induction h with
  | nil => rfl
  | @cons program talk programs talks hgives _ ih =>
    simp only [List.flatMap_cons, List.mem_append] at hanswers
    have hvalue : program.value answers = talk.2 :=
      hgives.of_answers fun entry hentry => hanswers entry (Or.inl hentry)
    rw [List.map_cons, List.map_cons, hvalue,
      ih fun entry hentry => hanswers entry (Or.inr hentry)]

end Pool

end Phrasebook
