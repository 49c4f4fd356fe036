import Mathlib.Data.List.Perm.Basic
import VendingSystem.Machine
import VendingSystem.Transaction

namespace VendingSystem

/-!
# Services that interleave tasks over one database

A task is what a piece of work has read so far and what it does next.  Its
next step is one transaction, which answers the tasks that follow it; when the
transaction fails, the task says what is left to do.  Tasks are advanced in
any order, and a crash loses all of them but nothing that was committed.
-/

/-- The tasks that can begin, what each does next, and after a failure. -/
structure Service (State Error Task Input : Type) where
  starts : Task → Bool
  perform : Task → Input → Transaction State Error (List Task)
  recover : Task → Error → List Task

namespace Service

variable {State Error Task Input : Type}

/-- The committed state and the tasks in hand. -/
structure Runtime (State Task : Type) where
  db : State
  tasks : List Task
  deriving DecidableEq

inductive Event (Error Task Input : Type) where
  | submit (task : Task)
  | advance (position : Nat) (input : Input)
  | fail (position : Nat) (refusal : Error)
  | crash

/-- The tasks that an executed transaction leaves. -/
def followUps
    (service : Service State Error Task Input)
    (task : Task) : Except Error (List Task) → List Task
  | .ok tasks => tasks
  | .error refusal => service.recover task refusal

/-- The runtime after the next transaction of one task. -/
def advanced
    (service : Service State Error Task Input)
    (runtime : Runtime State Task)
    (position : Nat)
    (task : Task)
    (input : Input) : Runtime State Task :=
  let executed := (service.perform task input).execute runtime.db
  { db := executed.2
    tasks :=
      runtime.tasks.eraseIdx position ++ service.followUps task executed.1 }

/-- Any task in hand can be next. -/
def machine (service : Service State Error Task Input) :
    Machine (Runtime State Task) (Event Error Task Input) where
  step runtime
    | .submit task =>
      if service.starts task then
        some { runtime with tasks := runtime.tasks ++ [task] }
      else none
    | .advance position input =>
      runtime.tasks[position]?.map fun task =>
        service.advanced runtime position task input
    | .fail position refusal =>
      runtime.tasks[position]?.map fun task =>
        { runtime with
          tasks :=
            runtime.tasks.eraseIdx position ++
              service.recover task refusal }
    | .crash => some { runtime with tasks := [] }

/-- A condition on the task that an event advances. -/
def Meets
    (condition : State → Task → Input → Prop)
    (runtime : Runtime State Task) : Event Error Task Input → Prop
  | .submit _ => True
  | .advance position input =>
    ∀ task ∈ runtime.tasks[position]?, condition runtime.db task input
  | .fail _ _ => True
  | .crash => True

instance decidableMeets
    {condition : State → Task → Input → Prop}
    [∀ db task input, Decidable (condition db task input)]
    (runtime : Runtime State Task) :
    ∀ event : Event Error Task Input,
      Decidable (Meets condition runtime event)
  | .submit _ => isTrue trivial
  | .advance position input =>
    match found : runtime.tasks[position]? with
    | none => isTrue (by simp [Meets, found])
    | some task =>
      decidable_of_iff (condition runtime.db task input) (by
        simp [Meets, found])
  | .fail _ _ => isTrue trivial
  | .crash => isTrue trivial

theorem meets_of_always
    {condition : State → Task → Input → Prop}
    (always : ∀ db task input, condition db task input)
    (runtime : Runtime State Task)
    (event : Event Error Task Input) :
    Meets condition runtime event := by
  cases event with
  | advance position input => exact fun task _ => always _ task input
  | submit | fail | crash => trivial

variable {service : Service State Error Task Input}

/-- What a step does, with the outcome of the transaction it executes. -/
inductive Takes
    (service : Service State Error Task Input)
    (runtime : Runtime State Task) :
    Event Error Task Input → Runtime State Task → Prop where
  | submitted
      {task : Task}
      (starts : service.starts task = true) :
      Takes service runtime (.submit task)
        { runtime with tasks := runtime.tasks ++ [task] }
  | committed
      {position : Nat}
      {input : Input}
      {task : Task}
      {answer : List Task}
      {after : State}
      (found : runtime.tasks[position]? = some task)
      (commits :
        (service.perform task input).Commits runtime.db answer after) :
      Takes service runtime (.advance position input)
        { db := after
          tasks := runtime.tasks.eraseIdx position ++ answer }
  | aborted
      {position : Nat}
      {input : Input}
      {task : Task}
      {refusal : Error}
      (found : runtime.tasks[position]? = some task)
      (refused :
        (service.perform task input).execute runtime.db =
          (.error refusal, runtime.db)) :
      Takes service runtime (.advance position input)
        { runtime with
          tasks :=
            runtime.tasks.eraseIdx position ++ service.recover task refusal }
  | failed
      {position : Nat}
      {task : Task}
      {refusal : Error}
      (found : runtime.tasks[position]? = some task) :
      Takes service runtime (.fail position refusal)
        { runtime with
          tasks :=
            runtime.tasks.eraseIdx position ++ service.recover task refusal }
  | crashed :
      Takes service runtime .crash { runtime with tasks := [] }

variable {event : Event Error Task Input} {next runtime : Runtime State Task}

theorem takes_of_step
    (step : service.machine.step runtime event = some next) :
    service.Takes runtime event next := by
  cases event with
  | submit task =>
    simp only [machine, Option.ite_none_right_eq_some] at step
    obtain ⟨starts, step⟩ := step
    cases step
    exact .submitted starts
  | crash =>
    cases step
    exact .crashed
  | fail position refusal =>
    simp only [machine, Option.map_eq_some_iff] at step
    obtain ⟨task, found, rfl⟩ := step
    exact .failed found
  | advance position input =>
    simp only [machine, Option.map_eq_some_iff] at step
    obtain ⟨task, found, rfl⟩ := step
    rcases Transaction.execute_cases (service.perform task input)
        runtime.db with
      ⟨refusal, executed⟩ | ⟨answer, after, committed, executed⟩
    · simp only [advanced, executed, followUps]
      exact .aborted found executed
    · simp only [advanced, executed, followUps]
      exact .committed found committed

theorem step_db_cases
    (step : service.machine.step runtime event = some next) :
    next.db = runtime.db ∨
      ∃ position input task answer,
        event = .advance position input ∧
        runtime.tasks[position]? = some task ∧
        (service.perform task input).Commits runtime.db answer next.db := by
  cases takes_of_step step with
  | committed found commits => exact Or.inr ⟨_, _, _, _, rfl, found, commits⟩
  | submitted | aborted | failed | crashed => exact Or.inl rfl

/-- The database and every task in hand are in order. -/
structure Holds
    (invariant : State → Prop)
    (inOrder : State → Task → Prop)
    (runtime : Runtime State Task) : Prop where
  db : invariant runtime.db
  tasks : ∀ task ∈ runtime.tasks, inOrder runtime.db task

/--
What the transactions of a service must keep, under a condition on the task
and its input: the invariant of the database, the order of the tasks that
follow, and the order of every other task in hand.
-/
structure Keeps
    (service : Service State Error Task Input)
    (condition : State → Task → Input → Prop)
    (invariant : State → Prop)
    (inOrder : State → Task → Prop) : Prop where
  starts : ∀ {db task}, service.starts task = true → inOrder db task
  recovers : ∀ {db task refusal followUp},
    inOrder db task → followUp ∈ service.recover task refusal →
      inOrder db followUp
  performs : ∀ {before after task input answer},
    invariant before → inOrder before task → condition before task input →
      (service.perform task input).Commits before answer after →
        invariant after ∧ ∀ followUp ∈ answer, inOrder after followUp
  others : ∀ {before after task input answer other},
    invariant before → inOrder before task → condition before task input →
      (service.perform task input).Commits before answer after →
        inOrder before other → inOrder after other

theorem countP_followUps
    {tasks : List Task}
    {position : Nat}
    {task : Task}
    (found : tasks[position]? = some task)
    (counted : Task → Bool)
    (answer : List Task) :
    (tasks.eraseIdx position ++ answer).countP counted +
        (if counted task then 1 else 0) =
      tasks.countP counted + answer.countP counted := by
  obtain ⟨inBounds, rfl⟩ := List.getElem?_eq_some_iff.mp found
  have split :=
    (List.getElem_cons_eraseIdx_perm inBounds).countP_eq counted
  rw [List.countP_cons] at split
  rw [List.countP_append]
  omega

variable
  {condition : State → Task → Input → Prop}
  {invariant : State → Prop}
  {inOrder : State → Task → Prop}

theorem Holds.step
    (keeps : service.Keeps condition invariant inOrder)
    (holds : Holds invariant inOrder runtime)
    (meets : Meets condition runtime event)
    (step : service.machine.step runtime event = some next) :
    Holds invariant inOrder next := by
  cases takes_of_step step with
  | submitted starts =>
    refine ⟨holds.db, fun other member => ?_⟩
    rcases List.mem_append.mp member with old | new
    · exact holds.tasks other old
    · rw [List.mem_singleton.mp new]
      exact keeps.starts starts
  | crashed => exact ⟨holds.db, fun _ member => by cases member⟩
  | failed found | aborted found =>
    have taskInOrder := holds.tasks _ (List.mem_of_getElem? found)
    refine ⟨holds.db, fun other member => ?_⟩
    rcases List.mem_append.mp member with old | new
    · exact holds.tasks other (List.mem_of_mem_eraseIdx old)
    · exact keeps.recovers taskInOrder new
  | committed found commits =>
    have taskInOrder := holds.tasks _ (List.mem_of_getElem? found)
    have met := meets _ found
    have performed := keeps.performs holds.db taskInOrder met commits
    refine ⟨performed.1, fun other member => ?_⟩
    rcases List.mem_append.mp member with old | new
    · exact keeps.others holds.db taskInOrder met commits
        (holds.tasks other (List.mem_of_mem_eraseIdx old))
    · exact performed.2 other new

theorem Holds.run
    (keeps : service.Keeps condition invariant inOrder)
    {first last : Runtime State Task}
    {events : List (Event Error Task Input)}
    (holds : Holds invariant inOrder first)
    (meets : service.machine.RunMeets (Meets condition) first events)
    (run : service.machine.run first events = some last) :
    Holds invariant inOrder last :=
  Machine.run_keeps_of_meets
    (fun holds meets step => Holds.step keeps holds meets step)
    holds meets run

theorem Holds.idle
    {db : State}
    (holds : invariant db) :
    Holds invariant inOrder { db, tasks := ([] : List Task) } :=
  ⟨holds, fun _ member => by cases member⟩

/-- The tasks of two services, interleaved. -/
def both
    {Left Right LeftInput RightInput : Type}
    (left : Service State Error Left LeftInput)
    (right : Service State Error Right RightInput) :
    Service State Error (Left ⊕ Right) (LeftInput × RightInput) where
  starts
    | .inl task => left.starts task
    | .inr task => right.starts task
  perform
    | .inl task, input => List.map .inl <$> left.perform task input.1
    | .inr task, input => List.map .inr <$> right.perform task input.2
  recover
    | .inl task, refusal => (left.recover task refusal).map .inl
    | .inr task, refusal => (right.recover task refusal).map .inr

end Service

end VendingSystem
