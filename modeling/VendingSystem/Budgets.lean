import VendingSystem.Service

namespace VendingSystem

/-!
# Budgets

How often a run does something, bounded by what is left of a budget: a step
that does it pays for it.  A service keeps its budget in its database and in
the tasks in hand.
-/

namespace Machine

variable {State Event : Type} {machine : Machine State Event}

/-- The sum of what the steps of a run weigh. -/
def tally
    (machine : Machine State Event)
    (weight : State → Event → Nat) : State → List Event → Nat
  | _, [] => 0
  | state, event :: rest =>
    weight state event +
      (machine.step state event).elim 0 fun next =>
        machine.tally weight next rest

theorem tally_le_of_budget
    {weight : State → Event → Nat}
    {budget : State → Nat}
    (stepPays :
      ∀ {state event next},
        machine.step state event = some next →
        weight state event + budget next ≤ budget state)
    {first last : State}
    {events : List Event}
    (run : machine.run first events = some last) :
    machine.tally weight first events + budget last ≤ budget first := by
  induction events generalizing first with
  | nil =>
    cases run
    simp [tally]
  | cons event rest inductionHypothesis =>
    obtain ⟨next, step, later⟩ := run_cons_iff.mp run
    have paid := stepPays step
    have laterPaid := inductionHypothesis later
    simp only [tally, step, Option.elim_some]
    omega

end Machine

namespace Service

variable {State Error Task Input : Type}
  {service : Service State Error Task Input}
  {weight : Task → Nat}
  {stored : State → Nat}
  {counted : Task → Bool}

/-- What the task weighs that an event advances. -/
def weightOf
    (weight : Task → Nat)
    (runtime : Runtime State Task) : Event Error Task Input → Nat
  | .advance position _ => runtime.tasks[position]?.elim 0 weight
  | _ => 0

/-- What is left in the database and in the tasks in hand. -/
def Runtime.budget
    (stored : State → Nat)
    (counted : Task → Bool)
    (runtime : Runtime State Task) : Nat :=
  stored runtime.db + runtime.tasks.countP counted

theorem countP_one (counted : Task → Bool) (task : Task) :
    [task].countP counted = (counted task).toNat := by
  rw [List.countP_singleton]
  cases counted task <;> rfl

/-- When one task in hand is counted, it has one place. -/
theorem position_unique
    {tasks : List Task}
    {first second : Task}
    {i j : Nat}
    (most : tasks.countP counted ≤ 1)
    (foundFirst : tasks[i]? = some first)
    (foundSecond : tasks[j]? = some second)
    (countedFirst : counted first = true)
    (countedSecond : counted second = true) : i = j := by
  by_contra apart
  have remains : second ∈ tasks.eraseIdx i :=
    List.mem_eraseIdx_iff_getElem?.mpr ⟨j, Ne.symm apart, foundSecond⟩
  have isCounted : 0 < (tasks.eraseIdx i).countP counted :=
    List.countP_pos_iff.mpr ⟨second, remains, countedSecond⟩
  have counts := countP_followUps foundFirst counted []
  simp only [List.append_nil, countedFirst, ↓reduceIte] at counts
  simp at counts
  omega

/-- Each task pays from the database, or with its own place. -/
structure Pays
    (service : Service State Error Task Input)
    (weight : Task → Nat)
    (stored : State → Nat)
    (counted : Task → Bool) : Prop where
  starts : ∀ {task}, service.starts task = true → counted task = false
  recovers : ∀ task refusal,
    weight task + (service.recover task refusal).countP counted ≤
      (counted task).toNat
  performs : ∀ {before after task input answer},
    (service.perform task input).Commits before answer after →
      weight task + stored after + answer.countP counted ≤
        stored before + (counted task).toNat

theorem Pays.step
    (pays : service.Pays weight stored counted)
    {runtime next : Runtime State Task}
    {event : Event Error Task Input}
    (step : service.machine.step runtime event = some next) :
    weightOf weight runtime event + next.budget stored counted ≤
      runtime.budget stored counted := by
  have replaced {position task} (found : runtime.tasks[position]? = some task)
      (answer : List Task) :
      (runtime.tasks.eraseIdx position ++ answer).countP counted +
          (counted task).toNat =
        runtime.tasks.countP counted + answer.countP counted := by
    rw [← countP_followUps found]
    cases counted task <;> rfl
  cases takes_of_step step with
  | submitted starts =>
    simp [weightOf, Runtime.budget, pays.starts starts]
  | crashed => simp [weightOf, Runtime.budget]
  | @failed position task refusal found =>
    have counts := replaced found (service.recover task refusal)
    have paid := pays.recovers task refusal
    simp only [weightOf, Runtime.budget]
    omega
  | @aborted position input task refusal found =>
    have counts := replaced found (service.recover task refusal)
    have paid := pays.recovers task refusal
    simp only [weightOf, Runtime.budget, found, Option.elim_some]
    omega
  | @committed position input task answer after found commits =>
    have paid := pays.performs commits
    have counts := replaced found answer
    simp only [weightOf, Runtime.budget, found, Option.elim_some]
    omega

/-- A run weighs no more than what its budget has lost. -/
theorem Pays.run
    (pays : service.Pays weight stored counted)
    {first last : Runtime State Task}
    {events : List (Event Error Task Input)}
    (run : service.machine.run first events = some last) :
    service.machine.tally (weightOf weight) first events +
        last.budget stored counted ≤
      first.budget stored counted :=
  Machine.tally_le_of_budget pays.step run

end Service

end VendingSystem
