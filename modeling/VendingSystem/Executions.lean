import VendingSystem.Machine
import Mathlib.Data.Nat.Init
import Mathlib.Tactic.ByContra

namespace VendingSystem.Machine

/-!
# Endless executions of an event machine

A run is finite; what a system does in the end is a statement about its
endless executions.  Which steps such an execution takes again and again is
for its user to assume: fairness is a condition on the environment and is never
derived from the machine.
-/

variable {State Event : Type}

/-- An endless sequence of steps of a machine. -/
structure Execution (machine : Machine State Event) where
  state : Nat → State
  event : Nat → Event
  steps : ∀ index,
    machine.step (state index) (event index) = some (state (index + 1))

namespace Execution

variable {machine : Machine State Event} {first : Nat}

theorem keeps
    (execution : machine.Execution)
    (invariant : State → Prop)
    (start : invariant (execution.state first))
    (stepKeeps :
      ∀ index, first ≤ index →
        invariant (execution.state index) →
        invariant (execution.state (index + 1)))
    {later : Nat}
    (after : first ≤ later) :
    invariant (execution.state later) := by
  induction later, after using Nat.le_induction with
  | base => exact start
  | succ index after inductionHypothesis =>
    exact stepKeeps index after inductionHypothesis

theorem rank_le
    (execution : machine.Execution)
    {goal : State → Prop}
    {rank : State → Nat}
    (bounded :
      ∀ index, first ≤ index → ¬ goal (execution.state index) →
        rank (execution.state (index + 1)) ≤ rank (execution.state index))
    {later : Nat}
    (after : first ≤ later)
    (unreached :
      ∀ index, first ≤ index → index < later →
        ¬ goal (execution.state index)) :
    rank (execution.state later) ≤ rank (execution.state first) := by
  induction later, after using Nat.le_induction with
  | base => exact (Nat.le_refl _)
  | succ index after inductionHypothesis =>
    have before := inductionHypothesis fun earlier fromFirst earlierThan =>
      unreached earlier fromFirst (Nat.lt_succ_of_lt earlierThan)
    have here := unreached index after (Nat.lt_succ_self index)
    exact Nat.le_trans (bounded index after here) before

/--
The goal is reached when a rank never rises before it and always falls again.
-/
theorem reaches_of_rank
    (execution : machine.Execution)
    (goal : State → Prop)
    (rank : State → Nat)
    (bounded :
      ∀ index, first ≤ index → ¬ goal (execution.state index) →
        rank (execution.state (index + 1)) ≤ rank (execution.state index))
    (falls :
      ∀ index, first ≤ index → ¬ goal (execution.state index) →
        ∃ later, index ≤ later ∧
          (goal (execution.state later) ∨
            rank (execution.state (later + 1)) <
              rank (execution.state later))) :
    ∃ index, first ≤ index ∧ goal (execution.state index) := by
  -- The induction is on the rank at the start; the goal bounds how far the
  -- rank may be compared.
  induction measure : rank (execution.state first) using Nat.strong_induction_on
    generalizing first with
  | _ bound inductionHypothesis =>
    by_contra missed
    have unreached : ∀ index, first ≤ index →
        ¬ goal (execution.state index) :=
      fun index after reached => missed ⟨index, after, reached⟩
    have here := unreached first (Nat.le_refl _)
    obtain ⟨later, after, fall⟩ := falls first (Nat.le_refl _) here
    have smaller := fall.resolve_left (unreached later after)
    have below := execution.rank_le bounded after
      fun index fromFirst _ => unreached index fromFirst
    have past : first ≤ later + 1 := Nat.le_succ_of_le after
    obtain ⟨index, fromLater, reached⟩ :=
      inductionHypothesis (rank (execution.state (later + 1)))
        (measure ▸ Nat.lt_of_lt_of_le smaller below)
        (fun index fromLater => bounded index (Nat.le_trans past fromLater))
        (fun index fromLater => falls index (Nat.le_trans past fromLater)) rfl
    exact missed ⟨index, Nat.le_trans past fromLater, reached⟩

end Execution

section Extension

variable [Inhabited Event]

/-- The states of a run whose events are followed by the default event. -/
def extendedState
    (machine : Machine State Event)
    (start : State)
    (events : List Event) : Nat → State
  | 0 => start
  | index + 1 =>
    let state := machine.extendedState start events index
    (machine.step state (events.getD index default)).getD state

variable {machine : Machine State Event} {start : State}

variable {events : List Event} {next : State}

theorem extendedState_succ
    {index : Nat}
    (after : events.length ≤ index)
    (step :
      machine.step (machine.extendedState start events index) default =
        some next) :
    machine.extendedState start events (index + 1) = next := by
  have unscheduled : events.getD index default = default := by
    simp [List.getElem?_eq_none after]
  simp only [extendedState, unscheduled, step, Option.getD_some]

theorem extendedState_cons
    {event : Event}
    (step : machine.step start event = some next)
    (rest : List Event)
    (index : Nat) :
    machine.extendedState start (event :: rest) (index + 1) =
      machine.extendedState next rest index := by
  induction index with
  | zero => simp [extendedState, step]
  | succ index inductionHypothesis =>
    rw [extendedState, inductionHypothesis, List.getD_cons_succ]
    rfl

theorem extendedState_steps
    (possible : ∀ state, (machine.step state default).isSome = true)
    {last : State}
    (run : machine.run start events = some last)
    (index : Nat) :
    machine.step (machine.extendedState start events index)
        (events.getD index default) =
      some (machine.extendedState start events (index + 1)) := by
  induction events generalizing start index with
  | nil =>
    obtain ⟨next, step⟩ := Option.isSome_iff_exists.mp
      (possible (machine.extendedState start [] index))
    simp [extendedState, step]
  | cons event rest inductionHypothesis =>
    obtain ⟨next, step, later⟩ := run_cons_iff.mp run
    cases index with
    | zero => simp [extendedState, step]
    | succ index =>
      rw [extendedState_cons step, extendedState_cons step,
        List.getD_cons_succ]
      exact inductionHypothesis later index

/-- The execution that a run and an event that is always possible make. -/
def Execution.ofRun
    {machine : Machine State Event}
    (possible : ∀ state, (machine.step state default).isSome = true)
    {start last : State}
    {events : List Event}
    (run : machine.run start events = some last) : machine.Execution where
  state := machine.extendedState start events
  event index := events.getD index default
  steps := extendedState_steps possible run

end Extension

end VendingSystem.Machine
