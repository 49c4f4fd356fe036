import Mathlib.Logic.Basic

namespace VendingSystem

/-!
# Event machines and their runs

Every choice the system does not make itself (which message arrives, what a
device answers, when a process dies) is part of the event, so a run is a list
of events.  A step that the system cannot take in a state is `none`.  The run
lemmas turn facts about one step into facts about every run.
-/

/-- A partial deterministic transition function. -/
structure Machine (State Event : Type) where
  step : State → Event → Option State

namespace Machine

variable {State Event : Type}

/-- The state after a list of events, when every step is possible. -/
def run (machine : Machine State Event) : State → List Event → Option State
  | state, [] => some state
  | state, event :: rest =>
    (machine.step state event).bind fun next => machine.run next rest

/-- Some run leads from the first state to the second. -/
def Reaches (machine : Machine State Event) (first last : State) : Prop :=
  ∃ events, machine.run first events = some last

/-- Every step of a run meets a condition on its state and event. -/
def RunMeets
    (machine : Machine State Event)
    (condition : State → Event → Prop) : State → List Event → Prop
  | _, [] => True
  | state, event :: rest =>
    condition state event ∧
      ∀ next, machine.step state event = some next →
        machine.RunMeets condition next rest

variable {machine : Machine State Event}

variable {state : State}

theorem RunMeets.and
    {first second : State → Event → Prop}
    {events : List Event}
    (meetsFirst : machine.RunMeets first state events)
    (meetsSecond : machine.RunMeets second state events) :
    machine.RunMeets
      (fun state event => first state event ∧ second state event)
      state events := by
  induction events generalizing state with
  | nil => trivial
  | cons event rest inductionHypothesis =>
    exact ⟨⟨meetsFirst.1, meetsSecond.1⟩, fun next step =>
      inductionHypothesis (meetsFirst.2 next step)
        (meetsSecond.2 next step)⟩

variable {leading trailing : List Event}

theorem RunMeets.split
    {condition : State → Event → Prop}
    (meets : machine.RunMeets condition state (leading ++ trailing)) :
    machine.RunMeets condition state leading ∧
      ∀ middle, machine.run state leading = some middle →
        machine.RunMeets condition middle trailing := by
  induction leading generalizing state with
  | nil =>
    refine ⟨trivial, fun middle run => ?_⟩
    cases run
    exact meets
  | cons event rest inductionHypothesis =>
    refine ⟨⟨meets.1, fun next step =>
      (inductionHypothesis (meets.2 next step)).1⟩, fun middle run => ?_⟩
    obtain ⟨next, step, later⟩ := Option.bind_eq_some_iff.mp run
    exact (inductionHypothesis (meets.2 next step)).2 middle later

@[simp] theorem run_nil (state : State) :
    machine.run state [] = some state := rfl

variable {last : State}

theorem run_cons_iff
    {event : Event}
    {rest : List Event} :
    machine.run state (event :: rest) = some last ↔
      ∃ next, machine.step state event = some next ∧
        machine.run next rest = some last := by
  simp [run, Option.bind_eq_some_iff]

theorem run_append_iff :
    machine.run state (leading ++ trailing) = some last ↔
      ∃ middle, machine.run state leading = some middle ∧
        machine.run middle trailing = some last := by
  induction leading generalizing state with
  | nil => simp
  | cons event rest inductionHypothesis =>
    simp only [List.cons_append, run_cons_iff, inductionHypothesis]
    constructor
    · rintro ⟨next, first, middle, leadingRun, trailingRun⟩
      exact ⟨middle, ⟨next, first, leadingRun⟩, trailingRun⟩
    · rintro ⟨middle, ⟨next, first, leadingRun⟩, trailingRun⟩
      exact ⟨next, first, middle, leadingRun, trailingRun⟩

theorem Reaches.trans
    {first middle : State}
    (leading : machine.Reaches first middle)
    (trailing : machine.Reaches middle last) :
    machine.Reaches first last := by
  obtain ⟨leadingEvents, leadingRun⟩ := leading
  obtain ⟨trailingEvents, trailingRun⟩ := trailing
  exact ⟨leadingEvents ++ trailingEvents,
    run_append_iff.mpr ⟨middle, leadingRun, trailingRun⟩⟩

theorem run_keeps_of_meets
    {invariant : State → Prop}
    {condition : State → Event → Prop}
    (stepKeeps :
      ∀ {state event next},
        invariant state →
        condition state event →
        machine.step state event = some next →
        invariant next)
    {first last : State}
    {events : List Event}
    (start : invariant first)
    (meets : machine.RunMeets condition first events)
    (run : machine.run first events = some last) :
    invariant last := by
  induction events generalizing first with
  | nil =>
    cases run
    exact start
  | cons event rest inductionHypothesis =>
    obtain ⟨next, step, later⟩ := run_cons_iff.mp run
    exact inductionHypothesis
      (stepKeeps start meets.1 step) (meets.2 next step) later

theorem runMeets_true (state : State) (events : List Event) :
    machine.RunMeets (fun _ _ => True) state events := by
  induction events generalizing state with
  | nil => trivial
  | cons event rest inductionHypothesis =>
    exact ⟨trivial, fun next _ => inductionHypothesis next⟩

theorem run_keeps
    {invariant : State → Prop}
    (stepKeeps :
      ∀ {state event next},
        invariant state →
        machine.step state event = some next →
        invariant next)
    {first last : State}
    {events : List Event}
    (start : invariant first)
    (run : machine.run first events = some last) :
    invariant last :=
  run_keeps_of_meets
    (fun holds (_ : True) step => stepKeeps holds step)
    start (runMeets_true first events) run

theorem Reaches.keeps
    {invariant : State → Prop}
    (stepKeeps :
      ∀ {state event next},
        invariant state →
        machine.step state event = some next →
        invariant next)
    {first last : State}
    (start : invariant first)
    (reaches : machine.Reaches first last) :
    invariant last := by
  obtain ⟨events, run⟩ := reaches
  exact run_keeps stepKeeps start run

theorem runMeets_of_meets
    {invariant : State → Prop}
    {condition answer : State → Event → Prop}
    (stepKeeps :
      ∀ {state event next},
        invariant state →
        condition state event →
        machine.step state event = some next →
        invariant next)
    (stepMeets :
      ∀ {state event},
        invariant state → condition state event → answer state event)
    {first : State}
    {events : List Event}
    (start : invariant first)
    (meets : machine.RunMeets condition first events) :
    machine.RunMeets answer first events := by
  induction events generalizing first with
  | nil => trivial
  | cons event rest inductionHypothesis =>
    exact ⟨stepMeets start meets.1, fun next step =>
      inductionHypothesis (stepKeeps start meets.1 step)
        (meets.2 next step)⟩

/-- A condition that can be decided can be decided along a run. -/
instance decidableRunMeets
    {condition : State → Event → Prop}
    [∀ state event, Decidable (condition state event)] :
    ∀ (state : State) (events : List Event),
      Decidable (machine.RunMeets condition state events)
  | _, [] => isTrue trivial
  | state, event :: rest =>
    match step : machine.step state event with
    | none =>
      decidable_of_iff (condition state event) (by
        simp [RunMeets, step])
    | some next =>
      let later : Decidable (machine.RunMeets condition next rest) :=
        decidableRunMeets next rest
      decidable_of_iff
        (condition state event ∧ machine.RunMeets condition next rest)
        (by simp [RunMeets, step])

end Machine

end VendingSystem
