import Mathlib.Data.List.Basic

namespace VendingSystem

/-!
# Programs whose durable steps may fail or be the last

A step succeeds, fails, or reports an error after it took effect; when the
outcomes run out, the process has died.  A crash condition holds wherever the
process may die.
-/

inductive Outcome where
  | succeeds
  | fails
  /-- The step took effect, and an error is reported all the same. -/
  | reports
  deriving Repr, DecidableEq

inductive CrashProgram (State Action Result : Type) where
  | done (result : Result)
  | read (next : State → CrashProgram State Action Result)
  | assign
      (update : State → State)
      (next : CrashProgram State Action Result)
  /-- The next program is told whether the step succeeded. -/
  | perform (action : Action) (next : Bool → CrashProgram State Action Result)

/-- What the durable steps do. -/
structure Medium (State Action : Type) where
  apply : Action → State → State
  /-- What is left of a step that reports an error. -/
  report : Action → State → State

/-- Which outcomes are met, and where the process may die. -/
structure Hazards (State Action : Type) where
  allows : State → Action → Outcome → Prop
  mayDie : State → Action → Prop

namespace CrashProgram

variable {State Action Result Other : Type}

def bind :
    CrashProgram State Action Result →
    (Result → CrashProgram State Action Other) →
    CrashProgram State Action Other
  | done result, later => later result
  | read next, later => read fun state => (next state).bind later
  | assign update next, later => assign update (next.bind later)
  | perform action next, later =>
    perform action fun succeeded => (next succeeded).bind later

instance : Monad (CrashProgram State Action) where
  pure := done
  bind := bind

/-- One durable step, and whether it succeeded. -/
def performOne (action : Action) : CrashProgram State Action Bool :=
  perform action done

/-- Durable steps in order, up to the first that does not succeed. -/
def performAll : List Action → CrashProgram State Action Bool
  | [] => done true
  | action :: rest =>
    perform action fun succeeded =>
      if succeeded then performAll rest else done false

/-- What is left of a step with this outcome. -/
def outcomeState
    (medium : Medium State Action)
    (action : Action)
    (state : State) : Outcome → State
  | .succeeds => medium.apply action state
  | .fails => state
  | .reports => medium.report action state

/-- The last state, and the result unless the process died. -/
def run (medium : Medium State Action) :
    CrashProgram State Action Result →
    State → List Outcome → State × Option Result
  | done result, state, _ => (state, some result)
  | read next, state, outcomes => (next state).run medium state outcomes
  | assign update next, state, outcomes =>
    next.run medium (update state) outcomes
  | perform _ _, state, [] => (state, none)
  | perform action next, state, outcome :: rest =>
    (next (outcome = .succeeds)).run medium
      (outcomeState medium action state outcome) rest

/-- The outcomes of a run, and its end, are among the hazards. -/
def Meets (medium : Medium State Action) (hazards : Hazards State Action) :
    CrashProgram State Action Result → State → List Outcome → Prop
  | done _, _, _ => True
  | read next, state, outcomes => (next state).Meets medium hazards state outcomes
  | assign update next, state, outcomes =>
    next.Meets medium hazards (update state) outcomes
  | perform action _, state, [] => hazards.mayDie state action
  | perform action next, state, outcome :: rest =>
    hazards.allows state action outcome ∧
      (next (outcome = .succeeds)).Meets medium hazards
        (outcomeState medium action state outcome) rest

instance decidableMeets
    (medium : Medium State Action)
    (hazards : Hazards State Action)
    [∀ state action outcome,
      Decidable (hazards.allows state action outcome)]
    [∀ state action, Decidable (hazards.mayDie state action)] :
    ∀ (program : CrashProgram State Action Result)
      (state : State)
      (outcomes : List Outcome),
      Decidable (program.Meets medium hazards state outcomes)
  | done _, _, _ => isTrue trivial
  | read next, state, outcomes =>
    decidableMeets medium hazards (next state) state outcomes
  | assign update next, state, outcomes =>
    decidableMeets medium hazards next (update state) outcomes
  | perform action _, state, [] =>
    inferInstanceAs (Decidable (hazards.mayDie state action))
  | perform action next, state, outcome :: rest =>
    let _ := decidableMeets medium hazards (next (outcome = .succeeds))
      (outcomeState medium action state outcome) rest
    inferInstanceAs (Decidable
      (hazards.allows state action outcome ∧
        (next (outcome = .succeeds)).Meets medium hazards
          (outcomeState medium action state outcome) rest))

/--
From this state, the crash condition holds wherever the process may die, and
the condition on the result wherever the program ends.
-/
def Keeps
    (medium : Medium State Action)
    (hazards : Hazards State Action)
    (crash : State → Prop)
    (post : Result → State → Prop) :
    CrashProgram State Action Result → State → Prop
  | done result, state => post result state
  | read next, state => (next state).Keeps medium hazards crash post state
  | assign update next, state =>
    next.Keeps medium hazards crash post (update state)
  | perform action next, state =>
    (hazards.mayDie state action → crash state) ∧
      ∀ outcome, hazards.allows state action outcome →
        (next (outcome = .succeeds)).Keeps medium hazards crash post
          (outcomeState medium action state outcome)

section Rules

variable
  {medium : Medium State Action}
  {hazards : Hazards State Action}
  {crash otherCrash : State → Prop}
  {post otherPost : Result → State → Prop}
  {program : CrashProgram State Action Result}
  {state : State}

theorem Keeps.run
    (keeps : program.Keeps medium hazards crash post state)
    {outcomes : List Outcome}
    (meets : program.Meets medium hazards state outcomes) :
    match program.run medium state outcomes with
    | (last, some result) => post result last
    | (last, none) => crash last := by
  induction program generalizing state outcomes with
  | done result => exact keeps
  | read next inductionHypothesis =>
    exact inductionHypothesis state keeps meets
  | assign update next inductionHypothesis =>
    exact inductionHypothesis keeps meets
  | perform action next inductionHypothesis =>
    cases outcomes with
    | nil => exact keeps.1 meets
    | cons outcome rest =>
      exact inductionHypothesis _ (keeps.2 outcome meets.1) meets.2

theorem Keeps.weaken
    (keeps : program.Keeps medium hazards crash post state)
    (crashes : ∀ state, crash state → otherCrash state)
    (ends : ∀ result state, post result state → otherPost result state) :
    program.Keeps medium hazards otherCrash otherPost state := by
  induction program generalizing state with
  | done result => exact ends result state keeps
  | read next inductionHypothesis => exact inductionHypothesis state keeps
  | assign update next inductionHypothesis => exact inductionHypothesis keeps
  | perform action next inductionHypothesis =>
    refine ⟨fun dies => crashes state (keeps.1 dies), ?_⟩
    intro outcome allowed
    exact inductionHypothesis _ (keeps.2 outcome allowed)

theorem Keeps.bind
    {later : Result → CrashProgram State Action Other}
    {after : Other → State → Prop}
    (keeps : program.Keeps medium hazards crash
      (fun result => (later result).Keeps medium hazards crash after) state) :
    (program >>= later).Keeps medium hazards crash after state := by
  change (program.bind later).Keeps medium hazards crash after state
  induction program generalizing state with
  | done result => exact keeps
  | read next inductionHypothesis => exact inductionHypothesis state keeps
  | assign update next inductionHypothesis => exact inductionHypothesis keeps
  | perform action next inductionHypothesis =>
    refine ⟨keeps.1, fun outcome allowed => ?_⟩
    exact inductionHypothesis _ (keeps.2 outcome allowed)

theorem Keeps.and
    (keeps : program.Keeps medium hazards crash post state)
    (other : program.Keeps medium hazards otherCrash otherPost state) :
    program.Keeps medium hazards
      (fun state => crash state ∧ otherCrash state)
      (fun result state => post result state ∧ otherPost result state)
      state := by
  induction program generalizing state with
  | done result => exact ⟨keeps, other⟩
  | read next inductionHypothesis =>
    exact inductionHypothesis state keeps other
  | assign update next inductionHypothesis =>
    exact inductionHypothesis keeps other
  | perform action next inductionHypothesis =>
    refine ⟨fun dies => ⟨keeps.1 dies, other.1 dies⟩, ?_⟩
    intro outcome allowed
    exact inductionHypothesis _ (keeps.2 outcome allowed)
      (other.2 outcome allowed)

theorem Keeps.performAll
    (invariant : List Action → State → Prop)
    {ends : Bool → State → Prop}
    (dies : ∀ action rest state, invariant (action :: rest) state →
      hazards.mayDie state action → crash state)
    (steps : ∀ action rest state outcome,
      invariant (action :: rest) state →
      hazards.allows state action outcome →
        if outcome = .succeeds then
          invariant rest (outcomeState medium action state outcome)
        else ends false (outcomeState medium action state outcome))
    (finished : ∀ state, invariant [] state → ends true state)
    {actions : List Action}
    (start : invariant actions state) :
    (CrashProgram.performAll actions).Keeps medium hazards crash ends
      state := by
  induction actions generalizing state with
  | nil => exact finished state start
  | cons action rest inductionHypothesis =>
    refine ⟨dies action rest state start, fun outcome allowed => ?_⟩
    have step := steps action rest state outcome start allowed
    by_cases succeeded : outcome = .succeeds
    · rw [if_pos succeeded] at step
      simpa [succeeded] using inductionHypothesis step
    · rw [if_neg succeeded] at step
      simp only [succeeded, decide_false, Bool.false_eq_true, if_false]
      exact step

end Rules

/-- The program performs only such steps, and assigns only so. -/
def Performs
    (acts : Action → Prop)
    (assigns : (State → State) → Prop) :
    CrashProgram State Action Result → Prop
  | done _ => True
  | read next => ∀ state, (next state).Performs acts assigns
  | assign update next => assigns update ∧ next.Performs acts assigns
  | perform action next =>
    acts action ∧ ∀ succeeded, (next succeeded).Performs acts assigns

section Performs

variable
  {acts : Action → Prop}
  {assigns : (State → State) → Prop}
  {program : CrashProgram State Action Result}

theorem Performs.bind
    {later : Result → CrashProgram State Action Other}
    (performs : program.Performs acts assigns)
    (laterPerforms : ∀ result, (later result).Performs acts assigns) :
    (program >>= later).Performs acts assigns := by
  change (program.bind later).Performs acts assigns
  induction program with
  | done result => exact laterPerforms result
  | read next inductionHypothesis =>
    exact fun state => inductionHypothesis state (performs state)
  | assign update next inductionHypothesis =>
    exact ⟨performs.1, inductionHypothesis performs.2⟩
  | perform action next inductionHypothesis =>
    exact ⟨performs.1, fun succeeded =>
      inductionHypothesis succeeded (performs.2 succeeded)⟩

theorem Performs.performAll
    {actions : List Action}
    (all : ∀ action ∈ actions, acts action) :
    (CrashProgram.performAll actions :
      CrashProgram State Action Bool).Performs acts assigns := by
  induction actions with
  | nil => trivial
  | cons action rest inductionHypothesis =>
    refine ⟨all action List.mem_cons_self, fun succeeded => ?_⟩
    cases succeeded with
    | true =>
      exact inductionHypothesis fun other member =>
        all other (List.mem_cons_of_mem _ member)
    | false => trivial

theorem Performs.keeps
    {medium : Medium State Action}
    {hazards : Hazards State Action}
    {invariant : State → Prop}
    (actsKeep : ∀ action outcome state, acts action → invariant state →
      invariant (outcomeState medium action state outcome))
    (assignsKeep : ∀ update state, assigns update → invariant state →
      invariant (update state))
    (performs : program.Performs acts assigns)
    {state : State}
    (start : invariant state) :
    program.Keeps medium hazards invariant (fun _ => invariant) state := by
  induction program generalizing state with
  | done result => exact start
  | read next inductionHypothesis =>
    exact inductionHypothesis state (performs state) start
  | assign update next inductionHypothesis =>
    exact inductionHypothesis performs.2
      (assignsKeep update state performs.1 start)
  | perform action next inductionHypothesis =>
    refine ⟨fun _ => start, fun outcome _ => ?_⟩
    exact inductionHypothesis _ (performs.2 _)
      (actsKeep action outcome state performs.1 start)

end Performs

end CrashProgram

end VendingSystem
