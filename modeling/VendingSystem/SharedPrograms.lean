import VendingSystem.CrashPrograms

namespace VendingSystem

/-!
# Programs that share their state

A program takes atomic steps, each once it is ready, and durable steps with an
outcome.  Others change the state between its steps.  All that is known of them
is a relation on which the program relies, and all that they know of it is a
relation that it guarantees.
-/

inductive SharedProgram (State Action Result : Type) where
  | done (result : Result)
  /-- The next program is chosen by the state before the update. -/
  | atomic
      (ready : State → Bool)
      (update : State → State)
      (next : State → SharedProgram State Action Result)
  /-- The next program is told whether the step succeeded. -/
  | perform
      (action : Action)
      (next : Bool → SharedProgram State Action Result)

/-- What a program and the others may expect of each other. -/
structure Interference (State : Type) where
  rely : State → State → Prop
  guarantee : State → State → Prop
  relyRefl : ∀ state, rely state state
  relyTrans : ∀ {first second third},
    rely first second → rely second third → rely first third
  guaranteeRefl : ∀ state, guarantee state state

namespace SharedProgram

variable {State Action Result Other : Type}

def bind :
    SharedProgram State Action Result →
    (Result → SharedProgram State Action Other) →
    SharedProgram State Action Other
  | done result, later => later result
  | atomic ready update next, later =>
    atomic ready update fun state => (next state).bind later
  | perform action next, later =>
    perform action fun succeeded => (next succeeded).bind later

instance : Monad (SharedProgram State Action) where
  pure := done
  bind := bind

/-- What the state tells at this moment. -/
def ask (question : State → Result) : SharedProgram State Action Result :=
  atomic (fun _ => true) id fun state => done (question state)

def change (update : State → State) : SharedProgram State Action Unit :=
  atomic (fun _ => true) update fun _ => done ()

/-- The update is made once the state is ready for it. -/
def await
    (ready : State → Bool)
    (update : State → State) :
    SharedProgram State Action Unit :=
  atomic ready update fun _ => done ()

/-- One durable step, and whether it succeeded. -/
def performOne (action : Action) : SharedProgram State Action Bool :=
  perform action done

/-- Durable steps in order, up to the first that does not succeed. -/
def performAll : List Action → SharedProgram State Action Bool
  | [] => done true
  | action :: rest =>
    perform action fun succeeded =>
      if succeeded then performAll rest else done false

/-- One step, and what is left of the program. -/
def advance
    (medium : Medium State Action)
    (program : SharedProgram State Action Result)
    (state : State)
    (outcome : Outcome) :
    Option (SharedProgram State Action Result × State) :=
  match program with
  | done _ => none
  | atomic ready update next =>
    if ready state then some (next state, update state) else none
  | perform action next =>
    some
      (next (outcome = .succeeds),
        CrashProgram.outcomeState medium action state outcome)

/--
Whatever the others do, the invariant holds at every step of the program, each
step is as guaranteed, and the condition on the result holds from its end on.
-/
def Sustains
    (medium : Medium State Action)
    (interference : Interference State)
    (invariant : State → Prop)
    (post : Result → State → Prop) :
    SharedProgram State Action Result → State → Prop
  | done result, state =>
    ∀ later, interference.rely state later → post result later
  | atomic ready update next, state =>
    ∀ later, interference.rely state later →
      invariant later ∧
        (ready later = true →
          interference.guarantee later (update later) ∧
            (next later).Sustains medium interference invariant post
              (update later))
  | perform action next, state =>
    ∀ later, interference.rely state later →
      invariant later ∧
        ∀ outcome,
          interference.guarantee later
              (CrashProgram.outcomeState medium action later outcome) ∧
            (next (outcome = .succeeds)).Sustains medium interference
              invariant post
              (CrashProgram.outcomeState medium action later outcome)

section Rules

variable
  {medium : Medium State Action}
  {interference : Interference State}
  {invariant : State → Prop}
  {post otherPost : Result → State → Prop}
  {program : SharedProgram State Action Result}
  {state : State}

variable {later : State}

section

variable (sustains : program.Sustains medium interference invariant post state)

include sustains

/-- What the others do leaves it standing. -/
theorem Sustains.interfere
    (relied : interference.rely state later) :
    program.Sustains medium interference invariant post later := by
  cases program with
  | done result =>
    exact fun last followed =>
      sustains last (interference.relyTrans relied followed)
  | atomic ready update next =>
    exact fun last followed =>
      sustains last (interference.relyTrans relied followed)
  | perform action next =>
    exact fun last followed =>
      sustains last (interference.relyTrans relied followed)

theorem Sustains.now :
    match program with
    | done result => post result state
    | _ => invariant state := by
  cases program with
  | done result => exact sustains state (interference.relyRefl state)
  | atomic ready update next =>
    exact (sustains state (interference.relyRefl state)).1
  | perform action next =>
    exact (sustains state (interference.relyRefl state)).1

theorem Sustains.advance
    {outcome : Outcome}
    {rest : SharedProgram State Action Result}
    (advanced : program.advance medium state outcome = some (rest, later)) :
    interference.guarantee state later ∧
      rest.Sustains medium interference invariant post later := by
  cases program with
  | done result => cases advanced
  | atomic ready update next =>
    by_cases isReady : ready state = true
    · rw [SharedProgram.advance, if_pos isReady] at advanced
      cases advanced
      exact (sustains state (interference.relyRefl state)).2 isReady
    · rw [SharedProgram.advance, if_neg isReady] at advanced
      cases advanced
  | perform action next =>
    cases advanced
    exact (sustains state (interference.relyRefl state)).2 outcome

theorem Sustains.weaken
    (ends : ∀ result state, post result state → otherPost result state) :
    program.Sustains medium interference invariant otherPost state := by
  induction program generalizing state with
  | done result =>
    exact fun later relied => ends result later (sustains later relied)
  | atomic ready update next inductionHypothesis =>
    intro later relied
    refine ⟨(sustains later relied).1, fun isReady => ?_⟩
    have step := (sustains later relied).2 isReady
    exact ⟨step.1, inductionHypothesis later step.2⟩
  | perform action next inductionHypothesis =>
    intro later relied
    refine ⟨(sustains later relied).1, fun outcome => ?_⟩
    have step := (sustains later relied).2 outcome
    exact ⟨step.1, inductionHypothesis _ step.2⟩

end

theorem Sustains.bind
    {later : Result → SharedProgram State Action Other}
    {after : Other → State → Prop}
    (sustains : program.Sustains medium interference invariant
      (fun result =>
        (later result).Sustains medium interference invariant after)
      state) :
    (program >>= later).Sustains medium interference invariant after
      state := by
  change (program.bind later).Sustains medium interference invariant after state
  induction program generalizing state with
  | done result => exact sustains state (interference.relyRefl state)
  | atomic ready update next inductionHypothesis =>
    intro last relied
    refine ⟨(sustains last relied).1, fun isReady => ?_⟩
    have step := (sustains last relied).2 isReady
    exact ⟨step.1, inductionHypothesis last step.2⟩
  | perform action next inductionHypothesis =>
    intro last relied
    refine ⟨(sustains last relied).1, fun outcome => ?_⟩
    have step := (sustains last relied).2 outcome
    exact ⟨step.1, inductionHypothesis _ step.2⟩

/-- What the others leave alone. -/
def Stable
    (interference : Interference State)
    (assertion : State → Prop) : Prop :=
  ∀ state later,
    assertion state → interference.rely state later → assertion later

section Steps

variable
  {before : State → Prop}
  (stable : Stable interference before)
  (holds : before state)

include stable holds

theorem Sustains.result
    {result : Result}
    (ends : ∀ state, before state → post result state) :
    (pure result : SharedProgram State Action Result).Sustains
      medium interference invariant post state :=
  fun later relied => ends later (stable state later holds relied)

theorem Sustains.ask
    (keeps : ∀ state, before state → invariant state)
    {question : State → Result}
    (answers : ∀ state, before state →
      Stable interference (post (question state)) ∧
        post (question state) state) :
    (ask question : SharedProgram State Action Result).Sustains
      medium interference invariant post state := by
  intro later relied
  have reached := stable state later holds relied
  refine ⟨keeps later reached, fun _ =>
    ⟨interference.guaranteeRefl later, fun last followed => ?_⟩⟩
  exact (answers later reached).1 later last (answers later reached).2 followed

theorem Sustains.await
    {ready : State → Bool}
    {update : State → State}
    {after : Unit → State → Prop}
    (keeps : ∀ state, before state → invariant state)
    (afterStable : Stable interference (after ()))
    (updates : ∀ state, before state → ready state = true →
      interference.guarantee state (update state) ∧
        after () (update state)) :
    (SharedProgram.await ready update :
      SharedProgram State Action Unit).Sustains
      medium interference invariant after state := by
  intro later relied
  have reached := stable state later holds relied
  refine ⟨keeps later reached, fun isReady =>
    ⟨(updates later reached isReady).1, fun last followed => ?_⟩⟩
  exact afterStable _ last (updates later reached isReady).2 followed

theorem Sustains.performOne
    {action : Action}
    {after : Bool → State → Prop}
    (keeps : ∀ state, before state → invariant state)
    (afterStable : ∀ succeeded, Stable interference (after succeeded))
    (performs : ∀ state outcome, before state →
      interference.guarantee state
          (CrashProgram.outcomeState medium action state outcome) ∧
        after (outcome = .succeeds)
          (CrashProgram.outcomeState medium action state outcome)) :
    (SharedProgram.performOne action :
      SharedProgram State Action Bool).Sustains
      medium interference invariant after state := by
  intro later relied
  have reached := stable state later holds relied
  refine ⟨keeps later reached, fun outcome =>
    ⟨(performs later outcome reached).1, fun last followed => ?_⟩⟩
  exact afterStable _ _ last (performs later outcome reached).2 followed

end Steps

/-- Steps in order keep an assertion over what is left of them. -/
theorem Sustains.performAll
    (assertion : List Action → State → Prop)
    {ends : Bool → State → Prop}
    (stable : ∀ rest, Stable interference (assertion rest))
    (failedStable : Stable interference (ends false))
    (keeps : ∀ rest state, assertion rest state → invariant state)
    (steps : ∀ action rest state outcome,
      assertion (action :: rest) state →
        interference.guarantee state
            (CrashProgram.outcomeState medium action state outcome) ∧
          if outcome = .succeeds then
            assertion rest
              (CrashProgram.outcomeState medium action state outcome)
          else
            ends false
              (CrashProgram.outcomeState medium action state outcome))
    (finished : ∀ state, assertion [] state → ends true state)
    {actions : List Action}
    (start : assertion actions state) :
    (SharedProgram.performAll actions :
      SharedProgram State Action Bool).Sustains
      medium interference invariant ends state := by
  induction actions generalizing state with
  | nil =>
    exact fun later relied =>
      finished later (stable [] state later start relied)
  | cons action rest inductionHypothesis =>
    intro later relied
    have reached := stable _ state later start relied
    refine ⟨keeps _ later reached, fun outcome => ?_⟩
    have step := steps action rest later outcome reached
    refine ⟨step.1, ?_⟩
    by_cases succeeded : outcome = .succeeds
    · simpa [succeeded] using
        inductionHypothesis (by simpa [succeeded] using step.2)
    · simp only [succeeded, decide_false, Bool.false_eq_true, if_false]
      exact fun last followed =>
        failedStable _ last (by simpa [succeeded] using step.2) followed

end Rules

end SharedProgram

end VendingSystem
