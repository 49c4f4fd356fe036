import VendingSystem.DaemonPaymentCreationMoves

namespace VendingSystem.Daemon

/-!
# Runs of the payment creation critical section

The marker of an unfinished creation stays where it is, because only its owner
writes and deletes it.  So no planogram switch passes an unfinished creation,
and a second one does not begin.
-/

namespace PaymentCreationSection

open PaymentCreation

variable {state next : PaymentCreationSection} {event : CheckoutEvent}
  {thread : ThreadId} {phase : CheckoutPhase}

/--
A terminal transaction clears no marker of an unfinished creation, and a
failure that leaves the outcome open is not taken for a definite one.
-/
def KeepsUnfinishedMarker
    (state : PaymentCreationSection)
    (event : CheckoutEvent) : Prop :=
  match event with
  | .advance thread input =>
    state.shared.ClearsKnownOutcome (state.phase thread) ∧
      ReadsFailure input
  | _ => True

/-- The joined caller ends with an answer of its own accord. -/
def JoinedCallerEnds
    (state : PaymentCreationSection)
    (event : CheckoutEvent)
    (thread : ThreadId)
    (flight : CheckoutCreationFlight)
    (answer : CheckoutAnswer) : Prop :=
  (state.phase thread = .waiting flight ∨
      state.phase thread = .polling flight) ∧
    ∃ input next, event = .advance thread input ∧
      (∀ error, input ≠ .fail error) ∧
      step state event = some next ∧ next.phase thread = .done answer

/-- What holds of the section whatever its joined callers receive. -/
structure SectionHolds
    (state : PaymentCreationSection)
    (event : CheckoutEvent) : Prop where
  single : ∀ first second flight other,
    state.phase first = .creating flight →
    state.phase second = .creating other → first = second
  fenced : ∀ next,
    step state event = some next →
    next.shared.planogramVersion ≠ state.shared.planogramVersion →
    state.shared.unfinished = []
  marker : ∀ next recovery,
    step state event = some next →
    state.shared.marker = some recovery →
    recovery.idempotencyKey ∈ state.shared.unfinished →
    ∃ later, next.shared.marker = some later ∧
      later.idempotencyKey = recovery.idempotencyKey
  own : ∀ thread flight answer recovery,
    state.phase thread = .clearDeleting flight answer →
    state.shared.marker = some recovery →
    recovery.idempotencyKey = flight.idempotencyKey ∧
      recovery.generation = flight.generation

/-- Joined callers receive the outcome of the flight's owner. -/
structure CreatesAsClaimed
    (state : PaymentCreationSection)
    (event : CheckoutEvent) : Prop extends SectionHolds state event where
  joined : ∀ thread flight answer,
    JoinedCallerEnds state event thread flight answer →
    state.shared.outcomes flight.generation = some answer

/--
Joined callers receive the active transaction, or are told to wait for the
recovery when the flight is over or their time is.
-/
structure CreatesSafely
    (state : PaymentCreationSection)
    (event : CheckoutEvent) : Prop extends SectionHolds state event where
  joined : ∀ thread flight answer,
    JoinedCallerEnds state event thread flight answer →
    (∃ current, state.shared.current = some current ∧
        isActiveTransaction current = true ∧ answer = .ok current) ∨
      (answer = .error checkoutCreationRecoveryPending ∧
        (state.shared.flightIsActive flight = false ∨
          event = .advance thread .unanswered))

/-- Every thread knows its part of a valid section. -/
abbrev Invariant (state : PaymentCreationSection) : Prop :=
  state.Knowing Valid Knows

theorem begin_invariant
    (invariant : Invariant state)
    (bare : phase.isBare = true)
    (begins : begin state thread phase = some next) : Invariant next := by
  unfold begin at begins
  split at begins
  · cases begins
    exact invariant.moved invariant.valid (.bare bare) fun _ _ _ known => known
  · cases begins

theorem begin_shared
    (begins : begin state thread phase = some next) :
    next.shared = state.shared := by
  unfold begin at begins
  split at begins <;> cases begins
  rfl

theorem advance_kept
    {input : CheckoutInput}
    (invariant : Invariant state)
    (keeps : KeepsUnfinishedMarker state (.advance thread input))
    (steps : step state (.advance thread input) = some next) :
    ∃ shared after,
      CheckoutPhase.move thread state.shared (state.phase thread) input =
          some (shared, after) ∧
        next = state.moved thread shared after ∧
        Kept thread state.shared shared after := by
  obtain ⟨⟨shared, after⟩, moves, isNext⟩ := Option.map_eq_some_iff.mp steps
  exact ⟨shared, after, moves, isNext.symm,
    move_kept invariant.valid (invariant.knows thread) keeps.1 keeps.2 moves⟩

theorem step_invariant
    (invariant : Invariant state)
    (keeps : KeepsUnfinishedMarker state event)
    (steps : step state event = some next) : Invariant next := by
  cases event with
  | checkout thread checkout | restore thread | activate thread version
  | occupy thread operation => exact begin_invariant invariant rfl steps
  | advance thread input =>
    obtain ⟨shared, after, _, rfl, kept⟩ :=
      advance_kept invariant keeps steps
    exact invariant.moved kept.valid kept.knows
      fun other _ different known => kept.spares.knows different known
  | transaction current =>
    cases steps
    refine ⟨⟨invariant.valid.marked, invariant.valid.fresh⟩,
      fun thread => ?_⟩
    have known := invariant.knows thread
    exact ⟨known.lock, known.lease, known.noFlight, known.flight,
      known.marker, known.clears, known.marked, known.deletes,
      known.noMarker⟩
  | crash =>
    cases steps
    exact ⟨⟨invariant.valid.marked, invariant.valid.fresh⟩,
      fun _ => .bare rfl⟩

theorem start_invariant
    (marker : Option CheckoutCreationRecovery)
    (current : Option CurrentTransaction)
    (planogramVersion : Option String) :
    Invariant (start marker current planogramVersion) where
  valid := by
    constructor
    · intro key isUnfinished
      cases marker with
      | none => cases isUnfinished
      | some recovery =>
        exact ⟨recovery, rfl, (List.mem_singleton.mp isUnfinished).symm⟩
    · intro recovery stored
      cases stored
      exact Nat.lt_succ_self _
  knows _ := .bare rfl

theorem step_guards
    (invariant : Invariant state)
    (keeps : KeepsUnfinishedMarker state event)
    (steps : step state event = some next) :
    Guards state.shared next.shared := by
  cases event with
  | checkout thread checkout | restore thread | activate thread version
  | occupy thread operation =>
    rw [begin_shared steps]
    exact .same rfl rfl
  | advance thread input =>
    obtain ⟨shared, after, _, rfl, kept⟩ :=
      advance_kept invariant keeps steps
    exact kept.guards
  | transaction current | crash =>
    cases steps
    exact .same rfl rfl

theorem sectionHolds
    (invariant : Invariant state)
    (keeps : KeepsUnfinishedMarker state event) :
    SectionHolds state event where
  single first second flight other isFirst isSecond := by
    have firstKnown := (invariant.knows first).flight flight
      (congrArg CheckoutPhase.ownFlight isFirst)
    have secondKnown := (invariant.knows second).flight other
      (congrArg CheckoutPhase.ownFlight isSecond)
    cases firstKnown.1.symm.trans secondKnown.1
    exact firstKnown.2.symm.trans secondKnown.2
  fenced next steps switched :=
    (step_guards invariant keeps steps).planogram.resolve_left switched
  marker next recovery steps stored isUnfinished :=
    (step_guards invariant keeps steps).marker recovery stored isUnfinished
  own thread flight answer recovery isDeleting stored :=
    (invariant.knows thread).deletes flight
      (congrArg CheckoutPhase.deletes isDeleting) recovery stored

open CheckoutPhase in
theorem joined_ends
    {flight : CheckoutCreationFlight}
    {answer : CheckoutAnswer}
    (ends : JoinedCallerEnds state event thread flight answer) :
    (∃ current, state.shared.current = some current ∧
        isActiveTransaction current = true ∧ answer = .ok current) ∨
      (answer = .error checkoutCreationRecoveryPending ∧
        (state.shared.flightIsActive flight = false ∨
          event = .advance thread .unanswered)) := by
  obtain ⟨phase, input, next, rfl, notFailed, steps, isDone⟩ := ends
  obtain ⟨⟨shared, after⟩, moves, rfl⟩ := Option.map_eq_some_iff.mp steps
  rw [Threads.moved_phase_self] at isDone
  cases isDone
  have joins : moveJoin state.shared (state.phase thread) input =
      some (shared, .done answer) := by
    rcases phase with phase | phase <;> rw [phase] at moves ⊢ <;>
      cases input with
      | fail error => exact absurd rfl (notFailed error)
      | _ => simpa [move, moveRestore, moveRefresh, moveReserve, moveCreate,
          moveFinish, moveActivation] using moves
  rcases phase with phase | phase <;> rw [phase] at joins
  · cases input with
    | go =>
      simp only [moveJoin] at joins
      split at joins
      · next current isCurrent =>
          split at joins
          · next isActive =>
              cases joins
              exact .inl ⟨current, isCurrent, isActive, rfl⟩
          · cases joins
      · cases joins
    | _ => cases joins
  · simp only [moveJoin] at joins
    split at joins
    · next isDone =>
        cases joins
        refine .inr ⟨rfl, ?_⟩
        rcases Bool.or_eq_true_iff.mp isDone with isOver | expired
        · exact .inl ((Bool.not_eq_true' _).mp isOver)
        · right
          cases input with
          | unanswered => rfl
          | _ => cases expired
    · cases joins

/--
As long as no terminal transaction clears the marker of an unfinished creation
and no open outcome is taken for a refusal, the section creates payments one
at a time, keeps the marker of an unfinished creation and lets no planogram
switch pass it.
-/
theorem payment_creation_is_exclusive
    (marker : Option CheckoutCreationRecovery)
    (current : Option CurrentTransaction)
    (planogramVersion : Option String)
    (events : List CheckoutEvent)
    (keeps :
      machine.RunMeets KeepsUnfinishedMarker
        (start marker current planogramVersion) events) :
    machine.RunMeets CreatesSafely
      (start marker current planogramVersion) events := by
  refine @Machine.runMeets_of_meets _ _ machine Invariant _ _
    (fun invariant keeps steps => step_invariant invariant keeps steps)
    (fun invariant keeps => ?_) _ _
    (start_invariant marker current planogramVersion) keeps
  exact ⟨sectionHolds invariant keeps,
    fun thread flight answer => joined_ends⟩

def customerCheckout : Checkout where
  request :=
    { paymentMethod := "mock"
      paymentProviderCode := some "mock"
      items := "[]"
      profileSnapshot := none }
  idempotencyKey := "checkout:a"

def createdOrder : CurrentTransaction where
  orderNo := 1
  productSummary := []
  paymentMethod := "mock"
  paymentProvider := some "mock"
  orderStatus := "pending_payment"
  nextAction := "wait_payment"
  paymentCodeAttempt := none

/-- The same access by a thread, several times. -/
def goes (thread : ThreadId) (times : Nat) : List CheckoutEvent :=
  List.replicate times (.advance thread .go)

/-- A caller owns a flight, and another one joins it. -/
def ownedAndJoined : List CheckoutEvent :=
  [.checkout 0 customerCheckout] ++ goes 0 10 ++
    [.checkout 1 customerCheckout] ++ goes 1 3

instance decidableClearsKnownOutcome
    (shared : PaymentCreation)
    (phase : CheckoutPhase) : Decidable (shared.ClearsKnownOutcome phase) := by
  unfold ClearsKnownOutcome
  split <;> infer_instance

instance decidableReadsFailure
    (input : CheckoutInput) : Decidable (ReadsFailure input) := by
  unfold ReadsFailure
  split <;> infer_instance

instance decidableKeepsUnfinishedMarker
    (state : PaymentCreationSection) :
    ∀ event, Decidable (KeepsUnfinishedMarker state event)
  | .advance thread input =>
    inferInstanceAs (Decidable
      (state.shared.ClearsKnownOutcome (state.phase thread) ∧
        ReadsFailure input))
  | .checkout _ _
  | .restore _
  | .activate _ _
  | .occupy _ _
  | .transaction _
  | .crash => isTrue trivial

/-- Both callers get the order, and a planogram switch follows. -/
theorem payment_creation_is_exclusive_created :
    machine.RunMeets CreatesSafely (start none none (some "A"))
      (ownedAndJoined ++ [.advance 0 (.created createdOrder)] ++
        goes 0 7 ++ goes 1 1 ++ goes 0 5 ++
        [.transaction none, .activate 2 "B"] ++ goes 2 4) :=
  payment_creation_is_exclusive none none (some "A") _ (by decide +kernel)

/-- The platform refuses the order: the owner is told so, its joiner is not. -/
theorem payment_creation_is_exclusive_fails_for_joined_caller :
    ¬ ∀ (marker : Option CheckoutCreationRecovery)
        (current : Option CurrentTransaction)
        (planogramVersion : Option String)
        (events : List CheckoutEvent),
      machine.RunMeets CreatesAsClaimed
        (start marker current planogramVersion) events := by
  intro always
  have meets := always none none (some "A")
    ((ownedAndJoined ++
      [.advance 0 (.refused "BACKEND_HTTP_ERROR: 409 Conflict" true)] ++
      goes 0 1 ++ goes 1 1) ++ goes 1 1)
  have last := (meets.split.2 _ rfl).1
  have answered := last.joined 1
    { idempotencyKey := "checkout:a", generation := 0
      request := customerCheckout.request, owner := 0 }
    (.error checkoutCreationRecoveryPending)
    ⟨.inr rfl, .go, _, rfl, fun _ => CheckoutInput.noConfusion, rfl, rfl⟩
  revert answered
  decide +kernel

end PaymentCreationSection

end VendingSystem.Daemon
