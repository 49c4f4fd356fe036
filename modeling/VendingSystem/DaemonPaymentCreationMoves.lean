import VendingSystem.DaemonPaymentCreation

namespace VendingSystem.Daemon

/-!
# What the threads of the payment creation section know

What a thread knows at its phase about the lock, the fence, the flight and the
marker is established by its own moves and not disturbed by another thread's.
Only the owner of a flight settles its creation and deletes its marker.
-/

namespace CheckoutPhase

@[simp] def holdsLock : CheckoutPhase → Bool
  | .checking _
  | .leasing _
  | .looking _
  | .replacing _
  | .versioning _
  | .marking _ _
  | .writing _ _
  | .publishing _
  | .commitLeasing _ _
  | .commitReading _ _
  | .verifying _ _ _
  | .storing _ _
  | .clearLeasing _ _
  | .clearReading _ _
  | .clearDeleting _ _ => true
  | _ => false

@[simp] def lease : CheckoutPhase → Option OperationGate
  | .looking _
  | .replacing _
  | .versioning _
  | .marking _ _
  | .writing _ _
  | .publishing _
  | .commitReading _ _
  | .verifying _ _ _
  | .storing _ _
  | .clearReading _ _
  | .clearDeleting _ _ => some .sale
  | .activationMarker _
  | .activationCurrent _
  | .applying _ => some .binding
  | _ => none

/-- The thread holds the lock and saw that no flight is active. -/
@[simp] def sawNoFlight : CheckoutPhase → Bool
  | .leasing _
  | .looking _
  | .replacing _
  | .versioning _
  | .marking _ _
  | .writing _ _
  | .publishing _ => true
  | _ => false

/-- The flight that is active because of the thread. -/
@[simp] def ownFlight : CheckoutPhase → Option CheckoutCreationFlight
  | .creating flight
  | .committing flight _
  | .commitLeasing flight _
  | .commitReading flight _
  | .verifying flight _ _
  | .storing flight _
  | .finishing flight _ _ => some flight
  | _ => none

/-- The marker that the thread is responsible for: its key and generation. -/
@[simp] def ownMarker : CheckoutPhase → Option (String × Nat)
  | .publishing recovery => some (recovery.idempotencyKey, recovery.generation)
  | .creating flight
  | .committing flight _
  | .commitLeasing flight _
  | .commitReading flight _
  | .verifying flight _ _
  | .storing flight _ => some (flight.idempotencyKey, flight.generation)
  | _ => none

/-- The flight whose marker the thread is going to clear. -/
@[simp] def clears : CheckoutPhase → Option CheckoutCreationFlight
  | .finishing flight true _
  | .leaving flight true _
  | .draining flight true _
  | .clearLocking flight _
  | .clearLeasing flight _
  | .clearReading flight _
  | .clearDeleting flight _ => some flight
  | _ => none

/-- The key that a marker has if there is one. -/
@[simp] def markedKey : CheckoutPhase → Option String
  | .writing checkout _ => some checkout.idempotencyKey
  | _ => none

/-- The flight that owns the marker if there is one. -/
@[simp] def deletes : CheckoutPhase → Option CheckoutCreationFlight
  | .clearDeleting flight _ => some flight
  | _ => none

@[simp] def sawNoMarker : CheckoutPhase → Bool
  | .activationCurrent _
  | .applying _ => true
  | _ => false

/-- Nothing is known at the phase. -/
def isBare (phase : CheckoutPhase) : Bool :=
  !phase.holdsLock && phase.lease.isNone && !phase.sawNoFlight &&
    phase.ownFlight.isNone && phase.ownMarker.isNone &&
    phase.clears.isNone && phase.markedKey.isNone &&
    phase.deletes.isNone && !phase.sawNoMarker

end CheckoutPhase

namespace PaymentCreation

/-- A marker of an unfinished creation is stored. -/
structure Valid (shared : PaymentCreation) : Prop where
  marked : ∀ key ∈ shared.unfinished, ∃ recovery,
    shared.marker = some recovery ∧ recovery.idempotencyKey = key
  fresh : ∀ recovery, shared.marker = some recovery →
    recovery.generation < shared.nextGeneration

/-- The marker of a creation is stored, and its outcome is not known. -/
def Owes (shared : PaymentCreation) (key : String) (generation : Nat) : Prop :=
  key ∈ shared.unfinished ∧ ∃ recovery, shared.marker = some recovery ∧
    recovery.idempotencyKey = key ∧ recovery.generation = generation

/-- A marker of a generation, if it is stored, is of a known outcome. -/
def Settled (shared : PaymentCreation) (generation : Nat) : Prop :=
  generation < shared.nextGeneration ∧
    ∀ recovery, shared.marker = some recovery →
      recovery.generation = generation →
      recovery.idempotencyKey ∉ shared.unfinished

/-- What a thread knows at its phase. -/
structure Knows
    (shared : PaymentCreation)
    (thread : ThreadId)
    (phase : CheckoutPhase) : Prop where
  lock : phase.holdsLock = true → shared.lock = some thread
  lease : ∀ operation, phase.lease = some operation →
    shared.fence = some { holder := thread, operation }
  noFlight : phase.sawNoFlight = true → shared.flight = none
  flight : ∀ flight, phase.ownFlight = some flight →
    shared.flight = some flight ∧ flight.owner = thread
  marker : ∀ key generation, phase.ownMarker = some (key, generation) →
    shared.Owes key generation
  clears : ∀ flight, phase.clears = some flight →
    shared.Settled flight.generation
  marked : ∀ key, phase.markedKey = some key →
    ∀ recovery, shared.marker = some recovery → recovery.idempotencyKey = key
  deletes : ∀ flight, phase.deletes = some flight →
    ∀ recovery, shared.marker = some recovery →
      recovery.idempotencyKey = flight.idempotencyKey ∧
        recovery.generation = flight.generation
  noMarker : phase.sawNoMarker = true → shared.marker = none

theorem holdsLock_of_sawNoFlight
    {phase : CheckoutPhase}
    (saw : phase.sawNoFlight = true) : phase.holdsLock = true := by
  cases phase <;> first | rfl | cases saw

variable {key : String} {flight : CheckoutCreationFlight} {generation : Nat}
  {thread : ThreadId} {shared middle next : PaymentCreation}
  {operation : OperationGate} {recovery : CheckoutCreationRecovery}
  {answer : CheckoutAnswer} {phase after : CheckoutPhase}
  {input : CheckoutInput}

theorem holdsLock_of_markedKey
    (marked : phase.markedKey = some key) : phase.holdsLock = true := by
  cases phase <;> first | rfl | cases marked

theorem holdsLock_of_deletes
    (deletes : phase.deletes = some flight) : phase.holdsLock = true := by
  cases phase <;> first | rfl | cases deletes

theorem lease_of_sawNoMarker
    (saw : phase.sawNoMarker = true) : phase.lease = some .binding := by
  cases phase <;> first | rfl | cases saw

/-- A responsible thread publishes under the lock, or its flight is active. -/
theorem ownMarker_cases
    (own : phase.ownMarker = some (key, generation)) :
    phase.sawNoFlight = true ∨ ∃ flight, phase.ownFlight = some flight := by
  cases phase <;> first | exact .inl rfl | exact .inr ⟨_, rfl⟩ | cases own

/-- A move takes nothing that another thread knows. -/
structure Spares
    (thread : ThreadId)
    (shared next : PaymentCreation) : Prop where
  lock : ∀ other, other ≠ thread →
    shared.lock = some other → next.lock = some other
  fence : ∀ lease : OperationLease, lease.holder ≠ thread →
    shared.fence = some lease → next.fence = some lease
  noFlight : ∀ other, other ≠ thread → shared.lock = some other →
    shared.flight = none → next.flight = none
  flight : ∀ flight : CheckoutCreationFlight, flight.owner ≠ thread →
    shared.flight = some flight → next.flight = some flight
  owes : ∀ other key generation, other ≠ thread →
    ((shared.lock = some other ∧ shared.flight = none) ∨
      ∃ flight, shared.flight = some flight ∧ flight.owner = other) →
    shared.Owes key generation → next.Owes key generation
  settled : ∀ generation, shared.Settled generation → next.Settled generation
  marker : ∀ other, other ≠ thread → shared.lock = some other →
    ∀ recovery, next.marker = some recovery → shared.marker = some recovery
  noMarker : ∀ other, other ≠ thread →
    shared.fence = some { holder := other, operation := .binding } →
    shared.marker = none → next.marker = none

/-- What another thread knows stays true. -/
theorem Spares.knows
    {other : ThreadId}
    (spares : Spares thread shared next)
    (different : other ≠ thread)
    (known : shared.Knows other phase) :
    next.Knows other phase where
  lock holds := spares.lock other different (known.lock holds)
  lease operation holds :=
    spares.fence _ different (known.lease operation holds)
  noFlight saw :=
    spares.noFlight other different
      (known.lock (holdsLock_of_sawNoFlight saw)) (known.noFlight saw)
  flight flight own := by
    obtain ⟨active, isOwner⟩ := known.flight flight own
    exact ⟨spares.flight flight (isOwner ▸ different) active, isOwner⟩
  marker key generation own := by
    refine spares.owes other key generation different ?_
      (known.marker key generation own)
    rcases ownMarker_cases own with saw | ⟨flight, isOwn⟩
    · exact .inl ⟨known.lock (holdsLock_of_sawNoFlight saw),
        known.noFlight saw⟩
    · exact .inr ⟨flight, known.flight flight isOwn⟩
  clears flight isClearing :=
    spares.settled _ (known.clears flight isClearing)
  marked key isMarked recovery stored :=
    known.marked key isMarked recovery
      (spares.marker other different
        (known.lock (holdsLock_of_markedKey isMarked)) recovery stored)
  deletes flight isDeleting recovery stored :=
    known.deletes flight isDeleting recovery
      (spares.marker other different
        (known.lock (holdsLock_of_deletes isDeleting)) recovery stored)
  noMarker saw :=
    spares.noMarker other different
      (known.lease .binding (lease_of_sawNoMarker saw)) (known.noMarker saw)

theorem Spares.trans
    (first : Spares thread shared middle)
    (second : Spares thread middle next) :
    Spares thread shared next where
  lock other different holds :=
    second.lock other different (first.lock other different holds)
  fence lease different holds :=
    second.fence lease different (first.fence lease different holds)
  noFlight other different holds isNone :=
    second.noFlight other different (first.lock other different holds)
      (first.noFlight other different holds isNone)
  flight flight different active :=
    second.flight flight different (first.flight flight different active)
  owes other key generation different owner owed := by
    refine second.owes other key generation different ?_
      (first.owes other key generation different owner owed)
    rcases owner with ⟨holds, isNone⟩ | ⟨flight, active, isOwner⟩
    · exact .inl ⟨first.lock other different holds,
        first.noFlight other different holds isNone⟩
    · exact .inr ⟨flight,
        first.flight flight (isOwner ▸ different) active, isOwner⟩
  settled generation isSettled :=
    second.settled generation (first.settled generation isSettled)
  marker other different holds recovery stored :=
    first.marker other different holds recovery
      (second.marker other different (first.lock other different holds)
        recovery stored)
  noMarker other different holds isNone :=
    second.noMarker other different (first.fence _ different holds)
      (first.noMarker other different holds isNone)

theorem Spares.quiet
    (lock : ∀ other, other ≠ thread →
      shared.lock = some other → next.lock = some other)
    (fence : ∀ lease : OperationLease, lease.holder ≠ thread →
      shared.fence = some lease → next.fence = some lease)
    (flight : next.flight = shared.flight)
    (marker : next.marker = shared.marker)
    (unfinished : next.unfinished = shared.unfinished)
    (generation : next.nextGeneration = shared.nextGeneration) :
    Spares thread shared next where
  lock := lock
  fence := fence
  noFlight _ _ _ isNone := flight.trans isNone
  flight _ _ active := flight.trans active
  owes _ _ _ _ _ owed := by
    unfold Owes at *
    rwa [unfinished, marker]
  settled _ isSettled := by
    unfold Settled at *
    rwa [unfinished, marker, generation]
  marker _ _ _ _ stored := marker.symm.trans stored
  noMarker _ _ _ isNone := marker.trans isNone

theorem Spares.refl (thread : ThreadId) (shared : PaymentCreation) :
    Spares thread shared shared :=
  .quiet (fun _ _ holds => holds) (fun _ _ holds => holds) rfl rfl rfl rfl

theorem spares_release (thread : ThreadId) (shared : PaymentCreation) :
    Spares thread shared (shared.release thread) := by
  refine .quiet (fun other different holds => ?_)
    (fun lease different holds => ?_) rfl rfl rfl rfl
  · simp [release, holds, different]
  · simp [release, holds, different]

theorem acquireLock_cases
    (acquired : shared.acquireLock thread = some next) :
    shared.lock = none ∧ next = { shared with lock := some thread } := by
  unfold acquireLock at acquired
  split at acquired
  · next isFree => exact ⟨isFree, (Option.some.inj acquired).symm⟩
  · cases acquired

theorem acquireLease_cases
    (acquired : shared.acquireLease thread operation = some next) :
    shared.fence = none ∧
      next = { shared with fence := some { holder := thread, operation } } := by
  unfold acquireLease at acquired
  split at acquired
  · next isFree => exact ⟨isFree, (Option.some.inj acquired).symm⟩
  · cases acquired

theorem spares_acquireLock
    (acquired : shared.acquireLock thread = some next) :
    Spares thread shared next := by
  obtain ⟨isFree, rfl⟩ := acquireLock_cases acquired
  exact .quiet (fun other _ holds => by cases isFree.symm.trans holds)
    (fun _ _ holds => holds) rfl rfl rfl rfl

theorem spares_acquireLease
    (acquired : shared.acquireLease thread operation = some next) :
    Spares thread shared next := by
  obtain ⟨isFree, rfl⟩ := acquireLease_cases acquired
  exact .quiet (fun _ _ holds => holds)
    (fun lease _ holds => by cases isFree.symm.trans holds) rfl rfl rfl rfl

theorem spares_clearMarker
    (known : ∀ recovery, shared.marker = some recovery →
      recovery.idempotencyKey ∉ shared.unfinished) :
    Spares thread shared shared.clearMarker where
  lock _ _ holds := holds
  fence _ _ holds := holds
  noFlight _ _ _ isNone := isNone
  flight _ _ active := active
  owes _ key _ _ _ owed := by
    obtain ⟨isUnfinished, recovery, stored, rfl, _⟩ := owed
    exact absurd isUnfinished (known recovery stored)
  settled _ isSettled := ⟨isSettled.1, fun _ stored => by cases stored⟩
  marker _ _ _ _ stored := by cases stored
  noMarker _ _ _ _ := rfl

theorem spares_write
    (holdsLock : shared.lock = some thread)
    (holdsLease : shared.fence = some { holder := thread, operation := .sale })
    (noFlight : shared.flight = none)
    (isFresh : recovery.generation = shared.nextGeneration) :
    Spares thread shared (shared.write recovery) where
  lock _ _ holds := holds
  fence _ _ holds := holds
  noFlight _ _ _ isNone := isNone
  flight _ _ active := active
  owes other key _ different owner _ := by
    rcases owner with ⟨holds, _⟩ | ⟨flight, active, _⟩
    · cases holdsLock.symm.trans holds
      exact absurd rfl different
    · cases noFlight.symm.trans active
  settled generation isSettled := by
    refine ⟨Nat.lt_succ_of_lt isSettled.1, fun stored isStored same => ?_⟩
    cases isStored
    have older := isSettled.1
    omega
  marker other different holds := by
    cases holdsLock.symm.trans holds
    exact absurd rfl different
  noMarker other _ holds := by cases holdsLease.symm.trans holds

theorem spares_publish
    (holdsLock : shared.lock = some thread)
    (noFlight : shared.flight = none) :
    Spares thread shared (shared.publish flight) where
  lock _ _ holds := holds
  fence _ _ holds := holds
  noFlight other different holds := by
    cases holdsLock.symm.trans holds
    exact absurd rfl different
  flight _ _ active := by cases noFlight.symm.trans active
  owes _ _ _ _ _ owed := owed
  settled _ isSettled := isSettled
  marker _ _ _ _ stored := stored
  noMarker _ _ _ isNone := isNone

theorem finishFlight_flight
    (active : shared.flight = some flight) :
    (shared.finishFlight flight answer).flight = none := by
  simp [finishFlight, flightIsActive, active]

theorem spares_finishFlight
    (active : shared.flight = some flight)
    (isOwner : flight.owner = thread) :
    Spares thread shared (shared.finishFlight flight answer) where
  lock _ _ holds := holds
  fence _ _ holds := holds
  noFlight _ _ _ _ := finishFlight_flight active
  flight other different isActive := by
    cases active.symm.trans isActive
    exact absurd isOwner different
  owes _ _ _ _ _ owed := owed
  settled _ isSettled := isSettled
  marker _ _ _ _ stored := stored
  noMarker _ _ _ isNone := isNone

theorem spares_settle
    (active : shared.flight = some flight)
    (isOwner : flight.owner = thread) :
    Spares thread shared (shared.settle flight.idempotencyKey) where
  lock _ _ holds := holds
  fence _ _ holds := holds
  noFlight _ _ _ isNone := isNone
  flight _ _ isActive := isActive
  owes other _ _ different owner _ := by
    rcases owner with ⟨_, isNone⟩ | ⟨found, isActive, isOther⟩
    · cases active.symm.trans isNone
    · cases active.symm.trans isActive
      exact absurd (isOther.symm.trans isOwner) different
  settled _ isSettled :=
    ⟨isSettled.1, fun recovery stored same member =>
      isSettled.2 recovery stored same (List.mem_filter.mp member).1⟩
  marker _ _ _ _ stored := stored
  noMarker _ _ _ isNone := isNone

/-- What holds across a move while a creation is unfinished. -/
structure Guards (shared next : PaymentCreation) : Prop where
  planogram :
    next.planogramVersion = shared.planogramVersion ∨ shared.unfinished = []
  marker : ∀ recovery, shared.marker = some recovery →
    recovery.idempotencyKey ∈ shared.unfinished →
    ∃ later, next.marker = some later ∧
      later.idempotencyKey = recovery.idempotencyKey

theorem Guards.same
    (planogram : next.planogramVersion = shared.planogramVersion)
    (marker : next.marker = shared.marker) : Guards shared next :=
  ⟨.inl planogram, fun recovery stored _ =>
    ⟨recovery, marker.trans stored, rfl⟩⟩

theorem Guards.clearMarker
    (known : ∀ recovery, shared.marker = some recovery →
      recovery.idempotencyKey ∉ shared.unfinished) :
    Guards shared shared.clearMarker :=
  ⟨.inl rfl, fun recovery stored isUnfinished =>
    absurd isUnfinished (known recovery stored)⟩

/-- What a move of a thread establishes for it and leaves to the others. -/
structure Kept
    (thread : ThreadId)
    (shared next : PaymentCreation)
    (phase : CheckoutPhase) : Prop where
  valid : next.Valid
  knows : next.Knows thread phase
  spares : Spares thread shared next
  guards : Guards shared next

theorem Knows.bare
    (bare : phase.isBare = true) : shared.Knows thread phase := by
  simp only [CheckoutPhase.isBare, Bool.and_eq_true, Bool.not_eq_true',
    Option.isNone_iff_eq_none] at bare
  obtain ⟨⟨⟨⟨⟨⟨⟨⟨lock, lease⟩, noFlight⟩, flight⟩, marker⟩, clears⟩, marked⟩,
    deletes⟩, noMarker⟩ := bare
  constructor <;> simp_all

theorem release_valid
    (valid : shared.Valid) : (shared.release thread).Valid :=
  ⟨valid.marked, valid.fresh⟩

/-- A thread that drops what it holds knows nothing any more. -/
theorem Kept.released
    (valid : next.Valid)
    (spares : Spares thread shared next)
    (guards : Guards shared next)
    (bare : phase.isBare = true) :
    Kept thread shared (next.release thread) phase where
  valid := release_valid valid
  knows := .bare bare
  spares := spares.trans (spares_release thread next)
  guards := ⟨guards.planogram, guards.marker⟩

theorem Kept.bare
    (valid : shared.Valid)
    (bare : phase.isBare = true) : Kept thread shared shared phase where
  valid := valid
  knows := .bare bare
  spares := .refl thread shared
  guards := .same rfl rfl

theorem Kept.locked
    (valid : shared.Valid)
    (knows : { shared with lock := some thread }.Knows thread phase)
    (moves :
      ((shared.acquireLock thread).map fun next => (next, phase)) =
        some (next, after)) :
    Kept thread shared next after := by
  obtain ⟨middle, acquired, isNext⟩ := Option.map_eq_some_iff.mp moves
  cases isNext
  have spares := spares_acquireLock acquired
  obtain ⟨_, rfl⟩ := acquireLock_cases acquired
  exact ⟨⟨valid.marked, valid.fresh⟩, knows, spares, .same rfl rfl⟩

theorem Kept.leased
    (valid : shared.Valid)
    (knows : { shared with
      fence := some { holder := thread, operation } }.Knows thread phase)
    (moves :
      ((shared.acquireLease thread operation).map fun next =>
        (next, phase)) = some (next, after)) :
    Kept thread shared next after := by
  obtain ⟨middle, acquired, isNext⟩ := Option.map_eq_some_iff.mp moves
  cases isNext
  have spares := spares_acquireLease acquired
  obtain ⟨_, rfl⟩ := acquireLease_cases acquired
  exact ⟨⟨valid.marked, valid.fresh⟩, knows, spares, .same rfl rfl⟩

theorem clearMarker_valid
    (valid : shared.Valid)
    (known : ∀ recovery, shared.marker = some recovery →
      recovery.idempotencyKey ∉ shared.unfinished) :
    shared.clearMarker.Valid where
  marked key isUnfinished := by
    obtain ⟨recovery, stored, rfl⟩ := valid.marked key isUnfinished
    exact absurd isUnfinished (known recovery stored)
  fresh _ stored := by cases stored

theorem settle_valid
    (valid : shared.Valid) : (shared.settle key).Valid where
  marked other isUnfinished :=
    valid.marked other (List.mem_filter.mp isUnfinished).1
  fresh := valid.fresh

theorem Owes.settled
    (valid : shared.Valid)
    (owed : shared.Owes key generation) :
    (shared.settle key).Settled generation := by
  obtain ⟨_, recovery, stored, isKey, isGeneration⟩ := owed
  refine ⟨isGeneration ▸ valid.fresh recovery stored,
    fun found isStored _ member => ?_⟩
  cases stored.symm.trans isStored
  have differs := (List.mem_filter.mp member).2
  simp [isKey] at differs

open CheckoutPhase

theorem moveRestore_kept
    (valid : shared.Valid)
    (moves : moveRestore thread shared phase = some (next, after)) :
    Kept thread shared next after := by
  cases phase with
  | restoring =>
    simp only [moveRestore] at moves
    split at moves
    · cases moves
      exact .bare valid rfl
    · split at moves
      · cases moves
        exact .bare valid rfl
      · cases moves
        exact .released valid (.refl _ _) (.same rfl rfl) rfl
  | restoringMarker =>
    simp only [moveRestore] at moves
    split at moves <;> cases moves <;> exact .bare valid rfl
  | _ => cases moves

/-- A terminal transaction clears no marker of an unfinished creation. -/
def ClearsKnownOutcome
    (shared : PaymentCreation)
    (phase : CheckoutPhase) : Prop :=
  match phase with
  | .clearingTerminal _
  | .replacing _ => ∀ recovery ∈ shared.marker,
      recovery.idempotencyKey ∉ shared.unfinished
  | _ => True

theorem moveRefresh_kept
    (valid : shared.Valid)
    (clears : shared.ClearsKnownOutcome phase)
    (moves : moveRefresh thread shared phase input = some (next, after)) :
    Kept thread shared next after := by
  cases phase with
  | refreshing checkout =>
    cases input with
    | go =>
      simp only [moveRefresh] at moves
      split at moves
      · cases moves
        exact .bare valid rfl
      · split at moves <;> cases moves <;> exact .bare valid rfl
    | _ => cases moves
  | refreshed checkout before =>
    simp only [moveRefresh] at moves
    split at moves
    · split at moves
      · cases moves
        exact .released valid (.refl _ _) (.same rfl rfl) rfl
      · cases moves
        exact .bare valid rfl
    · cases moves
      exact .bare valid rfl
  | clearingTerminal later =>
    cases input with
    | go =>
      cases moves
      refine ⟨clearMarker_valid valid clears, .bare ?_,
        spares_clearMarker clears, .clearMarker clears⟩
      cases later <;> rfl
    | _ => cases moves
  | _ => cases moves

theorem joinOrRefuse_kept
    {checkout : Checkout}
    (valid : shared.Valid)
    (moves : joinOrRefuse thread shared flight checkout =
      some (next, after)) :
    Kept thread shared next after := by
  unfold joinOrRefuse at moves
  split at moves <;> cases moves <;>
    exact .released valid (.refl _ _) (.same rfl rfl) rfl

theorem write_valid
    (valid : shared.Valid)
    (marked : ∀ stored, shared.marker = some stored →
      stored.idempotencyKey = recovery.idempotencyKey)
    (isFresh : recovery.generation = shared.nextGeneration) :
    (shared.write recovery).Valid where
  marked key isUnfinished := by
    refine ⟨recovery, rfl, ?_⟩
    rcases List.mem_cons.mp isUnfinished with isNew | isOld
    · exact isNew.symm
    · obtain ⟨stored, isStored, rfl⟩ := valid.marked key isOld
      exact (marked stored isStored).symm
  fresh found stored := by
    cases stored
    exact isFresh ▸ Nat.lt_succ_self _

theorem moveReserve_kept
    (valid : shared.Valid)
    (known : shared.Knows thread phase)
    (clears : shared.ClearsKnownOutcome phase)
    (moves : moveReserve thread shared phase = some (next, after)) :
    Kept thread shared next after := by
  cases phase with
  | reserving checkout =>
    simp only [moveReserve] at moves
    split at moves
    · exact joinOrRefuse_kept valid moves
    · cases moves
      exact .bare valid rfl
  | locking checkout =>
    refine .locked valid ?_ moves
    constructor <;> simp
  | checking checkout =>
    simp only [moveReserve] at moves
    split at moves
    · exact joinOrRefuse_kept valid moves
    · next noFlight =>
        cases moves
        refine ⟨valid, ?_, .refl _ _, .same rfl rfl⟩
        have lock := known.lock rfl
        constructor <;> simp [lock, noFlight]
  | leasing checkout =>
    refine .leased valid ?_ moves
    have lock := known.lock rfl
    have noFlight := known.noFlight rfl
    constructor <;> simp [lock, noFlight]
  | looking checkout =>
    have lock := known.lock rfl
    have fence := known.lease .sale rfl
    have noFlight := known.noFlight rfl
    simp only [moveReserve] at moves
    split at moves
    · cases moves
      refine ⟨valid, ?_, .refl _ _, .same rfl rfl⟩
      constructor <;> simp [lock, fence, noFlight]
    · split at moves
      · cases moves
        exact .released valid (.refl _ _) (.same rfl rfl) rfl
      · cases moves
        refine ⟨valid, ?_, .refl _ _, .same rfl rfl⟩
        constructor <;> simp [lock, fence, noFlight]
  | replacing checkout =>
    have lock := known.lock rfl
    have fence := known.lease .sale rfl
    have noFlight := known.noFlight rfl
    cases moves
    refine ⟨clearMarker_valid valid clears, ?_, spares_clearMarker clears,
      .clearMarker clears⟩
    constructor <;> simp [clearMarker, lock, fence, noFlight]
  | versioning checkout =>
    have lock := known.lock rfl
    have fence := known.lease .sale rfl
    have noFlight := known.noFlight rfl
    cases moves
    refine ⟨valid, ?_, .refl _ _, .same rfl rfl⟩
    constructor <;> simp [lock, fence, noFlight]
  | marking checkout version =>
    have lock := known.lock rfl
    have fence := known.lease .sale rfl
    have noFlight := known.noFlight rfl
    simp only [moveReserve] at moves
    split at moves
    · cases moves
      exact .released valid (.refl _ _) (.same rfl rfl) rfl
    · next accepted =>
        cases moves
        have marked (recovery : CheckoutCreationRecovery)
            (stored : shared.marker = some recovery) :
            recovery.idempotencyKey = checkout.idempotencyKey := by
          simp only [stored, Option.any_some, Bool.or_eq_true,
            bne_iff_ne, ne_eq, not_or, not_not] at accepted
          exact accepted.1
        refine ⟨valid, ?_, .refl _ _, .same rfl rfl⟩
        constructor <;> simp [lock, fence, noFlight]
        exact marked
  | writing checkout version =>
    have lock := known.lock rfl
    have fence := known.lease .sale rfl
    have noFlight := known.noFlight rfl
    have marked := known.marked _ rfl
    cases moves
    refine ⟨write_valid valid marked rfl, ?_,
      spares_write lock fence noFlight rfl, .inl rfl,
      fun stored isStored _ => ⟨_, rfl, (marked stored isStored).symm⟩⟩
    constructor <;> simp [write, Owes, lock, fence, noFlight]
  | publishing recovery =>
    have lock := known.lock rfl
    have noFlight := known.noFlight rfl
    have owed := known.marker _ _ rfl
    cases moves
    refine ⟨⟨valid.marked, valid.fresh⟩, ?_,
      (spares_publish lock noFlight).trans (spares_release _ _),
      .same rfl rfl⟩
    constructor <;> simp [publish, release,
      CheckoutCreationRecovery.newFlight]
    exact owed
  | _ => cases moves

theorem moveJoin_kept
    (valid : shared.Valid)
    (moves : moveJoin shared phase input = some (next, after)) :
    Kept thread shared next after := by
  have quiet (participants : Nat → Nat) :
      Spares thread shared { shared with participants } :=
    .quiet (fun _ _ holds => holds) (fun _ _ holds => holds) rfl rfl rfl rfl
  cases phase with
  | joining flight =>
    cases input with
    | go =>
      cases moves
      exact ⟨⟨valid.marked, valid.fresh⟩, .bare rfl, quiet _,
            .same rfl rfl⟩
    | _ => cases moves
  | waiting flight =>
    cases input with
    | go =>
      simp only [moveJoin] at moves
      split at moves
      · split at moves
        · cases moves
          exact ⟨⟨valid.marked, valid.fresh⟩, .bare rfl, quiet _,
            .same rfl rfl⟩
        · cases moves
          exact .bare valid rfl
      · cases moves
        exact .bare valid rfl
    | _ => cases moves
  | polling flight =>
    simp only [moveJoin] at moves
    split at moves
    · cases moves
      exact ⟨⟨valid.marked, valid.fresh⟩, .bare rfl, quiet _,
              .same rfl rfl⟩
    · cases moves
      exact .bare valid rfl
  | _ => cases moves

/-- A failure that is not definite is not taken for one. -/
def ReadsFailure (input : CheckoutInput) : Prop :=
  match input with
  | .refused error false =>
    shouldClearRecoveryMarkerAfterFailure error = false
  | _ => True

theorem finishes_unsettled
    (valid : shared.Valid)
    (active : shared.flight = some flight)
    (isOwner : flight.owner = thread) :
    Kept thread shared (shared.release thread)
      (.finishing flight false answer) where
  valid := release_valid valid
  knows := by constructor <;> simp [release, active, isOwner]
  spares := spares_release thread shared
  guards := .same rfl rfl

theorem finishes_settled
    {flight : CheckoutCreationFlight}
    {answer : CheckoutAnswer}
    {clear : Bool}
    (valid : shared.Valid)
    (active : shared.flight = some flight)
    (isOwner : flight.owner = thread)
    (owed : shared.Owes flight.idempotencyKey flight.generation) :
    Kept thread shared
      ((shared.settle flight.idempotencyKey).release thread)
      (.finishing flight clear answer) where
  valid := release_valid (settle_valid valid)
  knows := by
    have settled := owed.settled valid
    constructor <;> simp [release, settle, active, isOwner]
    intro found isClearing
    cases clear with
    | true =>
      cases isClearing
      exact settled
    | false => cases isClearing
  spares := (spares_settle active isOwner).trans (spares_release _ _)
  guards := .same rfl rfl

theorem moveCreate_kept
    (valid : shared.Valid)
    (known : shared.Knows thread phase)
    (reads : ReadsFailure input)
    (moves : moveCreate thread shared phase input = some (next, after)) :
    Kept thread shared next after := by
  cases phase with
  | creating flight =>
    obtain ⟨active, isOwner⟩ := known.flight _ rfl
    have owed := known.marker _ _ rfl
    cases input with
    | created transaction =>
      cases moves
      refine ⟨valid, ?_, .refl _ _, .same rfl rfl⟩
      constructor <;> simp [active, isOwner]
      exact owed
    | refused error isDefinite =>
      cases isDefinite with
      | true =>
        cases moves
        exact finishes_settled valid active isOwner owed
      | false =>
        simp only [moveCreate, finishes] at moves
        rw [show shouldClearRecoveryMarkerAfterFailure error = false
          from reads] at moves
        cases moves
        exact finishes_unsettled valid active isOwner
    | fail error =>
      cases moves
      exact finishes_unsettled valid active isOwner
    | _ => cases moves
  | committing flight created =>
    obtain ⟨active, isOwner⟩ := known.flight _ rfl
    have owed := known.marker _ _ rfl
    cases input with
    | go =>
      refine .locked valid ?_ moves
      constructor <;> simp [active, isOwner]
      exact owed
    | fail error =>
      cases moves
      exact finishes_unsettled valid active isOwner
    | _ => cases moves
  | commitLeasing flight created =>
    obtain ⟨active, isOwner⟩ := known.flight _ rfl
    have owed := known.marker _ _ rfl
    have lock := known.lock rfl
    cases input with
    | go =>
      refine .leased valid ?_ moves
      constructor <;> simp [active, isOwner, lock]
      exact owed
    | fail error =>
      cases moves
      exact finishes_unsettled valid active isOwner
    | _ => cases moves
  | commitReading flight created =>
    obtain ⟨active, isOwner⟩ := known.flight _ rfl
    have owed := known.marker _ _ rfl
    have lock := known.lock rfl
    have fence := known.lease .sale rfl
    cases input with
    | go =>
      cases moves
      refine ⟨valid, ?_, .refl _ _, .same rfl rfl⟩
      constructor <;> simp [active, isOwner, lock, fence]
      exact owed
    | fail error =>
      cases moves
      exact finishes_unsettled valid active isOwner
    | _ => cases moves
  | verifying flight created version =>
    obtain ⟨active, isOwner⟩ := known.flight _ rfl
    have owed := known.marker _ _ rfl
    have lock := known.lock rfl
    have fence := known.lease .sale rfl
    cases input with
    | go =>
      simp only [moveCreate] at moves
      split at moves
      · cases moves
        refine ⟨valid, ?_, .refl _ _, .same rfl rfl⟩
        constructor <;> simp [active, isOwner, lock, fence]
        exact owed
      · cases moves
        exact finishes_unsettled valid active isOwner
    | fail error =>
      cases moves
      exact finishes_unsettled valid active isOwner
    | _ => cases moves
  | storing flight created =>
    obtain ⟨active, isOwner⟩ := known.flight _ rfl
    have owed := known.marker _ _ rfl
    cases input with
    | go =>
      cases moves
      have kept := @finishes_settled thread
        { shared with current := some created } flight (.ok created) true
        ⟨valid.marked, valid.fresh⟩ active isOwner owed
      refine ⟨kept.valid, kept.knows, Spares.trans ?_ kept.spares,
        .same rfl rfl⟩
      exact .quiet (fun _ _ holds => holds) (fun _ _ holds => holds)
        rfl rfl rfl rfl
    | fail error =>
      cases moves
      exact finishes_unsettled valid active isOwner
    | _ => cases moves
  | _ => cases input <;> cases moves

theorem moveFinish_kept
    (valid : shared.Valid)
    (known : shared.Knows thread phase)
    (moves : moveFinish thread shared phase = some (next, after)) :
    Kept thread shared next after := by
  cases phase with
  | finishing flight clear answer =>
    obtain ⟨active, isOwner⟩ := known.flight _ rfl
    cases moves
    refine ⟨⟨valid.marked, valid.fresh⟩, ?_,
      spares_finishFlight active isOwner, .same rfl rfl⟩
    cases clear with
    | true =>
      have settled := known.clears _ rfl
      constructor <;> simp
      exact settled
    | false => exact .bare rfl
  | leaving flight clear answer =>
    cases moves
    refine ⟨⟨valid.marked, valid.fresh⟩, ?_,
      .quiet (fun _ _ holds => holds) (fun _ _ holds => holds)
        rfl rfl rfl rfl, .same rfl rfl⟩
    cases clear with
    | true =>
      have settled := known.clears _ rfl
      constructor <;> simp
      exact settled
    | false => exact .bare rfl
  | draining flight clear answer =>
    simp only [moveFinish] at moves
    split at moves
    · split at moves
      · next isClearing =>
          subst isClearing
          have settled := known.clears _ rfl
          cases moves
          refine ⟨valid, ?_, .refl _ _, .same rfl rfl⟩
          constructor <;> simp [settled]
      · cases moves
        exact .released valid (.refl _ _) (.same rfl rfl) rfl
    · cases moves
  | clearLocking flight answer =>
    have settled := known.clears _ rfl
    refine .locked valid ?_ moves
    constructor <;> simp
    exact settled
  | clearLeasing flight answer =>
    have settled := known.clears _ rfl
    have lock := known.lock rfl
    refine .leased valid ?_ moves
    constructor <;> simp [lock]
    exact settled
  | clearReading flight answer =>
    have settled := known.clears _ rfl
    have lock := known.lock rfl
    have fence := known.lease .sale rfl
    simp only [moveFinish] at moves
    split at moves
    · next isOwned =>
        cases moves
        refine ⟨valid, ?_, .refl _ _, .same rfl rfl⟩
        constructor <;> simp [lock, fence, settled]
        intro recovery stored
        simpa [stored, CheckoutCreationRecovery.isOwnedBy] using isOwned
    · cases moves
      exact .released valid (.refl _ _) (.same rfl rfl) rfl
  | clearDeleting flight answer =>
    have settled := known.clears _ rfl
    have own := known.deletes _ rfl
    have outcomeKnown (recovery : CheckoutCreationRecovery)
        (stored : shared.marker = some recovery) :
        recovery.idempotencyKey ∉ shared.unfinished :=
      settled.2 recovery stored (own recovery stored).2
    cases moves
    exact .released (clearMarker_valid valid outcomeKnown)
      (spares_clearMarker outcomeKnown) (.clearMarker outcomeKnown) rfl
  | _ => cases moves

theorem moveActivation_kept
    (valid : shared.Valid)
    (known : shared.Knows thread phase)
    (moves : moveActivation thread shared phase = some (next, after)) :
    Kept thread shared next after := by
  cases phase with
  | activating version =>
    simp only [moveActivation] at moves
    split at moves
    · next acquired =>
        cases moves
        have spares := spares_acquireLease acquired
        obtain ⟨isFree, rfl⟩ := acquireLease_cases acquired
        refine ⟨⟨valid.marked, valid.fresh⟩, ?_, spares, .same rfl rfl⟩
        constructor <;> simp
    · cases moves
      exact .bare valid rfl
  | activationMarker version =>
    have fence := known.lease .binding rfl
    simp only [moveActivation] at moves
    split at moves
    · cases moves
      exact .released valid (.refl _ _) (.same rfl rfl) rfl
    · next absent =>
        cases moves
        refine ⟨valid, ?_, .refl _ _, .same rfl rfl⟩
        constructor <;> simp [fence]
        simpa using absent
  | activationCurrent version =>
    have fence := known.lease .binding rfl
    have absent := known.noMarker rfl
    simp only [moveActivation] at moves
    split at moves
    · cases moves
      exact .released valid (.refl _ _) (.same rfl rfl) rfl
    · cases moves
      refine ⟨valid, ?_, .refl _ _, .same rfl rfl⟩
      constructor <;> simp [fence, absent]
  | applying version =>
    have absent := known.noMarker rfl
    cases moves
    have nothing : shared.unfinished = [] :=
      List.eq_nil_iff_forall_not_mem.mpr fun key isUnfinished => by
        obtain ⟨recovery, stored, _⟩ := valid.marked key isUnfinished
        cases absent.symm.trans stored
    exact .released ⟨valid.marked, valid.fresh⟩
      (.quiet (fun _ _ holds => holds) (fun _ _ holds => holds)
        rfl rfl rfl rfl)
      ⟨.inr nothing, fun recovery stored _ => ⟨recovery, stored, rfl⟩⟩ rfl
  | occupying operation =>
    exact .leased valid (.bare rfl) moves
  | holding =>
    cases moves
    exact .released valid (.refl _ _) (.same rfl rfl) rfl
  | _ => cases moves

theorem moveFailure_kept
    {error : String}
    (valid : shared.Valid)
    (moves : moveFailure thread shared error phase = some (next, after)) :
    Kept thread shared next after := by
  have left (flight : CheckoutCreationFlight) :
      Spares thread shared (shared.leave flight) :=
    .quiet (fun _ _ holds => holds) (fun _ _ holds => holds) rfl rfl rfl rfl
  cases phase with
  | waiting flight | polling flight =>
    cases moves
    exact .released ⟨valid.marked, valid.fresh⟩ (left flight)
      (.same rfl rfl) rfl
  | _ =>
    cases moves
    try exact .released valid (.refl _ _) (.same rfl rfl) rfl

theorem move_kept
    (valid : shared.Valid)
    (known : shared.Knows thread phase)
    (clears : shared.ClearsKnownOutcome phase)
    (reads : ReadsFailure input)
    (moves : move thread shared phase input = some (next, after)) :
    Kept thread shared next after := by
  unfold move at moves
  split at moves
  · rcases Option.or_eq_some_iff.mp moves with creates | ⟨_, fails⟩
    · exact moveCreate_kept valid known reads creates
    · exact moveFailure_kept valid fails
  · rcases Option.or_eq_some_iff.mp moves with restores | ⟨_, moves⟩
    · exact moveRestore_kept valid restores
    rcases Option.or_eq_some_iff.mp moves with refreshes | ⟨_, moves⟩
    · exact moveRefresh_kept valid clears refreshes
    rcases Option.or_eq_some_iff.mp moves with reserves | ⟨_, moves⟩
    · exact moveReserve_kept valid known clears reserves
    rcases Option.or_eq_some_iff.mp moves with joins | ⟨_, moves⟩
    · exact moveJoin_kept valid joins
    rcases Option.or_eq_some_iff.mp moves with creates | ⟨_, moves⟩
    · exact moveCreate_kept valid known reads creates
    rcases Option.or_eq_some_iff.mp moves with finishes | ⟨_, activates⟩
    · exact moveFinish_kept valid known finishes
    · exact moveActivation_kept valid known activates

end PaymentCreation

end VendingSystem.Daemon
