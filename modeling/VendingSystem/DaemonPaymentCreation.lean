import VendingSystem.DaemonOrderSessions
import VendingSystem.Machine
import VendingSystem.Text
import VendingSystem.Threads

namespace VendingSystem.Daemon

/-!
# The payment creation critical section

A checkout request reserves a durable recovery marker and becomes the owner of
the flight, joins the owner's flight, or finds an active transaction.  The
owner asks the platform for the order without holding the lock or the sale
lease.  A planogram switch holds the fence and needs the marker to be absent.

Each phase of a thread is one access to what the threads share.  JSON values
are compared as their texts.
-/

abbrev ThreadId := Nat

structure CheckoutCreationRequest where
  paymentMethod : String
  paymentProviderCode : Option String
  items : String
  profileSnapshot : Option String
  deriving DecidableEq, Repr

structure CheckoutCreationRecovery where
  request : CheckoutCreationRequest
  idempotencyKey : String
  generation : Nat
  planogramVersion : Option String
  deriving DecidableEq, Repr

structure CheckoutCreationFlight where
  idempotencyKey : String
  generation : Nat
  request : CheckoutCreationRequest
  owner : ThreadId
  deriving DecidableEq, Repr

inductive OperationGate where
  | sale
  | binding
  | manualDispense
  deriving DecidableEq, Repr

structure OperationLease where
  holder : ThreadId
  operation : OperationGate
  deriving DecidableEq, Repr

abbrev CheckoutAnswer := Except String CurrentTransaction

/--
What the threads share.  The first three fields survive a restart.  A key is
unfinished from the reservation of its creation to its known outcome.
-/
structure PaymentCreation where
  marker : Option CheckoutCreationRecovery
  current : Option CurrentTransaction
  planogramVersion : Option String
  lock : Option ThreadId
  fence : Option OperationLease
  flight : Option CheckoutCreationFlight
  participants : Nat → Nat
  nextGeneration : Nat
  unfinished : List String
  outcomes : Nat → Option CheckoutAnswer

/-- A request with the idempotency key it is made under. -/
structure Checkout where
  request : CheckoutCreationRequest
  idempotencyKey : String
  deriving DecidableEq, Repr

def isActiveTransaction (current : CurrentTransaction) : Bool :=
  !isTerminalTransaction current &&
    (["wait_payment", "dispensing"].contains current.nextAction ||
      ["waiting_payment", "pending_payment", "paid", "dispensing"].contains
        current.orderStatus)

def checkoutCreationRecoveryPending : String :=
  "CHECKOUT_CREATION_RECOVERY_PENDING"

def checkoutCreationRecoveryReplaced : String :=
  "CHECKOUT_CREATION_RECOVERY_REPLACED"

def shouldClearRecoveryMarkerAfterFailure (error : String) : Bool :=
  let lower := toAsciiLowercase error
  !(["timeout", "offline", "network", "connection", "backend_http_error: 5",
    "status: 5", "status: 504"].any fun part => containsText lower part)

/-- Where a thread is. -/
inductive CheckoutPhase where
  | idle
  | done (answer : CheckoutAnswer)
  -- A restart: the current transaction, then the marker to replay.
  | restoring
  | restoringMarker
  -- A request, up to its role.
  | refreshing (checkout : Checkout)
  | refreshed (checkout : Checkout) (before : CurrentTransaction)
  | clearingTerminal (next : Option Checkout)
  | reserving (checkout : Checkout)
  | locking (checkout : Checkout)
  | checking (checkout : Checkout)
  | leasing (checkout : Checkout)
  | looking (checkout : Checkout)
  | replacing (checkout : Checkout)
  | versioning (checkout : Checkout)
  | marking (checkout : Checkout) (version : Option String)
  | writing (checkout : Checkout) (version : Option String)
  | publishing (recovery : CheckoutCreationRecovery)
  -- A caller that joined the flight of another.
  | joining (flight : CheckoutCreationFlight)
  | waiting (flight : CheckoutCreationFlight)
  | polling (flight : CheckoutCreationFlight)
  -- The owner of a flight, up to its outcome.
  | creating (flight : CheckoutCreationFlight)
  | committing
      (flight : CheckoutCreationFlight) (created : CurrentTransaction)
  | commitLeasing
      (flight : CheckoutCreationFlight) (created : CurrentTransaction)
  | commitReading
      (flight : CheckoutCreationFlight) (created : CurrentTransaction)
  | verifying
      (flight : CheckoutCreationFlight) (created : CurrentTransaction)
      (version : Option String)
  | storing
      (flight : CheckoutCreationFlight) (created : CurrentTransaction)
  -- The owner after its outcome.
  | finishing
      (flight : CheckoutCreationFlight) (clear : Bool)
      (answer : CheckoutAnswer)
  | leaving
      (flight : CheckoutCreationFlight) (clear : Bool)
      (answer : CheckoutAnswer)
  | draining
      (flight : CheckoutCreationFlight) (clear : Bool)
      (answer : CheckoutAnswer)
  | clearLocking (flight : CheckoutCreationFlight) (answer : CheckoutAnswer)
  | clearLeasing (flight : CheckoutCreationFlight) (answer : CheckoutAnswer)
  | clearReading (flight : CheckoutCreationFlight) (answer : CheckoutAnswer)
  | clearDeleting (flight : CheckoutCreationFlight) (answer : CheckoutAnswer)
  -- A planogram switch, and other operations behind the fence.
  | activating (version : String)
  | activationMarker (version : String)
  | activationCurrent (version : String)
  | applying (version : String)
  | occupying (operation : OperationGate)
  | holding

/-- How an access goes. -/
inductive CheckoutInput where
  | go
  | fail (error : String)
  | unanswered
  | created (transaction : CurrentTransaction)
  | refused (error : String) (isDefinite : Bool)

/-- The platform does not answer, or the wait for the owner is over. -/
def CheckoutInput.isUnanswered : CheckoutInput → Bool
  | .unanswered => true
  | _ => false

namespace PaymentCreation

/-- The lock and the lease of a thread are dropped. -/
def release
    (shared : PaymentCreation)
    (thread : ThreadId) : PaymentCreation :=
  { shared with
    lock := if shared.lock = some thread then none else shared.lock
    fence :=
      if shared.fence.any fun lease => lease.holder == thread then none
      else shared.fence }

def acquireLock
    (shared : PaymentCreation)
    (thread : ThreadId) : Option PaymentCreation :=
  match shared.lock with
  | none => some { shared with lock := some thread }
  | some _ => none

def acquireLease
    (shared : PaymentCreation)
    (holder : ThreadId)
    (operation : OperationGate) : Option PaymentCreation :=
  match shared.fence with
  | none => some { shared with fence := some { holder, operation } }
  | some _ => none

def join
    (shared : PaymentCreation)
    (flight : CheckoutCreationFlight) : PaymentCreation :=
  { shared with
    participants := Function.update shared.participants flight.generation
      (shared.participants flight.generation + 1) }

def leave
    (shared : PaymentCreation)
    (flight : CheckoutCreationFlight) : PaymentCreation :=
  { shared with
    participants := Function.update shared.participants flight.generation
      (shared.participants flight.generation - 1) }

def flightIsActive
    (shared : PaymentCreation)
    (flight : CheckoutCreationFlight) : Bool :=
  shared.flight.any fun current => current.generation == flight.generation

def clearMarker (shared : PaymentCreation) : PaymentCreation :=
  { shared with marker := none }

/-- The marker of a creation that begins. -/
def write
    (shared : PaymentCreation)
    (recovery : CheckoutCreationRecovery) : PaymentCreation :=
  { shared with
    marker := some recovery
    nextGeneration := shared.nextGeneration + 1
    unfinished := recovery.idempotencyKey :: shared.unfinished }

def publish
    (shared : PaymentCreation)
    (flight : CheckoutCreationFlight) : PaymentCreation :=
  { shared with
    flight := some flight
    participants := Function.update shared.participants flight.generation 1 }

def finishFlight
    (shared : PaymentCreation)
    (flight : CheckoutCreationFlight)
    (answer : CheckoutAnswer) : PaymentCreation :=
  { shared with
    flight := if shared.flightIsActive flight then none else shared.flight
    outcomes := Function.update shared.outcomes flight.generation
      (some answer) }

/-- The outcome of a creation is known. -/
def settle (shared : PaymentCreation) (key : String) : PaymentCreation :=
  { shared with
    unfinished := shared.unfinished.filter fun other => other != key }

end PaymentCreation

def CheckoutCreationRecovery.isOwnedBy
    (recovery : CheckoutCreationRecovery)
    (flight : CheckoutCreationFlight) : Bool :=
  recovery.idempotencyKey == flight.idempotencyKey &&
    recovery.generation == flight.generation

def CheckoutCreationRecovery.newFlight
    (recovery : CheckoutCreationRecovery)
    (owner : ThreadId) : CheckoutCreationFlight where
  idempotencyKey := recovery.idempotencyKey
  generation := recovery.generation
  request := recovery.request
  owner := owner

def CheckoutCreationFlight.accepts
    (flight : CheckoutCreationFlight)
    (checkout : Checkout) : Bool :=
  flight.idempotencyKey == checkout.idempotencyKey &&
    flight.request == checkout.request

namespace CheckoutPhase

open PaymentCreation

variable (thread : ThreadId) (shared : PaymentCreation)

abbrev Moved := Option (PaymentCreation × CheckoutPhase)

/-- The thread ends, and drops the lock and the lease it holds. -/
def ends (answer : CheckoutAnswer) : Moved :=
  some (shared.release thread, .done answer)

def endsWith (error : String) : Moved :=
  ends thread shared (.error error)

/-- The request joins a flight that takes it, or is refused. -/
def joinOrRefuse
    (flight : CheckoutCreationFlight)
    (checkout : Checkout) : Moved :=
  if flight.accepts checkout then
    some (shared.release thread, .joining flight)
  else endsWith thread shared checkoutCreationRecoveryPending

/-- The owner's outcome, before the flight is finished. -/
def finishes
    (flight : CheckoutCreationFlight)
    (clear : Bool)
    (answer : CheckoutAnswer) : Moved :=
  some (shared.release thread, .finishing flight clear answer)

/-- A restart reads the current transaction, and the marker without one. -/
def moveRestore : CheckoutPhase → Moved
  | .restoring =>
    match shared.current with
    | none => some (shared, .restoringMarker)
    | some current =>
      if isTerminalTransaction current then
        some (shared, .clearingTerminal none)
      else ends thread shared (.ok current)
  | .restoringMarker =>
    match shared.marker with
    | none => some (shared, .idle)
    | some recovery =>
      some (shared,
        .refreshing
          { request := recovery.request
            idempotencyKey := recovery.idempotencyKey })
  | _ => none

/-- A request refreshes the current transaction before it reserves. -/
def moveRefresh : CheckoutPhase → CheckoutInput → Moved
  | .refreshing checkout, .go =>
    match shared.current with
    | none => some (shared, .reserving checkout)
    | some current =>
      if isTerminalTransaction current then
        some (shared, .clearingTerminal (some checkout))
      else some (shared, .refreshed checkout current)
  | .refreshed checkout before, input =>
    match if input.isUnanswered then some before else shared.current with
    | some current =>
      if isActiveTransaction current then ends thread shared (.ok current)
      else some (shared, .reserving checkout)
    | none => some (shared, .reserving checkout)
  | .clearingTerminal next, .go =>
    some (shared.clearMarker,
      (next.map CheckoutPhase.reserving).getD .idle)
  | _, _ => none

/-- A request finds its role under the lock and the sale lease. -/
def moveReserve : CheckoutPhase → Moved
  | .reserving checkout =>
    match shared.flight with
    | some flight => joinOrRefuse thread shared flight checkout
    | none => some (shared, .locking checkout)
  | .locking checkout =>
    (shared.acquireLock thread).map fun next => (next, .checking checkout)
  | .checking checkout =>
    match shared.flight with
    | some flight => joinOrRefuse thread shared flight checkout
    | none => some (shared, .leasing checkout)
  | .leasing checkout =>
    (shared.acquireLease thread .sale).map fun next =>
      (next, .looking checkout)
  | .looking checkout =>
    match shared.current with
    | none => some (shared, .versioning checkout)
    | some current =>
      if isActiveTransaction current then ends thread shared (.ok current)
      else some (shared, .replacing checkout)
  | .replacing checkout =>
    some (shared.clearMarker, .versioning checkout)
  | .versioning checkout =>
    some (shared, .marking checkout shared.planogramVersion)
  | .marking checkout version =>
    if shared.marker.any fun recovery =>
        recovery.idempotencyKey != checkout.idempotencyKey ||
          recovery.request != checkout.request then
      endsWith thread shared checkoutCreationRecoveryPending
    else some (shared, .writing checkout version)
  | .writing checkout planogramVersion =>
    -- A marker of the same request is taken over by a new generation.
    let recovery : CheckoutCreationRecovery :=
      { request := checkout.request
        idempotencyKey := checkout.idempotencyKey
        generation := shared.nextGeneration
        planogramVersion }
    some (shared.write recovery, .publishing recovery)
  | .publishing recovery =>
    let flight := recovery.newFlight thread
    some ((shared.publish flight).release thread, .creating flight)
  | _ => none

/-- A joined caller polls the current transaction and the flight. -/
def moveJoin : CheckoutPhase → CheckoutInput → Moved
  | .joining flight, .go =>
    some (shared.join flight, .waiting flight)
  | .waiting flight, .go =>
    match shared.current with
    | some current =>
      if isActiveTransaction current then
        some (shared.leave flight, .done (.ok current))
      else some (shared, .polling flight)
    | none => some (shared, .polling flight)
  | .polling flight, input =>
    if !shared.flightIsActive flight || input.isUnanswered then
      some (shared.leave flight,
        .done (.error checkoutCreationRecoveryPending))
    else some (shared, .waiting flight)
  | _, _ => none

/-- The owner creates the order and commits it. -/
def moveCreate : CheckoutPhase → CheckoutInput → Moved
  | .creating flight, .created transaction =>
    some (shared, .committing flight transaction)
  | .creating flight, .refused error isDefinite =>
    finishes thread
      (if isDefinite then shared.settle flight.idempotencyKey else shared)
      flight (shouldClearRecoveryMarkerAfterFailure error) (.error error)
  | .committing flight created, .go =>
    (shared.acquireLock thread).map fun next =>
      (next, .commitLeasing flight created)
  | .commitLeasing flight created, .go =>
    (shared.acquireLease thread .sale).map fun next =>
      (next, .commitReading flight created)
  | .commitReading flight created, .go =>
    some (shared, .verifying flight created shared.planogramVersion)
  | .verifying flight created version, .go =>
    if shared.marker.any fun recovery =>
        recovery.isOwnedBy flight && recovery.planogramVersion == version then
      some (shared, .storing flight created)
    else
      finishes thread shared flight false
        (.error checkoutCreationRecoveryReplaced)
  | .storing flight created, .go =>
    finishes thread
      ({ shared with current := some created }.settle flight.idempotencyKey)
      flight true (.ok created)
  | .creating flight, .fail error
  | .committing flight _, .fail error
  | .commitLeasing flight _, .fail error
  | .commitReading flight _, .fail error
  | .verifying flight _ _, .fail error
  | .storing flight _, .fail error =>
    finishes thread shared flight false (.error error)
  | _, _ => none

/-- The owner ends its flight and clears its own marker. -/
def moveFinish : CheckoutPhase → Moved
  | .finishing flight clear answer =>
    some (shared.finishFlight flight answer, .leaving flight clear answer)
  | .leaving flight clear answer =>
    some (shared.leave flight, .draining flight clear answer)
  | .draining flight clear answer =>
    if shared.participants flight.generation = 0 then
      if clear then some (shared, .clearLocking flight answer)
      else ends thread shared answer
    else none
  | .clearLocking flight answer =>
    (shared.acquireLock thread).map fun next =>
      (next, .clearLeasing flight answer)
  | .clearLeasing flight answer =>
    (shared.acquireLease thread .sale).map fun next =>
      (next, .clearReading flight answer)
  | .clearReading flight answer =>
    if shared.marker.any fun recovery => recovery.isOwnedBy flight then
      some (shared, .clearDeleting flight answer)
    else ends thread shared answer
  | .clearDeleting _ answer =>
    ends thread shared.clearMarker answer
  | _ => none

/-- A switch needs the fence, no marker and no active transaction. -/
def moveActivation : CheckoutPhase → Moved
  | .activating version =>
    match shared.acquireLease thread .binding with
    | some next => some (next, .activationMarker version)
    | none => some (shared, .idle)
  | .activationMarker version =>
    if shared.marker.isSome then some (shared.release thread, .idle)
    else some (shared, .activationCurrent version)
  | .activationCurrent version =>
    if shared.current.any isActiveTransaction then
      some (shared.release thread, .idle)
    else some (shared, .applying version)
  | .applying version =>
    some
      ({ shared with planogramVersion := some version }.release thread,
        .idle)
  | .occupying operation =>
    (shared.acquireLease thread operation).map fun next => (next, .holding)
  | .holding => some (shared.release thread, .idle)
  | _ => none

/-- A failed access, an expired wait for a lease or a dropped caller. -/
def moveFailure (error : String) : CheckoutPhase → Moved
  | .idle
  | .done _
  | .creating _
  | .committing _ _
  | .commitLeasing _ _
  | .commitReading _ _
  | .verifying _ _ _
  | .storing _ _
  | .finishing _ _ _
  | .leaving _ _ _
  | .draining _ _ _ => none
  | .waiting flight
  | .polling flight => endsWith thread (shared.leave flight) error
  | _ => endsWith thread shared error

/-- The next step of a thread, unless it has to wait. -/
def move (phase : CheckoutPhase) (input : CheckoutInput) : Moved :=
  match input with
  | .fail error =>
    (moveCreate thread shared phase (.fail error)).or
      (moveFailure thread shared error phase)
  | _ =>
    (moveRestore thread shared phase).or
      ((moveRefresh thread shared phase input).or
        ((moveReserve thread shared phase).or
          ((moveJoin shared phase input).or
            ((moveCreate thread shared phase input).or
              ((moveFinish thread shared phase).or
                (moveActivation thread shared phase))))))

end CheckoutPhase

inductive CheckoutEvent where
  | checkout (thread : ThreadId) (checkout : Checkout)
  | restore (thread : ThreadId)
  | activate (thread : ThreadId) (version : String)
  | occupy (thread : ThreadId) (operation : OperationGate)
  | advance (thread : ThreadId) (input : CheckoutInput)
  | transaction (current : Option CurrentTransaction)
  | crash

namespace PaymentCreation

/-- Only what is stored survives the death of the process. -/
def crashed (shared : PaymentCreation) : PaymentCreation :=
  { shared with
    lock := none
    fence := none
    flight := none
    participants := fun _ => 0 }

/-- A process that starts.  A marker it finds is of an unfinished creation. -/
def started
    (marker : Option CheckoutCreationRecovery)
    (current : Option CurrentTransaction)
    (planogramVersion : Option String) : PaymentCreation where
  marker := marker
  current := current
  planogramVersion := planogramVersion
  lock := none
  fence := none
  flight := none
  participants := fun _ => 0
  nextGeneration :=
    (marker.map fun recovery => recovery.generation + 1).getD 0
  unfinished :=
    (marker.map fun recovery => recovery.idempotencyKey).toList
  outcomes := fun _ => none

end PaymentCreation

/-- The critical section with its threads. -/
abbrev PaymentCreationSection := Threads PaymentCreation CheckoutPhase

namespace PaymentCreationSection

/-- A thread that does nothing takes up a task. -/
def begin
    (state : PaymentCreationSection)
    (thread : ThreadId)
    (phase : CheckoutPhase) : Option PaymentCreationSection :=
  match state.phase thread with
  | .idle => some (state.moved thread state.shared phase)
  | _ => none

def step (state : PaymentCreationSection) :
    CheckoutEvent → Option PaymentCreationSection
  | .checkout thread checkout => begin state thread (.refreshing checkout)
  | .restore thread => begin state thread .restoring
  | .activate thread version => begin state thread (.activating version)
  | .occupy thread operation => begin state thread (.occupying operation)
  | .advance thread input =>
    (CheckoutPhase.move thread state.shared (state.phase thread) input).map
      fun moved => state.moved thread moved.1 moved.2
  | .transaction current =>
    some { state with shared := { state.shared with current } }
  | .crash =>
    some { shared := state.shared.crashed, phase := fun _ => .idle }

def machine : Machine PaymentCreationSection CheckoutEvent where
  step := step

def start
    (marker : Option CheckoutCreationRecovery)
    (current : Option CurrentTransaction)
    (planogramVersion : Option String) : PaymentCreationSection where
  shared := .started marker current planogramVersion
  phase := fun _ => .idle

end PaymentCreationSection

end VendingSystem.Daemon
