import VendingSystem.PlatformDispatch

namespace VendingSystem.Platform

/-!
# Payment transactions

The writes that move a payment: a provider's terminal result, the expiry, a
cancellation, the creation of the provider's intent, and the operator's
incident actions.  Some lock the payment and its order and check them again
before they write; others write whatever they find.
-/

def providerMutablePaymentStatuses : List PaymentStatus :=
  [.created, .pending, .processing, .unknown]

def canApplyProviderTerminalStatus (status : PaymentStatus) : Bool :=
  status ∈ providerMutablePaymentStatuses

/-- An operator has to decide about the payment or its order. -/
def isPaymentIncidentLocked
    (order : Order)
    (paymentStatus : PaymentStatus) : Bool :=
  order.status = .manualHandling ||
    order.paymentState = .paymentUnknown ||
    order.paymentState = .manualHandling ||
    order.fulfillmentState = .manualHandling ||
    paymentStatus = .unknown || paymentStatus = .manualHandling

/-- A payment joined with its order. -/
structure PaymentRow where
  payment : Payment
  order : Order
  deriving Repr, DecidableEq

def Db.paymentRow (db : Db) (paymentId : PaymentId) : Option PaymentRow := do
  let payment ← db.payments.find? paymentId
  let order ← db.orders.find? payment.orderId
  pure { payment, order }

/-- The join of an order with the payment that it names. -/
def Db.orderPaymentRow (db : Db) (orderId : OrderId) : Option PaymentRow := do
  let order ← db.orders.find? orderId
  let paymentId ← order.paymentId
  let payment ← db.payments.find? paymentId
  pure { payment, order }

variable {db : Db} {row : PaymentRow}

theorem Db.paymentRow_eq_some_iff
    {paymentId : PaymentId} :
    db.paymentRow paymentId = some row ↔
      db.payments.find? paymentId = some row.payment ∧
        db.orders.find? row.payment.orderId = some row.order := by
  obtain ⟨payment, order⟩ := row
  unfold Db.paymentRow
  cases found : db.payments.find? paymentId with
  | none => simp
  | some stored =>
    cases ordered : db.orders.find? stored.orderId with
    | none =>
      simp only [Option.bind_eq_bind, Option.bind_some, ordered,
        Option.bind_none, reduceCtorEq, Option.some.injEq, false_iff,
        not_and]
      rintro rfl
      simp [ordered]
    | some current =>
      simp only [Option.bind_eq_bind, Option.bind_some, ordered,
        Option.pure_def, Option.some.injEq, PaymentRow.mk.injEq]
      constructor
      · rintro ⟨rfl, rfl⟩
        exact ⟨rfl, ordered⟩
      · rintro ⟨rfl, same⟩
        rw [ordered] at same
        exact ⟨rfl, Option.some.inj same⟩

theorem Db.orderPaymentRow_eq_some
    {orderId : OrderId}
    (found : db.orderPaymentRow orderId = some row) :
    db.orders.find? orderId = some row.order ∧
      ∃ paymentId, row.order.paymentId = some paymentId ∧
        db.payments.find? paymentId = some row.payment := by
  simp only [Db.orderPaymentRow, Option.bind_eq_bind,
    Option.bind_eq_some_iff] at found
  obtain ⟨order, ordered, paymentId, named, payment, stored, same⟩ := found
  cases same
  exact ⟨ordered, paymentId, named, stored⟩

/-- The active attempt of a payment; an index admits one per order. -/
def Db.activeAttempt? (db : Db) (paymentId : PaymentId) :
    Option PaymentCodeAttempt :=
  db.paymentCodeAttempts.rows.find? fun attempt =>
    attempt.paymentId = paymentId && attempt.isActive

/-- The database with one more event, unless its identifier is known. -/
def Db.addPaymentEvent
    (db : Db)
    (providerCode : PaymentProviderCode)
    (providerEventId : PaymentEventName)
    (paymentId : PaymentId) : Db :=
  { db with
    paymentEvents := db.paymentEvents.insertOrIgnore
      { providerCode, providerEventId, paymentId } }

def Db.hasPaymentEvent
    (db : Db)
    (providerCode : PaymentProviderCode)
    (providerEventId : PaymentEventName) : Bool :=
  (db.paymentEvents.find? (providerCode, providerEventId)).isSome

/-- The database with the states of a closed order. -/
def Db.closeOrder
    (db : Db)
    (orderId : OrderId)
    (status : OrderStatus)
    (paymentState : OrderPaymentState) : Db :=
  db.setOrderStates orderId status paymentState .canceled

inductive ProviderTerminalStatus where
  | succeeded
  | failed
  deriving Repr, DecidableEq

structure PaymentTerminalLeaseGuard where
  ownerToken : Nat
  fence : Nat
  deriving Repr, DecidableEq

/-- The attempt that a result belongs to, and the claim of its worker. -/
structure PaymentCodeAttemptTerminalTransition where
  attemptId : Nat
  status : PaymentCodeAttemptStatus
  ownerToken : Nat
  fence : Nat
  deriving Repr, DecidableEq

structure PaymentTerminalTransitionInput where
  paymentId : PaymentId
  orderId : OrderId
  newStatus : ProviderTerminalStatus
  providerCode : PaymentProviderCode
  providerEventId : PaymentEventName
  providerTradeNo : Option String
  failedReason : Option String
  allowIncidentLockedResolution : Bool
  leaseGuard : Option PaymentTerminalLeaseGuard
  paymentCodeAttempt : Option PaymentCodeAttemptTerminalTransition
  deriving Repr, DecidableEq

inductive PaymentTerminalTransitionResult where
  | applied
  | duplicate
  | stale
  deriving Repr, DecidableEq

/-- The attempt is open and its worker's claim is in force. -/
def PaymentCodeAttemptTerminalTransition.admits
    (transition : PaymentCodeAttemptTerminalTransition)
    (attempt : PaymentCodeAttempt)
    (now : Time) : Bool :=
  attempt.isActive &&
    attempt.status ∉
      ([.succeeded, .failed, .reversed, .canceled] :
        List PaymentCodeAttemptStatus) &&
    attempt.recoveryLease.heldBy transition.ownerToken transition.fence now

/-- The lease that a transition was given is in force. -/
def PaymentTerminalLeaseGuard.admits
    (leaseGuard : PaymentTerminalLeaseGuard)
    (payment : Payment)
    (now : Time) : Bool :=
  payment.intentCreationLease.heldBy leaseGuard.ownerToken leaseGuard.fence
    now

/-- A result that is not about an attempt waits while one is active. -/
def Db.attemptAdmits
    (db : Db)
    (input : PaymentTerminalTransitionInput)
    (payment : Payment)
    (now : Time) : Bool :=
  match input.paymentCodeAttempt with
  | some transition =>
    (db.paymentCodeAttempts.find? transition.attemptId).any fun attempt =>
      transition.admits attempt now
  | none =>
    payment.method ≠ .paymentCode || (db.activeAttempt? payment.id).isNone

/-- The payment can still take the result. -/
def Db.admitsTransition
    (db : Db)
    (input : PaymentTerminalTransitionInput)
    (row : PaymentRow)
    (now : Time) : Bool :=
  db.attemptAdmits input row.payment now &&
    canApplyProviderTerminalStatus row.payment.status &&
    (!isPaymentIncidentLocked row.order row.payment.status ||
      input.allowIncidentLockedResolution) &&
    input.leaseGuard.all fun leaseGuard => leaseGuard.admits row.payment now

/-- The condition that the write of the payment repeats. -/
def PaymentTerminalTransitionInput.mutablePaymentWhere
    (input : PaymentTerminalTransitionInput)
    (payment : Payment) : Bool :=
  payment.id = input.paymentId &&
    canApplyProviderTerminalStatus payment.status &&
    input.leaseGuard.all fun leaseGuard =>
      payment.intentCreationLease.ownerToken = some leaseGuard.ownerToken &&
        payment.intentCreationLease.fence = leaseGuard.fence

/-- A guarded result gives up its lease. -/
def Lease.afterTransition
    (lease : Lease)
    (leaseGuard : Option PaymentTerminalLeaseGuard) : Lease :=
  if leaseGuard.isSome then lease.clear else lease

/-- The payment after a success. -/
def Payment.succeeded
    (payment : Payment)
    (input : PaymentTerminalTransitionInput) : Payment :=
  { payment with
    status := .succeeded
    failedReason := none
    providerTradeNo := input.providerTradeNo.or payment.providerTradeNo
    intentCreationLease :=
      payment.intentCreationLease.afterTransition input.leaseGuard }

/-- The payment after a failure. -/
def Payment.failed
    (payment : Payment)
    (input : PaymentTerminalTransitionInput) : Payment :=
  { payment with
    status := .failed
    failedReason :=
      some (.other (input.failedReason.getD "provider_reported_failed"))
    intentCreationLease :=
      payment.intentCreationLease.afterTransition input.leaseGuard }

/-- The database with the payment succeeded. -/
def Db.succeedPayment
    (db : Db)
    (input : PaymentTerminalTransitionInput) : Db :=
  { db with
    payments := db.payments.updateWhere input.mutablePaymentWhere
      (fun payment => payment.succeeded input) (fun _ => rfl) }

def Db.failPayment
    (db : Db)
    (input : PaymentTerminalTransitionInput) : Db :=
  { db with
    payments := db.payments.updateWhere input.mutablePaymentWhere
      (fun payment => payment.failed input) (fun _ => rfl) }

/-- The database with the order paid. -/
def Db.payOrder
    (db : Db)
    (orderId : OrderId)
    (fulfillmentState : OrderFulfillmentState) : Db :=
  db.setOrderPayment orderId (projectOrderStatus .paid fulfillmentState) .paid

/-- A success pays the order and creates its commands. -/
def applyProviderSuccess
    (input : PaymentTerminalTransitionInput)
    (row : PaymentRow) : DrizzleTransaction Unit := do
  modify fun db => db.succeedPayment input
  modify fun db => db.payOrder input.orderId row.order.fulfillmentState
  let _ ← createPendingDispatchCommands input.orderId
  pure ()

/-- The database with an order canceled for a failed payment. -/
def Db.cancelUnpaidOrder
    (db : Db)
    (orderId : OrderId)
    (orderStatus : OrderStatus) : Db :=
  if orderStatus = .canceled then db
  else db.closeOrder orderId .canceled .paymentFailed

/-- A failure cancels the order and releases what it holds. -/
def applyProviderFailure
    (input : PaymentTerminalTransitionInput)
    (row : PaymentRow)
    (preferred : InventoryReservation → Nat) : DrizzleTransaction Unit := do
  modify fun db => db.failPayment input
  modify fun db => db.cancelUnpaidOrder input.orderId row.order.status
  releaseActiveReservationsForOrder input.orderId .paymentFailed preferred

/-- The database with an attempt finished by its result. -/
def Db.finishAttempt
    (db : Db)
    (transition : PaymentCodeAttemptTerminalTransition) : Db :=
  { db with
    paymentCodeAttempts :=
      db.paymentCodeAttempts.modify transition.attemptId fun attempt =>
        { attempt with
          status := transition.status
          isActive := false
          recoveryLease := attempt.recoveryLease.clear
          recoveryNextAt := none } }

def finishPaymentCodeAttempt
    (transition : Option PaymentCodeAttemptTerminalTransition) :
    DrizzleTransaction Unit :=
  match transition with
  | none => pure ()
  | some transition => modify fun db => db.finishAttempt transition

/-- What a result does to payment and order. -/
def applyProviderStatus
    (input : PaymentTerminalTransitionInput)
    (row : PaymentRow)
    (preferred : InventoryReservation → Nat) : DrizzleTransaction Unit :=
  match input.newStatus with
  | .succeeded => applyProviderSuccess input row
  | .failed => applyProviderFailure input row preferred

/-- Write an admitted result, unless its event is known already. -/
def applyProviderTerminal
    (input : PaymentTerminalTransitionInput)
    (row : PaymentRow)
    (preferred : InventoryReservation → Nat) :
    DrizzleTransaction PaymentTerminalTransitionResult := do
  let db ← get
  if db.hasPaymentEvent row.payment.providerCode input.providerEventId then
    pure .duplicate
  else do
    modify fun db =>
      db.addPaymentEvent row.payment.providerCode input.providerEventId
        input.paymentId
    applyProviderStatus input row preferred
    finishPaymentCodeAttempt input.paymentCodeAttempt
    pure .applied

/--
Apply a provider's terminal result under the locks of payment and order: once
per event, and only while the payment can still take it.
-/
def transitionProviderPaymentTerminal
    (input : PaymentTerminalTransitionInput)
    (preferred : InventoryReservation → Nat)
    (now : Time) : DrizzleTransaction PaymentTerminalTransitionResult := do
  let db ← get
  if db.hasPaymentEvent input.providerCode input.providerEventId then
    pure .duplicate
  else
    match (db.paymentRow input.paymentId).filter
        (fun row => db.admitsTransition input row now) with
    | none => pure .stale
    | some row => applyProviderTerminal input row preferred

def requireMockPayment (paymentId : PaymentId) :
    DrizzleTransaction PaymentRow := do
  let db ← get
  let row ← Transaction.requireSome (db.paymentRow paymentId)
    (.notFound "Payment not found")
  Transaction.require (row.payment.providerCode = .mock)
    (.conflict "Only mock provider can use this endpoint")
  pure row

/-- The first request succeeds the payment, whatever its status is. -/
def markMockSucceeded (paymentId : PaymentId) : DrizzleTransaction Bool := do
  let row ← requireMockPayment paymentId
  let db ← get
  if db.hasPaymentEvent .mock (.mockSucceed paymentId) then pure true
  else do
    modify fun db => db.addPaymentEvent .mock (.mockSucceed paymentId) paymentId
    modify fun db =>
      if row.payment.status = .succeeded then db
      else
        { db with
          payments := db.payments.modify paymentId fun payment =>
            { payment with status := .succeeded, failedReason := none } }
    modify fun db =>
      if row.payment.status = .succeeded then db
      else db.payOrder row.order.id row.order.fulfillmentState
    let _ ← createPendingDispatchCommands row.order.id
    pure false

/-- The first request fails the payment, whatever its status is. -/
def markMockFailed
    (paymentId : PaymentId)
    (reason : String)
    (preferred : InventoryReservation → Nat) : DrizzleTransaction Bool := do
  let row ← requireMockPayment paymentId
  let db ← get
  if db.hasPaymentEvent .mock (.mockFail paymentId) then pure true
  else do
    modify fun db => db.addPaymentEvent .mock (.mockFail paymentId) paymentId
    modify fun db =>
      { db with
        payments := db.payments.modify paymentId fun payment =>
          { payment with status := .failed, failedReason := some (.other reason) } }
    modify fun db => db.cancelUnpaidOrder row.order.id row.order.status
    releaseActiveReservationsForOrder row.order.id .paymentFailed preferred
    pure false

/-- The database with an attempt that never reached the provider canceled. -/
def Db.cancelAttempt (db : Db) (attemptId : Nat) : Db :=
  { db with
    paymentCodeAttempts :=
      db.paymentCodeAttempts.modify attemptId fun attempt =>
        { attempt with status := .canceled, isActive := false } }

/-- The database with a payment expired while it can still take a result. -/
def Db.expireMutablePayment (db : Db) (paymentId : PaymentId) : Db :=
  { db with
    payments := db.payments.updateWhere
      (fun payment =>
        payment.id = paymentId && canApplyProviderTerminalStatus payment.status)
      fun payment => { payment with status := .expired } }

/-- The database with the order of an expired payment closed. -/
def Db.expireOrder
    (db : Db)
    (orderId : OrderId)
    (orderStatus : OrderStatus) : Db :=
  if orderStatus = .paymentExpired then db
  else db.closeOrder orderId .paymentExpired .paymentExpired

def expireAdmittedPayment
    (payment : Payment)
    (order : Order)
    (preferred : InventoryReservation → Nat) : DrizzleTransaction Bool := do
  let db ← get
  if db.hasPaymentEvent payment.providerCode (.expired payment.id) then
    pure false
  else do
    modify fun db => db.expireMutablePayment payment.id
    modify fun db =>
      db.addPaymentEvent payment.providerCode (.expired payment.id) payment.id
    modify fun db => db.expireOrder payment.orderId order.status
    releaseActiveReservationsForOrder payment.orderId .paymentExpired preferred
    pure true

/-- Under its locks the payment is still open and overdue. -/
def PaymentRow.admitsExpiry (row : PaymentRow) (now : Time) : Bool :=
  canApplyProviderTerminalStatus row.payment.status &&
    !isPaymentIncidentLocked row.order row.payment.status &&
    row.payment.expiresAt.any (· < now)

/-- Expire a payment locally and release what its order holds. -/
def expirePayment
    (payment : Payment)
    (preferred : InventoryReservation → Nat)
    (now : Time) : DrizzleTransaction Bool := do
  let db ← get
  match (db.paymentRow payment.id).filter
      (fun row => row.order.id = payment.orderId && row.admitsExpiry now) with
  | none => pure false
  | some row =>
    match db.activeAttempt? payment.id with
    | none => expireAdmittedPayment payment row.order preferred
    | some attempt =>
      if attempt.status = .created then do
        modify fun db => db.cancelAttempt attempt.id
        expireAdmittedPayment payment row.order preferred
      else pure false

inductive Cancelability where
  | alreadyClosed
  | cancelable
  | refused
  deriving Repr, DecidableEq

def assertMachineOrderCanStillBeCanceled (row : PaymentRow) :
    Cancelability :=
  if row.order.status = .canceled || row.order.status = .paymentExpired ||
      row.payment.status = .canceled || row.payment.status = .expired then
    .alreadyClosed
  else if row.order.paymentState = .paid ||
      row.payment.status = .succeeded ||
      row.order.fulfillmentState ≠ .awaitingFulfillment then
    .refused
  else .cancelable

/-- The statuses that a cancellation can still overwrite. -/
def cancelablePaymentStatuses : List PaymentStatus :=
  [.created, .pending, .processing]

inductive CancelOutcome where
  | alreadyClosed
  | recoveryScheduled
  | canceled
  deriving Repr, DecidableEq

/-- The worker of a submitted attempt is woken, and the payment is overdue. -/
def Db.scheduleAttemptRecovery
    (db : Db)
    (attemptId : Nat)
    (paymentId : PaymentId)
    (now : Time) : Db :=
  { db with
    paymentCodeAttempts := db.paymentCodeAttempts.updateWhere
      (fun attempt => attempt.id = attemptId && attempt.isActive)
      (fun attempt => { attempt with recoveryNextAt := some now })
    payments := db.payments.updateWhere
      (fun payment =>
        payment.id = paymentId && payment.status ∈ cancelablePaymentStatuses)
      (fun payment => { payment with expiresAt := some now }) }

def Db.cancelPayment (db : Db) (paymentId : PaymentId) : Db :=
  { db with
    payments := db.payments.modify paymentId fun payment =>
      { payment with status := .canceled, failedReason := none } }

/-- Cancel a payment and its order, each only in the state that was checked. -/
def cancelCheckedOrder
    (row : PaymentRow)
    (preferred : InventoryReservation → Nat) :
    DrizzleTransaction CancelOutcome := do
  modify fun db =>
    db.addPaymentEvent row.payment.providerCode
      (.machineCancel row.payment.id) row.payment.id
  let db ← get
  Transaction.require
    ((db.payments.find? row.payment.id).any fun payment =>
      payment.status ∈ cancelablePaymentStatuses &&
        (db.activeAttempt? payment.id).isNone)
    (.conflict "Machine order payment changed before cancel")
  modify fun db => db.cancelPayment row.payment.id
  let db ← get
  Transaction.require
    ((db.orders.find? row.order.id).any fun order =>
      order.fulfillmentState = .awaitingFulfillment &&
        (order.paymentState = .awaitingPayment ||
          order.paymentState = .paymentFailed))
    (.conflict "Machine order changed before cancel")
  modify fun db => db.closeOrder row.order.id .canceled .canceled
  releaseActiveReservationsForOrder row.order.id .canceled preferred
  pure .canceled

/-- An attempt that reached the provider is recovered, not canceled. -/
def cancelOrderOrScheduleRecovery
    (row : PaymentRow)
    (preferred : InventoryReservation → Nat)
    (now : Time) : DrizzleTransaction CancelOutcome := do
  let db ← get
  match (db.activeAttempt? row.payment.id).filter
      (fun _ => row.payment.method = .paymentCode) with
  | none => cancelCheckedOrder row preferred
  | some attempt =>
    if attempt.status = .created then do
      modify fun db => db.cancelAttempt attempt.id
      cancelCheckedOrder row preferred
    else do
      modify fun db =>
        db.scheduleAttemptRecovery attempt.id row.payment.id now
      pure .recoveryScheduled

/-- The transaction of a machine's cancellation. -/
def cancelMachineOrder
    (row : PaymentRow)
    (preferred : InventoryReservation → Nat)
    (now : Time) : DrizzleTransaction CancelOutcome := do
  let db ← get
  let current ← Transaction.requireSome (db.orderPaymentRow row.order.id)
    (.conflict "Machine order changed before cancel")
  match assertMachineOrderCanStillBeCanceled current with
  | .alreadyClosed => pure .alreadyClosed
  | .refused =>
    throw (.conflict "Paid or dispensing orders cannot be canceled")
  | .cancelable => cancelOrderOrScheduleRecovery row preferred now

end VendingSystem.Platform
