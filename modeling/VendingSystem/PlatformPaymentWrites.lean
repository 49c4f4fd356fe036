import VendingSystem.PlatformPayments

namespace VendingSystem.Platform

/-!
# Leases, intents, attempts and incident writes

The single statements around a provider call: the claim of a lease before it
and the fenced write after it, the writes of an operator's incident actions,
which check nothing, and the statements of the payment-code attempts.
-/

def paymentIntentCreationLeaseSeconds : Nat := 90
def machineStatusReconciliationLeaseSeconds : Nat := 30
def paymentCodeRecoveryLeaseSeconds : Nat := 30
def paymentCodeUnadmittedRecoveryDelaySeconds : Nat := 30

/-- No claim on the payment is in force. -/
def Lease.isFree (lease : Lease) (now : Time) : Bool :=
  lease.expiresAt.all (· < now)

/-- A claim: its owner's token, and the fence that the row gave it. -/
structure LeaseClaim where
  ownerToken : Nat
  fence : Nat
  deriving Repr, DecidableEq

/-- The claim is in force on the payment. -/
def LeaseClaim.holds
    (claim : LeaseClaim)
    (payment : Payment)
    (now : Time) : Bool :=
  payment.intentCreationLease.heldBy claim.ownerToken claim.fence now

def claimPaymentLease
    (paymentId : PaymentId)
    (qualifies : Payment → Bool)
    (ownerToken : Nat)
    (now expiresAt : Time) : DrizzleTransaction (Option LeaseClaim) := do
  let db ← get
  match (db.payments.find? paymentId).filter
      (fun payment =>
        qualifies payment && payment.intentCreationLease.isFree now) with
  | none => pure none
  | some payment => do
      modify fun db =>
        { db with
          payments := db.payments.modify paymentId fun payment =>
            { payment with
              intentCreationLease :=
                payment.intentCreationLease.claim ownerToken expiresAt } }
      pure
        (some { ownerToken, fence := payment.intentCreationLease.fence + 1 })

/-- Give a reconciliation lease back after a failed query. -/
def releasePaymentLease
    (paymentId : PaymentId)
    (claim : LeaseClaim) : DrizzleTransaction Unit :=
  modify fun db =>
    { db with
      payments := db.payments.updateWhere
        (fun payment =>
          payment.id = paymentId &&
            payment.intentCreationLease.ownerToken = some claim.ownerToken &&
            payment.intentCreationLease.fence = claim.fence)
        (fun payment =>
          { payment with
            intentCreationLease := payment.intentCreationLease.clear }) }

/-- The statuses that a poll of the provider can answer for. -/
def reconcilablePaymentStatuses : List PaymentStatus :=
  [.pending, .processing, .unknown]

/-- A poll claims the payment before it asks the provider. -/
def claimReconciliation
    (paymentId : PaymentId)
    (ownerToken : Nat)
    (now : Time) : DrizzleTransaction (Option LeaseClaim) :=
  claimPaymentLease paymentId
    (fun payment => payment.status ∈ reconcilablePaymentStatuses)
    ownerToken now (now + machineStatusReconciliationLeaseSeconds)

/-- A poll stores a waiting status while its claim is in force. -/
def persistReconciledStatus
    (paymentId : PaymentId)
    (claim : LeaseClaim)
    (status : PaymentStatus)
    (providerTradeNo : Option String)
    (failedReason : Option PaymentFailedReason)
    (now : Time) : DrizzleTransaction Unit :=
  modify fun db =>
    { db with
      payments := db.payments.updateWhere
        (fun payment =>
          payment.id = paymentId && claim.holds payment now &&
            payment.status ∈ reconcilablePaymentStatuses)
        (fun payment =>
          { payment with
            status, providerTradeNo, failedReason
            intentCreationLease := payment.intentCreationLease.clear }) }

/-- An operator's query stores a status that is not terminal, unchecked. -/
def persistManualStatus
    (paymentId : PaymentId)
    (status : PaymentStatus)
    (providerTradeNo : Option String) : DrizzleTransaction Unit :=
  modify fun db =>
    { db with
      payments := db.payments.modify paymentId fun payment =>
        { payment with status, providerTradeNo } }

def markPaymentClosedAfterProviderAction
    (row : PaymentRow)
    (expired : Bool)
    (eventName : PaymentEventName)
    (preferred : InventoryReservation → Nat) : DrizzleTransaction Unit := do
  modify fun db =>
    { db with
      payments := db.payments.modify row.payment.id fun payment =>
        { payment with
          status := if expired then .expired else .canceled
          intentCreationLease := payment.intentCreationLease.clear } }
  modify fun db =>
    db.closeOrder row.payment.orderId
      (if expired then .paymentExpired else .canceled)
      (if expired then .paymentExpired else .canceled)
  modify fun db =>
    db.addPaymentEvent row.payment.providerCode eventName row.payment.id
  releaseActiveReservationsForOrder row.payment.orderId
    (if expired then .paymentExpired else .canceled) preferred

/-- The database with a payment and its order parked for an operator. -/
def Db.parkPayment
    (db : Db)
    (paymentId : PaymentId)
    (orderId : OrderId)
    (status : PaymentStatus)
    (paymentState : OrderPaymentState)
    (failedReason : PaymentFailedReason) : Db :=
  { db with
    payments := db.payments.modify paymentId fun payment =>
      { payment with status, failedReason := some failedReason }
    orders := db.orders.modify orderId fun order =>
      { order with
        status := .manualHandling
        paymentState
        fulfillmentState := .manualHandling } }

/-- A payment whose closing failed is parked as unknown, unchecked. -/
def markPaymentUnknownAfterProviderAction
    (row : PaymentRow)
    (message : String)
    (eventName : PaymentEventName) : DrizzleTransaction Unit := do
  modify fun db =>
    db.parkPayment row.payment.id row.payment.orderId .unknown .paymentUnknown
      (.other message)
  modify fun db =>
    db.addPaymentEvent row.payment.providerCode eventName row.payment.id

/-- An operator takes over a payment, unchecked. -/
def markPaymentManualHandling
    (row : PaymentRow)
    (reason : String)
    (eventName : PaymentEventName) : DrizzleTransaction Unit := do
  modify fun db =>
    db.parkPayment row.payment.id row.payment.orderId .manualHandling
      .manualHandling (.other reason)
  modify fun db =>
    db.addPaymentEvent row.payment.providerCode eventName row.payment.id

/-- A payment-code order waits for its code; the write checks nothing. -/
def persistPaymentCodePending
    (paymentId : PaymentId)
    (expiresAt : Time) : DrizzleTransaction Unit :=
  modify fun db =>
    { db with
      payments := db.payments.modify paymentId fun payment =>
        { payment with status := .pending, expiresAt := some expiresAt } }

/-- The statuses in which the provider's intent can still be created. -/
def intentCreationStatuses : List PaymentStatus :=
  [.created, .processing]

def claimPaymentIntent
    (paymentId : PaymentId)
    (ownerToken : Nat)
    (now : Time) : DrizzleTransaction (Option LeaseClaim) :=
  claimPaymentLease paymentId
    (fun payment =>
      payment.paymentUrl.isNone && payment.status ∈ intentCreationStatuses)
    ownerToken now (now + paymentIntentCreationLeaseSeconds)

/-- The claim on an intent is in force and the payment still waits for it. -/
def LeaseClaim.holdsIntent
    (claim : LeaseClaim)
    (paymentId : PaymentId)
    (payment : Payment)
    (now : Time) : Bool :=
  payment.id = paymentId && payment.status ∈ intentCreationStatuses &&
    claim.holds payment now

def renewPaymentIntentLease
    (paymentId : PaymentId)
    (claim : LeaseClaim)
    (now : Time) : DrizzleTransaction Unit :=
  modify fun db =>
    { db with
      payments := db.payments.updateWhere
        (fun payment => claim.holdsIntent paymentId payment now)
        (fun payment =>
          { payment with
            intentCreationLease :=
              { payment.intentCreationLease with
                expiresAt :=
                  some (now + paymentIntentCreationLeaseSeconds) } }) }

/-- The status that a provider's new intent starts with. -/
inductive IntentInitialStatus where
  | pending
  | processing
  deriving Repr, DecidableEq

/-- The status that a payment takes from its intent; none means pending. -/
def intentPaymentStatus : Option IntentInitialStatus → PaymentStatus
  | some .processing => .processing
  | _ => .pending

/-- The provider's intent, as far as the service stores it. -/
structure ProviderIntent where
  providerTradeNo : Option String
  paymentUrl : String
  initialStatus : Option IntentInitialStatus
  deriving Repr, DecidableEq

/-- Store an intent while its claim is in force. -/
def persistPaymentIntent
    (paymentId : PaymentId)
    (claim : LeaseClaim)
    (intent : ProviderIntent)
    (expiresAt : Option Time)
    (now : Time) : DrizzleTransaction Unit :=
  modify fun db =>
    { db with
      payments := db.payments.updateWhere
        (fun payment => claim.holdsIntent paymentId payment now)
        (fun payment =>
          { payment with
            status := intentPaymentStatus intent.initialStatus
            failedReason := none
            providerTradeNo := intent.providerTradeNo
            paymentUrl := some intent.paymentUrl
            expiresAt
            intentCreationLease := payment.intentCreationLease.clear }) }

/-- The provider may or may not have created the intent. -/
def markPaymentCreationUncertain
    (paymentId : PaymentId)
    (claim : LeaseClaim)
    (message : String)
    (now : Time) : DrizzleTransaction Unit :=
  modify fun db =>
    { db with
      payments := db.payments.updateWhere
        (fun payment => claim.holdsIntent paymentId payment now)
        (fun payment =>
          { payment with
            status := .processing
            failedReason :=
              some (.other ("provider_create_uncertain:" ++ message))
            intentCreationLease := payment.intentCreationLease.clear }) }

/-- The database with a payment failed whose intent was not created. -/
def Db.failLocalPayment
    (db : Db)
    (paymentId : PaymentId)
    (reason : String) : Db :=
  { db with
    payments := db.payments.modify paymentId fun payment =>
      { payment with
        status := .failed
        failedReason := some (.other reason)
        intentCreationLease := payment.intentCreationLease.clear } }

/-- A payment whose intent was not created fails while its claim holds. -/
def cancelLocalCreatedPayment
    (draft : LocalPaymentDraft)
    (reason : String)
    (claim : LeaseClaim)
    (preferred : InventoryId × Nat → Nat)
    (now : Time) : DrizzleTransaction Unit := do
  let db ← get
  if (db.payments.find? draft.paymentId).any
      (fun payment => claim.holdsIntent draft.paymentId payment now) then do
    modify fun db => db.failLocalPayment draft.paymentId reason
    modify fun db => db.closeOrder draft.orderId .canceled .paymentFailed
    modify fun db =>
      db.addPaymentEvent draft.providerCode (.createFailed draft.paymentId)
        draft.paymentId
    forM draft.reservations fun reservation =>
      releaseReservation
        { orderId := draft.orderId
          orderItemId := none
          inventoryId := reservation.1
          quantity := reservation.2 }
        .paymentFailed (preferred reservation)
  else pure ()

/-- Only a trade that the provider does not know is created again. -/
def claimReconciledPaymentForIntentCreation
    (paymentId : PaymentId)
    (now : Time) : DrizzleTransaction Bool := do
  let db ← get
  if (db.payments.find? paymentId).any fun payment =>
      payment.status = .pending && payment.paymentUrl.isNone &&
        payment.failedReason = some .providerTradeNotExist &&
        payment.intentCreationLease.isFree now then do
    modify fun db =>
      { db with
        payments := db.payments.modify paymentId fun payment =>
          { payment with
            status := .processing
            failedReason := some .providerTradeRetryClaimed
            intentCreationLease := payment.intentCreationLease.clear } }
    pure true
  else pure false

/-- The statuses from which a worker can still recover an attempt. -/
def recoverablePaymentCodeAttemptStatuses : List PaymentCodeAttemptStatus :=
  [.created, .submitting, .userConfirming, .querying, .reversing,
    .manualHandling]

def terminalPaymentCodeAttemptStatuses : List PaymentCodeAttemptStatus :=
  [.succeeded, .failed, .reversed, .canceled]

def isPayablePaymentCodeOrder (row : PaymentRow) : Bool :=
  row.order.status = .pendingPayment &&
    row.order.paymentState = .awaitingPayment &&
    row.order.fulfillmentState = .awaitingFulfillment &&
    row.payment.status ∈ cancelablePaymentStatuses

/-- An attempt joined with its payment and its order. -/
def Db.attemptRow (db : Db) (attempt : PaymentCodeAttempt) :
    Option PaymentRow := do
  let payment ← db.payments.find? attempt.paymentId
  let order ← db.orders.find? attempt.orderId
  pure { payment, order }

/-- The database with one more attempt. -/
def Db.addAttempt
    (db : Db)
    (row : PaymentRow)
    (idempotencyKey : Nat)
    (now : Time) : Db :=
  { db with
    paymentCodeAttempts := db.paymentCodeAttempts.insertNext fun id =>
      { id, idempotencyKey
        paymentId := row.payment.id
        orderId := row.order.id
        status := .created
        isActive := true
        recoveryLease := .unclaimed
        recoveryNextAt :=
          some (now + paymentCodeUnadmittedRecoveryDelaySeconds) } }

/-- Admit a presented code, or find the attempt of an earlier request. -/
def createOrReplayAttempt
    (orderId : OrderId)
    (idempotencyKey : Nat)
    (now : Time) : DrizzleTransaction Nat := do
  let db ← get
  let row ← Transaction.requireSome (db.orderPaymentRow orderId)
    (.notFound "Machine order not found")
  Transaction.require (row.payment.method = .paymentCode)
    (.conflict "Order is not a payment_code order")
  match db.paymentCodeAttempts.rows.find? fun attempt =>
      attempt.paymentId = row.payment.id &&
        attempt.idempotencyKey = idempotencyKey with
  | some attempt => pure attempt.id
  | none => do
      Transaction.require (row.payment.status ≠ .succeeded)
        (.conflict "Payment already succeeded")
      Transaction.require
        (!isPaymentIncidentLocked row.order row.payment.status)
        (.conflict "payment_incident_locked")
      Transaction.require
        (isPayablePaymentCodeOrder row && row.payment.expiresAt.any (now < ·))
        (.conflict "payment_code_order_not_payable")
      Transaction.require
        (db.paymentCodeAttempts.rows.all fun attempt =>
          attempt.orderId ≠ orderId || !attempt.isActive)
        (.conflict "payment_code_attempt_in_progress")
      modify fun db => db.addAttempt row idempotencyKey now
      pure db.paymentCodeAttempts.nextId

/-- A write of one attempt that qualifies. -/
def updateAttemptWhere
    (attemptId : Nat)
    (qualifies : Db → PaymentCodeAttempt → Bool)
    (status : PaymentCodeAttempt → PaymentCodeAttemptStatus)
    (isActive : PaymentCodeAttempt → Bool)
    (recoveryLease : Lease → Lease)
    (recoveryNextAt : PaymentCodeAttempt → Option Time) :
    DrizzleTransaction Unit :=
  modify fun db =>
    { db with
      paymentCodeAttempts := db.paymentCodeAttempts.updateWhere
        (fun attempt => attempt.id = attemptId && qualifies db attempt)
        (fun attempt =>
          { attempt with
            status := status attempt
            isActive := isActive attempt
            recoveryLease := recoveryLease attempt.recoveryLease
            recoveryNextAt := recoveryNextAt attempt }) }

/-- An admitted attempt is claimed for its submission to the provider. -/
def claimSubmission
    (attemptId ownerToken : Nat)
    (now : Time) : DrizzleTransaction Unit :=
  updateAttemptWhere attemptId
    (fun db attempt =>
      attempt.status = .created && attempt.isActive &&
        (db.attemptRow attempt).any fun row =>
          isPayablePaymentCodeOrder row &&
            row.payment.expiresAt.any (now < ·))
    (fun _ => .submitting) PaymentCodeAttempt.isActive
    (fun lease => lease.claim ownerToken (now + paymentCodeRecoveryLeaseSeconds))
    (fun _ => some now)

/-- A due attempt whose lease has run out is claimed for recovery. -/
def claimRecoveryAttempt
    (attemptId ownerToken : Nat)
    (now : Time) : DrizzleTransaction Unit :=
  updateAttemptWhere attemptId
    (fun _ attempt =>
      attempt.isActive &&
        attempt.status ∈ recoverablePaymentCodeAttemptStatuses &&
        (attempt.status ≠ .manualHandling || attempt.recoveryNextAt.isSome) &&
        attempt.recoveryNextAt.all (· ≤ now) &&
        attempt.recoveryLease.expiresAt.all (· ≤ now))
    PaymentCodeAttempt.status PaymentCodeAttempt.isActive
    (fun lease => lease.claim ownerToken (now + paymentCodeRecoveryLeaseSeconds))
    PaymentCodeAttempt.recoveryNextAt

def renewRecoveryClaim
    (attemptId : Nat)
    (claim : LeaseClaim)
    (now : Time) : DrizzleTransaction Unit :=
  updateAttemptWhere attemptId
    (fun _ attempt =>
      attempt.recoveryLease.heldBy claim.ownerToken claim.fence now)
    PaymentCodeAttempt.status PaymentCodeAttempt.isActive
    (fun lease =>
      { lease with expiresAt := some (now + paymentCodeRecoveryLeaseSeconds) })
    PaymentCodeAttempt.recoveryNextAt

/-- A reversal starts only while the payment has not succeeded. -/
def beginReversal
    (attemptId : Nat)
    (claim : LeaseClaim)
    (now : Time) : DrizzleTransaction Unit :=
  updateAttemptWhere attemptId
    (fun db attempt =>
      attempt.isActive &&
        attempt.recoveryLease.heldBy claim.ownerToken claim.fence now &&
        (db.attemptRow attempt).any fun row =>
          row.payment.status ≠ .succeeded && row.order.status ≠ .paid)
    (fun _ => .reversing) PaymentCodeAttempt.isActive id (fun _ => some now)

/-- Give a claim back with the status that the worker found. -/
def releaseRecoveryClaim
    (attemptId : Nat)
    (claim : LeaseClaim)
    (status : PaymentCodeAttemptStatus)
    (nextRecoveryAt : Option Time)
    (now : Time) : DrizzleTransaction Unit :=
  let terminal :=
    status ∈ terminalPaymentCodeAttemptStatuses ∨ status = .manualHandling
  updateAttemptWhere attemptId
    (fun _ attempt =>
      attempt.recoveryLease.heldBy claim.ownerToken claim.fence now)
    (fun _ => status) (fun _ => !decide terminal) Lease.clear
    (fun _ => if terminal then none else nextRecoveryAt)

/-- A submission that was refused before the provider saw it. -/
def failCreatedAttempt (attemptId : Nat) : DrizzleTransaction Unit :=
  updateAttemptWhere attemptId
    (fun _ attempt => attempt.status = .created)
    (fun _ => .failed) (fun _ => false) Lease.clear (fun _ => none)

/-- An operator's action is queued for the worker of the attempt. -/
def requestRecoveryAction
    (attemptId : Nat)
    (status : PaymentCodeAttemptStatus)
    (now : Time) : DrizzleTransaction Unit :=
  updateAttemptWhere attemptId
    (fun db attempt =>
      attempt.status ∉ terminalPaymentCodeAttemptStatuses &&
        (db.attemptRow attempt).any fun row =>
          row.payment.status ∉
              ([.succeeded, .failed, .expired, .canceled] :
                List PaymentStatus) &&
            row.order.status ∉
              ([.paid, .canceled, .paymentExpired] : List OrderStatus))
    (fun _ => status) (fun _ => true) Lease.clear (fun _ => some now)

/-- What wakes the worker of a payment's attempt. -/
def wakeActiveAttempts
    (paymentId : PaymentId)
    (now : Time) : DrizzleTransaction Unit :=
  modify fun db =>
    { db with
      paymentCodeAttempts := db.paymentCodeAttempts.updateWhere
        (fun attempt => attempt.paymentId = paymentId && attempt.isActive)
        (fun attempt => { attempt with recoveryNextAt := some now })
        (fun attempt => Eq.refl attempt.id) }

/-- The incident of an attempt is projected while its claim is in force. -/
def Db.attemptForManualHandling
    (db : Db)
    (attemptId : Nat)
    (claim : LeaseClaim)
    (now : Time) : Option (PaymentCodeAttempt × PaymentRow) := do
  let attempt ← db.paymentCodeAttempts.find? attemptId
  let row ← db.attemptRow attempt
  if attempt.recoveryLease.heldBy claim.ownerToken claim.fence now &&
      row.payment.status ∉
        ([.succeeded, .failed, .expired, .canceled, .refunded] :
          List PaymentStatus) then
    pure (attempt, row)
  else none

def markPaymentCodeAttemptManualHandling
    (attemptId : Nat)
    (claim : LeaseClaim)
    (reason : String)
    (eventName : PaymentEventName)
    (now : Time) : DrizzleTransaction Unit := do
  let db ← get
  match db.attemptForManualHandling attemptId claim now with
  | none => pure ()
  | some (attempt, row) => do
      modify fun db =>
        db.parkPayment row.payment.id row.order.id .unknown .paymentUnknown
          (.other reason)
      modify fun db =>
        db.addPaymentEvent row.payment.providerCode eventName row.payment.id
      updateAttemptWhere attempt.id (fun _ _ => true)
        (fun _ => .manualHandling) (fun _ => true) Lease.clear (fun _ => none)

end VendingSystem.Platform
