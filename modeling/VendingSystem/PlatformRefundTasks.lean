import VendingSystem.PlatformRefunds
import VendingSystem.Service

namespace VendingSystem.Platform

/-!
# The refund operations as tasks

The dispatcher, an operator's requests, the queries and a provider's
notification, cut where the service leaves the database.  A partial refund
writes back the fulfillment state that was read before the provider was asked.
When a query may be tried again only decides when a task starts.
-/

/-- Who is told the outcome of a refund. -/
inductive RefundCaller where
  | requester
  | dispatcher
  | query
  | webhook
  deriving Repr, DecidableEq

/-- A refund as it was read before its provider answered. -/
structure RefundInHand where
  refundId : RefundId
  paymentId : PaymentId
  orderId : OrderId
  reason : RefundReason
  fulfillmentState : OrderFulfillmentState
  caller : RefundCaller
  deriving Repr, DecidableEq

inductive RefundOutcome where
  | succeeded
  | failed
  deriving Repr, DecidableEq

def RefundOutcome.status : RefundOutcome → RefundStatus
  | .succeeded => .succeeded
  | .failed => .failed

def RefundOutcome.eventType : RefundOutcome → RefundEventType
  | .succeeded => .succeeded
  | .failed => .failed

inductive RefundProviderAnswer where
  | settled (outcome : RefundOutcome)
  | processing
  | failed
  deriving Repr, DecidableEq

/-- A provider's notification about a refund. -/
structure RefundWebhook where
  refundId : RefundId
  eventType : Option RefundEventType
  refundStatus : Option RefundOutcome
  deriving Repr, DecidableEq

/-- What a step takes from outside the database. -/
structure RefundInput where
  now : Time
  answer : RefundProviderAnswer
  eventIsKnown : Bool
  deriving Repr, DecidableEq

/-- Close the refund row; only a requester closes it whatever its status is. -/
def closeRefundRow
    (refund : RefundInHand)
    (outcome : RefundOutcome)
    (now : Time) : DrizzleTransaction Bool := do
  if refund.caller = .requester then do
    updateRefundStatus refund.refundId outcome.status now
    pure true
  else do
    let db ← get
    if (db.refunds.find? refund.refundId).any fun row => row.status.open then do
      modify fun db => db.setRefundStatus refund.refundId outcome.status now
      pure true
    else pure false

/-- The event of an outcome; a notification has stored one of its own. -/
def addOutcomeEvent
    (refund : RefundInHand)
    (outcome : RefundOutcome) : DrizzleTransaction Unit :=
  if refund.caller = .webhook then pure ()
  else addRefundEvent refund.refundId outcome.eventType

/-- What the outcome of a partial refund does to lines, payment and order. -/
def writePartialRefundOutcome
    (refund : RefundInHand) : RefundOutcome → DrizzleTransaction Unit
  | .succeeded => do
      updateRefundLines (fun line => line.refundId = some refund.refundId)
        (fun _ => .refunded) (fun _ => some refund.refundId)
      modify fun db => db.setPaymentStatus refund.paymentId .partialRefunded
      modify fun db =>
        db.setOrderStates refund.orderId
          (projectOrderStatus .partialRefunded refund.fulfillmentState)
          .partialRefunded refund.fulfillmentState
  | .failed => do
      updateRefundLines (fun line => line.refundId = some refund.refundId)
        (fun _ => .failed) (fun _ => some refund.refundId)
      modify fun db => db.setPaymentStatus refund.paymentId .manualHandling
      modify fun db =>
        db.setOrderStates refund.orderId .manualHandling .manualHandling
          refund.fulfillmentState

/-- What the outcome of a full refund does to lines, payment and order. -/
def writeFullRefundOutcome
    (refund : RefundInHand) : RefundOutcome → DrizzleTransaction Unit
  | .succeeded => do
      updateRefundLines
        (fun line =>
          line.orderId = refund.orderId && line.refundStatus = .pending)
        (fun _ => .refunded) (fun _ => some refund.refundId)
      modify fun db => db.setPaymentStatus refund.paymentId .refunded
      modify fun db =>
        db.setOrderPayment refund.orderId
          (projectOrderStatus .refunded .manualHandling) .refunded
  | .failed => do
      updateRefundLines
        (fun line =>
          line.orderId = refund.orderId && line.refundStatus = .pending)
        (fun _ => .failed) (fun _ => some refund.refundId)
      modify fun db => db.setPaymentStatus refund.paymentId .succeeded
      modify fun db =>
        db.setOrderStates refund.orderId
          (projectOrderStatus .paid .manualHandling) .paid .manualHandling

def applyPartialRefundTerminalState
    (refund : RefundInHand)
    (outcome : RefundOutcome)
    (now : Time) : DrizzleTransaction Bool := do
  let closed ← closeRefundRow refund outcome now
  if closed then do
    addOutcomeEvent refund outcome
    writePartialRefundOutcome refund outcome
    pure true
  else pure false

def applyRefundTerminalState
    (refund : RefundInHand)
    (outcome : RefundOutcome)
    (now : Time) : DrizzleTransaction Bool := do
  let closed ← closeRefundRow refund outcome now
  if closed then do
    addOutcomeEvent refund outcome
    writeFullRefundOutcome refund outcome
    pure true
  else pure false

/-- The reason of a refund tells whether it covers a part of its payment. -/
def applyTerminalState
    (refund : RefundInHand)
    (outcome : RefundOutcome)
    (now : Time) : DrizzleTransaction Bool :=
  if refund.reason = .autoPartialDispenseFailed then
    applyPartialRefundTerminalState refund outcome now
  else applyRefundTerminalState refund outcome now

/-- The provider may or may not have the refund, whatever its status is. -/
def recordRefundRequestUncertain
    (refundId : RefundId)
    (now : Time) : DrizzleTransaction Unit := do
  updateRefundStatus refundId .processing now
  addRefundEvent refundId .requestUncertain

/-- The provider has taken the refund, whatever its status is. -/
def recordRefundProcessing
    (refundId : RefundId)
    (now : Time) : DrizzleTransaction Unit := do
  updateRefundStatus refundId .processing now
  addRefundEvent refundId .processing

/-- The statuses of an order that a full refund can be requested for. -/
def refundableStatuses : List OrderStatus :=
  [.dispenseFailed, .manualHandling, .refundPending]

/-- The refunds of an order that failed for a reason. -/
def Db.failedRefunds
    (db : Db)
    (orderId : OrderId)
    (reason : RefundReason) : List Refund :=
  db.refunds.rows.filter fun refund =>
    refund.orderId = orderId && refund.reason = reason &&
      refund.status = .failed

/-- A refund that a request has just inserted. -/
def requestedRefund
    (order : Order)
    (payment : Payment)
    (reason : RefundReason)
    (refundId : RefundId) : RefundInHand where
  refundId := refundId
  paymentId := payment.id
  orderId := order.id
  reason := reason
  fulfillmentState := order.fulfillmentState
  caller := .requester

/-- An active refund for the reason answers the request instead. -/
def requestFullRefund
    (orderId : OrderId)
    (reason : RefundReason)
    (now : Time) : DrizzleTransaction (Option RefundInHand) := do
  let db ← get
  let (order, payment) ← Transaction.requireSome (db.orderPayment orderId)
    (.notFound "Order payment not found")
  if (db.activeRefund? orderId reason).isSome then pure none
  else do
    Transaction.require
      ((db.failedRefunds orderId reason).length < maxRefundAttempts)
      (.unprocessable
        "Refund has already failed 3 times and cannot be retried automatically")
    Transaction.require (order.status ∈ refundableStatuses)
      (.conflict "Order status cannot be refunded")
    modify fun db => db.setOrderPayment orderId .refundPending .refundPending
    modify fun db => db.setPaymentStatus payment.id .refundPending
    let inserted ← insertRefund payment.id orderId payment.amountCents
      .processing reason now
    pure (inserted.map (requestedRefund order payment reason))

/-- A part of a payment can be refunded where the provider supports it. -/
def requestPartialRefund
    (orderId : OrderId)
    (orderItemIds : List OrderItemId)
    (amountCents : Nat)
    (now : Time) : DrizzleTransaction (Option RefundInHand) := do
  Transaction.require (0 < amountCents && !orderItemIds.isEmpty)
    (.conflict "Partial refund requires failed order lines")
  let db ← get
  let (order, payment) ← Transaction.requireSome (db.orderPayment orderId)
    (.notFound "Order payment not found")
  Transaction.require (amountCents < payment.amountCents)
    (.conflict "Partial refund amount must be less than payment amount")
  if !payment.providerCode.supportsPartialRefund then do
    markPartialRefundUnsupported order payment orderItemIds
    pure none
  else if (db.activeRefund? orderId .autoPartialDispenseFailed).isSome then
    pure none
  else do
    updateRefundLines (fun line => line.id ∈ orderItemIds)
      (fun _ => .pending) (fun line => line.refundId)
    modify fun db =>
      db.setOrderPayment orderId .refundPending .partialRefundPending
    modify fun db => db.setPaymentStatus payment.id .partialRefundPending
    let inserted ← insertRefund payment.id orderId amountCents .processing
      .autoPartialDispenseFailed now
    updateRefundLines (fun line => line.id ∈ orderItemIds)
      (fun line => line.refundStatus) (fun line => inserted.or line.refundId)
    pure
      (inserted.map
        (requestedRefund order payment .autoPartialDispenseFailed))

/-- The provider was asked about the refund. -/
def Db.wasDispatched (db : Db) (refundId : RefundId) : Bool :=
  db.refundEvents.rows.any fun event =>
    event.refundId = refundId && event.eventType ≠ .created

/-- A refund that nobody asks the provider about. -/
def Db.isDispatchable (db : Db) (refund : Refund) (now : Time) : Bool :=
  refund.status = .created ||
    (refund.status = .processing &&
      refund.updatedAt + refundDispatchLeaseSeconds < now &&
      !db.wasDispatched refund.id)

/-- Claim a refund for one request to its provider. -/
def claimRefund
    (refundId : RefundId)
    (now : Time) : DrizzleTransaction Bool := do
  let db ← get
  if (db.refunds.find? refundId).any fun refund =>
      db.isDispatchable refund now then do
    modify fun db => db.setRefundStatus refundId .processing now
    pure true
  else pure false

/-- A refund joined with its payment and its order. -/
def Db.refundInHand
    (db : Db)
    (refundId : RefundId)
    (caller : RefundCaller) : Option RefundInHand := do
  let refund ← db.refunds.find? refundId
  let payment ← db.payments.find? refund.paymentId
  let order ← db.orders.find? refund.orderId
  pure
    { refundId
      paymentId := payment.id
      orderId := order.id
      reason := refund.reason
      fulfillmentState := order.fulfillmentState
      caller }

/-- The scheduled query asks about refunds that the provider has. -/
def Db.isReconcilableRefund (db : Db) (refund : Refund) : Bool :=
  refund.status = .processing &&
    db.refundEvents.rows.any fun event =>
      event.refundId = refund.id &&
        (event.eventType = .processing ||
          event.eventType = .requestUncertain)

inductive RefundTask where
  -- an operator's requests
  | requestFull (orderId : OrderId) (reason : RefundReason)
  | requestPartial
      (orderId : OrderId)
      (orderItemIds : List OrderItemId)
      (amountCents : Nat)
  | recordCreated (refund : RefundInHand)
  -- the dispatcher
  | dispatchPending
  | claiming (refundId : RefundId)
  | dispatchClaimed (refundId : RefundId)
  -- one request to the provider
  | refunding (refund : RefundInHand)
  | settling (refund : RefundInHand) (outcome : RefundOutcome)
  | recordingProcessing (refund : RefundInHand)
  | recordingUncertain (refundId : RefundId)
  -- the scheduled and the manual query
  | reconcile (refundId : RefundId)
  | query (refundId : RefundId)
  | querying (refund : RefundInHand) (manual : Bool)
  | markingProcessing (refundId : RefundId)
  -- a provider's notification
  | webhookReceived (webhook : RefundWebhook)
  | webhookFound (refund : RefundInHand) (webhook : RefundWebhook)
  deriving Repr, DecidableEq

/-- Every other task follows one of these. -/
def RefundTask.starts : RefundTask → Bool
  | .requestFull _ reason => reason ≠ .autoPartialDispenseFailed
  | .requestPartial _ _ _
  | .dispatchPending
  | .reconcile _
  | .query _
  | .webhookReceived _ => true
  | _ => false

/-- What follows the answer of a provider to a request. -/
def RefundInHand.afterRequest
    (refund : RefundInHand) : RefundProviderAnswer → List RefundTask
  | .settled outcome => [.settling refund outcome]
  | .processing => [.recordingProcessing refund]
  | .failed => [.recordingUncertain refund.refundId]

/-- What follows the answer of a provider to a query. -/
def RefundInHand.afterQuery
    (refund : RefundInHand)
    (manual : Bool) : RefundProviderAnswer → List RefundTask
  | .settled outcome => [.settling refund outcome]
  | .processing => if manual then [.markingProcessing refund.refundId] else []
  | .failed => []

/-- What follows a notification that was stored. -/
def RefundInHand.afterWebhook
    (refund : RefundInHand) : Option RefundOutcome → List RefundTask
  | some outcome => [.settling refund outcome]
  | none => [.markingProcessing refund.refundId]

/-- The next step of a task: one transaction, and what follows it. -/
def RefundTask.perform :
    RefundTask → RefundInput → DrizzleTransaction (List RefundTask)
  | .requestFull orderId reason, input => do
      let requested ← requestFullRefund orderId reason input.now
      pure (requested.toList.map .recordCreated)
  | .requestPartial orderId orderItemIds amountCents, input => do
      let requested ← requestPartialRefund orderId orderItemIds amountCents
        input.now
      pure (requested.toList.map .recordCreated)
  | .recordCreated refund, _ => do
      addRefundEvent refund.refundId .created
      pure [.refunding refund]
  | .dispatchPending, input => do
      let db ← get
      pure
        ((db.refunds.rows.filter fun refund =>
          db.isDispatchable refund input.now).map fun refund =>
            .claiming refund.id)
  | .claiming refundId, input => do
      let claimed ← claimRefund refundId input.now
      pure (if claimed then [.dispatchClaimed refundId] else [])
  | .dispatchClaimed refundId, _ => do
      let db ← get
      pure ((db.refundInHand refundId .dispatcher).toList.map .refunding)
  | .refunding refund, input => pure (refund.afterRequest input.answer)
  | .settling refund outcome, input => do
      let _ ← applyTerminalState refund outcome input.now
      pure []
  | .recordingProcessing refund, input => do
      recordRefundProcessing refund.refundId input.now
      pure []
  | .recordingUncertain refundId, input => do
      recordRefundRequestUncertain refundId input.now
      pure []
  | .reconcile refundId, _ => do
      let db ← get
      if (db.refunds.find? refundId).any db.isReconcilableRefund then
        pure
          ((db.refundInHand refundId .query).toList.map fun refund =>
            .querying refund false)
      else pure []
  | .query refundId, _ => do
      let db ← get
      let refund ← Transaction.requireSome (db.refunds.find? refundId)
        (.notFound "Refund not found")
      if refund.status.open then
        pure
          ((db.refundInHand refundId .query).toList.map fun refund =>
            .querying refund true)
      else pure []
  | .querying refund manual, input =>
    pure (refund.afterQuery manual input.answer)
  | .markingProcessing refundId, input => do
      updateRefundStatus refundId .processing input.now
      pure []
  | .webhookReceived webhook, _ => do
      let db ← get
      pure
        ((db.refundInHand webhook.refundId .webhook).toList.map fun refund =>
          .webhookFound refund webhook)
  | .webhookFound refund webhook, input =>
    if input.eventIsKnown then pure []
    else do
      match webhook.eventType with
      | none => pure ()
      | some eventType => addRefundEvent refund.refundId eventType
      pure (refund.afterWebhook webhook.refundStatus)

/-- A request whose answer could not be stored is recorded as uncertain. -/
def RefundTask.recover : RefundTask → ServiceError → List RefundTask
  | .settling refund _, _
  | .recordingProcessing refund, _ =>
    if refund.caller = .requester ∨ refund.caller = .dispatcher then
      [.recordingUncertain refund.refundId]
    else []
  | _, _ => []

/-- The refund operations of the platform. -/
def refundService :
    Service Db ServiceError RefundTask RefundInput where
  starts := RefundTask.starts
  perform := RefundTask.perform
  recover := RefundTask.recover

end VendingSystem.Platform
