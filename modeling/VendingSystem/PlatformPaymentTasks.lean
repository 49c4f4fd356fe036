import VendingSystem.PlatformPaymentWrites
import VendingSystem.Service

namespace VendingSystem.Platform

/-!
# The payment operations as tasks

Every database transaction, every single statement and every call of a
provider is one step.  What a task read before stays in its hands, however old
it gets.
-/

inductive ProviderPaymentStatus where
  | pending
  | processing
  | succeeded
  | failed
  | expired
  | canceled
  deriving Repr, DecidableEq

/-- The status that a provider reports, as a payment stores it. -/
def ProviderPaymentStatus.paymentStatus : ProviderPaymentStatus → PaymentStatus
  | .pending => .pending
  | .processing => .processing
  | .succeeded => .succeeded
  | .failed => .failed
  | .expired => .expired
  | .canceled => .canceled

/-- The provider has not decided yet. -/
def ProviderPaymentStatus.isUncertain (status : ProviderPaymentStatus) :
    Bool :=
  status = .pending || status = .processing

structure ProviderQueryResult where
  status : ProviderPaymentStatus
  providerTradeNo : Option String
  reconciliationState : Option PaymentFailedReason
  failedReason : Option String
  deriving Repr, DecidableEq

/-- How a call of a provider ended. -/
inductive ProviderAnswer where
  | unsupported
  | waiting
  | payment (result : ProviderQueryResult)
  | closed (expired : Bool)
  | intent (intent : ProviderIntent)
  | tradeNotFound
  | indeterminate (message : String)
  | failed (message : String)
  deriving Repr, DecidableEq

/-- What a step takes from outside the database. -/
structure PaymentInput where
  now : Time
  token : Nat
  pastTimeoutCompensation : Bool
  answer : ProviderAnswer
  eventName : PaymentEventName
  preferred : InventoryReservation → Nat
  preferredLine : InventoryId × Nat → Nat

/-- A provider's notification about a payment. -/
structure ProviderPaymentWebhook where
  providerEventId : PaymentEventName
  paymentStatus : ProviderPaymentStatus
  providerTradeNo : Option String
  businessValid : Bool
  deriving Repr, DecidableEq

/-- One statement of a payment-code worker or endpoint. -/
inductive AttemptStatement where
  | createOrReplay (orderId : OrderId) (idempotencyKey : Nat)
  | failCreated (attemptId : Nat)
  | claimSubmission (attemptId : Nat)
  | claimRecovery (attemptId : Nat)
  | renew (attemptId : Nat) (claim : LeaseClaim)
  | beginReversal (attemptId : Nat) (claim : LeaseClaim)
  | release
      (attemptId : Nat)
      (claim : LeaseClaim)
      (status : PaymentCodeAttemptStatus)
      (nextRecoveryAt : Option Time)
  | manualHandling (attemptId : Nat) (claim : LeaseClaim) (reason : String)
  | terminal
      (transition : PaymentCodeAttemptTerminalTransition)
      (newStatus : ProviderTerminalStatus)
      (providerEventId : PaymentEventName)
      (providerTradeNo : Option String)
      (failedReason : Option String)
      (allowIncidentLockedResolution : Bool)
  deriving Repr, DecidableEq

inductive PaymentTask where
  -- a provider's webhook
  | webhookReceived
      (paymentId : PaymentId)
      (providerCode : PaymentProviderCode)
      (webhook : ProviderPaymentWebhook)
  | webhookFound (payment : Payment) (webhook : ProviderPaymentWebhook)
  -- expireOverduePayments
  | expireOverdue (paymentId : PaymentId)
  | expireChecking (payment : Payment)
  | expireQuerying (payment : Payment)
  | expireCanceling (payment : Payment)
  | expireSucceeded (payment : Payment) (result : ProviderQueryResult)
  | expireLocally (payment : Payment)
  -- reconcilePendingPayments
  | reconcileScheduled (paymentId : PaymentId)
  | scheduledQuerying (payment : Payment)
  | scheduledAnswered (payment : Payment) (result : ProviderQueryResult)
  -- reconcilePendingPaymentOnRead
  | reconcileOnRead (paymentId : PaymentId)
  | onReadClaiming (payment : Payment)
  | onReadQuerying (payment : Payment) (claim : LeaseClaim)
  | onReadReleasing (payment : Payment) (claim : LeaseClaim)
  | onReadAnswered
      (payment : Payment)
      (claim : LeaseClaim)
      (result : ProviderQueryResult)
  -- manualReconcile
  | manualReconcile (paymentId : PaymentId)
  | manualQuerying (payment : Payment)
  | manualAnswered (payment : Payment) (result : ProviderQueryResult)
  -- cancelMachineOrder
  | cancelOrder (orderId : OrderId)
  | cancelingAtProvider (row : PaymentRow)
  | canceling (row : PaymentRow)
  -- closeOrReverseUncertainPayment
  | closeOrReverse (paymentId : PaymentId)
  | closingAtProvider (row : PaymentRow)
  | closing (row : PaymentRow) (expired : Bool)
  | parkingUnknown (row : PaymentRow) (message : String)
  -- markPaymentManualHandling
  | manualHandling (paymentId : PaymentId) (reason : String)
  | takingOver (row : PaymentRow) (reason : String)
  -- an operator's action on a payment-code payment
  | findActiveAttempt
      (paymentId : PaymentId)
      (status : PaymentCodeAttemptStatus)
  | requestRecovery (attemptId : Nat) (status : PaymentCodeAttemptStatus)
  -- createMachineOrder
  | createOrder
      (input : CreateMachineOrderInput)
      (machineId : MachineId)
      (paymentExpiresAt : Time)
  | paymentCodePending (draft : LocalPaymentDraft)
  | restoreCreation (orderId : OrderId)
  | retryClaiming (draft : LocalPaymentDraft)
  | intentClaiming (draft : LocalPaymentDraft)
  | intentCreating (draft : LocalPaymentDraft) (claim : LeaseClaim)
  | intentPersisting
      (draft : LocalPaymentDraft)
      (claim : LeaseClaim)
      (intent : ProviderIntent)
  | intentUncertain
      (draft : LocalPaymentDraft)
      (claim : LeaseClaim)
      (message : String)
  | intentDatabaseFailed (draft : LocalPaymentDraft) (claim : LeaseClaim)
  | intentCancelingAtProvider (draft : LocalPaymentDraft) (claim : LeaseClaim)
  | intentFailing
      (draft : LocalPaymentDraft)
      (claim : LeaseClaim)
      (reason : String)
  -- payment-code attempts
  | attempt (statement : AttemptStatement)
  -- the mock endpoints
  | mockSucceed (paymentId : PaymentId)
  | mockFail (paymentId : PaymentId) (reason : String)
  deriving Repr, DecidableEq

/-- Every other task follows one of these. -/
def PaymentTask.starts : PaymentTask → Bool
  | .webhookReceived _ _ _
  | .expireOverdue _
  | .reconcileScheduled _
  | .reconcileOnRead _
  | .manualReconcile _
  | .cancelOrder _
  | .closeOrReverse _
  | .manualHandling _ _
  | .createOrder _ _ _
  | .restoreCreation _
  | .attempt _
  | .mockSucceed _
  | .mockFail _ _ => true
  | _ => false

/-- A result about a payment that a task has read. -/
def Payment.terminalTransition
    (payment : Payment)
    (newStatus : ProviderTerminalStatus)
    (providerEventId : PaymentEventName)
    (providerTradeNo failedReason : Option String) :
    PaymentTerminalTransitionInput where
  paymentId := payment.id
  orderId := payment.orderId
  newStatus := newStatus
  providerCode := payment.providerCode
  providerEventId := providerEventId
  providerTradeNo := providerTradeNo
  failedReason := failedReason
  allowIncidentLockedResolution := false
  leaseGuard := none
  paymentCodeAttempt := none

/-- Apply a terminal result and be done. -/
def finishTransition
    (transition : PaymentTerminalTransitionInput)
    (input : PaymentInput) : DrizzleTransaction (List PaymentTask) := do
  let _ ← transitionProviderPaymentTerminal transition input.preferred input.now
  pure []

/-- Store a waiting event without a transition. -/
def insertPaymentEvent
    (payment : Payment)
    (providerEventId : PaymentEventName) :
    DrizzleTransaction (List PaymentTask) := do
  modify fun db =>
    db.addPaymentEvent payment.providerCode providerEventId payment.id
  pure []

def handlePaymentWebhook
    (payment : Payment)
    (webhook : ProviderPaymentWebhook)
    (input : PaymentInput) : DrizzleTransaction (List PaymentTask) :=
  if !webhook.businessValid then
    insertPaymentEvent payment webhook.providerEventId
  else if payment.method = .paymentCode then do
    wakeActiveAttempts payment.id input.now
    pure []
  else
    match webhook.paymentStatus with
    | .succeeded =>
      finishTransition
        (payment.terminalTransition .succeeded webhook.providerEventId
          webhook.providerTradeNo none)
        input
    | .failed =>
      finishTransition
        (payment.terminalTransition .failed webhook.providerEventId
          webhook.providerTradeNo (some "webhook_failed"))
        input
    | _ => insertPaymentEvent payment webhook.providerEventId

/-- The payments that the expiry sweep selects. -/
def Payment.isOverdue (payment : Payment) (now : Time) : Bool :=
  payment.status ∈ cancelablePaymentStatuses &&
    payment.expiresAt.any fun expiresAt => 0 < expiresAt && expiresAt < now

/-- A submitted attempt is left to its worker. -/
def expireChecking
    (payment : Payment)
    (now : Time) : DrizzleTransaction (List PaymentTask) := do
  let db ← get
  match (db.activeAttempt? payment.id).filter
      (fun attempt =>
        payment.method = .paymentCode && attempt.status ≠ .created) with
  | some _ => do
      wakeActiveAttempts payment.id now
      pure []
  | none => pure [.expireQuerying payment]

/-- Without a provider's trade, an overdue payment can expire here. -/
def Payment.afterProviderError
    (payment : Payment)
    (input : PaymentInput) : List PaymentTask :=
  if payment.providerTradeNo.isNone && input.answer = .tradeNotFound &&
      input.pastTimeoutCompensation then
    [.expireLocally payment]
  else []

/-- What the sweep does after the provider answered its query. -/
def Payment.afterExpiryQuery
    (payment : Payment)
    (input : PaymentInput) : List PaymentTask :=
  match input.answer with
  | .unsupported => [.expireLocally payment]
  | .payment result =>
    if result.status = .succeeded then [.expireSucceeded payment result]
    else if result.status.isUncertain then
      if input.pastTimeoutCompensation then [.expireCanceling payment]
      else []
    else [.expireLocally payment]
  | _ => payment.afterProviderError input

/-- What the sweep does after it asked the provider to cancel. -/
def Payment.afterExpiryCancel
    (payment : Payment)
    (input : PaymentInput) : List PaymentTask :=
  match input.answer with
  | .closed _ => [.expireLocally payment]
  | _ => payment.afterProviderError input

/-- The payments that the scheduled reconciliation selects. -/
def Payment.isReconcilable (payment : Payment) (now : Time) : Bool :=
  (payment.status = .pending || payment.status = .processing) &&
    payment.method ≠ .paymentCode && payment.intentCreationLease.isFree now &&
    payment.expiresAt.all (now < ·)

/-- A poll passes over attempts, running claims and settled payments. -/
def Payment.isPollable (payment : Payment) (now : Time) : Bool :=
  payment.method ≠ .paymentCode &&
    !(payment.intentCreationLease.ownerToken.isSome &&
      payment.intentCreationLease.expiresAt.any (now < ·)) &&
    payment.status ∈ reconcilablePaymentStatuses

/-- A provider's terminal status; only a success is one. -/
def ProviderPaymentStatus.terminal (status : ProviderPaymentStatus) :
    ProviderTerminalStatus :=
  if status = .succeeded then .succeeded else .failed

/-- The result of a poll under its claim. -/
def settleOnRead
    (payment : Payment)
    (claim : LeaseClaim)
    (result : ProviderQueryResult)
    (input : PaymentInput) : DrizzleTransaction (List PaymentTask) :=
  if result.status.isUncertain then do
    persistReconciledStatus payment.id claim result.status.paymentStatus
      (result.providerTradeNo.or payment.providerTradeNo)
      result.reconciliationState input.now
    pure []
  else
    finishTransition
      { payment.terminalTransition result.status.terminal input.eventName
          result.providerTradeNo result.failedReason with
        leaseGuard :=
          some { ownerToken := claim.ownerToken, fence := claim.fence } }
      input

/-- The result of an operator's query. -/
def settleManually
    (payment : Payment)
    (result : ProviderQueryResult)
    (input : PaymentInput) : DrizzleTransaction (List PaymentTask) :=
  if result.status = .succeeded ∨ result.status = .failed then
    finishTransition
      { payment.terminalTransition result.status.terminal input.eventName
          result.providerTradeNo result.failedReason with
        allowIncidentLockedResolution := true }
      input
  else do
    persistManualStatus payment.id result.status.paymentStatus
      (result.providerTradeNo.or payment.providerTradeNo)
    pure []

/-- A cancellation that needs no provider. -/
def PaymentRow.skipsProviderCancel (row : PaymentRow) : Bool :=
  row.payment.method = .paymentCode || row.payment.providerCode = .mock ||
    row.payment.status ∉ cancelablePaymentStatuses

/-- An answer with which the cancellation goes on. -/
def ProviderAnswer.allowsCancel : ProviderAnswer → Bool
  | .closed _
  | .tradeNotFound
  | .indeterminate _ => true
  | _ => false

/-- What the operator's closing does after the provider answered. -/
def PaymentRow.afterClose
    (row : PaymentRow)
    (answer : ProviderAnswer) : List PaymentTask :=
  match answer with
  | .closed expired => [.closing row expired]
  | .failed message
  | .indeterminate message => [.parkingUnknown row message]
  | _ => [.parkingUnknown row "provider call failed"]

/-- What follows the creation of an order. -/
def LocalPaymentDraft.afterCreation (draft : LocalPaymentDraft) :
    List PaymentTask :=
  if draft.paymentMethod = .paymentCode then [.paymentCodePending draft]
  else [.intentClaiming draft]

/-- The draft of an order that was created by an earlier request. -/
def Db.existingDraft
    (db : Db)
    (row : PaymentRow)
    (now : Time) : LocalPaymentDraft where
  orderId := row.order.id
  paymentId := row.payment.id
  providerCode := row.payment.providerCode
  paymentMethod := row.payment.method
  expiresAt := row.payment.expiresAt.getD now
  reservations :=
    (db.activeReservationsOfOrder row.order.id).map fun reservation =>
      (reservation.inventoryId, reservation.quantity)

/--
A repeated request joins the creation.  A processing payment is polled first;
only a trade that the poll found missing can then be claimed again.
-/
def Db.afterRestore
    (db : Db)
    (row : PaymentRow)
    (now : Time) : List PaymentTask :=
  let draft := db.existingDraft row now
  if row.payment.method = .paymentCode || row.payment.paymentUrl.isSome then []
  else
    match row.payment.status with
    | .created => [.intentClaiming draft]
    | .pending =>
      if row.payment.failedReason = some .providerTradeNotExist then
        [.retryClaiming draft]
      else [.intentClaiming draft]
    | .processing => [.reconcileOnRead row.payment.id, .retryClaiming draft]
    | _ => []

/-- What the creation of an intent does after the provider answered. -/
def LocalPaymentDraft.afterIntent
    (draft : LocalPaymentDraft)
    (claim : LeaseClaim)
    (answer : ProviderAnswer) : List PaymentTask :=
  match answer with
  | .intent intent => [.intentPersisting draft claim intent]
  | .indeterminate message => [.intentUncertain draft claim message]
  | _ => [.intentFailing draft claim "provider_create_failed"]

/-- One statement about a payment-code attempt. -/
def AttemptStatement.perform
    (statement : AttemptStatement)
    (input : PaymentInput) : DrizzleTransaction Unit :=
  match statement with
  | .createOrReplay orderId idempotencyKey => do
      let _ ← createOrReplayAttempt orderId idempotencyKey input.now
      pure ()
  | .failCreated attemptId => failCreatedAttempt attemptId
  | .claimSubmission attemptId =>
    Platform.claimSubmission attemptId input.token input.now
  | .claimRecovery attemptId =>
    claimRecoveryAttempt attemptId input.token input.now
  | .renew attemptId claim => renewRecoveryClaim attemptId claim input.now
  | .beginReversal attemptId claim =>
    Platform.beginReversal attemptId claim input.now
  | .release attemptId claim status nextRecoveryAt =>
    releaseRecoveryClaim attemptId claim status nextRecoveryAt input.now
  | .manualHandling attemptId claim reason =>
    markPaymentCodeAttemptManualHandling attemptId claim reason
      input.eventName input.now
  | .terminal transition newStatus providerEventId providerTradeNo
      failedReason allowIncidentLockedResolution => do
      let db ← get
      let attempt ← Transaction.requireSome
        (db.paymentCodeAttempts.find? transition.attemptId)
        (.notFound "Payment code attempt not found")
      let payment ← Transaction.requireSome
        (db.payments.find? attempt.paymentId)
        (.notFound "Payment code attempt not found")
      let _ ← transitionProviderPaymentTerminal
        { payment.terminalTransition newStatus providerEventId
            providerTradeNo failedReason with
          orderId := attempt.orderId
          allowIncidentLockedResolution
          paymentCodeAttempt := some transition }
        input.preferred input.now
      pure ()

/-- The next step of a task: one transaction, and what follows it. -/
def PaymentTask.perform :
    PaymentTask → PaymentInput → DrizzleTransaction (List PaymentTask)
  | .webhookReceived paymentId providerCode webhook, _ => do
      let db ← get
      match (db.payments.find? paymentId).filter
          (fun payment => payment.providerCode = providerCode) with
      | none => pure []
      | some payment => pure [.webhookFound payment webhook]
  | .webhookFound payment webhook, input =>
    handlePaymentWebhook payment webhook input
  | .expireOverdue paymentId, input => do
      let db ← get
      match (db.payments.find? paymentId).filter
          (fun payment => payment.isOverdue input.now) with
      | none => pure []
      | some payment => pure [.expireChecking payment]
  | .expireChecking payment, input => Platform.expireChecking payment input.now
  | .expireQuerying payment, input => pure (payment.afterExpiryQuery input)
  | .expireCanceling payment, input => pure (payment.afterExpiryCancel input)
  | .expireSucceeded payment result, input =>
    finishTransition
      (payment.terminalTransition .succeeded input.eventName
        result.providerTradeNo none)
      input
  | .expireLocally payment, input => do
      let _ ← expirePayment payment input.preferred input.now
      pure []
  | .reconcileScheduled paymentId, input => do
      let db ← get
      match (db.payments.find? paymentId).filter
          (fun payment => payment.isReconcilable input.now) with
      | none => pure []
      | some payment => pure [.scheduledQuerying payment]
  | .scheduledQuerying payment, input =>
    match input.answer with
    | .payment result =>
      pure
        (if result.status.isUncertain then []
        else [.scheduledAnswered payment result])
    | _ => pure []
  | .scheduledAnswered payment result, input =>
    finishTransition
      (payment.terminalTransition result.status.terminal input.eventName
        result.providerTradeNo result.failedReason)
      input
  | .reconcileOnRead paymentId, input => do
      let db ← get
      match (db.payments.find? paymentId).filter
          (fun payment => payment.isPollable input.now) with
      | none => pure []
      | some payment => pure [.onReadClaiming payment]
  | .onReadClaiming payment, input => do
      let claim ← claimReconciliation payment.id input.token input.now
      pure (claim.toList.map (.onReadQuerying payment))
  | .onReadQuerying payment claim, input =>
    match input.answer with
    | .payment result => pure [.onReadAnswered payment claim result]
    | _ => pure [.onReadReleasing payment claim]
  | .onReadReleasing payment claim, _ => do
      releasePaymentLease payment.id claim
      pure []
  | .onReadAnswered payment claim result, input =>
    settleOnRead payment claim result input
  | .manualReconcile paymentId, _ => do
      let db ← get
      let payment ← Transaction.requireSome (db.payments.find? paymentId)
        (.notFound "Payment not found")
      if payment.method = .paymentCode then
        pure [.findActiveAttempt paymentId .querying]
      else if payment.status ∈ reconcilablePaymentStatuses then
        pure [.manualQuerying payment]
      else pure []
  | .manualQuerying payment, input =>
    match input.answer with
    | .payment result => pure [.manualAnswered payment result]
    | _ => pure []
  | .manualAnswered payment result, input =>
    settleManually payment result input
  | .cancelOrder orderId, _ => do
      let db ← get
      let row ← Transaction.requireSome (db.orderPaymentRow orderId)
        (.notFound "Machine order not found")
      match assertMachineOrderCanStillBeCanceled row with
      | .alreadyClosed => pure []
      | .refused =>
        throw (.conflict "Paid or dispensing orders cannot be canceled")
      | .cancelable => pure [.cancelingAtProvider row]
  | .cancelingAtProvider row, input =>
    pure
      (if row.skipsProviderCancel || input.answer.allowsCancel then
        [.canceling row]
      else [])
  | .canceling row, input => do
      let _ ← cancelMachineOrder row input.preferred input.now
      pure []
  | .closeOrReverse paymentId, _ => do
      let db ← get
      let row ← Transaction.requireSome (db.paymentRow paymentId)
        (.notFound "Payment not found")
      if !canApplyProviderTerminalStatus row.payment.status then pure []
      else if row.payment.method = .paymentCode then
        pure [.findActiveAttempt paymentId .reversing]
      else pure [.closingAtProvider row]
  | .closingAtProvider row, input => pure (row.afterClose input.answer)
  | .closing row expired, input => do
      markPaymentClosedAfterProviderAction row expired input.eventName
        input.preferred
      pure []
  | .parkingUnknown row message, input => do
      markPaymentUnknownAfterProviderAction row message input.eventName
      pure []
  | .manualHandling paymentId reason, _ => do
      let db ← get
      let row ← Transaction.requireSome (db.paymentRow paymentId)
        (.notFound "Payment not found")
      if row.payment.method = .paymentCode then
        pure [.findActiveAttempt paymentId .manualHandling]
      else pure [.takingOver row reason]
  | .takingOver row reason, input => do
      markPaymentManualHandling row reason input.eventName
      pure []
  | .findActiveAttempt paymentId status, _ => do
      let db ← get
      pure
        ((db.activeAttempt? paymentId).toList.map fun attempt =>
          .requestRecovery attempt.id status)
  | .requestRecovery attemptId status, input => do
      requestRecoveryAction attemptId status input.now
      pure []
  | .createOrder order machineId paymentExpiresAt, _ => do
      let draft ← createAcceptedOrder order machineId paymentExpiresAt
      pure draft.afterCreation
  | .paymentCodePending draft, _ => do
      persistPaymentCodePending draft.paymentId draft.expiresAt
      pure []
  | .restoreCreation orderId, input => do
      let db ← get
      let row ← Transaction.requireSome (db.orderPaymentRow orderId)
        (.notFound "Machine order not found")
      pure (db.afterRestore row input.now)
  | .retryClaiming draft, input => do
      let claimed ← claimReconciledPaymentForIntentCreation draft.paymentId
        input.now
      pure (if claimed then [.intentClaiming draft] else [])
  | .intentClaiming draft, input => do
      let claim ← claimPaymentIntent draft.paymentId input.token input.now
      pure (claim.toList.map (.intentCreating draft))
  | .intentCreating draft claim, input =>
    match input.answer with
    | .waiting => do
        renewPaymentIntentLease draft.paymentId claim input.now
        pure [.intentCreating draft claim]
    | answer => pure (draft.afterIntent claim answer)
  | .intentPersisting draft claim intent, input => do
      persistPaymentIntent draft.paymentId claim intent
        (some draft.expiresAt) input.now
      pure []
  | .intentUncertain draft claim message, input => do
      markPaymentCreationUncertain draft.paymentId claim message input.now
      pure []
  | .intentDatabaseFailed draft claim, input => do
      let db ← get
      pure
        (if (db.payments.find? draft.paymentId).any fun payment =>
            claim.holds payment input.now then
          [.intentCancelingAtProvider draft claim]
        else [])
  | .intentCancelingAtProvider draft claim, _ =>
    pure [.intentFailing draft claim "provider_created_db_update_failed"]
  | .intentFailing draft claim reason, input => do
      cancelLocalCreatedPayment draft reason claim input.preferredLine
        input.now
      pure []
  | .attempt statement, input => do
      statement.perform input
      pure []
  | .mockSucceed paymentId, _ => do
      let _ ← markMockSucceeded paymentId
      pure []
  | .mockFail paymentId reason, input => do
      let _ ← markMockFailed paymentId reason input.preferred
      pure []

/-- What is left to do when a task's transaction fails. -/
def PaymentTask.recover : PaymentTask → ServiceError → List PaymentTask
  | .closing row _, _ => [.parkingUnknown row "closing failed"]
  | .intentPersisting draft claim _, _ => [.intentDatabaseFailed draft claim]
  | _, _ => []

/-- The payment operations of the platform. -/
def paymentService :
    Service Db ServiceError PaymentTask PaymentInput where
  starts := PaymentTask.starts
  perform := PaymentTask.perform
  recover := PaymentTask.recover

end VendingSystem.Platform
