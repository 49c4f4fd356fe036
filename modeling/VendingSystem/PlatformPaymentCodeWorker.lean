import VendingSystem.PlatformPaymentTasks
import VendingSystem.ProviderPaymentCodes

namespace VendingSystem.Platform

open Provider (ProviderCall RecoveryAction recoverCharge recoverQuery)

/-!
# The worker of the payment-code attempts

What presents a customer's code to a provider and follows it up.  The worker
claims an attempt, renews its claim before every call of the provider, and
writes what the call told it under the same claim; expiry, cancellation,
webhooks and operators write the attempts next to it.  Between two steps all
other tables may change in any way, a claim in hand may be superseded, and its
attempt may be canceled.
-/

def recoveryMaxAttempts : Nat := 8

/--
The row that a claim returned, as the worker keeps it.  The counter of claims
is not a column of the modelled row: a claim may return any number.
-/
structure PaymentCodeRecoveryClaim where
  attempt : PaymentCodeAttempt
  held : LeaseClaim
  recoveryAttemptCount : Nat
  deriving DecidableEq

/-- What a step takes from outside the database. -/
structure PaymentCodeInput extends PaymentInput where
  admitted : Bool
  recoveryAttemptCount : Nat
  nextRecoveryAt : Time
  -- none while the provider has not answered
  call : Option ProviderCall
  elsewhere : Db

/-- No other transaction of the platform writes the attempts. -/
def Db.changedElsewhere (db elsewhere : Db) : Db :=
  { elsewhere with paymentCodeAttempts := db.paymentCodeAttempts }

/--
The row that a claiming statement returns.  Every claim raises the fence, so
the statement has found its row exactly when the fence has changed.
-/
def returningClaim
    (attemptId : Nat)
    (input : PaymentCodeInput)
    (statement : DrizzleTransaction Unit) :
    DrizzleTransaction (Option PaymentCodeRecoveryClaim) := do
  let before ← get
  statement
  let after ← get
  pure do
    let old ← before.paymentCodeAttempts.find? attemptId
    let attempt ← after.paymentCodeAttempts.find? attemptId
    if attempt.recoveryLease.fence = old.recoveryLease.fence then none
    else
      some
        { attempt
          held :=
            { ownerToken := input.token
              fence := attempt.recoveryLease.fence }
          recoveryAttemptCount := input.recoveryAttemptCount }

/-- The claim is in force on its attempt. -/
def Db.holdsRecovery
    (db : Db)
    (claim : PaymentCodeRecoveryClaim)
    (now : Time) : Bool :=
  (db.paymentCodeAttempts.find? claim.attempt.id).any fun attempt =>
    attempt.recoveryLease.heldBy claim.held.ownerToken claim.held.fence now

/-- What `beginReversal` checks under its locks. -/
def Db.admitsReversal
    (db : Db)
    (claim : PaymentCodeRecoveryClaim)
    (now : Time) : Bool :=
  (db.paymentCodeAttempts.find? claim.attempt.id).any fun attempt =>
    attempt.isActive &&
      attempt.recoveryLease.heldBy claim.held.ownerToken claim.held.fence
        now &&
      (db.attemptRow attempt).any fun row =>
        row.payment.status ≠ .succeeded && row.order.status ≠ .paid

/-- A call; a query knows when the payment expires. -/
inductive ProviderOperation where
  | charge
  | query (paymentExpiresAt : Option Time)
  | reverse
  deriving DecidableEq

/-- What `reverseAfterQuery` does with the answer. -/
def recoverReverse : ProviderCall → RecoveryAction
  | .error _ => .defer false
  | .ok result =>
    if result.status = .reversed then .applyTerminal false
    else .defer false

/-- A query without a final answer reverses an unwanted or overdue payment. -/
def PaymentCodeRecoveryClaim.action
    (claim : PaymentCodeRecoveryClaim)
    (operation : ProviderOperation)
    (call : ProviderCall)
    (now : Time) : RecoveryAction :=
  match operation with
  | .charge => recoverCharge call
  | .query paymentExpiresAt =>
    recoverQuery
      (claim.attempt.status = .reversing || paymentExpiresAt.any (· ≤ now))
      call
  | .reverse => recoverReverse call

def ProviderOperation.eventSuffix
    (operation : ProviderOperation)
    (status : PaymentCodeAttemptStatus) : String :=
  match operation, status with
  | .charge, .reversed => "charge_reversed"
  | .charge, _ => "charge_succeeded"
  | .query _, .succeeded => "query_succeeded"
  | .query _, .reversed => "query_reversed"
  | .query _, _ => "query_failed"
  | .reverse, _ => "reverse_confirmed"

/-- The attempt's status after a call that decided the payment. -/
def terminalAttemptStatus : ProviderCall → PaymentCodeAttemptStatus
  | .error _ => .failed
  | .ok result =>
    match result.status with
    | .succeeded => .succeeded
    | .reversed => .reversed
    | _ => .failed

/-- `applyProviderTerminalResult`. -/
def PaymentCodeRecoveryClaim.terminal
    (claim : PaymentCodeRecoveryClaim)
    (operation : ProviderOperation)
    (call : ProviderCall)
    (paymentSucceeded : Bool) : AttemptStatement :=
  let status := terminalAttemptStatus call
  let suffix := operation.eventSuffix status
  .terminal
    { attemptId := claim.attempt.id
      status
      ownerToken := claim.held.ownerToken
      fence := claim.held.fence }
    (if paymentSucceeded then .succeeded else .failed)
    (.named s!"payment_code:{claim.attempt.id}:{suffix}")
    (call.toOption.bind Provider.PaymentCodeResult.providerTradeNo)
    (if paymentSucceeded then none
    else
      (call.toOption.bind Provider.PaymentCodeResult.failureCode).or
        (some s!"payment_code_{suffix}"))
    (operation ≠ .charge)

/-- A status in which a claim waits for the next recovery. -/
inductive DeferredStatus where
  | userConfirming
  | querying
  deriving DecidableEq

def DeferredStatus.attemptStatus : DeferredStatus → PaymentCodeAttemptStatus
  | .userConfirming => .userConfirming
  | .querying => .querying

def DeferredStatus.text : DeferredStatus → String
  | .userConfirming => "user_confirming"
  | .querying => "querying"

/-- What an operator can ask of an attempt. -/
inductive ManualAction where
  | query
  | reverse
  | handOver
  deriving DecidableEq

def ManualAction.status : ManualAction → PaymentCodeAttemptStatus
  | .query => .querying
  | .reverse => .reversing
  | .handOver => .manualHandling

inductive PaymentCodeTask where
  -- the submission of a code
  | submit (orderId : OrderId) (idempotencyKey : Nat)
  | admitting (attemptId : Nat)
  | refusing (attemptId : Nat)
  | claimingSubmission (attemptId : Nat)
  -- an operator's action, and the recovery of a due attempt
  | requestManual (attemptId : Nat) (action : ManualAction)
  | claimingRecovery (attemptId : Nat)
  | releasing (claim : PaymentCodeRecoveryClaim) (succeeded : Bool)
  | parking (claim : PaymentCodeRecoveryClaim) (reason : String)
  | readingContext (claim : PaymentCodeRecoveryClaim)
  -- a call of the provider
  | renewing (claim : PaymentCodeRecoveryClaim) (operation : ProviderOperation)
  | calling (claim : PaymentCodeRecoveryClaim) (operation : ProviderOperation)
  | awaiting (claim : PaymentCodeRecoveryClaim) (operation : ProviderOperation)
  | answered
      (claim : PaymentCodeRecoveryClaim)
      (operation : ProviderOperation)
      (call : ProviderCall)
  | deferring (claim : PaymentCodeRecoveryClaim) (status : DeferredStatus)
  -- what else writes attempts
  | expire (payment : Payment)
  | cancel (row : PaymentRow)
  | wake (paymentId : PaymentId)
  | elsewhere

/-- The due attempts are found in any order. -/
def PaymentCodeTask.starts : PaymentCodeTask → Bool
  | .submit _ _
  | .requestManual _ _
  | .claimingRecovery _
  | .expire _
  | .cancel _
  | .wake _
  | .elsewhere => true
  | _ => false

/-- The attempt that a request created or replayed is submitted once. -/
def submitPaymentCode
    (orderId : OrderId)
    (idempotencyKey : Nat)
    (now : Time) : DrizzleTransaction (List PaymentCodeTask) := do
  let attemptId ← createOrReplayAttempt orderId idempotencyKey now
  let db ← get
  pure
    (if (db.paymentCodeAttempts.find? attemptId).any fun attempt =>
        attempt.status = .created && attempt.isActive then
      [.admitting attemptId]
    else [])

/-- `requestManualQuery` and `requestManualReverse`. -/
def requestManualAction
    (attemptId : Nat)
    (action : ManualAction)
    (now : Time) : DrizzleTransaction (List PaymentCodeTask) := do
  requestRecoveryAction attemptId action.status now
  let db ← get
  pure
    (if (db.paymentCodeAttempts.find? attemptId).any fun attempt =>
        attempt.isActive &&
          attempt.status ∉ terminalPaymentCodeAttemptStatuses then
      [.claimingRecovery attemptId]
    else [])

namespace PaymentCodeRecoveryClaim

/-- The incident of an attempt whose outcome stays unknown. -/
def parkFor
    (claim : PaymentCodeRecoveryClaim)
    (reason : String)
    (input : PaymentCodeInput) : DrizzleTransaction (List PaymentCodeTask) := do
  markPaymentCodeAttemptManualHandling claim.attempt.id claim.held reason
    input.eventName input.now
  pure []

def release
    (claim : PaymentCodeRecoveryClaim)
    (status : PaymentCodeAttemptStatus)
    (nextRecoveryAt : Option Time)
    (now : Time) : DrizzleTransaction (List PaymentCodeTask) := do
  releaseRecoveryClaim claim.attempt.id claim.held status nextRecoveryAt now
  pure []

def deferRecovery
    (claim : PaymentCodeRecoveryClaim)
    (status : DeferredStatus)
    (input : PaymentCodeInput) : DrizzleTransaction (List PaymentCodeTask) :=
  if claim.recoveryAttemptCount ≥ recoveryMaxAttempts - 1 then
    claim.parkFor s!"{status.text}_retries_exhausted" input
  else
    claim.release status.attemptStatus (some input.nextRecoveryAt) input.now

/-- `recoverClaim` up to its first statement. -/
def recovery (claim : PaymentCodeRecoveryClaim) : PaymentCodeTask :=
  if claim.attempt.status = .created then .releasing claim false
  else if claim.attempt.status = .manualHandling then
    .parking claim "operator_requested_manual_handling"
  else if claim.recoveryAttemptCount ≥ recoveryMaxAttempts then
    .parking claim "recovery_attempts_exhausted"
  else .readingContext claim

/-- A claim ends at a settled payment, and queries the provider otherwise. -/
def afterContext
    (claim : PaymentCodeRecoveryClaim)
    (payment : Payment) : PaymentCodeTask :=
  if payment.status = .succeeded then .releasing claim true
  else if payment.status ∈
      ([.failed, .expired, .canceled] : List PaymentStatus) then
    .releasing claim false
  else .renewing claim (.query payment.expiresAt)

/-- Without its claim a worker neither calls the provider nor waits for it. -/
def renewThen
    (claim : PaymentCodeRecoveryClaim)
    (next : PaymentCodeTask)
    (now : Time) : DrizzleTransaction (List PaymentCodeTask) := do
  let db ← get
  if db.holdsRecovery claim now then do
    renewRecoveryClaim claim.attempt.id claim.held now
    pure [next]
  else pure [.deferring claim .querying]

/-- `reverseAfterQuery` up to its call. -/
def reverseAfterQuery
    (claim : PaymentCodeRecoveryClaim)
    (now : Time) : DrizzleTransaction (List PaymentCodeTask) := do
  let db ← get
  if db.admitsReversal claim now then do
    beginReversal claim.attempt.id claim.held now
    pure
      [.renewing
        { claim with attempt := { claim.attempt with status := .reversing } }
        .reverse]
  else pure []

/-- `applyChargeResult`, `queryAndResolve` and `reverseAfterQuery`. -/
def resolve
    (claim : PaymentCodeRecoveryClaim)
    (operation : ProviderOperation)
    (call : ProviderCall)
    (input : PaymentCodeInput) : DrizzleTransaction (List PaymentCodeTask) :=
  match claim.action operation call input.now with
  | .applyTerminal paymentSucceeded => do
    (claim.terminal operation call paymentSucceeded).perform
      input.toPaymentInput
    pure []
  | .releaseFailed => claim.release .failed none input.now
  | .reverse => claim.reverseAfterQuery input.now
  | .defer userConfirming =>
    claim.deferRecovery
      (if userConfirming then .userConfirming else .querying) input

end PaymentCodeRecoveryClaim

def PaymentCodeTask.perform :
    PaymentCodeTask → PaymentCodeInput →
      DrizzleTransaction (List PaymentCodeTask)
  | .submit orderId idempotencyKey, input =>
    submitPaymentCode orderId idempotencyKey input.now
  | .admitting attemptId, input =>
    pure
      (if input.admitted then [.claimingSubmission attemptId]
      else [.refusing attemptId])
  | .refusing attemptId, _ => do
    failCreatedAttempt attemptId
    pure []
  | .claimingSubmission attemptId, input => do
    let claim ← returningClaim attemptId input
      (claimSubmission attemptId input.token input.now)
    pure (claim.toList.map (.renewing · .charge))
  | .requestManual attemptId action, input =>
    requestManualAction attemptId action input.now
  | .claimingRecovery attemptId, input => do
    let claim ← returningClaim attemptId input
      (claimRecoveryAttempt attemptId input.token input.now)
    pure (claim.toList.map PaymentCodeRecoveryClaim.recovery)
  | .releasing claim succeeded, input =>
    claim.release (if succeeded then .succeeded else .failed) none input.now
  | .parking claim reason, input => claim.parkFor reason input
  | .readingContext claim, input => do
    let db ← get
    match (db.payments.find? claim.attempt.paymentId).filter
        (fun _ => input.admitted) with
    | none => pure [.deferring claim .querying]
    | some payment => pure [claim.afterContext payment]
  | .renewing claim operation, input =>
    claim.renewThen (.calling claim operation) input.now
  | .calling claim operation, _ => pure [.awaiting claim operation]
  -- the claim is renewed until the provider answers
  | .awaiting claim operation, input =>
    match input.call with
    | some call => pure [.answered claim operation call]
    | none => claim.renewThen (.awaiting claim operation) input.now
  | .answered claim operation call, input =>
    claim.resolve operation call input
  | .deferring claim status, input => claim.deferRecovery status input
  | .expire payment, input => do
    let _ ← expirePayment payment input.preferred input.now
    pure []
  | .cancel row, input => do
    let _ ← cancelMachineOrder row input.preferred input.now
    pure []
  | .wake paymentId, input => do
    wakeActiveAttempts paymentId input.now
    pure []
  | .elsewhere, input => do
    modify fun db => db.changedElsewhere input.elsewhere
    pure []

/-- A claim whose database call failed before the provider's is deferred. -/
def PaymentCodeTask.recover : PaymentCodeTask → ServiceError →
    List PaymentCodeTask
  | .admitting attemptId, _ => [.refusing attemptId]
  | .readingContext claim, _
  | .renewing claim _, _
  | .awaiting claim _, _ => [.deferring claim .querying]
  | _, _ => []

def paymentCodeService :
    Service Db ServiceError PaymentCodeTask PaymentCodeInput where
  starts := PaymentCodeTask.starts
  perform := PaymentCodeTask.perform
  recover := PaymentCodeTask.recover

end VendingSystem.Platform
