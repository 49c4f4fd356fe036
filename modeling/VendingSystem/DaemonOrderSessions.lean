import VendingSystem.DaemonCommit
import VendingSystem.DaemonStockSync

namespace VendingSystem.Daemon

/-!
# Order sessions and what the backend says about them

A session is overwritten as a whole row.  The backend's answer about an order
is merged with a row read before, and the merged row replaces whatever is
stored by then; no statement compares versions.
-/

/-- The actions of the checkout flow, as the contract spells them. -/
def checkoutFlowActions : List String :=
  ["wait_payment", "dispensing", "success", "payment_failed",
    "payment_expired", "dispense_failed", "refund_pending", "refunded",
    "manual_handling", "closed"]

def parseCheckoutFlowAction (action : String) :
    Except StoreError String :=
  if checkoutFlowActions.contains action then .ok action
  else .error (.invalidCheckoutFlowAction action)

/-- A backend status may omit its action, but not misspell it. -/
def validateBackendStatus (status : BackendStatus) :
    Except StoreError BackendStatus :=
  match status.nextAction with
  | none => .ok status
  | some action =>
    (parseCheckoutFlowAction action).map fun parsed =>
      { status with nextAction := some parsed }

/-- Set a field of an attempt, replacing what was stored under its name. -/
def PaymentCodeAttempt.withField
    (attempt : PaymentCodeAttempt)
    (name : String)
    (value : AttemptValue) : PaymentCodeAttempt :=
  attempt.filter (fun field => field.1 != name) ++ [(name, value)]

def PaymentCodeAttempt.textAt
    (attempt : PaymentCodeAttempt)
    (name : String) : Option String :=
  match attempt.lookup name with
  | some (.text value) => some value
  | _ => none

def PaymentCodeAttempt.canRetry (attempt : PaymentCodeAttempt) : Bool :=
  attempt.lookup "canRetry" == some (.flag true)

/-- The provider is still working on the attempt. -/
def PaymentCodeAttempt.isActive (attempt : PaymentCodeAttempt) : Bool :=
  (attempt.textAt "status").any fun status =>
    ["submitting", "user_confirming", "querying", "processing"].contains
      status

/-- The attempt ended badly and may not be repeated. -/
def PaymentCodeAttempt.isSpent (attempt : PaymentCodeAttempt) : Bool :=
  (attempt.textAt "status").any (fun status =>
    ["failed", "manual_handling", "unknown"].contains status) &&
      !attempt.canRetry

/-- The fields the backend knows replace the local ones. -/
def mergeBackendPaymentCodeAttempt
    (existing backendAttempt : Option PaymentCodeAttempt) :
    Option PaymentCodeAttempt :=
  backendAttempt.map fun fields =>
    fields.foldl
      (fun merged field => merged.withField field.1 field.2)
      (existing.getD [])

structure OrderSessionUpsert where
  orderNo : OrderNo
  paymentMethod : String
  paymentProvider : Option String
  items : List OrderItem
  status : String
  nextAction : String
  paymentAttempt : Option PaymentCodeAttempt
  recoveryStrategy : String
  lastBackendStatus : Option BackendStatus
  lastError : Option String
  deriving Repr, DecidableEq

/-- The backend's deadline for the payment, or the life of the log. -/
def orderSessionExpiresAt (input : OrderSessionUpsert) (now : Time) : Time :=
  (input.lastBackendStatus.bind fun status =>
    match status.payment with
    | some payment => payment.expiresAt
    | none => status.expiresAt).getD (now + commandLogTtlDays * secondsPerDay)

def OrderSessionUpsert.row
    (input : OrderSessionUpsert)
    (nextAction : String)
    (lastBackendStatus : Option BackendStatus)
    (now : Time) : OrderSession where
  orderNo := input.orderNo
  paymentMethod := input.paymentMethod
  paymentProvider := input.paymentProvider
  paymentAttempt := input.paymentAttempt
  items := input.items
  status := input.status
  nextAction := nextAction
  expiresAt := some (orderSessionExpiresAt input now)
  lastBackendStatus := lastBackendStatus
  lastError := input.lastError
  recoveryStrategy := input.recoveryStrategy
  updatedAt := now

/-- Overwrite a session; only an attempt that the input omits is kept. -/
def upsertOrderSession
    (store : Store)
    (input : OrderSessionUpsert)
    (now : Time) : Except StoreError Store :=
  (parseCheckoutFlowAction input.nextAction).bind fun nextAction =>
    (input.lastBackendStatus.mapM validateBackendStatus).map fun status =>
      let row := input.row nextAction status now
      { store with
        orderSessions := store.orderSessions.insertOrUpdate row
          (fun stored =>
            { row with
              orderNo := stored.orderNo
              paymentAttempt :=
                row.paymentAttempt.or stored.paymentAttempt }) }

/--
Carry local dispense progress into an answer that still says dispensing,
unless the answer is about another command.
-/
def mergeLocalDispenseProgress
    (localStatus : Option BackendStatus)
    (status : BackendStatus) : BackendStatus :=
  if status.nextAction ≠ some "dispensing" then status
  else
    let localVending :=
      (localStatus.bind BackendStatus.vending).getD .blank
    if localVending.commandNo.isNone &&
        localVending.fulfillmentProgressStage.isNone &&
        localVending.pickupReminder.isNone then status
    else
      let vending := status.vending.getD .blank
      { status with
        vending := some
          (if vending.commandNo.isNone ||
              vending.commandNo == localVending.commandNo then
            { vending with
              commandNo := localVending.commandNo.or vending.commandNo
              fulfillmentProgressStage :=
                localVending.fulfillmentProgressStage.or
                  vending.fulfillmentProgressStage
              pickupReminder :=
                localVending.pickupReminder.or vending.pickupReminder }
          else vending) }

/-- The row that a backend answer makes of a row read before. -/
def OrderSession.mergedWith
    (record : OrderSession)
    (status : BackendStatus) : OrderSessionUpsert where
  orderNo := record.orderNo
  paymentMethod :=
    (status.payment.bind BackendPayment.method).getD record.paymentMethod
  paymentProvider :=
    (status.payment.bind BackendPayment.providerCode).or
      record.paymentProvider
  items := record.items
  status := status.orderStatus.getD record.status
  nextAction := status.nextAction.getD record.nextAction
  paymentAttempt := mergeBackendPaymentCodeAttempt
    record.paymentAttempt status.paymentCodeAttempt
  recoveryStrategy := record.recoveryStrategy
  lastBackendStatus :=
    some (mergeLocalDispenseProgress record.lastBackendStatus status)
  lastError := none

/-- Read a session and overwrite it with what the backend answered. -/
def applyBackendOrderStatus
    (store : Store)
    (orderNo : OrderNo)
    (status : BackendStatus)
    (now : Time) : Except StoreError Store :=
  match store.orderSessions.find? orderNo with
  | none => .ok store
  | some record => upsertOrderSession store (record.mergedWith status) now

/-- What the daemon shows of the order that was written last. -/
structure CurrentTransaction where
  orderNo : OrderNo
  productSummary : List OrderItem
  paymentMethod : String
  paymentProvider : Option String
  orderStatus : String
  nextAction : String
  paymentCodeAttempt : Option PaymentCodeAttempt
  deriving Repr, DecidableEq

def publicOrderStatus (status : String) : String :=
  if status = "waiting_payment" then "pending_payment" else status

/-- The backend's last word comes before the columns of the row. -/
def OrderSession.currentTransaction (session : OrderSession) :
    Except StoreError CurrentTransaction :=
  let backend := session.lastBackendStatus
  (parseCheckoutFlowAction
    ((backend.bind BackendStatus.nextAction).getD session.nextAction)).map
      fun nextAction =>
        { orderNo := session.orderNo
          productSummary := session.items
          paymentMethod :=
            (match backend.bind BackendStatus.payment with
              | some payment => payment.method
              | none => backend.bind BackendStatus.paymentMethod).getD
                session.paymentMethod
          paymentProvider :=
            (match backend.bind BackendStatus.payment with
              | some payment => payment.providerCode
              | none => backend.bind BackendStatus.paymentProviderCode).or
                session.paymentProvider
          orderStatus := publicOrderStatus
            ((backend.bind BackendStatus.orderStatus).getD session.status)
          nextAction := nextAction
          paymentCodeAttempt := session.paymentAttempt }

def Store.currentTransaction (store : Store) :
    Except StoreError (Option CurrentTransaction) :=
  store.latestOrderSession.mapM OrderSession.currentTransaction

/-- The order is settled as far as the machine is concerned. -/
def isTerminalTransaction (current : CurrentTransaction) : Bool :=
  orderSessionTerminalNextAction current.nextAction ||
    ["fulfilled", "succeeded", "failed", "payment_expired",
      "payment_failed", "canceled", "cancelled", "expired",
      "dispense_failed", "refunded", "partial_refunded",
      "manual_handling", "closed"].contains current.orderStatus

/-- The order waits for a payment code that was not scanned yet. -/
def CurrentTransaction.awaitsPaymentCode (current : CurrentTransaction) :
    Bool :=
  current.paymentMethod == "payment_code" &&
    current.nextAction == "wait_payment" &&
    current.paymentCodeAttempt.isNone

def shouldFollowPaymentCodeAttempt (current : CurrentTransaction) : Bool :=
  current.paymentCodeAttempt.any PaymentCodeAttempt.isActive

/-- A scanned payment code, with the key its attempt is given. -/
structure PaymentCodeScan where
  maskedAuthCode : String
  source : String
  scannedAtMs : Nat
  scannerEventId : Option String
  idempotencyKey : String
  deriving Repr, DecidableEq

/-- The attempt that is stored before the code leaves the machine. -/
def PaymentCodeScan.attempt (scan : PaymentCodeScan) (now : Time) :
    PaymentCodeAttempt :=
  [("attemptNo", .null),
    ("idempotencyKey", .text scan.idempotencyKey),
    ("maskedAuthCode", .text scan.maskedAuthCode),
    ("source", .text scan.source),
    ("scannerEventId", (scan.scannerEventId.map AttemptValue.text).getD .null),
    ("status", .text "submitting"),
    ("canRetry", .flag false),
    ("message", .null),
    ("scannedAtMs", .number scan.scannedAtMs),
    ("submittedAt", .number now),
    ("lastCheckedAt", .null)]

/-- The session takes payment codes and is the one on the screen. -/
def Store.awaitsPaymentCode
    (store : Store)
    (session : OrderSession) : Bool :=
  session.paymentMethod == "payment_code" &&
    ["waiting_payment", "pending_payment"].contains session.status &&
    session.nextAction == "wait_payment" &&
    store.latestOrderSession.any fun latest =>
      latest.orderNo == session.orderNo

/-- Store the attempt of a session, and nothing else of it. -/
def setPaymentAttempt
    (store : Store)
    (orderNo : OrderNo)
    (attempt : PaymentCodeAttempt)
    (now : Time) : Store :=
  { store with
    orderSessions := store.orderSessions.modify orderNo
      (fun session =>
        { session with
          paymentAttempt := some attempt
          updatedAt := now }) }

/-- Begin an attempt unless one is under way or the order takes no code. -/
def beginPaymentCodeAttempt
    (store : Store)
    (orderNo : OrderNo)
    (scan : PaymentCodeScan)
    (now : Time) : Except StoreError Store :=
  match store.orderSessions.find? orderNo with
  | none => .error .paymentCodeOrderNotPayable
  | some session =>
    if session.paymentAttempt.any (fun attempt =>
        attempt.isActive || attempt.isSpent) then
      .error .activePaymentCodeAttempt
    else if store.awaitsPaymentCode session then
      .ok (setPaymentAttempt store orderNo (scan.attempt now) now)
    else .error .paymentCodeOrderNotPayable

/-- The attempt is still the one that was begun, on a waiting order. -/
def paymentCodeAttemptIsCurrent
    (store : Store)
    (orderNo : OrderNo)
    (idempotencyKey : String) : Bool :=
  (store.orderSessions.find? orderNo).any fun session =>
    store.awaitsPaymentCode session &&
      session.paymentAttempt.any fun attempt =>
        attempt.textAt "idempotencyKey" == some idempotencyKey &&
          attempt.textAt "status" == some "submitting"

/-- What the backend answers to a submitted code. -/
structure PaymentCodeResponse where
  status : String
  canRetry : Bool
  message : Option String
  deriving Repr, DecidableEq

/-- The response that stands for a backend that could not be reached. -/
def PaymentCodeResponse.unreachable : PaymentCodeResponse where
  status := "unknown"
  canRetry := true
  message := some "网络异常，请刷新付款码后重试"

def finishPaymentCodeAttempt
    (store : Store)
    (orderNo : OrderNo)
    (response : PaymentCodeResponse)
    (now : Time) : Store :=
  let stored : PaymentCodeAttempt :=
    ((store.orderSessions.find? orderNo).bind
      OrderSession.paymentAttempt).getD []
  setPaymentAttempt store orderNo
    ((((stored.withField "status" (.text response.status)).withField
      "canRetry" (.flag response.canRetry)).withField
      "message"
        ((response.message.map AttemptValue.text).getD .null)).withField
      "lastCheckedAt" (.number now)) now

/-- The session's row as it was before the code was submitted, once more. -/
def CurrentTransaction.restored
    (snapshot : CurrentTransaction)
    (attempt : Option PaymentCodeAttempt)
    (error : String) : OrderSessionUpsert where
  orderNo := snapshot.orderNo
  paymentMethod := snapshot.paymentMethod
  paymentProvider := snapshot.paymentProvider
  items := snapshot.productSummary
  status := snapshot.orderStatus
  nextAction := snapshot.nextAction
  paymentAttempt := attempt
  recoveryStrategy := "local"
  lastBackendStatus := none
  lastError := some error

/-- What a session asks for next. -/
def Store.nextActionOf (store : Store) (orderNo : OrderNo) : Option String :=
  (store.orderSessions.find? orderNo).map OrderSession.nextAction

end VendingSystem.Daemon
