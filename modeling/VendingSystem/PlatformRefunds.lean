import VendingSystem.PlatformOrders

namespace VendingSystem.Platform

/-!
# Refunds

Refunds are staged by a settling dispense, requested by an operator, claimed
by the dispatcher, and closed by whatever the provider answered.  At most one
refund of an order and a reason is active: a partial unique index, checked by
each write that makes a refund active.
-/

/-- The states in which a refund counts against the unique index. -/
def RefundStatus.active : RefundStatus → Bool
  | .created
  | .processing
  | .succeeded => true
  | .failed
  | .canceled => false

/-- The provider has not closed the refund yet. -/
def RefundStatus.open : RefundStatus → Bool
  | .created
  | .processing => true
  | .succeeded
  | .failed
  | .canceled => false

def maxRefundAttempts : Nat := 3
def refundDispatchLeaseSeconds : Nat := 30

/-- An active refund of the order for the reason. -/
def Db.activeRefund?
    (db : Db)
    (orderId : OrderId)
    (reason : RefundReason) : Option Refund :=
  db.refunds.rows.find? fun refund =>
    refund.orderId = orderId && refund.reason = reason &&
      refund.status.active

def Db.orderPayment (db : Db) (orderId : OrderId) :
    Option (Order × Payment) := do
  let order ← db.orders.find? orderId
  let paymentId ← order.paymentId
  let payment ← db.payments.find? paymentId
  pure (order, payment)

/-- The database with one more refund. -/
def Db.addRefund
    (db : Db)
    (paymentId : PaymentId)
    (orderId : OrderId)
    (amountCents : Nat)
    (status : RefundStatus)
    (reason : RefundReason)
    (now : Time) : Db :=
  { db with
    refunds := db.refunds.insertNext fun id =>
      { id, paymentId, orderId, amountCents, status, reason
        updatedAt := now } }

def Db.setRefundStatus
    (db : Db)
    (refundId : RefundId)
    (status : RefundStatus)
    (now : Time) : Db :=
  { db with
    refunds := db.refunds.modify refundId fun refund =>
      { refund with status, updatedAt := now } }

def addRefundEvent
    (refundId : RefundId)
    (eventType : RefundEventType) : DrizzleTransaction Unit :=
  modify fun db =>
    { db with
      refundEvents := db.refundEvents.insertNext fun id =>
        { id, refundId, eventType } }

/-- Insert an active refund, or nothing where the unique index refuses it. -/
def insertRefund
    (paymentId : PaymentId)
    (orderId : OrderId)
    (amountCents : Nat)
    (status : RefundStatus)
    (reason : RefundReason)
    (now : Time) : DrizzleTransaction (Option RefundId) := do
  let db ← get
  if (db.activeRefund? orderId reason).isSome then pure none
  else do
    modify fun db =>
      db.addRefund paymentId orderId amountCents status reason now
    pure (some db.refunds.nextId)

/-- Move a refund to a status; the unique index can refuse to reactivate it. -/
def updateRefundStatus
    (refundId : RefundId)
    (status : RefundStatus)
    (now : Time) : DrizzleTransaction Unit := do
  let db ← get
  match db.refunds.find? refundId with
  | none => pure ()
  | some refund => do
      Transaction.require
        (!status.active || refund.status.active ||
          (db.activeRefund? refund.orderId refund.reason).isNone)
        (.uniqueViolation "refunds_order_reason_active_unique")
      modify fun db => db.setRefundStatus refundId status now

/-- Change the refund columns of some lines. -/
def updateRefundLines
    (test : OrderItem → Bool)
    (refundStatus : OrderItem → OrderLineRefundStatus)
    (refundId : OrderItem → Option RefundId) : DrizzleTransaction Unit :=
  modify fun db =>
    { db with
      orderItems := db.orderItems.updateWhere test fun line =>
        { line with
          refundStatus := refundStatus line
          refundId := refundId line } }

def stageAutomaticFullRefund
    (orderId : OrderId)
    (now : Time) : DrizzleTransaction Unit := do
  let db ← get
  let (_, payment) ← Transaction.requireSome (db.orderPayment orderId)
    (.notFound "Order payment not found")
  let inserted ← insertRefund payment.id orderId payment.amountCents
    .created .autoDispenseFailed now
  match inserted with
  | none => pure ()
  | some refundId => do
      updateRefundLines
        (fun line => line.orderId = orderId && line.refundStatus = .pending)
        (fun line => line.refundStatus) (fun _ => some refundId)
      modify fun db => db.setOrderPayment orderId .refundPending .refundPending
      modify fun db => db.setPaymentStatus payment.id .refundPending
      addRefundEvent refundId .created

/-- Only the mock provider refunds a part of a payment. -/
def PaymentProviderCode.supportsPartialRefund : PaymentProviderCode → Bool
  | .mock => true
  | .wechatPay
  | .alipay => false

/-- Lines whose provider cannot refund a part go to an operator. -/
def markPartialRefundUnsupported
    (order : Order)
    (payment : Payment)
    (orderItemIds : List OrderItemId) : DrizzleTransaction Unit := do
  updateRefundLines (fun line => line.id ∈ orderItemIds)
    (fun _ => .manualHandling) (fun line => line.refundId)
  modify fun db => db.setPaymentStatus payment.id .manualHandling
  modify fun db =>
    db.setOrderStates order.id .manualHandling .manualHandling
      order.fulfillmentState

def stageAutomaticPartialRefund
    (orderId : OrderId)
    (orderItemIds : List OrderItemId)
    (amountCents : Nat)
    (now : Time) : DrizzleTransaction Unit := do
  Transaction.require (0 < amountCents && !orderItemIds.isEmpty)
    (.conflict "Partial refund requires failed order lines")
  let db ← get
  let (order, payment) ← Transaction.requireSome (db.orderPayment orderId)
    (.notFound "Order payment not found")
  Transaction.require (amountCents < payment.amountCents)
    (.conflict "Partial refund amount must be less than payment amount")
  if !payment.providerCode.supportsPartialRefund then
    markPartialRefundUnsupported order payment orderItemIds
  else do
    let inserted ← insertRefund payment.id orderId amountCents .created
      .autoPartialDispenseFailed now
    match inserted with
    | none => pure ()
    | some refundId => do
        updateRefundLines
          (fun line => line.id ∈ orderItemIds && line.refundStatus = .pending)
          (fun line => line.refundStatus) (fun _ => some refundId)
        modify fun db =>
          db.setOrderPayment orderId .refundPending .partialRefundPending
        modify fun db => db.setPaymentStatus payment.id .partialRefundPending
        addRefundEvent refundId .created

namespace OrderSideOnly

open Transaction

theorem addRefundEvent (refundId : RefundId) (eventType : RefundEventType) :
    Within OrderSideOnly (addRefundEvent refundId eventType) :=
  Within.modify fun _ => ⟨rfl, rfl, rfl, rfl, rfl, rfl, rfl⟩

theorem updateRefundLines
    (test : OrderItem → Bool)
    (refundStatus : OrderItem → OrderLineRefundStatus)
    (refundId : OrderItem → Option RefundId) :
    Within OrderSideOnly (updateRefundLines test refundStatus refundId) :=
  Within.modify fun _ => ⟨rfl, rfl, rfl, rfl, rfl, rfl, rfl⟩

theorem insertRefund
    (paymentId : PaymentId)
    (orderId : OrderId)
    (amountCents : Nat)
    (status : RefundStatus)
    (reason : RefundReason)
    (now : Time) :
    Within OrderSideOnly
      (insertRefund paymentId orderId amountCents status reason now) := by
  apply Within.bind Within.get
  intro db
  split
  · exact Within.pure _
  · apply Within.bind
    · exact Within.modify fun _ => ⟨rfl, rfl, rfl, rfl, rfl, rfl, rfl⟩
    · intro _
      exact Within.pure _

theorem markPartialRefundUnsupported
    (order : Order)
    (payment : Payment)
    (orderItemIds : List OrderItemId) :
    Within OrderSideOnly
      (markPartialRefundUnsupported order payment orderItemIds) := by
  apply Within.bind (updateRefundLines _ _ _)
  intro _
  apply Within.bind (Within.modify fun later => setPaymentStatus later _ _)
  intro _
  exact Within.modify fun later => setOrderStates later _ _ _ _

theorem stageAutomaticPartialRefund
    (orderId : OrderId)
    (orderItemIds : List OrderItemId)
    (amountCents : Nat)
    (now : Time) :
    Within OrderSideOnly
      (stageAutomaticPartialRefund orderId orderItemIds amountCents now) := by
  apply Within.bind (Within.require _ _)
  intro _
  apply Within.bind Within.get
  intro db
  apply Within.bind (Within.requireSome _ _)
  intro row
  apply Within.bind (Within.require _ _)
  intro _
  split
  · exact markPartialRefundUnsupported _ _ _
  · apply Within.bind (insertRefund _ _ _ _ _ _)
    intro inserted
    cases inserted with
    | none => exact Within.pure _
    | some refundId =>
      apply Within.bind (updateRefundLines _ _ _)
      intro _
      apply Within.bind (Within.modify fun later => setOrderPayment later _ _ _)
      intro _
      apply Within.bind (Within.modify fun later => setPaymentStatus later _ _)
      intro _
      exact addRefundEvent _ _

end OrderSideOnly

end VendingSystem.Platform
