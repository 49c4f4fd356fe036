import VendingSystem.PlatformPaymentTasks
import VendingSystem.PlatformRefundTasks
import VendingSystem.PlatformStockUploads
import VendingSystem.PlatformVendingTasks

namespace VendingSystem.Platform

/-!
# The states of an order

An order is in step when its status is the projection of its two components,
and when a closed payment side has its fulfillment canceled.
-/

/-- The payment states of an order that will not be paid. -/
def closedPaymentStates : List OrderPaymentState :=
  [.paymentFailed, .paymentExpired, .canceled]

def Order.isPaymentClosed (order : Order) : Bool :=
  order.paymentState ∈ closedPaymentStates

/-- The status is what the components project to. -/
def Order.Projected (order : Order) : Prop :=
  order.status =
    projectOrderStatus order.paymentState order.fulfillmentState

/-- The status is projected, and a closed order is not fulfilled. -/
structure Order.InStep (order : Order) : Prop where
  projected : order.Projected
  canceled : order.isPaymentClosed = true →
    order.fulfillmentState = .canceled

def Db.OrdersInStep (db : Db) : Prop :=
  ∀ order ∈ db.orders, order.InStep

/-- The attempt names a stored payment and its order. -/
def Db.AttemptMatches (db : Db) (attempt : PaymentCodeAttempt) : Prop :=
  ∃ payment, db.payments.find? attempt.paymentId = some payment ∧
    payment.orderId = attempt.orderId

/-- Orders name their payments, and attempts both, consistently. -/
structure Db.Linked (db : Db) : Prop where
  orders : ∀ order ∈ db.orders, ∀ paymentId,
    order.paymentId = some paymentId →
      ∃ payment, db.payments.find? paymentId = some payment ∧
        payment.orderId = order.id
  attempts : ∀ attempt ∈ db.paymentCodeAttempts, db.AttemptMatches attempt

/-- Neither orders, payments, attempts nor commands differ. -/
structure StockSideOnly (before after : Db) : Prop where
  orders : after.orders = before.orders
  payments : after.payments = before.payments
  attempts : after.paymentCodeAttempts = before.paymentCodeAttempts
  commands : after.vendingCommands = before.vendingCommands

/--
Every order is projected or has the states of an old one.  A closed order had
its payment side closed before, or is canceled now; the order of a dispense is
never closed.  Payments stay with their orders.
-/
structure OrdersKept
    (dispensed : Option OrderId)
    (before after : Db) : Prop where
  projected : ∀ order ∈ after.orders, order.Projected ∨
    ∃ old ∈ before.orders, old.status = order.status ∧
      old.paymentState = order.paymentState ∧
      old.fulfillmentState = order.fulfillmentState
  closed : ∀ order ∈ after.orders, order.isPaymentClosed = true →
    (dispensed ≠ some order.id ∧ order.fulfillmentState = .canceled) ∨
    ∃ old ∈ before.orders, old.id = order.id ∧
      old.isPaymentClosed = true ∧
      (dispensed = some order.id ∨
        old.fulfillmentState = order.fulfillmentState)
  payments : ∀ {id payment}, before.payments.find? id = some payment →
    ∃ kept, after.payments.find? id = some kept ∧
      kept.orderId = payment.orderId
  linked : before.Linked → after.Linked

namespace StockSideOnly

theorem refl (db : Db) : StockSideOnly db db :=
  ⟨rfl, rfl, rfl, rfl⟩

theorem trans
    {first middle last : Db}
    (leading : StockSideOnly first middle)
    (trailing : StockSideOnly middle last) :
    StockSideOnly first last where
  orders := trailing.orders.trans leading.orders
  payments := trailing.payments.trans leading.payments
  attempts := trailing.attempts.trans leading.attempts
  commands := trailing.commands.trans leading.commands

instance : IsPreorder Db StockSideOnly where
  refl := refl
  trans _ _ _ := trans

end StockSideOnly

namespace OrdersKept

variable
  {dispensed : Option OrderId}
  {before after : Db}

theorem trans
    {first middle last : Db}
    (leading : OrdersKept dispensed first middle)
    (trailing : OrdersKept dispensed middle last) :
    OrdersKept dispensed first last where
  projected order stored := by
    rcases trailing.projected order stored with
      projected | ⟨old, oldStored, status, payment, fulfillment⟩
    · exact Or.inl projected
    · rcases leading.projected old oldStored with
        projected | ⟨older, olderStored, status', payment', fulfillment'⟩
      · left
        unfold Order.Projected at projected ⊢
        rw [← status, ← payment, ← fulfillment]
        exact projected
      · exact Or.inr ⟨older, olderStored, status'.trans status,
          payment'.trans payment, fulfillment'.trans fulfillment⟩
  closed order stored isClosed := by
    rcases trailing.closed order stored isClosed with
      canceled | ⟨old, oldStored, sameId, oldClosed, kept⟩
    · exact Or.inl canceled
    · rcases leading.closed old oldStored oldClosed with
        ⟨notDispensed, canceled⟩ |
          ⟨older, olderStored, sameId', olderClosed, kept'⟩
      · rw [sameId] at notDispensed
        rcases kept with isDispensed | same
        · exact absurd isDispensed notDispensed
        · exact Or.inl ⟨notDispensed, same.symm.trans canceled⟩
      · right
        refine ⟨older, olderStored, sameId'.trans sameId, olderClosed, ?_⟩
        rcases kept with isDispensed | same
        · exact Or.inl isDispensed
        · rw [sameId] at kept'
          exact kept'.imp_right fun same' => same'.trans same
  payments found := by
    obtain ⟨kept, keptFound, sameOrder⟩ := leading.payments found
    obtain ⟨later, laterFound, sameOrder'⟩ := trailing.payments keptFound
    exact ⟨later, laterFound, sameOrder'.trans sameOrder⟩
  linked := trailing.linked ∘ leading.linked

theorem of_same
    (orders : after.orders = before.orders)
    (payments : after.payments = before.payments)
    (attempts :
      after.paymentCodeAttempts = before.paymentCodeAttempts) :
    OrdersKept dispensed before after where
  projected order stored := by
    rw [orders] at stored
    exact Or.inr ⟨order, stored, rfl, rfl, rfl⟩
  closed order stored isClosed := by
    rw [orders] at stored
    exact Or.inr ⟨order, stored, rfl, isClosed, Or.inr rfl⟩
  payments found := ⟨_, payments ▸ found, rfl⟩
  linked linked := by
    obtain ⟨ofOrders, ofAttempts⟩ := linked
    constructor
    · rw [orders, payments]
      exact ofOrders
    · unfold Db.AttemptMatches at ofAttempts ⊢
      rw [attempts, payments]
      exact ofAttempts

theorem of_stockSideOnly (only : StockSideOnly before after) :
    OrdersKept dispensed before after :=
  of_same only.orders only.payments only.attempts

instance : IsPreorder Db (OrdersKept dispensed) where
  refl _ := of_same rfl rfl rfl
  trans _ _ _ := trans

end OrdersKept

theorem OrdersKept.ordersInStep
    {dispensed : Option OrderId}
    {before after : Db}
    (kept : OrdersKept dispensed before after)
    (inStep : before.OrdersInStep)
    (paymentOpen : ∀ order ∈ before.orders,
      dispensed = some order.id → order.isPaymentClosed = false) :
    after.OrdersInStep := by
  intro order stored
  constructor
  · rcases kept.projected order stored with
      projected | ⟨old, oldStored, status, payment, fulfillment⟩
    · exact projected
    · have oldProjected := (inStep old oldStored).projected
      unfold Order.Projected at oldProjected ⊢
      rw [← status, ← payment, ← fulfillment]
      exact oldProjected
  · intro isClosed
    rcases kept.closed order stored isClosed with
      ⟨_, canceled⟩ | ⟨old, oldStored, sameId, oldClosed, unchanged⟩
    · exact canceled
    · rcases unchanged with isDispensed | same
      · have oldOpen := paymentOpen old oldStored (by rw [isDispensed, sameId])
        rw [oldClosed] at oldOpen
        cases oldOpen
      · rw [← same]
        exact (inStep old oldStored).canceled oldClosed

namespace OrdersKept

variable {dispensed : Option OrderId} {paymentState : OrderPaymentState}
  {status : OrderStatus} {fulfillmentState : OrderFulfillmentState}

variable (db : Db) (orderId : OrderId)

/-- A write of payments that leaves their orders. -/
theorem updatePayments
    (test : Payment → Bool)
    (change : Payment → Payment)
    (keepsId : ∀ payment, (change payment).id = payment.id)
    (sameOrder : ∀ payment, (change payment).orderId = payment.orderId) :
    OrdersKept dispensed db
      { db with
        payments := db.payments.updateWhere test change keepsId } := by
  have payments : ∀ {id payment}, db.payments.find? id = some payment →
      ∃ kept, (db.payments.updateWhere test change keepsId).find? id =
        some kept ∧ kept.orderId = payment.orderId := by
    intro id payment found
    rw [Table.find?_updateWhere, found]
    refine ⟨_, rfl, ?_⟩
    dsimp only
    split
    · exact sameOrder payment
    · rfl
  constructor
  · exact fun order stored => Or.inr ⟨order, stored, rfl, rfl, rfl⟩
  · exact fun order stored isClosed =>
      Or.inr ⟨order, stored, rfl, isClosed, Or.inr rfl⟩
  · exact payments
  · intro linked
    constructor
    · intro order stored paymentId named
      obtain ⟨payment, found, same⟩ :=
        linked.orders order stored paymentId named
      obtain ⟨kept, keptFound, same'⟩ := payments found
      exact ⟨kept, keptFound, same'.trans same⟩
    · intro attempt stored
      obtain ⟨payment, found, same⟩ := linked.attempts attempt stored
      obtain ⟨kept, keptFound, same'⟩ := payments found
      exact ⟨kept, keptFound, same'.trans same⟩

theorem updateAttempts
    (attempts : Table PaymentCodeAttempt PaymentCodeAttempt.id)
    (kept : ∀ attempt ∈ attempts,
      (∃ old ∈ db.paymentCodeAttempts,
        old.paymentId = attempt.paymentId ∧ old.orderId = attempt.orderId) ∨
      (db.Linked → db.AttemptMatches attempt)) :
    OrdersKept dispensed db { db with paymentCodeAttempts := attempts } where
  projected order stored := Or.inr ⟨order, stored, rfl, rfl, rfl⟩
  closed order stored isClosed :=
    Or.inr ⟨order, stored, rfl, isClosed, Or.inr rfl⟩
  payments found := ⟨_, found, rfl⟩
  linked linked := by
    refine ⟨linked.orders, fun attempt stored => ?_⟩
    rcases kept attempt stored with
      ⟨old, oldStored, samePayment, sameOrder⟩ | matched
    · obtain ⟨payment, found, same⟩ := linked.attempts old oldStored
      exact ⟨payment, samePayment ▸ found, same.trans sameOrder⟩
    · exact matched linked

theorem updateAttemptsWhere
    (test : PaymentCodeAttempt → Bool)
    (change : PaymentCodeAttempt → PaymentCodeAttempt)
    (keepsId : ∀ attempt, (change attempt).id = attempt.id)
    (samePayment : ∀ attempt,
      (change attempt).paymentId = attempt.paymentId)
    (sameOrder : ∀ attempt, (change attempt).orderId = attempt.orderId) :
    OrdersKept dispensed db
      { db with
        paymentCodeAttempts :=
          db.paymentCodeAttempts.updateWhere test change keepsId } := by
  apply updateAttempts
  intro attempt stored
  obtain ⟨old, oldStored, rfl⟩ := Table.mem_updateWhere.mp stored
  refine Or.inl ⟨old, oldStored, ?_⟩
  split
  · exact ⟨(samePayment old).symm, (sameOrder old).symm⟩
  · exact ⟨rfl, rfl⟩

/-- A write of one order's states. -/
theorem modifyOrder
    (change : Order → Order)
    (keepsId : ∀ order, (change order).id = order.id)
    (samePayment : ∀ order, (change order).paymentId = order.paymentId)
    (projected : ∀ order ∈ db.orders, order.id = orderId →
      (change order).Projected)
    (closed : ∀ order ∈ db.orders, order.id = orderId →
      (change order).isPaymentClosed = true →
        (dispensed ≠ some orderId ∧
          (change order).fulfillmentState = .canceled) ∨
        (order.isPaymentClosed = true ∧ dispensed = some orderId)) :
    OrdersKept dispensed db
      { db with orders := db.orders.modify orderId change keepsId } := by
  have rows : ∀ order ∈ db.orders.modify orderId change keepsId,
      ∃ old ∈ db.orders,
        (old.id = orderId ∧ order = change old) ∨
          (old.id ≠ orderId ∧ order = old) := by
    intro order stored
    obtain ⟨old, oldStored, changed⟩ := Table.mem_modify.mp stored
    refine ⟨old, oldStored, ?_⟩
    by_cases named : old.id = orderId
    · rw [if_pos named] at changed
      exact Or.inl ⟨named, changed.symm⟩
    · rw [if_neg named] at changed
      exact Or.inr ⟨named, changed.symm⟩
  constructor
  · intro order stored
    obtain ⟨old, oldStored, ⟨named, rfl⟩ | ⟨_, rfl⟩⟩ := rows order stored
    · exact Or.inl (projected old oldStored named)
    · exact Or.inr ⟨order, oldStored, rfl, rfl, rfl⟩
  · intro order stored isClosed
    obtain ⟨old, oldStored, ⟨named, rfl⟩ | ⟨_, rfl⟩⟩ := rows order stored
    · rw [keepsId, named]
      exact (closed old oldStored named isClosed).imp_right
        fun ⟨oldClosed, isDispensed⟩ =>
          ⟨old, oldStored, named, oldClosed, Or.inl isDispensed⟩
    · exact Or.inr ⟨order, oldStored, rfl, isClosed, Or.inr rfl⟩
  · exact fun found => ⟨_, found, rfl⟩
  · intro linked
    refine ⟨fun order stored paymentId named => ?_, linked.attempts⟩
    obtain ⟨old, oldStored, ⟨_, rfl⟩ | ⟨_, rfl⟩⟩ := rows order stored
    · rw [samePayment] at named
      rw [keepsId]
      exact linked.orders old oldStored paymentId named
    · exact linked.orders order oldStored paymentId named

theorem closeOrder
    (projected : status = projectOrderStatus paymentState .canceled)
    (notDispensed : dispensed ≠ some orderId) :
    OrdersKept dispensed db (db.closeOrder orderId status paymentState) :=
  modifyOrder db orderId _ _ (fun _ => rfl) (fun _ _ _ => projected)
    (fun _ _ _ _ => Or.inl ⟨notDispensed, rfl⟩)

theorem setOrderStates
    (projected : status = projectOrderStatus paymentState fulfillmentState)
    (paymentOpen : paymentState ∉ closedPaymentStates) :
    OrdersKept dispensed db
      (db.setOrderStates orderId status paymentState fulfillmentState) :=
  modifyOrder db orderId _ _ (fun _ => rfl) (fun _ _ _ => projected)
    (fun _ _ _ isClosed => absurd (of_decide_eq_true isClosed) paymentOpen)

theorem setOrderPayment
    (projected : ∀ fulfillmentState,
      status = projectOrderStatus paymentState fulfillmentState)
    (paymentOpen : paymentState ∉ closedPaymentStates) :
    OrdersKept dispensed db
      (db.setOrderPayment orderId status paymentState) :=
  modifyOrder db orderId _ _ (fun _ => rfl)
    (fun order _ _ => projected order.fulfillmentState)
    (fun _ _ _ isClosed => absurd (of_decide_eq_true isClosed) paymentOpen)

theorem payOrder
    (current : ∀ order, db.orders.find? orderId = some order →
      order.fulfillmentState = fulfillmentState) :
    OrdersKept dispensed db (db.payOrder orderId fulfillmentState) := by
  refine modifyOrder db orderId _ _ (fun _ => rfl) ?_ ?_
  · intro order stored named
    have same := current order (named ▸ Table.find?_of_mem stored)
    unfold Order.Projected
    rw [← same]
  · intro _ _ _ isClosed
    exact absurd (of_decide_eq_true isClosed)
      (show OrderPaymentState.paid ∉ closedPaymentStates by decide)

theorem setFulfillment
    {order : Order}
    (found : db.orders.find? order.id = some order)
    (fulfillmentState : OrderFulfillmentState) :
    OrdersKept (some order.id) db
      (db.setOrderStates order.id
        (projectOrderStatus order.paymentState fulfillmentState)
        order.paymentState fulfillmentState) := by
  refine modifyOrder db order.id _ _ (fun _ => rfl) (fun _ _ _ => rfl) ?_
  intro old oldStored named isClosed
  have same : old = order := Table.eq_of_key_eq oldStored
    (Table.mem_of_find? found) named
  subst same
  exact Or.inr ⟨isClosed, rfl⟩

theorem setPaymentStatus
    (paymentId : PaymentId)
    (status : PaymentStatus) :
    OrdersKept dispensed db (db.setPaymentStatus paymentId status) :=
  updatePayments db _ _ _ (fun _ => rfl)

theorem addPaymentEvent
    (providerCode : PaymentProviderCode)
    (providerEventId : PaymentEventName)
    (paymentId : PaymentId) :
    OrdersKept dispensed db
      (db.addPaymentEvent providerCode providerEventId paymentId) :=
  of_same rfl rfl rfl

end OrdersKept

end VendingSystem.Platform
