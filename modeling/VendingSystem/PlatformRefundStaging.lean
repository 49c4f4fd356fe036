import VendingSystem.PlatformLineResults

namespace VendingSystem.Platform

/-!
# Staging the refund of failed lines

What a committed staging did to the refunds, the lines, the order and its
payment: either it found no refund to stage, or it added one.
-/

open Transaction

variable {before after : Db} {orderId : OrderId} {now : Time}

/-- The database with a refund that some lines point to. -/
def Db.withRefund
    (db : Db)
    (payment : Payment)
    (orderId : OrderId)
    (amountCents : Nat)
    (reason : RefundReason)
    (test : OrderItem → Bool)
    (paymentState : OrderPaymentState)
    (paymentStatus : PaymentStatus)
    (now : Time) : Db :=
  let added := db.addRefund payment.id orderId amountCents .created reason now
  let pointed :=
    added.changeLines test
      (fun line => { line with refundId := some db.refunds.nextId })
      (fun _ => rfl)
  (pointed.setOrderPayment orderId .refundPending
    paymentState).setPaymentStatus payment.id paymentStatus

theorem commits_stageAutomaticFullRefund
    (committed :
      Commits (stageAutomaticFullRefund orderId now) before () after) :
    ∃ order payment, before.orderPayment orderId = some (order, payment) ∧
      (((before.activeRefund? orderId .autoDispenseFailed).isSome = true ∧
          after = before) ∨
        (before.activeRefund? orderId .autoDispenseFailed = none ∧
          ∃ events, after =
            { before.withRefund payment orderId payment.amountCents
                .autoDispenseFailed
                (fun line => line.orderId = orderId &&
                  line.refundStatus = .pending)
                .refundPending .refundPending now with
              refundEvents := events })) := by
  simp only [stageAutomaticFullRefund, commits_bind, commits_get,
    commits_requireSome] at committed
  obtain ⟨_, _, ⟨rfl, rfl⟩, ⟨order, payment⟩, _, ⟨isPayment, rfl⟩, inserted,
    inserting, inserts, rest⟩ := committed
  refine ⟨order, payment, isPayment, ?_⟩
  simp only [insertRefund, commits_get_bind] at inserts
  split at inserts
  · rename_i isActive
    obtain ⟨rfl, rfl⟩ := commits_pure.mp inserts
    obtain ⟨_, rfl⟩ := commits_pure.mp rest
    exact Or.inl ⟨isActive, rfl⟩
  · rename_i notActive
    simp only [commits_bind, commits_modify, commits_pure] at inserts
    obtain ⟨_, _, rfl, rfl, rfl⟩ := inserts
    simp only [updateRefundLines, addRefundEvent, commits_bind,
      commits_modify] at rest
    obtain ⟨_, _, rfl, _, _, rfl, _, _, rfl, rfl⟩ := rest
    exact Or.inr ⟨by simpa using notActive, _, rfl⟩

/-- The database with lines and an order that an operator has to refund. -/
def Db.withRefundByHand
    (db : Db)
    (order : Order)
    (payment : Payment)
    (orderItemIds : List OrderItemId) : Db :=
  let parked :=
    db.changeLines (fun line => line.id ∈ orderItemIds)
      (fun line => { line with refundStatus := .manualHandling })
      (fun _ => rfl)
  (parked.setPaymentStatus payment.id .manualHandling).setOrderStates order.id
    .manualHandling .manualHandling order.fulfillmentState

/-- A partial refund goes to an operator, or is staged once for its reason. -/
theorem commits_stageAutomaticPartialRefund
    {orderItemIds : List OrderItemId}
    {amountCents : Nat}
    (committed :
      Commits
        (stageAutomaticPartialRefund orderId orderItemIds amountCents now)
        before () after) :
    ∃ order payment, before.orderPayment orderId = some (order, payment) ∧
      ((payment.providerCode.supportsPartialRefund = false ∧
          after = before.withRefundByHand order payment orderItemIds) ∨
        (payment.providerCode.supportsPartialRefund = true ∧
          (((before.activeRefund? orderId
                .autoPartialDispenseFailed).isSome = true ∧
              after = before) ∨
            (before.activeRefund? orderId .autoPartialDispenseFailed = none ∧
              ∃ events, after =
                { before.withRefund payment orderId amountCents
                    .autoPartialDispenseFailed
                    (fun line => line.id ∈ orderItemIds &&
                      line.refundStatus = .pending)
                    .partialRefundPending .partialRefundPending now with
                  refundEvents := events })))) := by
  simp only [stageAutomaticPartialRefund, commits_bind, commits_get,
    commits_require, commits_requireSome] at committed
  obtain ⟨_, _, ⟨_, rfl⟩, _, _, ⟨rfl, rfl⟩, ⟨order, payment⟩, _,
    ⟨isPayment, rfl⟩, _, _, ⟨_, rfl⟩, rest⟩ := committed
  refine ⟨order, payment, isPayment, ?_⟩
  split at rest
  · rename_i unsupported
    simp only [markPartialRefundUnsupported, updateRefundLines, commits_bind,
      commits_modify] at rest
    obtain ⟨_, _, rfl, _, _, rfl, rfl⟩ := rest
    exact Or.inl ⟨by simpa using unsupported, rfl⟩
  · rename_i supported
    refine Or.inr ⟨by simpa using supported, ?_⟩
    simp only [commits_bind, insertRefund, commits_get] at rest
    obtain ⟨inserted, inserting, ⟨_, _, ⟨rfl, rfl⟩, inserts⟩, rest⟩ := rest
    split at inserts
    · rename_i isActive
      obtain ⟨rfl, rfl⟩ := commits_pure.mp inserts
      obtain ⟨_, rfl⟩ := commits_pure.mp rest
      exact Or.inl ⟨isActive, rfl⟩
    · rename_i notActive
      simp only [commits_bind, commits_modify, commits_pure] at inserts
      obtain ⟨_, _, rfl, rfl, rfl⟩ := inserts
      simp only [updateRefundLines, addRefundEvent, commits_bind,
        commits_modify] at rest
      obtain ⟨_, _, rfl, _, _, rfl, _, _, rfl, rfl⟩ := rest
      exact Or.inr ⟨by simpa using notActive, _, rfl⟩

theorem linesOfOrder_changeLines
    (db : Db)
    (test : OrderItem → Bool)
    (change : OrderItem → OrderItem)
    (keepsId : ∀ line, (change line).id = line.id)
    (keepsOrder : ∀ line, (change line).orderId = line.orderId)
    (orderId : OrderId) :
    (db.changeLines test change keepsId).linesOfOrder orderId =
      (db.linesOfOrder orderId).map fun line =>
        if test line then change line else line := by
  have sameOrder : ∀ line : OrderItem,
      (if test line then change line else line).orderId = line.orderId := by
    intro line
    split
    · exact keepsOrder line
    · rfl
  simp only [Db.linesOfOrder, Db.changeLines, Table.updateWhere,
    List.filter_map, Function.comp_def, sameOrder]

/-- The fulfillment statuses of the lines of an order. -/
def Db.lineStatuses
    (db : Db)
    (orderId : OrderId) : List OrderLineFulfillmentStatus :=
  (db.linesOfOrder orderId).map OrderItem.fulfillmentStatus

/-- The lines and the orders are fulfilled as far as before. -/
structure StatesKept (before after : Db) : Prop where
  statuses : ∀ orderId, after.lineStatuses orderId = before.lineStatuses orderId
  states : ∀ order ∈ after.orders, ∃ old ∈ before.orders,
    old.id = order.id ∧ old.fulfillmentState = order.fulfillmentState

namespace StatesKept

theorem refl (db : Db) : StatesKept db db :=
  ⟨fun _ => rfl, fun order stored => ⟨order, stored, rfl, rfl⟩⟩

theorem of_kept (kept : OrderSideKept before after) :
    StatesKept before after where
  statuses orderId := by
    unfold Db.lineStatuses Db.linesOfOrder
    rw [kept.orderItems]
  states order stored := ⟨order, kept.orders ▸ stored, rfl, rfl⟩

theorem statuses_changeLines
    (db : Db)
    (test : OrderItem → Bool)
    (change : OrderItem → OrderItem)
    (keepsId : ∀ line, (change line).id = line.id)
    (keepsOrder : ∀ line, (change line).orderId = line.orderId)
    (keepsStatus : ∀ line,
      (change line).fulfillmentStatus = line.fulfillmentStatus)
    (orderId : OrderId) :
    (db.changeLines test change keepsId).lineStatuses orderId =
      db.lineStatuses orderId := by
  unfold Db.lineStatuses
  rw [linesOfOrder_changeLines _ _ _ _ keepsOrder, List.map_map]
  apply List.map_congr_left
  intro line _
  simp only [Function.comp_apply]
  split
  · exact keepsStatus line
  · rfl

theorem withRefund
    (db : Db)
    (payment : Payment)
    (orderId : OrderId)
    (amountCents : Nat)
    (reason : RefundReason)
    (test : OrderItem → Bool)
    (paymentState : OrderPaymentState)
    (paymentStatus : PaymentStatus)
    (now : Time) :
    StatesKept db
      (db.withRefund payment orderId amountCents reason test paymentState
        paymentStatus now) where
  statuses other :=
    statuses_changeLines
      (db.addRefund payment.id orderId amountCents .created reason now)
      test (fun line => { line with refundId := some db.refunds.nextId })
      (fun _ => rfl) (fun _ => rfl) (fun _ => rfl) other
  states order stored := by
    have isRow : order ∈ db.orders.modify orderId fun order =>
        { order with status := .refundPending, paymentState } :=
      stored
    obtain ⟨old, oldStored, changed⟩ := Table.mem_modify.mp isRow
    refine ⟨old, oldStored, ?_⟩
    split at changed
    · subst changed
      exact ⟨rfl, rfl⟩
    · subst changed
      exact ⟨rfl, rfl⟩

theorem withRefundByHand
    {db : Db}
    {order : Order}
    (stored : order ∈ db.orders)
    (payment : Payment)
    (orderItemIds : List OrderItemId) :
    StatesKept db (db.withRefundByHand order payment orderItemIds) where
  statuses other :=
    statuses_changeLines db (fun line => line.id ∈ orderItemIds)
      (fun line => { line with refundStatus := .manualHandling })
      (fun _ => rfl) (fun _ => rfl) (fun _ => rfl) other
  states written isWritten := by
    have isRow : written ∈ db.orders.modify order.id fun row =>
        { row with
          status := .manualHandling
          paymentState := .manualHandling
          fulfillmentState := order.fulfillmentState } :=
      isWritten
    obtain ⟨old, oldStored, changed⟩ := Table.mem_modify.mp isRow
    refine ⟨old, oldStored, ?_⟩
    split at changed
    · rename_i isNamed
      have same : old.fulfillmentState = order.fulfillmentState :=
        congrArg _ (Table.eq_of_key_eq oldStored stored isNamed)
      subst changed
      exact ⟨rfl, same⟩
    · subst changed
      exact ⟨rfl, rfl⟩

end StatesKept

theorem mem_of_orderPayment
    {order : Order}
    {payment : Payment}
    (isPayment : before.orderPayment orderId = some (order, payment)) :
    order ∈ before.orders := by
  simp only [Db.orderPayment, Option.bind_eq_bind, Option.bind_eq_some_iff,
    Option.pure_def, Option.some.injEq, Prod.mk.injEq] at isPayment
  obtain ⟨_, found, _, _, _, _, rfl, _⟩ := isPayment
  exact Table.mem_of_find? found

/-- Staging a refund fulfills nothing. -/
theorem StatesKept.stage
    {decision : FailedLineRefundDecision}
    (staged :
      Commits (stageFailedLineRefund orderId decision now)
        before () after) :
    StatesKept before after := by
  cases decision with
  | noRefund =>
    obtain ⟨_, rfl⟩ := commits_pure.mp staged
    exact .refl _
  | fullRefund =>
    obtain ⟨_, payment, _, ⟨_, rfl⟩ | ⟨_, events, rfl⟩⟩ :=
      commits_stageAutomaticFullRefund staged
    · exact .refl _
    · have kept := StatesKept.withRefund before payment orderId
        payment.amountCents .autoDispenseFailed
        (fun line => line.orderId = orderId &&
          line.refundStatus = .pending)
        .refundPending .refundPending now
      exact ⟨kept.statuses, kept.states⟩
  | partialRefund orderItemIds amountCents =>
    obtain ⟨order, payment, isPayment, ⟨_, rfl⟩ |
        ⟨_, ⟨_, rfl⟩ | ⟨_, events, rfl⟩⟩⟩ :=
      commits_stageAutomaticPartialRefund staged
    · exact .withRefundByHand (mem_of_orderPayment isPayment) _ _
    · exact .refl _
    · have kept := StatesKept.withRefund before payment orderId
        amountCents .autoPartialDispenseFailed
        (fun line => line.id ∈ orderItemIds &&
          line.refundStatus = .pending)
        .partialRefundPending .partialRefundPending now
      exact ⟨kept.statuses, kept.states⟩

end VendingSystem.Platform
