import VendingSystem.PlatformFulfillmentStates

namespace VendingSystem.Platform

/-!
# The automatic refund of failed lines

While a line of a paid order is open nothing is refunded.  The result that
closes the last line stages one refund of all failed lines, whichever service
settles it and whatever came before.
-/

open Transaction

variable {before after : Db} {orderId : OrderId}
  {decision : FailedLineRefundDecision} {providerCode : PaymentProviderCode}

/-- The reasons for which no operator asked. -/
def RefundReason.isAutomatic : RefundReason → Bool
  | .autoDispenseFailed
  | .autoPartialDispenseFailed => true
  | .adminRefund => false

/-- The refunds of an order that no operator asked for. -/
def Db.automaticRefunds (db : Db) (orderId : OrderId) : List Refund :=
  db.refunds.rows.filter fun refund =>
    refund.orderId = orderId && refund.reason.isAutomatic

def failedLines (lines : List OrderItem) : List OrderItem :=
  lines.filter fun line => line.fulfillmentStatus = .dispenseFailed

/-- The whole payment when all lines failed, else the price of those that did. -/
def refundDueCents
    (paymentAmountCents : Nat)
    (lines : List OrderItem) : Nat :=
  if (failedLines lines).length = lines.length then paymentAmountCents
  else linesAmountCents (failedLines lines)

/-- A line of an order whose results are all definite. -/
structure OrderItem.IsRegular (line : OrderItem) : Prop where
  status : line.isOpen = true ∨ line.fulfillmentStatus = .dispensed ∨
    line.fulfillmentStatus = .dispenseFailed
  pending : line.fulfillmentStatus = .dispenseFailed →
    line.refundStatus = .pending

/-- The amount and the provider of the payment of an order. -/
def Db.paidBy
    (db : Db)
    (orderId : OrderId) : Option (Nat × PaymentProviderCode) :=
  (db.orderPayment orderId).map fun row =>
    (row.2.amountCents, row.2.providerCode)

/-- The refunds of the order are what its lines call for. -/
structure Db.RefundsFit
    (db : Db)
    (orderId : OrderId)
    (paymentAmountCents : Nat) : Prop where
  payment : ∃ providerCode,
    db.paidBy orderId = some (paymentAmountCents, providerCode) ∧
      providerCode.supportsPartialRefund = true
  regular : ∀ line ∈ db.linesOfOrder orderId, line.IsRegular
  waiting :
    (db.linesOfOrder orderId).any OrderItem.isOpen = true ∨
        failedLines (db.linesOfOrder orderId) = [] →
      db.automaticRefunds orderId = []
  refunded :
    (db.linesOfOrder orderId).any OrderItem.isOpen = false →
    failedLines (db.linesOfOrder orderId) ≠ [] →
    ∃ refund, db.automaticRefunds orderId = [refund] ∧
      refund.amountCents =
        refundDueCents paymentAmountCents (db.linesOfOrder orderId) ∧
      ∀ line ∈ failedLines (db.linesOfOrder orderId),
        line.refundId = some refund.id

/-- The payments that the orders name, and what is paid by each. -/
structure PaidAmountsKept (before after : Db) : Prop where
  orders : ∀ id, (after.orders.find? id).map Order.paymentId =
    (before.orders.find? id).map Order.paymentId
  payments : ∀ id,
    (after.payments.find? id).map
        (fun payment => (payment.amountCents, payment.providerCode)) =
      (before.payments.find? id).map
        (fun payment => (payment.amountCents, payment.providerCode))

namespace PaidAmountsKept

theorem trans
    {first middle last : Db}
    (leading : PaidAmountsKept first middle)
    (trailing : PaidAmountsKept middle last) : PaidAmountsKept first last where
  orders id := (trailing.orders id).trans (leading.orders id)
  payments id := (trailing.payments id).trans (leading.payments id)

theorem of_kept (kept : OrderSideKept before after) :
    PaidAmountsKept before after where
  orders id := by rw [kept.orders]
  payments id := by rw [kept.payments]

theorem modifyOrder
    (db : Db)
    (orderId : OrderId)
    (change : Order → Order)
    (keepsId : ∀ order, (change order).id = order.id)
    (samePayment : ∀ order, (change order).paymentId = order.paymentId) :
    PaidAmountsKept db
      { db with orders := db.orders.modify orderId change keepsId } where
  orders id := by
    rw [Table.find?_modify]
    split
    · rw [Option.map_map]
      exact congrArg (Option.map · _) (funext samePayment)
    · rfl
  payments _ := rfl

theorem setOrderStates
    (db : Db)
    (orderId : OrderId)
    (status : OrderStatus)
    (paymentState : OrderPaymentState)
    (fulfillmentState : OrderFulfillmentState) :
    PaidAmountsKept db
      (db.setOrderStates orderId status paymentState fulfillmentState) :=
  modifyOrder db orderId
    (fun order => { order with status, paymentState, fulfillmentState })
    (fun _ => rfl) (fun _ => rfl)

theorem setPaymentStatus
    (db : Db)
    (paymentId : PaymentId)
    (status : PaymentStatus) :
    PaidAmountsKept db (db.setPaymentStatus paymentId status) where
  orders _ := rfl
  payments id := by
    rw [Db.setPaymentStatus, Table.find?_modify]
    split
    · rw [Option.map_map]
      rfl
    · rfl

theorem paidBy (kept : PaidAmountsKept before after) (orderId : OrderId) :
    after.paidBy orderId = before.paidBy orderId := by
  have named : ∀ db : Db, db.paidBy orderId =
      ((db.orders.find? orderId).map Order.paymentId).join.bind fun id =>
        (db.payments.find? id).map fun payment =>
          (payment.amountCents, payment.providerCode) := by
    intro db
    unfold Db.paidBy Db.orderPayment
    cases db.orders.find? orderId with
    | none => rfl
    | some order =>
      cases payment : order.paymentId with
      | none => simp [payment]
      | some id =>
        cases found : db.payments.find? id with
        | none => simp [payment, found]
        | some row => simp [payment, found]
  rw [named, named, kept.orders]
  exact congrArg _ (funext kept.payments)

end PaidAmountsKept

section Staged

variable
  (db : Db)
  (payment : Payment)
  (staged : OrderId)
  (amountCents : Nat)
  (reason : RefundReason)
  (test : OrderItem → Bool)
  (paymentState : OrderPaymentState)
  (paymentStatus : PaymentStatus)
  (now : Time)

def Db.stagedRefund : Refund where
  id := db.refunds.nextId
  paymentId := payment.id
  orderId := staged
  amountCents := amountCents
  status := .created
  reason := reason
  updatedAt := now

theorem linesOfOrder_withRefund (orderId : OrderId) :
    (db.withRefund payment staged amountCents reason test paymentState
        paymentStatus now).linesOfOrder orderId =
      (db.linesOfOrder orderId).map fun line =>
        if test line then { line with refundId := some db.refunds.nextId }
        else line :=
  linesOfOrder_changeLines
    (db.addRefund payment.id staged amountCents .created reason now) test
    (fun line => { line with refundId := some db.refunds.nextId })
    (fun _ => rfl) (fun _ => rfl) orderId

theorem automaticRefunds_withRefund (orderId : OrderId) :
    (db.withRefund payment staged amountCents reason test paymentState
        paymentStatus now).automaticRefunds orderId =
      db.automaticRefunds orderId ++
        if staged = orderId && reason.isAutomatic then
          [db.stagedRefund payment staged amountCents reason now]
        else [] := by
  have rows :
      (db.withRefund payment staged amountCents reason test paymentState
        paymentStatus now).refunds.rows =
      db.refunds.rows ++
        [db.stagedRefund payment staged amountCents reason now] :=
    Table.rows_insertNext db.refunds rfl
  unfold Db.automaticRefunds
  rw [rows, List.filter_append, List.filter_singleton, Bool.cond_eq_ite]
  rfl

theorem PaidAmountsKept.withRefund :
    PaidAmountsKept db
      (db.withRefund payment staged amountCents reason test paymentState
        paymentStatus now) where
  orders :=
    (modifyOrder db staged
      (fun order => { order with status := .refundPending, paymentState })
      (fun _ => rfl) (fun _ => rfl)).orders
  payments := (setPaymentStatus db payment.id paymentStatus).payments

theorem PaidAmountsKept.withRefundByHand
    (order : Order)
    (orderItemIds : List OrderItemId) :
    PaidAmountsKept db (db.withRefundByHand order payment orderItemIds) where
  orders :=
    (modifyOrder db order.id
      (fun row =>
        { row with
          status := .manualHandling
          paymentState := .manualHandling
          fulfillmentState := order.fulfillmentState })
      (fun _ => rfl) (fun _ => rfl)).orders
  payments := (setPaymentStatus db payment.id .manualHandling).payments

end Staged

theorem PaidAmountsKept.stage
    {staged : OrderId}
    {now : Time}
    (committed :
      Commits (stageFailedLineRefund staged decision now)
        before () after) :
    PaidAmountsKept before after := by
  cases decision with
  | noRefund =>
    obtain ⟨_, rfl⟩ := commits_pure.mp committed
    exact ⟨fun _ => rfl, fun _ => rfl⟩
  | fullRefund =>
    obtain ⟨_, payment, _, ⟨_, rfl⟩ | ⟨_, events, rfl⟩⟩ :=
      commits_stageAutomaticFullRefund committed
    · exact ⟨fun _ => rfl, fun _ => rfl⟩
    · have kept := PaidAmountsKept.withRefund before payment staged
        payment.amountCents .autoDispenseFailed
        (fun line => line.orderId = staged &&
          line.refundStatus = .pending)
        .refundPending .refundPending now
      exact ⟨kept.orders, kept.payments⟩
  | partialRefund orderItemIds amountCents =>
    obtain ⟨order, payment, isPayment, ⟨_, rfl⟩ |
        ⟨_, ⟨_, rfl⟩ | ⟨_, events, rfl⟩⟩⟩ :=
      commits_stageAutomaticPartialRefund committed
    · exact .withRefundByHand _ _ _ _
    · exact ⟨fun _ => rfl, fun _ => rfl⟩
    · have kept := PaidAmountsKept.withRefund before payment staged
        amountCents .autoPartialDispenseFailed
        (fun line => line.id ∈ orderItemIds &&
          line.refundStatus = .pending)
        .partialRefundPending .partialRefundPending now
      exact ⟨kept.orders, kept.payments⟩

/-- The lines and the automatic refunds of an order are the same. -/
structure RefundsKept (orderId : OrderId) (before after : Db) : Prop where
  lines : after.linesOfOrder orderId = before.linesOfOrder orderId
  refunds : after.automaticRefunds orderId = before.automaticRefunds orderId

theorem RefundsKept.refl (db : Db) : RefundsKept orderId db db :=
  ⟨rfl, rfl⟩

theorem RefundsKept.trans
    {first middle last : Db}
    (leading : RefundsKept orderId first middle)
    (trailing : RefundsKept orderId middle last) :
    RefundsKept orderId first last where
  lines := trailing.lines.trans leading.lines
  refunds := trailing.refunds.trans leading.refunds

theorem map_unchanged
    {lines : List OrderItem}
    {test : OrderItem → Bool}
    {change : OrderItem → OrderItem}
    (unmet : ∀ line ∈ lines, test line = false) :
    (lines.map fun line => if test line then change line else line) =
      lines := by
  have unchanged : ∀ line ∈ lines,
      (if test line then change line else line) = line := by
    intro line isLine
    rw [unmet line isLine]
    rfl
  exact (List.map_congr_left unchanged).trans (List.map_id _)

theorem order_of_line
    {line : OrderItem}
    (isLine : line ∈ before.linesOfOrder orderId) :
    line ∈ before.orderItems ∧ line.orderId = orderId := by
  obtain ⟨stored, ofOrder⟩ := List.mem_filter.mp isLine
  exact ⟨stored, of_decide_eq_true ofOrder⟩

theorem RefundsKept.stage
    {staged : OrderId}
    {now : Time}
    (other : orderId ≠ staged)
    (ofOrder : ∀ orderItemIds amountCents,
      decision = .partialRefund orderItemIds amountCents →
        ∀ line ∈ before.orderItems, line.id ∈ orderItemIds →
          line.orderId = staged)
    (committed :
      Commits (stageFailedLineRefund staged decision now)
        before () after) :
    RefundsKept orderId before after := by
  have kept : ∀ payment amountCents reason test paymentState paymentStatus,
      (∀ line ∈ before.linesOfOrder orderId, test line = false) →
      RefundsKept orderId before
        (before.withRefund payment staged amountCents reason test
          paymentState paymentStatus now) := by
    intro payment amountCents reason test paymentState paymentStatus unmet
    constructor
    · rw [linesOfOrder_withRefund, map_unchanged unmet]
    · rw [automaticRefunds_withRefund, decide_eq_false (Ne.symm other)]
      exact List.append_nil _
  cases decision with
  | noRefund =>
    obtain ⟨_, rfl⟩ := commits_pure.mp committed
    exact .refl _
  | fullRefund =>
    obtain ⟨_, payment, _, ⟨_, rfl⟩ | ⟨_, events, rfl⟩⟩ :=
      commits_stageAutomaticFullRefund committed
    · exact .refl _
    · have unmet : ∀ line ∈ before.linesOfOrder orderId,
          (decide (line.orderId = staged) &&
            decide (line.refundStatus = .pending)) = false := by
        intro line isLine
        simp [(order_of_line isLine).2, other]
      have same := kept payment payment.amountCents .autoDispenseFailed
        (fun line => line.orderId = staged &&
          line.refundStatus = .pending)
        .refundPending .refundPending unmet
      exact ⟨same.lines, same.refunds⟩
  | partialRefund orderItemIds amountCents =>
    have unnamed : ∀ line ∈ before.linesOfOrder orderId,
        line.id ∉ orderItemIds := by
      intro line isLine isNamed
      obtain ⟨stored, isOfOrder⟩ := order_of_line isLine
      exact other (isOfOrder.symm.trans
        (ofOrder _ _ rfl line stored isNamed))
    obtain ⟨order, payment, isPayment, ⟨_, rfl⟩ |
        ⟨_, ⟨_, rfl⟩ | ⟨_, events, rfl⟩⟩⟩ :=
      commits_stageAutomaticPartialRefund committed
    · refine ⟨(linesOfOrder_changeLines before
        (fun line => line.id ∈ orderItemIds)
        (fun line => { line with refundStatus := .manualHandling })
        (fun _ => rfl) (fun _ => rfl) orderId).trans (map_unchanged ?_),
        rfl⟩
      intro line isLine
      exact decide_eq_false (unnamed line isLine)
    · exact .refl _
    · have unmet : ∀ line ∈ before.linesOfOrder orderId,
          (decide (line.id ∈ orderItemIds) &&
            decide (line.refundStatus = .pending)) = false := by
        intro line isLine
        simp [unnamed line isLine]
      have same := kept payment amountCents .autoPartialDispenseFailed
        (fun line => line.id ∈ orderItemIds &&
          line.refundStatus = .pending)
        .partialRefundPending .partialRefundPending unmet
      exact ⟨same.lines, same.refunds⟩

theorem order_of_named
    {test : OrderItem → Bool}
    {line : OrderItem}
    (stored : line ∈ before.orderItems)
    (named : line.id ∈
      ((before.linesOfOrder orderId).filter test).map OrderItem.id) :
    line.orderId = orderId := by
  obtain ⟨other, isOther, sameId⟩ := List.mem_map.mp named
  obtain ⟨otherStored, ofOrder⟩ :=
    order_of_line (List.mem_filter.mp isOther).1
  rw [Table.eq_of_key_eq stored otherStored sameId.symm]
  exact ofOrder

theorem LineResult.Due.decide_ofOrder
    {result : LineResult}
    {settlement : LineSettlement}
    {db : Db}
    (due : result.Due before settlement)
    {orderItemIds : List OrderItemId}
    {amountCents : Nat}
    (decided : settlement.decide db =
      .partialRefund orderItemIds amountCents) :
    ∀ line ∈ db.orderItems, line.id ∈ orderItemIds →
      line.orderId = settlement.orderId := by
  intro line stored named
  cases due with
  | failure nonempty ofOrder =>
    simp only [LineSettlement.ofFailure, refundDecision] at decided
    split_ifs at decided
    cases decided
    exact order_of_named stored named
  | success isLine ofOrder =>
    simp only [LineSettlement.ofSuccess, Db.confirmedRefundDecision,
      Db.pendingFailedLinePartialRefund] at decided
    split_ifs at decided
    cases decided
    exact order_of_named stored named

theorem refundDecision_eq (lines : List OrderItem) :
    refundDecision lines =
      if lines.any OrderItem.isOpen then .noRefund
      else if (failedLines lines).length = lines.length then .fullRefund
      else if (failedLines lines).length > 0 &&
          countLines lines .dispensed > 0 then
        .partialRefund ((failedLines lines).map OrderItem.id)
          (linesAmountCents (failedLines lines))
      else .noRefund :=
  rfl

/-- The refund is decided alike after a success and after a failure. -/
theorem confirmedRefundDecision_eq
    {db : Db}
    (regular : ∀ line ∈ db.linesOfOrder orderId, line.IsRegular)
    (dispensed : ∃ line ∈ db.linesOfOrder orderId,
      line.fulfillmentStatus = .dispensed) :
    db.confirmedRefundDecision orderId =
      refundDecision (db.linesOfOrder orderId) := by
  obtain ⟨line, isLine, isDispensed⟩ := dispensed
  have someDispensed := countLines_pos isLine
  rw [isDispensed] at someDispensed
  have samePending :
      ((db.linesOfOrder orderId).filter fun line =>
        line.fulfillmentStatus = .dispenseFailed &&
          line.refundStatus = .pending) =
        failedLines (db.linesOfOrder orderId) := by
    apply List.filter_congr
    intro line isLine
    by_cases failed : line.fulfillmentStatus = .dispenseFailed
    · simp [failed, (regular line isLine).pending failed]
    · simp [failed]
  have notAll : (failedLines (db.linesOfOrder orderId)).length ≠
      (db.linesOfOrder orderId).length := by
    intro same
    have allFailed := List.length_filter_eq_length_iff.mp same line isLine
    simp [isDispensed] at allFailed
  simp only [Db.confirmedRefundDecision, Db.pendingFailedLinePartialRefund,
    samePending, refundDecision_eq, if_neg notAll]
  by_cases isOpen : (db.linesOfOrder orderId).any OrderItem.isOpen = true
  · simp only [isOpen, ↓reduceIte]
  · by_cases noFailed : failedLines (db.linesOfOrder orderId) = []
    · simp [isOpen, noFailed]
    · simp [isOpen, noFailed, someDispensed, List.length_pos_of_ne_nil]

/-- The line with its refund, when the test selects it. -/
def OrderItem.pointedAt
    (test : OrderItem → Bool)
    (refundId : RefundId)
    (line : OrderItem) : OrderItem :=
  if test line then { line with refundId := some refundId } else line

section Pointed

variable
  (test : OrderItem → Bool)
  (refundId : RefundId)
  (line : OrderItem)
  (lines : List OrderItem)

@[simp] theorem pointedAt_fulfillmentStatus :
    (line.pointedAt test refundId).fulfillmentStatus =
      line.fulfillmentStatus := by
  unfold OrderItem.pointedAt
  split
  · rfl
  · rfl

@[simp] theorem pointedAt_refundStatus :
    (line.pointedAt test refundId).refundStatus = line.refundStatus := by
  unfold OrderItem.pointedAt
  split
  · rfl
  · rfl

@[simp] theorem pointedAt_price :
    (line.pointedAt test refundId).unitPriceCents *
        (line.pointedAt test refundId).quantity =
      line.unitPriceCents * line.quantity := by
  unfold OrderItem.pointedAt
  split
  · rfl
  · rfl

theorem any_isOpen_pointedAt :
    (lines.map (OrderItem.pointedAt test refundId)).any OrderItem.isOpen =
      lines.any OrderItem.isOpen := by
  rw [List.any_map]
  congr 1
  funext line
  simp [OrderItem.isOpen]

theorem failedLines_pointedAt :
    failedLines (lines.map (OrderItem.pointedAt test refundId)) =
      (failedLines lines).map (OrderItem.pointedAt test refundId) := by
  simp only [failedLines, List.filter_map, Function.comp_def,
    pointedAt_fulfillmentStatus]

theorem linesAmountCents_pointedAt :
    linesAmountCents (lines.map (OrderItem.pointedAt test refundId)) =
      linesAmountCents lines := by
  simp only [linesAmountCents, List.map_map, Function.comp_def,
    pointedAt_price]

theorem refundDueCents_pointedAt (paymentAmountCents : Nat) :
    refundDueCents paymentAmountCents
        (lines.map (OrderItem.pointedAt test refundId)) =
      refundDueCents paymentAmountCents lines := by
  simp only [refundDueCents, failedLines_pointedAt, List.length_map,
    linesAmountCents_pointedAt]

end Pointed

theorem Db.RefundsFit.withRefund
    {db : Db}
    {payment : Payment}
    {paymentAmountCents : Nat}
    {reason : RefundReason}
    {test : OrderItem → Bool}
    {paymentState : OrderPaymentState}
    {paymentStatus : PaymentStatus}
    {now : Time}
    (paid : db.paidBy orderId = some (paymentAmountCents, providerCode))
    (supported : providerCode.supportsPartialRefund = true)
    (regular : ∀ line ∈ db.linesOfOrder orderId, line.IsRegular)
    (closed : (db.linesOfOrder orderId).any OrderItem.isOpen = false)
    (someFailed : failedLines (db.linesOfOrder orderId) ≠ [])
    (notRefunded : db.automaticRefunds orderId = [])
    (automatic : reason.isAutomatic = true)
    (tested : ∀ line ∈ failedLines (db.linesOfOrder orderId),
      test line = true) :
    (db.withRefund payment orderId
      (refundDueCents paymentAmountCents (db.linesOfOrder orderId)) reason
      test paymentState paymentStatus now).RefundsFit orderId
        paymentAmountCents := by
  have lines := linesOfOrder_withRefund db payment orderId
    (refundDueCents paymentAmountCents (db.linesOfOrder orderId)) reason
    test paymentState paymentStatus now orderId
  have refunds := automaticRefunds_withRefund db payment orderId
    (refundDueCents paymentAmountCents (db.linesOfOrder orderId)) reason
    test paymentState paymentStatus now orderId
  rw [notRefunded, automatic, decide_eq_true rfl] at refunds
  change _ = (db.linesOfOrder orderId).map
    (OrderItem.pointedAt test db.refunds.nextId) at lines
  constructor
  · exact ⟨providerCode, ((PaidAmountsKept.withRefund _ _ _ _ _ _ _ _
      _).paidBy orderId).trans paid, supported⟩
  · rw [lines]
    intro line isLine
    obtain ⟨old, isOld, rfl⟩ := List.mem_map.mp isLine
    obtain ⟨status, pending⟩ := regular old isOld
    constructor
    · simpa [OrderItem.isOpen] using status
    · simpa using pending
  · rw [lines, any_isOpen_pointedAt, failedLines_pointedAt, closed]
    intro absent
    simp [someFailed] at absent
  · intro _ _
    refine ⟨_, refunds, ?_, ?_⟩
    · rw [lines, refundDueCents_pointedAt]
      rfl
    · rw [lines, failedLines_pointedAt]
      intro line isLine
      obtain ⟨old, isOld, rfl⟩ := List.mem_map.mp isLine
      rw [OrderItem.pointedAt, if_pos (tested old isOld)]
      rfl

theorem Db.RefundsFit.of_refundEvents
    {db : Db}
    {paymentAmountCents : Nat}
    (fits : db.RefundsFit orderId paymentAmountCents)
    {events : Table RefundEvent RefundEvent.id} :
    { db with refundEvents := events }.RefundsFit orderId
      paymentAmountCents :=
  ⟨fits.payment, fits.regular, fits.waiting, fits.refunded⟩

theorem activeRefund?_of_notRefunded
    {db : Db}
    {reason : RefundReason}
    (notRefunded : db.automaticRefunds orderId = [])
    (automatic : reason.isAutomatic = true) :
    (db.activeRefund? orderId reason).isSome = false := by
  rw [Db.activeRefund?, Option.isSome_eq_false_iff, Option.isNone_iff_eq_none,
    List.find?_eq_none]
  intro refund stored selected
  simp only [Bool.and_eq_true, decide_eq_true_eq] at selected
  obtain ⟨⟨ofOrder, rfl⟩, _⟩ := selected
  have isAutomatic : refund ∈ db.automaticRefunds orderId :=
    List.mem_filter.mpr ⟨stored, by simp [ofOrder, automatic]⟩
  rw [notRefunded] at isAutomatic
  cases isAutomatic

theorem failed_or_dispensed
    {lines : List OrderItem}
    (regular : ∀ line ∈ lines, line.IsRegular)
    (closed : lines.any OrderItem.isOpen = false)
    (notDispensed : countLines lines .dispensed = 0) :
    (failedLines lines).length = lines.length := by
  rw [failedLines, List.filter_eq_self.mpr]
  intro line isLine
  rcases (regular line isLine).status with isOpen | dispensed | failed
  · exact absurd isOpen (by simpa using List.any_eq_false.mp closed line isLine)
  · have positive := countLines_pos isLine
    rw [dispensed, notDispensed] at positive
    exact absurd positive (Nat.lt_irrefl 0)
  · exact decide_eq_true failed

/-- The staging that follows a result leaves the refunds that are due. -/
theorem Db.RefundsFit.stage
    {paymentAmountCents : Nat}
    {now : Time}
    (paid : before.paidBy orderId = some (paymentAmountCents, providerCode))
    (supported : providerCode.supportsPartialRefund = true)
    (regular : ∀ line ∈ before.linesOfOrder orderId, line.IsRegular)
    (notRefunded : before.automaticRefunds orderId = [])
    (someLines : before.linesOfOrder orderId ≠ [])
    (staged :
      Commits
        (stageFailedLineRefund orderId
          (refundDecision (before.linesOfOrder orderId)) now)
        before () after) :
    after.RefundsFit orderId paymentAmountCents := by
  have isPaidBy : ∀ {order payment},
      before.orderPayment orderId = some (order, payment) →
      payment.amountCents = paymentAmountCents ∧
        payment.providerCode = providerCode := by
    intro order payment isPayment
    rw [Db.paidBy, isPayment] at paid
    simpa using paid
  rw [refundDecision_eq] at staged
  by_cases isOpen : (before.linesOfOrder orderId).any OrderItem.isOpen = true
  · rw [if_pos isOpen] at staged
    obtain ⟨_, rfl⟩ := commits_pure.mp staged
    exact ⟨⟨providerCode, paid, supported⟩, regular, fun _ => notRefunded,
      fun closed => by rw [isOpen] at closed; cases closed⟩
  · have closed := Bool.eq_false_iff.mpr isOpen
    rw [if_neg isOpen] at staged
    split at staged
    · rename_i allFailed
      obtain ⟨order, payment, isPayment, ⟨isActive, _⟩ | ⟨_, events, rfl⟩⟩ :=
        commits_stageAutomaticFullRefund staged
      · rw [activeRefund?_of_notRefunded notRefunded rfl] at isActive
        cases isActive
      · have someFailed : failedLines (before.linesOfOrder orderId) ≠ [] := by
          intro noFailed
          rw [noFailed] at allFailed
          exact someLines (List.eq_nil_of_length_eq_zero allFailed.symm)
        have due : payment.amountCents = refundDueCents paymentAmountCents
            (before.linesOfOrder orderId) := by
          rw [refundDueCents, if_pos allFailed]
          exact (isPaidBy isPayment).1
        rw [due]
        refine (withRefund paid supported regular closed someFailed
          notRefunded rfl ?_).of_refundEvents
        intro line isLine
        obtain ⟨isOfOrder, failed⟩ := List.mem_filter.mp isLine
        simp [(order_of_line isOfOrder).2,
          (regular line isOfOrder).pending (of_decide_eq_true failed)]
    · rename_i notAll
      split at staged
      · rename_i someOfEach
        simp only [Bool.and_eq_true, decide_eq_true_eq] at someOfEach
        have someFailed := List.ne_nil_of_length_pos someOfEach.1
        have due : linesAmountCents
            (failedLines (before.linesOfOrder orderId)) =
              refundDueCents paymentAmountCents
                (before.linesOfOrder orderId) := by
          rw [refundDueCents, if_neg notAll]
        rw [due] at staged
        obtain ⟨order, payment, isPayment, ⟨unsupported, _⟩ |
            ⟨_, ⟨isActive, _⟩ | ⟨_, events, rfl⟩⟩⟩ :=
          commits_stageAutomaticPartialRefund staged
        · rw [(isPaidBy isPayment).2, supported] at unsupported
          cases unsupported
        · rw [activeRefund?_of_notRefunded notRefunded rfl] at isActive
          cases isActive
        · refine (withRefund paid supported regular closed someFailed
            notRefunded rfl ?_).of_refundEvents
          intro line isLine
          obtain ⟨isOfOrder, failed⟩ := List.mem_filter.mp isLine
          have named := List.mem_map_of_mem (f := OrderItem.id) isLine
          simp [named,
            (regular line isOfOrder).pending (of_decide_eq_true failed)]
      · rename_i notBoth
        obtain ⟨_, rfl⟩ := commits_pure.mp staged
        have noFailed : failedLines (after.linesOfOrder orderId) = [] := by
          by_contra someFailed
          have positive := List.length_pos_of_ne_nil someFailed
          have noneDispensed :
              countLines (after.linesOfOrder orderId) .dispensed = 0 := by
            simpa [positive] using notBoth
          exact notAll (failed_or_dispensed regular closed noneDispensed)
        exact ⟨⟨providerCode, paid, supported⟩, regular,
          fun _ => notRefunded, fun _ some => absurd noFailed some⟩

theorem keeps_of_sync
    {project : List OrderItem → OrderFulfillmentState}
    {synced : OrderId}
    (syncs :
      Commits (syncOrderFulfillmentStateFromLines project synced)
        before () after) :
    after.refunds = before.refunds ∧ PaidAmountsKept before after := by
  have keeps : PaidAmountsKept before before := ⟨fun _ => rfl, fun _ => rfl⟩
  rw [syncOrderFulfillmentStateFromLines, commits_get_bind] at syncs
  dsimp only at syncs
  split at syncs
  · obtain ⟨_, rfl⟩ := commits_pure.mp syncs
    exact ⟨rfl, keeps⟩
  · split at syncs
    · obtain ⟨_, rfl⟩ := commits_pure.mp syncs
      exact ⟨rfl, keeps⟩
    · split at syncs
      · obtain ⟨_, rfl⟩ := commits_pure.mp syncs
        exact ⟨rfl, keeps⟩
      · obtain rfl := commits_modify.mp syncs
        exact ⟨rfl, .setOrderStates _ _ _ _ _⟩

theorem Db.RefundsFit.later
    {paymentAmountCents : Nat}
    (fits : before.RefundsFit orderId paymentAmountCents)
    (kept : RefundsKept orderId before after)
    (payments : PaidAmountsKept before after) :
    after.RefundsFit orderId paymentAmountCents := by
  obtain ⟨payment, regular, waiting, refunded⟩ := fits
  rw [← payments.paidBy] at payment
  rw [← kept.lines] at regular waiting refunded
  rw [← kept.refunds] at waiting refunded
  exact ⟨payment, regular, waiting, refunded⟩

section LineSettlement

variable
  {result : LineResult}
  {settlement : LineSettlement}
  {paymentAmountCents : Nat}

theorem LineResult.Due.regular
    (due : result.Due before settlement)
    (line : OrderItem) : (settlement.change line).IsRegular := by
  cases due with
  | failure nonempty ofOrder =>
    exact ⟨Or.inr (Or.inr rfl), fun _ => rfl⟩
  | success isLine ofOrder =>
    refine ⟨Or.inr (Or.inl rfl), fun failed => ?_⟩
    cases failed

theorem LineResult.Due.decide_eq
    {db : Db}
    (due : result.Due before settlement)
    (lines : db.linesOfOrder settlement.orderId =
      (before.changeLines settlement.test settlement.change
        settlement.keepsId).linesOfOrder settlement.orderId)
    (regular : ∀ line ∈ db.linesOfOrder settlement.orderId,
      line.IsRegular) :
    settlement.decide db =
      refundDecision (db.linesOfOrder settlement.orderId) := by
  obtain ⟨line, _, isChanged⟩ := due.fits.exists_changed
  rw [← lines] at isChanged
  cases due with
  | failure nonempty ofOrder => rfl
  | success isLine ofOrder =>
    exact confirmedRefundDecision_eq regular ⟨_, isChanged, rfl⟩

/-- A result that closes open lines leaves the refunds that are due. -/
theorem Db.RefundsFit.settles
    (fits : before.RefundsFit orderId paymentAmountCents)
    (due : result.Due before settlement)
    (areOpen : ∀ line ∈ result.lines before,
      line.orderId = orderId → line.isOpen = true)
    (settles : settlement.Settles before after) :
    after.RefundsFit orderId paymentAmountCents := by
  obtain ⟨middle, synced, kept, syncs, stages⟩ := settles
  have lines := lines_of_sync kept syncs
  obtain ⟨sameRefunds, syncPayments⟩ := keeps_of_sync syncs
  have payments : PaidAmountsKept before synced :=
    (PaidAmountsKept.of_kept kept).trans
      ⟨syncPayments.orders, syncPayments.payments⟩
  have refunds : synced.automaticRefunds orderId =
      before.automaticRefunds orderId := by
    unfold Db.automaticRefunds
    rw [sameRefunds]
    exact congrArg _ (congrArg Table.rows kept.refunds)
  by_cases own : orderId = settlement.orderId
  · subst own
    have regular : ∀ line ∈ synced.linesOfOrder settlement.orderId,
        line.IsRegular := by
      rw [lines, linesOfOrder_changeLines _ _ _ _ due.fits.keepsOrder]
      intro line isLine
      obtain ⟨old, isOld, rfl⟩ := List.mem_map.mp isLine
      split
      · exact due.regular old
      · exact fits.regular old isOld
    have wasOpen :
        (before.linesOfOrder settlement.orderId).any OrderItem.isOpen =
          true := by
      obtain ⟨line, isLine⟩ := List.exists_mem_of_ne_nil _ due.fits.nonempty
      have ofOrder := due.fits.ofOrder line isLine
      exact List.any_eq_true.mpr ⟨line, List.mem_filter.mpr
        ⟨LineResult.mem_lines isLine, decide_eq_true ofOrder⟩,
        areOpen line isLine ofOrder⟩
    have someLines : synced.linesOfOrder settlement.orderId ≠ [] := by
      obtain ⟨line, _, isChanged⟩ := due.fits.exists_changed
      rw [lines]
      exact List.ne_nil_of_mem isChanged
    obtain ⟨providerCode, paid, supported⟩ := fits.payment
    rw [due.decide_eq (lines _) regular] at stages
    exact stage ((payments.paidBy _).trans paid) supported regular
      (refunds.trans (fits.waiting (Or.inl wasOpen))) someLines stages
  · have keptLines : RefundsKept orderId before synced :=
      ⟨(lines orderId).trans (due.fits.lines_of_ne own), refunds⟩
    have staging := RefundsKept.stage own
      (fun _ _ decided => due.decide_ofOrder decided) stages
    exact fits.later (keptLines.trans staging) (payments.trans (.stage stages))

end LineSettlement

/-- A paid order of several lines, none of which has a result. -/
structure Db.AwaitsResults
    (db : Db)
    (orderId : OrderId)
    (order : Order)
    (payment : Payment) : Prop where
  isPayment : db.orderPayment orderId = some (order, payment)
  paid : order.paymentState = .paid
  supported : payment.providerCode.supportsPartialRefund = true
  severalLines : 1 < (db.linesOfOrder orderId).length
  areOpen : ∀ line ∈ db.linesOfOrder orderId, line.isOpen = true
  notRefunded : db.automaticRefunds orderId = []

/-- A definite result, of lines of the order that have none. -/
def SettlesOnce
    (orderId : OrderId)
    (db : Db)
    (result : LineResult) : Prop :=
  result.IsDefinite db ∧
    ∀ line ∈ result.lines db, line.orderId = orderId → line.isOpen = true

instance (db : Db) (result : LineResult) :
    Decidable (SettlesOnce orderId db result) :=
  inferInstanceAs (Decidable (_ ∧ ∀ line ∈ _, _ → _))

theorem Db.AwaitsResults.refundsFit
    {db : Db}
    {order : Order}
    {payment : Payment}
    (awaits : db.AwaitsResults orderId order payment) :
    db.RefundsFit orderId payment.amountCents := by
  obtain ⟨isPayment, _, supported, several, areOpen, notRefunded⟩ := awaits
  have someOpen : (db.linesOfOrder orderId).any OrderItem.isOpen = true := by
    obtain ⟨line, isLine⟩ := List.exists_mem_of_length_pos
      (Nat.lt_of_succ_lt several)
    exact List.any_eq_true.mpr ⟨line, isLine, areOpen line isLine⟩
  refine ⟨⟨payment.providerCode, by rw [Db.paidBy, isPayment]; rfl,
    supported⟩, ?_, fun _ => notRefunded, ?_⟩
  · intro line isLine
    refine ⟨Or.inl (areOpen line isLine), fun failed => ?_⟩
    have isOpen := areOpen line isLine
    simp [OrderItem.isOpen, failed] at isOpen
  · intro closed
    rw [someOpen] at closed
    cases closed

/--
Whatever the results of its lines are and in whatever order they arrive: while
a line of the order is open nothing is refunded; once none is, one refund is
staged exactly if a line failed, over the failed lines, and they point to it.
-/
theorem failed_lines_refunded_once
    {first last : Db}
    {order : Order}
    {payment : Payment}
    {results : List LineResult}
    (awaits : first.AwaitsResults orderId order payment)
    (meets :
      lineResultMachine.RunMeets (SettlesOnce orderId) first results)
    (run : lineResultMachine.run first results = some last) :
    ((last.linesOfOrder orderId).any OrderItem.isOpen = true →
      last.automaticRefunds orderId = []) ∧
    ((last.linesOfOrder orderId).any OrderItem.isOpen = false →
      (last.automaticRefunds orderId ≠ [] ↔
        failedLines (last.linesOfOrder orderId) ≠ []) ∧
      ∀ refund ∈ last.automaticRefunds orderId,
        last.automaticRefunds orderId = [refund] ∧
        refund.amountCents =
          refundDueCents payment.amountCents (last.linesOfOrder orderId) ∧
        ∀ line ∈ failedLines (last.linesOfOrder orderId),
          line.refundId = some refund.id) := by
  have stepKeeps : ∀ {db result next},
      Db.RefundsFit db orderId payment.amountCents →
      SettlesOnce orderId db result →
      lineResultMachine.step db result = some next →
      next.RefundsFit orderId payment.amountCents := by
    rintro db result next fits ⟨definite, areOpen⟩ step
    rcases execute_cases result.settle db with
      ⟨refusal, failed⟩ | ⟨answer, after, committed, succeeded⟩
    · simp only [lineResultMachine, failed, Option.some.injEq] at step
      subst step
      exact fits
    · simp only [lineResultMachine, succeeded, Option.some.injEq] at step
      subst step
      rcases LineResult.settle_cases definite committed with
        kept | ⟨settlement, due, settles⟩
      · refine fits.later ⟨?_, ?_⟩ (.of_kept kept)
        · unfold Db.linesOfOrder
          rw [kept.orderItems]
        · unfold Db.automaticRefunds
          rw [kept.refunds]
      · exact fits.settles due areOpen settles
  have fits := Machine.run_keeps_of_meets stepKeeps awaits.refundsFit meets run
  refine ⟨fun isOpen => fits.waiting (Or.inl isOpen), fun closed => ?_⟩
  by_cases noFailed : failedLines (last.linesOfOrder orderId) = []
  · have notRefunded := fits.waiting (Or.inr noFailed)
    simp [notRefunded, noFailed]
  · obtain ⟨refund, isRefund, amount, pointed⟩ :=
      fits.refunded closed noFailed
    rw [isRefund]
    refine ⟨by simp [noFailed], fun other isOther => ?_⟩
    obtain rfl := List.mem_singleton.mp isOther
    exact ⟨rfl, amount, pointed⟩

/-- The second line fails first: its price is refunded after the first. -/
theorem failed_lines_refunded_once_partial :
    ∃ last,
      lineResultMachine.run twoPaidLines [noDropOf 2, firstLineDispensed] =
        some last ∧
      (last.linesOfOrder 1).any OrderItem.isOpen = false ∧
      failedLines (last.linesOfOrder 1) ≠ [] ∧
      ∀ refund ∈ last.automaticRefunds 1,
        refund.amountCents = 600 ∧
        ∀ line ∈ failedLines (last.linesOfOrder 1),
          line.refundId = some refund.id := by
  have paid : (twoPaidLines.orderPayment 1).any (fun row =>
      row.1.paymentState = .paid &&
        row.2.providerCode.supportsPartialRefund) = true := by
    decide +kernel
  obtain ⟨⟨order, payment⟩, isPayment, isPaid⟩ :=
    (Option.any_eq_true _ _).mp paid
  simp only [Bool.and_eq_true, decide_eq_true_eq] at isPaid
  have awaits : twoPaidLines.AwaitsResults 1 order payment :=
    ⟨isPayment, isPaid.1, isPaid.2, by decide +kernel, by decide +kernel,
      by decide +kernel⟩
  have meets : lineResultMachine.RunMeets (SettlesOnce 1) twoPaidLines
      [noDropOf 2, firstLineDispensed] := by
    decide +kernel
  have reached :
      (lineResultMachine.run twoPaidLines
        [noDropOf 2, firstLineDispensed]).any (fun last =>
          !(last.linesOfOrder 1).any OrderItem.isOpen &&
            linesAmountCents (failedLines (last.linesOfOrder 1)) = 600 &&
            (failedLines (last.linesOfOrder 1)).length = 1 &&
            (last.linesOfOrder 1).length = 2) = true := by
    decide +kernel
  obtain ⟨last, run, ended⟩ := (Option.any_eq_true _ _).mp reached
  simp only [Bool.and_eq_true, Bool.not_eq_true', decide_eq_true_eq] at ended
  obtain ⟨⟨⟨closed, amount⟩, failed⟩, lines⟩ := ended
  obtain ⟨_, refunded⟩ := (failed_lines_refunded_once awaits meets run).2 closed
  refine ⟨last, run, closed, List.ne_nil_of_length_pos (by omega),
    fun refund isRefund => ?_⟩
  obtain ⟨_, due, pointed⟩ := refunded refund isRefund
  refine ⟨?_, pointed⟩
  rw [due, refundDueCents, if_neg (by omega), amount]

end VendingSystem.Platform
