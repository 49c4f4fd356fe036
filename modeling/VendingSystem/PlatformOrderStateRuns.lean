import VendingSystem.PlatformOrderTasks

namespace VendingSystem.Platform

/-!
# The states of an order in every run

All writers of the orders table as tasks over one database.  In a run in which
nothing is dispensed for a closed order, every order stays in step.
-/

def orderService :
    Service Db ServiceError
      ((PaymentTask ⊕ MovementTask) ⊕ (RefundTask ⊕ VendingTask))
      ((PaymentInput × Time) × (RefundInput × VendingInput)) :=
  (paymentService.both movementService).both
    (refundService.both vendingService)

abbrev OrderTask : Type :=
  (PaymentTask ⊕ MovementTask) ⊕ (RefundTask ⊕ VendingTask)

abbrev OrderInput : Type :=
  (PaymentInput × Time) × (RefundInput × VendingInput)

abbrev OrderRuntime : Type :=
  Service.Runtime Db OrderTask

abbrev OrderEvent : Type :=
  Service.Event ServiceError OrderTask OrderInput

/-- The order that the next step of a task can write a dispense for. -/
def Db.dispensedOrder (db : Db) : OrderTask → Option OrderId
  | .inl (.inl _) => none
  | .inl (.inr task) => task.dispensedOrder db
  | .inr (.inl _) => none
  | .inr (.inr task) => task.dispensedOrder db

/-- Nothing is dispensed for an order whose payment side is closed. -/
def DispensesOpenOrder (db : Db) (task : OrderTask) (_ : OrderInput) : Prop :=
  ∀ order ∈ db.orders.rows, db.dispensedOrder task = some order.id →
    order.isPaymentClosed = false

instance (db : Db) (task : OrderTask) (input : OrderInput) :
    Decidable (DispensesOpenOrder db task input) :=
  inferInstanceAs (Decidable (∀ order ∈ _, _ → _))

open Transaction

variable {before after : Db} {task : OrderTask} {answer : List OrderTask}
  {input : OrderInput}

/-- The payments in the hands of the tasks are stored. -/
def OrderTask.InOrder (db : Db) : OrderTask → Prop
  | .inl (.inl task) => task.InOrder db
  | _ => True

/-- What every reachable database satisfies. -/
structure Db.OrderInvariant (db : Db) : Prop where
  inStep : db.OrdersInStep
  linked : db.Linked

theorem OrdersKept.orderTask
    (linked : before.Linked)
    (inOrder : task.InOrder before)
    (committed :
      Commits (orderService.perform task input) before answer after) :
    OrdersKept (before.dispensedOrder task) before after := by
  rcases task with (payment | movement) | (refund | vending)
  · obtain ⟨_, outer, _⟩ := commits_map.mp committed
    obtain ⟨_, inner, _⟩ := commits_map.mp outer
    exact paymentTask linked inOrder inner
  · obtain ⟨_, outer, _⟩ := commits_map.mp committed
    obtain ⟨_, inner, _⟩ := commits_map.mp outer
    exact movementTask inner
  · obtain ⟨_, outer, _⟩ := commits_map.mp committed
    obtain ⟨_, inner, _⟩ := commits_map.mp outer
    exact refundTask refund _ inner
  · obtain ⟨_, outer, _⟩ := commits_map.mp committed
    obtain ⟨_, inner, _⟩ := commits_map.mp outer
    exact vendingTask inner

theorem OrderTask.InOrder.later
    {dispensed : Option OrderId}
    (inOrder : task.InOrder before)
    (kept : OrdersKept dispensed before after) :
    task.InOrder after := by
  rcases task with (payment | movement) | (refund | vending)
  · exact fun read held => (inOrder read held).later kept
  · trivial
  · trivial
  · trivial

theorem OrderTask.InOrder.followUps
    (inOrder : task.InOrder before)
    (committed :
      Commits (orderService.perform task input) before answer after) :
    ∀ followUp ∈ answer, followUp.InOrder before := by
  rcases task with (payment | movement) | other
  · obtain ⟨_, outer, rfl⟩ := commits_map.mp committed
    obtain ⟨tasks, inner, rfl⟩ := commits_map.mp outer
    intro followUp member
    obtain ⟨left, isLeft, rfl⟩ := List.mem_map.mp member
    obtain ⟨next, isNext, rfl⟩ := List.mem_map.mp isLeft
    exact PaymentTask.InOrder.followUps inOrder inner next isNext
  · obtain ⟨_, outer, rfl⟩ := commits_map.mp committed
    obtain ⟨tasks, _, rfl⟩ := commits_map.mp outer
    intro followUp member
    obtain ⟨left, isLeft, rfl⟩ := List.mem_map.mp member
    obtain ⟨next, _, rfl⟩ := List.mem_map.mp isLeft
    trivial
  · obtain ⟨_, _, rfl⟩ := commits_map.mp committed
    intro followUp member
    obtain ⟨right, _, rfl⟩ := List.mem_map.mp member
    trivial

/-- The services keep orders in step while dispenses meet the condition. -/
theorem orderService_keeps :
    orderService.Keeps DispensesOpenOrder Db.OrderInvariant
      (fun db task => OrderTask.InOrder db task) where
  starts {db task} starts := by
    rcases task with (payment | movement) | (refund | vending)
    · intro read held
      cases payment <;> cases starts <;> cases held
    · trivial
    · trivial
    · trivial
  recovers {db task refusal followUp} inOrder member := by
    rcases task with (payment | movement) | other
    · obtain ⟨left, isLeft, rfl⟩ := List.mem_map.mp member
      obtain ⟨next, isNext, rfl⟩ := List.mem_map.mp isLeft
      intro read held
      cases payment <;> simp [paymentService, PaymentTask.recover] at isNext
      all_goals
        subst isNext
        cases held
    · obtain ⟨left, isLeft, rfl⟩ := List.mem_map.mp member
      obtain ⟨next, _, rfl⟩ := List.mem_map.mp isLeft
      trivial
    · obtain ⟨right, _, rfl⟩ := List.mem_map.mp member
      trivial
  performs {before after task input answer} holds inOrder met committed := by
    have kept := OrdersKept.orderTask holds.linked inOrder committed
    refine ⟨⟨kept.ordersInStep holds.inStep met, kept.linked holds.linked⟩,
      ?_⟩
    intro followUp member
    exact (inOrder.followUps committed followUp member).later kept
  others holds inOrder _ committed otherInOrder :=
    otherInOrder.later (OrdersKept.orderTask holds.linked inOrder committed)

/-- Nothing was ordered yet. -/
structure Db.WithoutOrders (db : Db) : Prop where
  orders : db.orders.rows = []
  attempts : db.paymentCodeAttempts.rows = []

theorem Db.WithoutOrders.invariant
    {db : Db}
    (without : db.WithoutOrders) :
    db.OrderInvariant where
  inStep order stored := by
    have member : order ∈ db.orders.rows := stored
    rw [without.orders] at member
    cases member
  linked :=
    { orders := by
        intro order stored
        have member : order ∈ db.orders.rows := stored
        rw [without.orders] at member
        cases member
      attempts := by
        intro attempt stored
        have member : attempt ∈ db.paymentCodeAttempts.rows := stored
        rw [without.attempts] at member
        cases member }

/--
While nothing is dispensed for a closed order, the status of every order is
the projection of its components in every state reached, and a closed order
is canceled.
-/
theorem run_keeps_ordersInStep
    (first : Db)
    (events : List OrderEvent)
    (last : OrderRuntime)
    (without : first.WithoutOrders)
    (meets :
      orderService.machine.RunMeets (Service.Meets DispensesOpenOrder)
        { db := first, tasks := [] } events)
    (run :
      orderService.machine.run { db := first, tasks := [] } events =
        some last) :
    ∀ order ∈ last.db.orders,
      order.status =
        projectOrderStatus order.paymentState order.fulfillmentState ∧
      ((order.paymentState = .paymentFailed ∨
          order.paymentState = .paymentExpired ∨
          order.paymentState = .canceled) →
        order.fulfillmentState = .canceled) := by
  have holds := Service.Holds.run orderService_keeps
    (Service.Holds.idle without.invariant) meets run
  intro order stored
  have inStep := holds.db.inStep order stored
  refine ⟨inStep.projected, fun closed => inStep.canceled ?_⟩
  rcases closed with failed | expired | canceled
  · simp [Order.isPaymentClosed, closedPaymentStates, failed]
  · simp [Order.isPaymentClosed, closedPaymentStates, expired]
  · simp [Order.isPaymentClosed, closedPaymentStates, canceled]

/-- What the services take from outside, with a provider's answer. -/
def orderInput (now : Time) (answer : ProviderAnswer) : OrderInput where
  fst :=
    ({ now, token := 7, pastTimeoutCompensation := false, answer
       eventName := .named "closed", preferred := fun _ => 0
       preferredLine := fun _ => 0 }, now)
  snd :=
    ({ now, answer := .failed, eventIsKnown := false },
      { now, publishError := none, faultSlot := false
        preferred := fun _ => 0 })

/-- One piece of slot 5 is ordered with a code that the buyer scans. -/
def orderByQrCode : List OrderEvent :=
  [.submit (.inl (.inl
      (.createOrder (twoSlotOrder [(5, 1)] .qrCode .alipay) 1 900))),
    .advance 0 (orderInput 1 .unsupported),
    .advance 0 (orderInput 2 .unsupported),
    .advance 0
      (orderInput 3
        (.intent
          { providerTradeNo := none, paymentUrl := "qr"
            initialStatus := none })),
    .advance 0 (orderInput 4 .unsupported)]

/-- The provider closes the payment for an operator. -/
def closeAtProvider : List OrderEvent :=
  [.submit (.inl (.inl (.closeOrReverse 1))),
    .advance 0 (orderInput 5 .unsupported),
    .advance 0 (orderInput 6 (.closed false))]

/-- The buyer's payment is reported and dispatched by a later task. -/
def reportPayment (position : Nat) : List OrderEvent :=
  [.submit (.inl (.inl
      (.webhookReceived 1 .alipay
        { providerEventId := .named "paid", paymentStatus := .succeeded
          providerTradeNo := none, businessValid := true }))),
    .advance position (orderInput 7 .unsupported),
    .advance position (orderInput 8 .unsupported)]

/-- The machine does not know how the dispense ended. -/
def reportUnknownResult : List OrderEvent :=
  [.submit (.inr (.inr
      (.dispenseResult
        { machineId := 1, messageId := 5, faultSlot := false
          payload :=
            { commandNo := 1, success := false, errorCode := some .unknown
              message := "no result", reportedAt := 13 } }))),
    .advance 0 (orderInput 13 .unsupported)]

/-- A paid order that nobody closes goes to manual handling in step. -/
theorem run_keeps_ordersInStep_paid :
    ∃ last,
      orderService.machine.run { db := twoSlotDb, tasks := [] }
          (orderByQrCode ++ reportPayment 0 ++ reportUnknownResult) =
        some last ∧
      (last.db.orders.find? 1).map Order.fulfillmentState =
        some .manualHandling ∧
      ∀ order ∈ last.db.orders,
        order.status =
          projectOrderStatus order.paymentState order.fulfillmentState ∧
        ((order.paymentState = .paymentFailed ∨
            order.paymentState = .paymentExpired ∨
            order.paymentState = .canceled) →
          order.fulfillmentState = .canceled) :=
  ⟨_, rfl, by decide +kernel,
    run_keeps_ordersInStep twoSlotDb
      (orderByQrCode ++ reportPayment 0 ++ reportUnknownResult) _
      ⟨rfl, rfl⟩ (by decide +kernel) rfl⟩

/--
The payment is reported while the provider closes it.  The closing does not
look at what was stored since, and cancels the paid order; the result of its
command then takes the canceled order to manual handling.
-/
theorem run_keeps_ordersInStep_fails_for_closing :
    ¬ ∀ (events : List OrderEvent) (last : OrderRuntime),
      orderService.machine.run { db := twoSlotDb, tasks := [] } events =
        some last →
      ∀ order ∈ last.db.orders,
        order.status =
          projectOrderStatus order.paymentState order.fulfillmentState ∧
        ((order.paymentState = .paymentFailed ∨
            order.paymentState = .paymentExpired ∨
            order.paymentState = .canceled) →
          order.fulfillmentState = .canceled) := by
  intro always
  have inStep := always
    (orderByQrCode ++ closeAtProvider ++ reportPayment 1 ++
      [.advance 0 (orderInput 9 .unsupported)] ++ reportUnknownResult) _ rfl
  have canceled := fun order stored =>
    (inStep order (show order ∈ Table.rows _ from stored)).2
  revert canceled
  decide +kernel

/-- Every status is projected, and what names a payment is named by it. -/
structure Db.OrdersSound (db : Db) : Prop where
  projected : ∀ order ∈ db.orders, order.Projected
  linked : db.Linked

theorem OrdersKept.ordersSound
    {dispensed : Option OrderId}
    (kept : OrdersKept dispensed before after)
    (sound : before.OrdersSound) : after.OrdersSound where
  linked := kept.linked sound.linked
  projected order stored := by
    rcases kept.projected order stored with
      projected | ⟨old, oldStored, status, payment, fulfillment⟩
    · exact projected
    · have projected := sound.projected old oldStored
      rw [Order.Projected, status, payment, fulfillment] at projected
      exact projected

/-- No task needs a condition for that. -/
theorem orderService_keepsSound :
    orderService.Keeps (fun _ _ _ => True) Db.OrdersSound
      (fun db task => OrderTask.InOrder db task) where
  starts := orderService_keeps.starts
  recovers := orderService_keeps.recovers
  performs {before after task input answer} sound inOrder _ committed := by
    have kept := OrdersKept.orderTask sound.linked inOrder committed
    refine ⟨kept.ordersSound sound, fun followUp member => ?_⟩
    exact (inOrder.followUps committed followUp member).later kept
  others sound inOrder _ committed otherInOrder :=
    otherInOrder.later (OrdersKept.orderTask sound.linked inOrder committed)

/--
Whatever is dispensed, closed or refunded in a run: the status of every order
is projected, its payment is its own, and an attempt's payment and order
belong together.
-/
theorem run_keeps_orderLinks
    (first : Db)
    (events : List OrderEvent)
    (last : OrderRuntime)
    (without : first.WithoutOrders)
    (run :
      orderService.machine.run { db := first, tasks := [] } events =
        some last) :
    (∀ order ∈ last.db.orders,
      order.status =
          projectOrderStatus order.paymentState order.fulfillmentState ∧
        ∀ paymentId, order.paymentId = some paymentId →
          ∃ payment, last.db.payments.find? paymentId = some payment ∧
            payment.orderId = order.id) ∧
    ∀ attempt ∈ last.db.paymentCodeAttempts,
      ∃ payment, last.db.payments.find? attempt.paymentId = some payment ∧
        payment.orderId = attempt.orderId := by
  have sound : first.OrdersSound :=
    { projected := fun order stored =>
        (without.invariant.inStep order stored).projected
      linked := without.invariant.linked }
  have holds := Machine.run_keeps
    (fun holds step => Service.Holds.step orderService_keepsSound holds
      (Service.meets_of_always (fun _ _ _ => trivial) _ _) step)
    (Service.Holds.idle sound) run
  exact ⟨fun order stored =>
    ⟨holds.db.projected order stored, holds.db.linked.orders order stored⟩,
    holds.db.linked.attempts⟩

/-- The order and its payment name each other, also once it is closed. -/
theorem run_keeps_orderLinks_closed :
    ∃ last,
      orderService.machine.run { db := twoSlotDb, tasks := [] }
          (orderByQrCode ++ closeAtProvider ++
            [.advance 0 (orderInput 9 .unsupported)]) = some last ∧
      (last.db.orders.find? 1).map Order.status = some .canceled ∧
      ∀ order ∈ last.db.orders,
        order.status =
            projectOrderStatus order.paymentState order.fulfillmentState ∧
          ∀ paymentId, order.paymentId = some paymentId →
            ∃ payment, last.db.payments.find? paymentId = some payment ∧
              payment.orderId = order.id :=
  ⟨_, rfl, by decide +kernel,
    (run_keeps_orderLinks twoSlotDb
      (orderByQrCode ++ closeAtProvider ++
        [.advance 0 (orderInput 9 .unsupported)]) _ ⟨rfl, rfl⟩ rfl).1⟩

end VendingSystem.Platform
