import VendingSystem.PlatformOrderStates

namespace VendingSystem.Platform

/-!
# Every writer of an order's states

The transactions of the dispense, refund and payment services, each with what
it keeps of the orders.  Stock, movements and refunds are written without
touching an order; what writes an order does it by one of the single writes.
-/

open Transaction

variable {before after : Db}

namespace StockSideOnly

theorem releaseReservation
    (input : ReservationInput)
    (reason : ReservationReleaseReason)
    (preferred : Nat) :
    Within StockSideOnly (releaseReservation input reason preferred) := by
  intro first last answer committed
  rcases commits_releaseReservation committed with
    rfl | ⟨_, _, _, _, _, _, rfl⟩
  · exact refl _
  · exact ⟨rfl, rfl, rfl, rfl⟩

variable (orderId : OrderId)

theorem releaseActiveReservations
    (reason : ReservationReleaseReason)
    (preferred : InventoryReservation → Nat) :
    Within StockSideOnly
      (releaseActiveReservationsForOrder orderId reason preferred) :=
  Within.bind Within.get fun _ =>
    Within.forM (fun _ => releaseReservation _ _ _) _

theorem releaseAffectedReservation
    (orderItemId : Option OrderItemId)
    (slotId : SlotId)
    (faultSlot : Bool)
    (preferred : OrderItem → Nat) :
    Within StockSideOnly
      (releaseAffectedReservationForDispenseFailure orderId orderItemId
        slotId faultSlot preferred) := by
  apply Within.bind Within.get
  intro db
  apply Within.bind (Within.forM (fun _ => releaseReservation _ _ _) _)
  intro _
  exact Within.modify fun _ => ⟨rfl, rfl, rfl, rfl⟩

theorem createOrderLine
    (paymentExpiresAt : Time)
    (item : ItemDetail) :
    Within StockSideOnly (createOrderLine orderId paymentExpiresAt item) := by
  apply Within.bind
  · apply Within.bind Within.get
    intro db
    split
    · exact Within.bind (Within.modify fun _ => ⟨rfl, rfl, rfl, rfl⟩)
        fun _ => Within.pure _
    · exact Within.throw _
  · intro orderItemId first last answer committed
    obtain ⟨_, _, _, _, _, _, rfl⟩ := commits_reserveForOrder committed
    exact ⟨rfl, rfl, rfl, rfl⟩

theorem insertRaw
    (machineId : MachineId)
    (input : RawMachineStockMovement)
    (status : RawMovementStatus)
    (reconciliation : Option Reconciliation) :
    Within StockSideOnly (insertRaw machineId input status reconciliation) :=
  Within.bind Within.get fun _ =>
    Within.bind (Within.require _ _) fun _ =>
      Within.modify fun _ => ⟨rfl, rfl, rfl, rfl⟩

theorem applyTrusted
    (machineId : MachineId)
    (input : RawMachineStockMovement) :
    Within StockSideOnly
      (applyTrustedFieldStockMovement machineId input) := by
  intro first last answer committed
  rcases commits_applyTrusted committed with
    ⟨_, rfl⟩ | ⟨_, _, _, _, _, _, _, rfl⟩
  · exact refl _
  · exact ⟨rfl, rfl, rfl, rfl⟩

theorem updateRefundLines
    (test : OrderItem → Bool)
    (refundStatus : OrderItem → OrderLineRefundStatus)
    (refundId : OrderItem → Option RefundId) :
    Within StockSideOnly (updateRefundLines test refundStatus refundId) :=
  Within.modify fun _ => ⟨rfl, rfl, rfl, rfl⟩

theorem addRefundEvent (refundId : RefundId) (eventType : RefundEventType) :
    Within StockSideOnly (addRefundEvent refundId eventType) :=
  Within.modify fun _ => ⟨rfl, rfl, rfl, rfl⟩

theorem insertRefund
    (paymentId : PaymentId)
    (orderId : OrderId)
    (amountCents : Nat)
    (status : RefundStatus)
    (reason : RefundReason)
    (now : Time) :
    Within StockSideOnly
      (insertRefund paymentId orderId amountCents status reason now) := by
  apply Within.bind Within.get
  intro db
  split
  · exact Within.pure _
  · exact Within.bind (Within.modify fun _ => ⟨rfl, rfl, rfl, rfl⟩)
      fun _ => Within.pure _

theorem updateRefundStatus
    (refundId : RefundId)
    (status : RefundStatus)
    (now : Time) :
    Within StockSideOnly (updateRefundStatus refundId status now) := by
  apply Within.bind Within.get
  intro db
  split
  · exact Within.pure _
  · exact Within.bind (Within.require _ _) fun _ =>
      Within.modify fun _ => ⟨rfl, rfl, rfl, rfl⟩

theorem closeRefundRow
    (refund : RefundInHand)
    (outcome : RefundOutcome)
    (now : Time) :
    Within StockSideOnly (closeRefundRow refund outcome now) := by
  unfold Platform.closeRefundRow
  split
  · exact Within.bind (updateRefundStatus _ _ _) fun _ => Within.pure _
  · apply Within.bind Within.get
    intro db
    split
    · exact Within.bind (Within.modify fun _ => ⟨rfl, rfl, rfl, rfl⟩)
        fun _ => Within.pure _
    · exact Within.pure _

theorem addOutcomeEvent (refund : RefundInHand) (outcome : RefundOutcome) :
    Within StockSideOnly (addOutcomeEvent refund outcome) := by
  unfold Platform.addOutcomeEvent
  split
  · exact Within.pure _
  · exact addRefundEvent _ _

end StockSideOnly

namespace OrdersKept

variable {dispensed : Option OrderId} {paymentState : OrderPaymentState}
  {status : OrderStatus}

theorem stockSide
    {Answer : Type}
    {transaction : DrizzleTransaction Answer}
    (within : Within StockSideOnly transaction) :
    Within (OrdersKept dispensed) transaction :=
  within.mono of_stockSideOnly

variable (refund : RefundInHand) (orderId : OrderId) (outcome : RefundOutcome)

theorem writesStates
    {fulfillmentState : OrderFulfillmentState}
    (projected : status = projectOrderStatus paymentState fulfillmentState)
    (paymentOpen : paymentState ∉ closedPaymentStates) :
    Within (OrdersKept dispensed)
      (modify fun db : Db =>
        db.setOrderStates orderId status paymentState fulfillmentState :
        DrizzleTransaction PUnit) :=
  Within.modify fun db => setOrderStates db orderId projected paymentOpen

theorem writesPayment
    (projected : ∀ fulfillmentState,
      status = projectOrderStatus paymentState fulfillmentState)
    (paymentOpen : paymentState ∉ closedPaymentStates) :
    Within (OrdersKept dispensed)
      (modify fun db : Db =>
        db.setOrderPayment orderId status paymentState :
        DrizzleTransaction PUnit) :=
  Within.modify fun db => setOrderPayment db orderId projected paymentOpen

theorem writesPaymentStatus
    (paymentId : PaymentId)
    (status : PaymentStatus) :
    Within (OrdersKept dispensed)
      (modify fun db : Db => db.setPaymentStatus paymentId status :
        DrizzleTransaction PUnit) :=
  Within.modify fun db => setPaymentStatus db paymentId status

theorem stageAutomaticFullRefund (orderId : OrderId) (now : Time) :
    Within (OrdersKept dispensed)
      (stageAutomaticFullRefund orderId now) := by
  apply Within.bind
  · exact Within.get
  intro db
  apply Within.bind
  · exact Within.requireSome _ _
  intro row
  apply Within.bind
  · exact stockSide (StockSideOnly.insertRefund _ _ _ _ _ _)
  intro inserted
  cases inserted with
  | none => exact Within.pure _
  | some refundId =>
    apply Within.bind
    · exact stockSide (StockSideOnly.updateRefundLines _ _ _)
    intro _
    apply Within.bind
    · exact writesPayment _ (fun _ => rfl) (by decide)
    intro _
    apply Within.bind
    · exact writesPaymentStatus _ _
    intro _
    exact stockSide (StockSideOnly.addRefundEvent _ _)

theorem markPartialRefundUnsupported
    (order : Order)
    (payment : Payment)
    (orderItemIds : List OrderItemId) :
    Within (OrdersKept dispensed)
      (markPartialRefundUnsupported order payment orderItemIds) := by
  apply Within.bind
  · exact stockSide (StockSideOnly.updateRefundLines _ _ _)
  intro _
  apply Within.bind
  · exact writesPaymentStatus _ _
  intro _
  apply writesStates
  · rfl
  · decide

theorem stageAutomaticPartialRefund
    (orderItemIds : List OrderItemId)
    (amountCents : Nat)
    (now : Time) :
    Within (OrdersKept dispensed)
      (stageAutomaticPartialRefund orderId orderItemIds amountCents now) := by
  apply Within.bind
  · exact Within.require _ _
  intro _
  apply Within.bind
  · exact Within.get
  intro db
  apply Within.bind
  · exact Within.requireSome _ _
  intro row
  apply Within.bind
  · exact Within.require _ _
  intro _
  split
  · exact markPartialRefundUnsupported _ _ _
  · apply Within.bind
    · exact stockSide (StockSideOnly.insertRefund _ _ _ _ _ _)
    intro inserted
    cases inserted with
    | none => exact Within.pure _
    | some refundId =>
      apply Within.bind
      · exact stockSide (StockSideOnly.updateRefundLines _ _ _)
      intro _
      apply Within.bind
      · exact writesPayment _ (fun _ => rfl) (by decide)
      intro _
      apply Within.bind
      · exact writesPaymentStatus _ _
      intro _
      exact stockSide (StockSideOnly.addRefundEvent _ _)

theorem writePartialRefundOutcome :
    Within (OrdersKept dispensed)
      (writePartialRefundOutcome refund outcome) := by
  cases outcome with
  | succeeded | failed =>
    apply Within.bind
    · exact stockSide (StockSideOnly.updateRefundLines _ _ _)
    intro _
    apply Within.bind
    · exact writesPaymentStatus _ _
    intro _
    apply writesStates
    · rfl
    · decide

theorem writeFullRefundOutcome :
    Within (OrdersKept dispensed) (writeFullRefundOutcome refund outcome) := by
  cases outcome with
  | succeeded =>
    apply Within.bind
    · exact stockSide (StockSideOnly.updateRefundLines _ _ _)
    intro _
    apply Within.bind
    · exact writesPaymentStatus _ _
    intro _
    exact writesPayment _ (fun _ => rfl) (by decide)
  | failed =>
    apply Within.bind
    · exact stockSide (StockSideOnly.updateRefundLines _ _ _)
    intro _
    apply Within.bind
    · exact writesPaymentStatus _ _
    intro _
    apply writesStates
    · rfl
    · decide

/-- Whether a refund is partial or full, its outcome keeps the orders. -/
theorem applyTerminalState
    (now : Time) :
    Within (OrdersKept dispensed)
      (applyTerminalState refund outcome now) := by
  have closing : ∀ write : RefundOutcome → DrizzleTransaction Unit,
      (∀ outcome, Within (OrdersKept dispensed) (write outcome)) →
      Within (OrdersKept dispensed) (do
        let closed ← Platform.closeRefundRow refund outcome now
        if closed then do
          Platform.addOutcomeEvent refund outcome
          write outcome
          pure true
        else pure false) := by
    intro write writeKept
    apply Within.bind
    · exact stockSide (StockSideOnly.closeRefundRow _ _ _)
    intro closed
    split
    · apply Within.bind
      · exact stockSide (StockSideOnly.addOutcomeEvent _ _)
      intro _
      apply Within.bind
      · exact writeKept outcome
      intro _
      exact Within.pure _
    · exact Within.pure _
  unfold Platform.applyTerminalState applyPartialRefundTerminalState
    applyRefundTerminalState
  split
  · exact @closing _ (writePartialRefundOutcome refund)
  · exact @closing _ (writeFullRefundOutcome refund)

theorem requestFullRefund
    (reason : RefundReason)
    (now : Time) :
    Within (OrdersKept dispensed)
      (requestFullRefund orderId reason now) := by
  apply Within.bind
  · exact Within.get
  intro db
  apply Within.bind
  · exact Within.requireSome _ _
  intro row
  dsimp only
  split
  · exact Within.pure _
  · apply Within.bind
    · exact Within.require _ _
    intro _
    apply Within.bind
    · exact Within.require _ _
    intro _
    apply Within.bind
    · exact writesPayment _ (fun _ => rfl) (by decide)
    intro _
    apply Within.bind
    · exact writesPaymentStatus _ _
    intro _
    apply Within.bind
    · exact stockSide (StockSideOnly.insertRefund _ _ _ _ _ _)
    intro inserted
    exact Within.pure _

theorem requestPartialRefund
    (orderItemIds : List OrderItemId)
    (amountCents : Nat)
    (now : Time) :
    Within (OrdersKept dispensed)
      (requestPartialRefund orderId orderItemIds amountCents now) := by
  apply Within.bind
  · exact Within.require _ _
  intro _
  apply Within.bind
  · exact Within.get
  intro db
  apply Within.bind
  · exact Within.requireSome _ _
  intro row
  apply Within.bind
  · exact Within.require _ _
  intro _
  split
  · apply Within.bind
    · exact markPartialRefundUnsupported _ _ _
    intro _
    exact Within.pure _
  · split
    · exact Within.pure _
    · apply Within.bind
      · exact stockSide (StockSideOnly.updateRefundLines _ _ _)
      intro _
      apply Within.bind
      · exact writesPayment _ (fun _ => rfl) (by decide)
      intro _
      apply Within.bind
      · exact writesPaymentStatus _ _
      intro _
      apply Within.bind
      · exact stockSide (StockSideOnly.insertRefund _ _ _ _ _ _)
      intro inserted
      apply Within.bind
      · exact stockSide (StockSideOnly.updateRefundLines _ _ _)
      intro _
      exact Within.pure _

theorem sync
    (project : List OrderItem → OrderFulfillmentState)
    (orderId : OrderId) :
    Within (OrdersKept (some orderId))
      (syncOrderFulfillmentStateFromLines project orderId) := by
  intro first last answer committed
  rw [syncOrderFulfillmentStateFromLines, commits_get_bind] at committed
  dsimp only at committed
  split at committed
  · obtain ⟨_, rfl⟩ := commits_pure.mp committed
    exact refl _
  · cases found : first.orders.find? orderId with
    | none =>
      rw [found] at committed
      obtain ⟨_, rfl⟩ := commits_pure.mp committed
      exact refl _
    | some order =>
      simp only [found] at committed
      split at committed
      · obtain ⟨_, rfl⟩ := commits_pure.mp committed
        exact refl _
      · obtain rfl := commits_modify.mp committed
        obtain rfl : order.id = orderId := Table.key_of_find? found
        exact setFulfillment first found _

theorem moveOrderToManualHandling (orderId : OrderId) :
    Within (OrdersKept (some orderId))
      (moveOrderToManualHandling orderId) := by
  intro first last answer committed
  rw [Platform.moveOrderToManualHandling, commits_get_bind] at committed
  split at committed
  · obtain ⟨_, rfl⟩ := commits_pure.mp committed
    exact refl _
  · rename_i order current
    obtain ⟨found, _⟩ := Option.filter_eq_some_iff.mp current
    obtain rfl := commits_modify.mp committed
    obtain rfl : order.id = orderId := Table.key_of_find? found
    exact setFulfillment first found _

theorem claimCommand
    (commandId : CommandId)
    (eligibleStatuses : List VendingCommandStatus)
    (status : VendingCommandStatus)
    (resultAt : Option Time)
    (lastError : Option String) :
    Within (OrdersKept dispensed)
      (claimCommand commandId eligibleStatuses status resultAt
        lastError) := by
  intro first last claimed committed
  rcases commits_claimCommand.mp committed with
    ⟨_, rfl, _⟩ | ⟨_, rfl, _⟩
  · exact refl _
  · exact of_same rfl rfl rfl

theorem lockMachine (machineId : MachineId) :
    Within (OrdersKept dispensed)
      (lockMachineForVendingMutation machineId) := by
  apply Within.bind Within.get
  intro db
  exact Within.require _ _

theorem lockOrder (orderId : OrderId) :
    Within (OrdersKept dispensed)
      (lockOrderForVendingMutation orderId) := by
  apply Within.bind Within.get
  intro db
  exact Within.require _ _

theorem compensateFailedCommand
    (command : VendingCommand)
    (faultSlot requestRefund : Bool)
    (preferred : OrderItem → Nat)
    (now : Time) :
    Within (OrdersKept (some command.orderId))
      (compensateFailedCommand command faultSlot requestRefund preferred
        now) := by
  apply Within.bind
  · exact stockSide (StockSideOnly.releaseAffectedReservation _ _ _ _ _)
  intro _
  apply Within.bind
  · apply Within.bind Within.get
    intro db
    dsimp only
    split
    · exact Within.pure _
    · apply Within.bind
      · exact stockSide (Within.modify fun _ => ⟨rfl, rfl, rfl, rfl⟩)
      intro _
      apply Within.bind
      · exact sync _ _
      intro _
      apply Within.bind Within.get
      intro later
      exact Within.pure _
  intro decision
  apply Within.bind
  · unfold stageFailedLineRefund
    split
    · exact Within.pure _
    · exact stageAutomaticFullRefund _ _
    · exact stageAutomaticPartialRefund _ _ _ _
  intro _
  exact Within.pure _

theorem syncOrderAndStagePartialRefund (orderId : OrderId) (now : Time) :
    Within (OrdersKept (some orderId))
      (syncOrderAndStagePartialRefund orderId now) := by
  apply Within.bind
  · exact sync _ _
  intro _
  apply Within.bind Within.get
  intro db
  split
  · exact Within.pure _
  · exact stageAutomaticPartialRefund _ _ _ _

end OrdersKept

/-- The order that a step settles, while its command is not settled. -/
def Db.unsettledOrder
    (db : Db)
    (commandId : CommandId)
    (orderId : OrderId) : Option OrderId :=
  if (db.vendingCommands.find? commandId).any fun command =>
      command.status ∈ unsettledStatuses then
    some orderId
  else none

theorem unsettledOrder_of_claim
    {commandId : CommandId}
    {eligibleStatuses : List VendingCommandStatus}
    {status : VendingCommandStatus}
    {resultAt : Option Time}
    {lastError : Option String}
    {claimed : Bool}
    (orderId : OrderId)
    (unsettled : ∀ eligible ∈ eligibleStatuses,
      eligible ∈ unsettledStatuses)
    (committed :
      Commits
        (claimCommand commandId eligibleStatuses status resultAt lastError)
        before claimed after) :
    (claimed = false ∧ after = before) ∨
      (claimed = true ∧
        before.unsettledOrder commandId orderId = some orderId) := by
  rcases commits_claimCommand.mp committed with
    ⟨rfl, rfl, _⟩ | ⟨rfl, _, command, found, eligible⟩
  · exact Or.inl ⟨rfl, rfl⟩
  · right
    refine ⟨rfl, ?_⟩
    unfold Db.unsettledOrder
    rw [found, Option.any_some,
      if_pos (decide_eq_true (unsettled _ eligible))]

namespace OrdersKept

variable {command : VendingCommand} {now : Time} {preferred : OrderItem → Nat}
  {context : DispenseResultContext} {delivery : DispenseResultDelivery}

theorem markDispenseResultUnknown
    {message : String}
    {resultAt : Time}
    {eligibleStatuses : List VendingCommandStatus}
    {changed : Bool}
    (unsettled : ∀ eligible ∈ eligibleStatuses,
      eligible ∈ unsettledStatuses)
    (committed :
      Commits
        (markDispenseResultUnknown command message resultAt
          eligibleStatuses)
        before changed after) :
    OrdersKept (before.unsettledOrder command.id command.orderId)
      before after := by
  simp only [Platform.markDispenseResultUnknown, commits_bind,
    commits_lockMachine, commits_lockOrder] at committed
  obtain ⟨_, _, ⟨_, rfl⟩, _, _, ⟨_, rfl⟩, updated, middle, claim, rest⟩ :=
    committed
  rcases unsettledOrder_of_claim command.orderId unsettled claim with
    ⟨rfl, rfl⟩ | ⟨rfl, isUnsettled⟩
  · simp only [Bool.false_eq_true, ↓reduceIte, commits_pure] at rest
    obtain ⟨_, rfl⟩ := rest
    exact refl _
  · simp only [↓reduceIte, commits_bind, commits_modify,
      commits_pure] at rest
    obtain ⟨_, parked, moved, _, _, rfl, _, rfl⟩ := rest
    rw [isUnsettled]
    have parkedKept := moveOrderToManualHandling _ moved
    exact ((claimCommand _ _ _ _ _ claim).trans parkedKept).trans
      (of_same rfl rfl rfl)

theorem confirmOrderBoundDispenseSucceeded
    {machineId : MachineId}
    {input : RawMachineStockMovement}
    {context : OrderBoundDispenseConfirmationContext}
    {answer : Unit}
    (committed :
      Commits
        (confirmOrderBoundDispenseSucceededInTransaction machineId input
          context now)
        before answer after) :
    OrdersKept
      (before.unsettledOrder context.vendingCommandId context.orderId)
      before after := by
  obtain ⟨command, row, valid, found, unsettled, _, _, _, _, _, finished⟩ :=
    commits_confirmOrderBoundDispenseSucceeded committed
  have isUnsettled :
      before.unsettledOrder context.vendingCommandId context.orderId =
        some context.orderId := by
    unfold Db.unsettledOrder
    rw [found, Option.any_some, if_pos (decide_eq_true unsettled)]
  rw [isUnsettled]
  have settled : OrdersKept (some context.orderId) before
      (before.settleDispense machineId input context row valid) :=
    of_same rfl rfl rfl
  exact settled.trans (syncOrderAndStagePartialRefund _ _ finished)

/-- A failure settles its command, or parks the order. -/
theorem receiveDispenseFailure
    (committed :
      Commits (receiveDispenseFailure delivery command preferred now)
        before context after) :
    OrdersKept (before.unsettledOrder command.id command.orderId)
      before after := by
  simp only [Platform.receiveDispenseFailure, commits_bind,
    insertDispenseResultInboxEvent, commits_modify] at committed
  obtain ⟨_, received, rfl, failed⟩ := committed
  let stored : Db :=
    { before with
      machineEvents := before.machineEvents.insertOrIgnore
        { machineId := delivery.machineId, messageId := delivery.messageId } }
  have storing : ∀ dispensed, OrdersKept dispensed before stored :=
    fun _ => of_same rfl rfl rfl
  split at failed
  · simp only [commits_bind, commits_pure] at failed
    obtain ⟨changed, _, marked, _, rfl⟩ := failed
    exact (storing _).trans (markDispenseResultUnknown (by decide) marked)
  · simp only [commits_bind, commits_lockOrder] at failed
    obtain ⟨_, _, ⟨_, rfl⟩, updated, middle, claim, rest⟩ := failed
    rcases unsettledOrder_of_claim command.orderId
        (fun _ eligible => eligible) claim with
      ⟨rfl, rfl⟩ | ⟨rfl, isUnsettled⟩
    · simp only [Bool.false_eq_true, ↓reduceIte, commits_pure] at rest
      obtain ⟨_, rfl⟩ := rest
      exact storing _
    · simp only [↓reduceIte, commits_bind, commits_pure] at rest
      obtain ⟨decision, _, compensated, _, rfl⟩ := rest
      have isUnsettled' : before.unsettledOrder command.id command.orderId =
          some command.orderId := isUnsettled
      rw [isUnsettled']
      have compensatedKept := compensateFailedCommand _ _ _ _ _ compensated
      exact ((storing _).trans (claimCommand _ _ _ _ _ claim)).trans
        compensatedKept

theorem resolveCommandAsNotDispensed
    {note : Option String}
    {requestRefund faultSlot : Bool}
    {decision : FailedLineRefundDecision}
    (committed :
      Commits
        (resolveCommandAsNotDispensed command note requestRefund faultSlot
          preferred now)
        before decision after) :
    OrdersKept (before.unsettledOrder command.id command.orderId)
      before after := by
  simp only [Platform.resolveCommandAsNotDispensed, commits_bind,
    commits_lockMachine, commits_lockOrder] at committed
  obtain ⟨_, _, ⟨_, rfl⟩, _, _, ⟨_, rfl⟩, updated, middle, claim, rest⟩ :=
    committed
  rcases unsettledOrder_of_claim command.orderId (by decide) claim with
    ⟨rfl, rfl⟩ | ⟨rfl, isUnsettled⟩
  · simp only [Bool.false_eq_true, ↓reduceIte, commits_require_bind,
      commits_pure] at rest
    obtain ⟨_, _, rfl⟩ := rest
    exact refl _
  · simp only [↓reduceIte] at rest
    rw [isUnsettled]
    have compensatedKept := compensateFailedCommand _ _ _ _ _ rest
    exact (claimCommand _ _ _ _ _ claim).trans compensatedKept

/-- A delivered result works on the order of an unsettled command. -/
theorem receiveDispenseResult
    (committed :
      Commits (receiveDispenseResult delivery preferred now)
        before context after) :
    OrdersKept
      ((before.vendingCommands.find? delivery.payload.commandNo).bind
        fun command => before.unsettledOrder command.id command.orderId)
      before after := by
  simp only [Platform.receiveDispenseResult, commits_bind,
    commits_lockMachine, commits_get] at committed
  obtain ⟨_, _, ⟨_, rfl⟩, _, before, ⟨rfl, rfl⟩, received⟩ := committed
  cases current : (before.vendingCommands.find?
      delivery.payload.commandNo).filter
        (fun command => command.machineId = delivery.machineId) with
  | none =>
    simp only [current, commits_bind, insertDispenseResultInboxEvent,
      commits_modify, commits_pure] at received
    obtain ⟨_, _, rfl, _, rfl⟩ := received
    exact of_same rfl rfl rfl
  | some command =>
    obtain ⟨found, _⟩ := Option.filter_eq_some_iff.mp current
    rw [found, Option.bind_some]
    simp only [current] at received
    split at received
    · split at received
      all_goals
        simp only [commits_bind, insertDispenseResultInboxEvent,
          commits_modify, commits_pure] at received
      · obtain ⟨_, _, rfl, _, rfl⟩ := received
        exact of_same rfl rfl rfl
      · obtain ⟨_, _, rfl, _, rfl⟩ := received
        exact of_same rfl rfl rfl
      · obtain ⟨_, rfl⟩ := received
        exact refl _
    · split at received
      · simp only [commits_bind, insertDispenseResultInboxEvent,
          commits_modify, commits_pure] at received
        obtain ⟨_, _, rfl, _, rfl⟩ := received
        exact of_same rfl rfl rfl
      · simp only [commits_bind, insertDispenseResultInboxEvent,
          commits_modify, commits_pure] at received
        obtain ⟨_, _, rfl, _, rfl⟩ := received
        exact of_same rfl rfl rfl
      · exact receiveDispenseFailure received
end OrdersKept

end VendingSystem.Platform
