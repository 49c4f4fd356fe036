import VendingSystem.PlatformOrderWrites

namespace VendingSystem.Platform

/-!
# The results of the lines of an order

A result is settled in one transaction: a failure by the vending service, a
success by the stock repository.  Both change the lines of one order, project
its states from them and stage the refund that is due; they differ in the
projection and in how the refund is decided.
-/

/-- A result of a line, with what its transaction reads from outside. -/
inductive LineResult where
  | failure
      (delivery : DispenseResultDelivery)
      (preferred : OrderItem → Nat)
      (now : Time)
  | success
      (machineId : MachineId)
      (input : RawMachineStockMovement)
      (context : OrderBoundDispenseConfirmationContext)
      (now : Time)

def LineResult.settle : LineResult → DrizzleTransaction Unit
  | .failure delivery preferred now => do
      let _ ← receiveDispenseResult delivery preferred now
  | .success machineId input context now =>
    insertAcceptedWithOrderBoundDispenseConfirmation machineId input
      context now

/-- A result whose transaction fails leaves everything as it is. -/
def lineResultMachine : Machine Db LineResult where
  step db result := some (result.settle.execute db).2

/-- The command of a result, while it is not settled. -/
def Db.unsettledCommand
    (db : Db)
    (commandId : CommandId) : Option VendingCommand :=
  (db.vendingCommands.find? commandId).filter
    fun command => command.status ∈ unsettledStatuses

def LineResult.lines (result : LineResult) (db : Db) : List OrderItem :=
  match result with
  | .failure delivery _ _ =>
    match db.unsettledCommand delivery.payload.commandNo with
    | none => []
    | some command =>
      db.affectedLines command.orderId command.orderItemId command.slotId
  | .success _ _ context _ =>
    match db.unsettledCommand context.vendingCommandId with
    | none => []
    | some _ => (db.orderItems.find? context.orderItemId).toList

/--
A failure says what went wrong, and a success names an order with one of its
lines, as it was read from the line.
-/
def LineResult.IsDefinite (result : LineResult) (db : Db) : Prop :=
  match result with
  | .failure delivery _ _ => delivery.payload.errorCode ≠ some .unknown
  | .success _ _ context _ =>
    ∀ line, db.orderItems.find? context.orderItemId = some line →
      line.orderId = context.orderId

instance (db : Db) :
    (result : LineResult) → Decidable (result.IsDefinite db)
  | .failure delivery _ _ =>
    inferInstanceAs (Decidable (delivery.payload.errorCode ≠ _))
  | .success _ _ context _ =>
    inferInstanceAs
      (Decidable (∀ line ∈ db.orderItems.find? context.orderItemId, _ = _))

/-- Lines, orders, payments and refunds are the same. -/
structure OrderSideKept (before after : Db) : Prop where
  orders : after.orders = before.orders
  orderItems : after.orderItems = before.orderItems
  payments : after.payments = before.payments
  refunds : after.refunds = before.refunds

namespace OrderSideKept

theorem refl (db : Db) : OrderSideKept db db :=
  ⟨rfl, rfl, rfl, rfl⟩

theorem trans
    {first middle last : Db}
    (leading : OrderSideKept first middle)
    (trailing : OrderSideKept middle last) :
    OrderSideKept first last where
  orders := trailing.orders.trans leading.orders
  orderItems := trailing.orderItems.trans leading.orderItems
  payments := trailing.payments.trans leading.payments
  refunds := trailing.refunds.trans leading.refunds

instance : IsPreorder Db OrderSideKept where
  refl := refl
  trans _ _ _ := trans

end OrderSideKept

def Db.changeLines
    (db : Db)
    (test : OrderItem → Bool)
    (change : OrderItem → OrderItem)
    (keepsId : ∀ line, (change line).id = line.id) : Db :=
  { db with orderItems := db.orderItems.updateWhere test change keepsId }

/-- The line of a failed dispense. -/
def OrderItem.failed (line : OrderItem) : OrderItem :=
  { line with
    fulfillmentStatus := .dispenseFailed
    refundStatus := .pending }

/-- The line of a confirmed dispense. -/
def OrderItem.dispensed (line : OrderItem) : OrderItem :=
  { line with
    fulfillmentStatus := .dispensed
    refundStatus := .notRequired }

/-- The refund that a confirmed dispense leaves to stage. -/
def Db.confirmedRefundDecision
    (db : Db)
    (orderId : OrderId) : FailedLineRefundDecision :=
  match db.pendingFailedLinePartialRefund orderId with
  | none => .noRefund
  | some decision =>
    .partialRefund decision.orderItemIds decision.amountCents

/-- How a settled result changes its lines, their order and its refunds. -/
structure LineSettlement where
  orderId : OrderId
  test : OrderItem → Bool
  change : OrderItem → OrderItem
  keepsId : ∀ line, (change line).id = line.id
  project : List OrderItem → OrderFulfillmentState
  decide : Db → FailedLineRefundDecision
  now : Time

def LineSettlement.ofFailure
    (orderId : OrderId)
    (orderItemIds : List OrderItemId)
    (now : Time) : LineSettlement where
  orderId := orderId
  test line := line.id ∈ orderItemIds
  change := OrderItem.failed
  keepsId _ := rfl
  project := vendingFulfillmentState
  decide db := refundDecision (db.linesOfOrder orderId)
  now := now

def LineSettlement.ofSuccess
    (orderId : OrderId)
    (orderItemId : OrderItemId)
    (now : Time) : LineSettlement where
  orderId := orderId
  test line := line.id = orderItemId
  change := OrderItem.dispensed
  keepsId _ := rfl
  project := stockFulfillmentState
  decide db := db.confirmedRefundDecision orderId
  now := now

open Transaction

/-- The lines are changed, the order is projected, the refund is staged. -/
def LineSettlement.Settles
    (settlement : LineSettlement)
    (before after : Db) : Prop :=
  ∃ middle synced,
    OrderSideKept before middle ∧
    Commits
      (syncOrderFulfillmentStateFromLines settlement.project
        settlement.orderId)
      (middle.changeLines settlement.test settlement.change
        settlement.keepsId) () synced ∧
    Commits
      (stageFailedLineRefund settlement.orderId (settlement.decide synced)
        settlement.now) synced () after

variable {before after db : Db} {settlement : LineSettlement}
  {result : LineResult} {preferred : OrderItem → Nat} {now : Time}
  {command : VendingCommand} {context : DispenseResultContext}
  {delivery : DispenseResultDelivery}

namespace OrderSideKept

theorem releaseReservation
    (input : ReservationInput)
    (reason : ReservationReleaseReason)
    (preferred : Nat) :
    Within OrderSideKept (releaseReservation input reason preferred) := by
  intro first last answer committed
  rcases commits_releaseReservation committed with
    rfl | ⟨_, _, _, _, _, _, rfl⟩
  · exact refl _
  · exact ⟨rfl, rfl, rfl, rfl⟩

theorem releaseAffectedReservation
    (orderId : OrderId)
    (orderItemId : Option OrderItemId)
    (slotId : SlotId)
    (faultSlot : Bool)
    (preferred : OrderItem → Nat) :
    Within OrderSideKept
      (releaseAffectedReservationForDispenseFailure orderId orderItemId
        slotId faultSlot preferred) := by
  apply Within.bind Within.get
  intro db
  apply Within.bind (Within.forM (fun _ => releaseReservation _ _ _) _)
  intro _
  exact Within.modify fun _ => ⟨rfl, rfl, rfl, rfl⟩

end OrderSideKept

theorem LineSettlement.Settles.of_kept
    {middle : Db}
    (settles : settlement.Settles middle after)
    (kept : OrderSideKept before middle) :
    settlement.Settles before after := by
  obtain ⟨inner, synced, keptInner, syncs, stages⟩ := settles
  exact ⟨inner, synced, kept.trans keptInner, syncs, stages⟩

inductive LineResult.Due (result : LineResult) (db : Db) : LineSettlement → Prop
  | failure
      {orderId : OrderId}
      {now : Time}
      (nonempty : result.lines db ≠ [])
      (ofOrder : ∀ line ∈ result.lines db, line.orderId = orderId) :
      result.Due db
        (.ofFailure orderId ((result.lines db).map OrderItem.id) now)
  | success
      {orderId : OrderId}
      {now : Time}
      {line : OrderItem}
      (isLine : result.lines db = [line])
      (ofOrder : line.orderId = orderId) :
      result.Due db (.ofSuccess orderId line.id now)

theorem LineResult.mem_lines
    {line : OrderItem}
    (isLine : line ∈ result.lines db) : line ∈ db.orderItems := by
  cases result with
  | failure delivery preferred now =>
    simp only [LineResult.lines] at isLine
    split at isLine
    · cases isLine
    · exact (List.mem_filter.mp isLine).1
  | success machineId input context now =>
    simp only [LineResult.lines] at isLine
    split at isLine
    · cases isLine
    · exact Table.mem_of_find? (Option.mem_toList.mp isLine)

/-- A settlement changes some lines of its order, and no others. -/
structure LineSettlement.Fits
    (settlement : LineSettlement)
    (result : LineResult)
    (db : Db) : Prop where
  test : ∀ line ∈ db.orderItems,
    settlement.test line = true ↔ line ∈ result.lines db
  ofOrder : ∀ line ∈ result.lines db, line.orderId = settlement.orderId
  nonempty : result.lines db ≠ []
  keepsOrder : ∀ line,
    (settlement.change line).orderId = line.orderId

theorem LineResult.Due.fits
    (due : result.Due db settlement) : settlement.Fits result db := by
  cases due with
  | failure nonempty ofOrder =>
    refine ⟨?_, ofOrder, nonempty, fun _ => rfl⟩
    intro line stored
    simp only [LineSettlement.ofFailure, decide_eq_true_eq, List.mem_map]
    constructor
    · rintro ⟨other, isOther, sameId⟩
      obtain rfl := Table.eq_of_key_eq (mem_lines isOther) stored sameId
      exact isOther
    · exact fun isLine => ⟨line, isLine, rfl⟩
  | @success _ _ line isLine ofOrder =>
    have stored : line ∈ db.orderItems :=
      mem_lines (isLine ▸ List.mem_singleton_self line)
    refine ⟨?_, ?_, by simp [isLine], fun _ => rfl⟩
    · intro other otherStored
      simp only [LineSettlement.ofSuccess, decide_eq_true_eq, isLine,
        List.mem_singleton]
      exact ⟨Table.eq_of_key_eq otherStored stored, fun same => same ▸ rfl⟩
    · intro other isOther
      rw [isLine, List.mem_singleton] at isOther
      rw [isOther]
      exact ofOrder

theorem OrderSideKept.affectedLines
    (kept : OrderSideKept before after)
    (orderId : OrderId)
    (orderItemId : Option OrderItemId)
    (slotId : SlotId) :
    after.affectedLines orderId orderItemId slotId =
      before.affectedLines orderId orderItemId slotId := by
  unfold Db.affectedLines
  rw [kept.orderItems]

theorem compensateFailedCommand_cases
    {faultSlot : Bool}
    {decision : FailedLineRefundDecision}
    (committed :
      Commits
        (compensateFailedCommand command faultSlot true preferred now)
        before decision after) :
    OrderSideKept before after ∨
      (before.affectedLines command.orderId command.orderItemId
          command.slotId ≠ [] ∧
        (LineSettlement.ofFailure command.orderId
          ((before.affectedLines command.orderId command.orderItemId
            command.slotId).map OrderItem.id) now).Settles before after) := by
  simp only [compensateFailedCommand, commits_bind, ↓reduceIte,
    commits_pure] at committed
  obtain ⟨_, released, releases, decided, marked, marks, _, staged, stages,
    rfl, rfl⟩ := committed
  have kept := OrderSideKept.releaseAffectedReservation _ _ _ _ _ releases
  rw [← kept.affectedLines]
  simp only [markOrderLinesFailedAndBuildRefundDecision,
    commits_get_bind] at marks
  split at marks
  · obtain ⟨rfl, rfl⟩ := commits_pure.mp marks
    obtain ⟨_, rfl⟩ := commits_pure.mp stages
    exact Or.inl kept
  · rename_i someLines
    simp only [commits_bind, markLinesFailed, commits_modify, commits_get,
      commits_pure] at marks
    obtain ⟨_, _, rfl, _, synced, syncs, _, _, ⟨rfl, rfl⟩, rfl, rfl⟩ := marks
    refine Or.inr ⟨fun none => someLines (by rw [none]; rfl), ?_⟩
    exact ⟨released, _, kept, syncs, stages⟩

theorem unsettledCommand_of_found
    {commandId : CommandId}
    (found : before.vendingCommands.find? commandId = some command)
    (unsettled : command.status ∈ unsettledStatuses) :
    before.unsettledCommand commandId = some command := by
  simp [Db.unsettledCommand, found, unsettled]

/-- A definite failure settles the lines of an unsettled command. -/
theorem receiveDispenseFailure_cases
    (definite : delivery.payload.errorCode ≠ some .unknown)
    (found : before.vendingCommands.find? delivery.payload.commandNo =
      some command)
    (committed :
      Commits (receiveDispenseFailure delivery command preferred now)
        before context after) :
    OrderSideKept before after ∨
      ∃ settlement,
        (LineResult.failure delivery preferred now).Due before settlement ∧
        settlement.Settles before after := by
  have sameId : command.id = delivery.payload.commandNo :=
    Table.key_of_find? found
  simp only [receiveDispenseFailure, definite, ↓reduceIte, commits_bind,
    insertDispenseResultInboxEvent, commits_modify,
    commits_lockOrder, commits_claimCommand] at committed
  obtain ⟨_, stored, rfl, _, _, ⟨_, rfl⟩, updated, claimed, claim, rest⟩ :=
    committed
  rcases claim with ⟨rfl, rfl, _⟩ | ⟨rfl, rfl, other, otherFound, unsettled⟩
  · obtain ⟨_, rfl⟩ := commits_pure.mp rest
    exact Or.inl ⟨rfl, rfl, rfl, rfl⟩
  · rw [sameId] at otherFound
    cases found.symm.trans otherFound
    simp only [↓reduceIte, commits_bind, commits_pure] at rest
    obtain ⟨decision, _, compensated, _, rfl⟩ := rest
    have isUnsettled := unsettledCommand_of_found found unsettled
    have lines : (LineResult.failure delivery preferred now).lines before =
        before.affectedLines command.orderId command.orderItemId
          command.slotId := by
      simp only [LineResult.lines, isUnsettled]
    rcases compensateFailedCommand_cases compensated with
      kept | ⟨nonempty, settles⟩
    · exact Or.inl ⟨kept.orders, kept.orderItems, kept.payments,
        kept.refunds⟩
    · refine Or.inr ⟨_, ?_, settles.of_kept ⟨rfl, rfl, rfl, rfl⟩⟩
      have ofOrder : ∀ line ∈
          (LineResult.failure delivery preferred now).lines before,
            line.orderId = command.orderId := by
        intro line isLine
        rw [lines] at isLine
        have isOfOrder := (List.mem_filter.mp isLine).2
        simp only [Bool.and_eq_true, decide_eq_true_eq] at isOfOrder
        exact isOfOrder.1
      have due := @LineResult.Due.failure _ _ _ now (lines ▸ nonempty) ofOrder
      rw [lines] at due
      exact due

theorem receiveDispenseResult_cases
    (definite : delivery.payload.errorCode ≠ some .unknown)
    (committed :
      Commits (receiveDispenseResult delivery preferred now)
        before context after) :
    OrderSideKept before after ∨
      ∃ settlement,
        (LineResult.failure delivery preferred now).Due before settlement ∧
        settlement.Settles before after := by
  simp only [receiveDispenseResult, commits_bind, commits_lockMachine,
    commits_get] at committed
  obtain ⟨_, _, ⟨_, rfl⟩, _, _, ⟨rfl, rfl⟩, received⟩ := committed
  split at received
  · simp only [commits_bind, insertDispenseResultInboxEvent, commits_modify,
      commits_pure] at received
    obtain ⟨_, _, rfl, _, rfl⟩ := received
    exact Or.inl ⟨rfl, rfl, rfl, rfl⟩
  · rename_i command current
    obtain ⟨found, _⟩ := Option.filter_eq_some_iff.mp current
    split at received
    · split at received
      all_goals
        simp only [commits_bind, insertDispenseResultInboxEvent,
          commits_modify, commits_pure] at received
      · obtain ⟨_, _, rfl, _, rfl⟩ := received
        exact Or.inl ⟨rfl, rfl, rfl, rfl⟩
      · obtain ⟨_, _, rfl, _, rfl⟩ := received
        exact Or.inl ⟨rfl, rfl, rfl, rfl⟩
      · obtain ⟨_, rfl⟩ := received
        exact Or.inl (.refl _)
    · split at received
      · simp only [commits_bind, insertDispenseResultInboxEvent,
          commits_modify, commits_pure] at received
        obtain ⟨_, _, rfl, _, rfl⟩ := received
        exact Or.inl ⟨rfl, rfl, rfl, rfl⟩
      · simp only [commits_bind, insertDispenseResultInboxEvent,
          commits_modify, commits_pure] at received
        obtain ⟨_, _, rfl, _, rfl⟩ := received
        exact Or.inl ⟨rfl, rfl, rfl, rfl⟩
      · exact receiveDispenseFailure_cases definite found received

theorem settles_of_confirmed
    {orderId : OrderId}
    {orderItemId : OrderItemId}
    (stocked : Db)
    (kept : OrderSideKept before stocked)
    (finished :
      Commits (syncOrderAndStagePartialRefund orderId now)
        (stocked.fulfillLine orderItemId) () after) :
    (LineSettlement.ofSuccess orderId orderItemId now).Settles before after := by
  simp only [syncOrderAndStagePartialRefund, commits_bind,
    commits_get] at finished
  obtain ⟨_, _, syncs, _, synced, ⟨rfl, rfl⟩, stages⟩ := finished
  refine ⟨stocked, synced, kept, syncs, ?_⟩
  unfold LineSettlement.ofSuccess Db.confirmedRefundDecision
  dsimp only
  cases pending : synced.pendingFailedLinePartialRefund orderId with
  | none =>
    simp only [pending] at stages
    exact stages
  | some decision =>
    simp only [pending] at stages
    exact stages

/-- The stock side of a confirmed dispense, before its line is fulfilled. -/
def Db.beforeFulfilling
    (db : Db)
    (machineId : MachineId)
    (input : RawMachineStockMovement)
    (context : OrderBoundDispenseConfirmationContext)
    (row : Inventory)
    (valid :
      row.reservedQty - context.quantity ≤ row.onHandQty - context.quantity) :
    Db :=
  ((((db.addRawMovement machineId input .accepted none).setCommandStatus
        context.vendingCommandId .succeeded (some input.occurredAt)
        none).setInventory context.inventoryId
      (row.onHandQty - context.quantity)
      (row.reservedQty - context.quantity) valid).confirmLineReservations
    context).addMovement context.inventoryId (-context.quantity)
      .purchaseConfirmed (some context.orderId)
      (some (.machineStockMovement machineId input.movementId))

theorem OrderSideKept.beforeFulfilling
    (machineId : MachineId)
    (input : RawMachineStockMovement)
    (context : OrderBoundDispenseConfirmationContext)
    (row : Inventory)
    (valid :
      row.reservedQty - context.quantity ≤ row.onHandQty - context.quantity) :
    OrderSideKept db
      (db.beforeFulfilling machineId input context row valid) := by
  have stores : ∀ first : Db, OrderSideKept first
    (first.addRawMovement machineId input .accepted none) :=
    fun _ => ⟨rfl, rfl, rfl, rfl⟩
  have claims : ∀ first : Db, OrderSideKept first
      (first.setCommandStatus context.vendingCommandId .succeeded
        (some input.occurredAt) none) :=
    fun _ => ⟨rfl, rfl, rfl, rfl⟩
  have takes : ∀ first : Db, OrderSideKept first
      (first.setInventory context.inventoryId
        (row.onHandQty - context.quantity)
        (row.reservedQty - context.quantity) valid) :=
    fun _ => ⟨rfl, rfl, rfl, rfl⟩
  have confirms : ∀ first : Db, OrderSideKept first
      (first.confirmLineReservations context) :=
    fun _ => ⟨rfl, rfl, rfl, rfl⟩
  have lists : ∀ first : Db, OrderSideKept first
      (first.addMovement context.inventoryId (-context.quantity)
        .purchaseConfirmed (some context.orderId)
        (some (.machineStockMovement machineId input.movementId))) :=
    fun _ => ⟨rfl, rfl, rfl, rfl⟩
  exact ((((stores db).trans (claims _)).trans (takes _)).trans
    (confirms _)).trans (lists _)

theorem Db.settleDispense_eq
    (db : Db)
    (machineId : MachineId)
    (input : RawMachineStockMovement)
    (context : OrderBoundDispenseConfirmationContext)
    (row : Inventory)
    (valid :
      row.reservedQty - context.quantity ≤ row.onHandQty - context.quantity) :
    (db.addRawMovement machineId input .accepted none).settleDispense
        machineId input context row valid =
      (db.beforeFulfilling machineId input context row valid).fulfillLine
        context.orderItemId := by
  unfold Db.settleDispense Db.beforeFulfilling
  rfl

/-- A confirmed dispense settles its line. -/
theorem insertAcceptedWithConfirmation_cases
    {machineId : MachineId}
    {input : RawMachineStockMovement}
    {context : OrderBoundDispenseConfirmationContext}
    (ofOrder : ∀ line,
      before.orderItems.find? context.orderItemId = some line →
        line.orderId = context.orderId)
    (committed :
      Commits
        (insertAcceptedWithOrderBoundDispenseConfirmation machineId input
          context now)
        before () after) :
    ∃ settlement,
      (LineResult.success machineId input context now).Due before
        settlement ∧
      settlement.Settles before after := by
  simp only [insertAcceptedWithOrderBoundDispenseConfirmation, insertRaw,
    commits_bind, commits_get, commits_require, commits_modify] at committed
  obtain ⟨_, _, ⟨_, _, ⟨rfl, rfl⟩, _, before, ⟨_, rfl⟩, rfl⟩, confirmed⟩ :=
    committed
  obtain ⟨command, row, valid, found, unsettled, _, _, _, _, hasLine,
    finished⟩ := commits_confirmOrderBoundDispenseSucceeded confirmed
  obtain ⟨line, isLine⟩ := Option.isSome_iff_exists.mp hasLine
  have sameId : line.id = context.orderItemId := Table.key_of_find? isLine
  have lines :
      (LineResult.success machineId input context now).lines before =
        [line] := by
    have isUnsettled : before.unsettledCommand context.vendingCommandId =
        some command :=
      unsettledCommand_of_found found unsettled
    have isStored : before.orderItems.find? context.orderItemId =
      some line := isLine
    simp only [LineResult.lines, isUnsettled, isStored, Option.toList_some]
  refine ⟨.ofSuccess context.orderId line.id now,
    .success lines (ofOrder line isLine), ?_⟩
  rw [Db.settleDispense_eq, ← sameId] at finished
  exact settles_of_confirmed _
    (OrderSideKept.beforeFulfilling machineId input context row valid)
    finished

theorem LineResult.settle_cases
    (definite : result.IsDefinite before)
    (committed : Commits result.settle before () after) :
    OrderSideKept before after ∨
      ∃ settlement, result.Due before settlement ∧
        settlement.Settles before after := by
  cases result with
  | failure delivery preferred now =>
    simp only [LineResult.settle, commits_bind, commits_pure] at committed
    obtain ⟨context, _, received, _, rfl⟩ := committed
    exact receiveDispenseResult_cases definite received
  | success machineId input context now =>
    exact Or.inr (insertAcceptedWithConfirmation_cases definite committed)

end VendingSystem.Platform
