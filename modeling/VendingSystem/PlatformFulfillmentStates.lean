import VendingSystem.PlatformOrderStateRuns
import VendingSystem.PlatformRefundStaging

namespace VendingSystem.Platform

/-!
# The fulfillment state that is projected from the lines

The vending service and the stock repository project it with a different tail.
The stock repository projects only after it dispensed a line, and then both
project the same; so every run of results leaves the vending projection.
-/

open Transaction

variable {before after first : Db} {lines others : List OrderItem}
  {line : OrderItem} {orderId : OrderId} {order : Order}

/--
Some lines failed but not all, and no line was dispensed or is handled by an
operator.
-/
structure OnlyFailed (lines : List OrderItem) : Prop where
  failed : 0 < countLines lines .dispenseFailed
  notAll : countLines lines .dispenseFailed ≠ lines.length
  notDispensed : countLines lines .dispensed = 0
  notManual : countLines lines .manualHandling = 0

theorem stockFulfillmentState_eq_iff (lines : List OrderItem) :
    stockFulfillmentState lines = vendingFulfillmentState lines ↔
      ¬ OnlyFailed lines := by
  constructor
  · rintro same ⟨failed, notAll, notDispensed, notManual⟩
    have notEmpty : 0 ≠ lines.length := by
      have bounded : countLines lines .dispenseFailed ≤ lines.length :=
        List.length_filter_le _ _
      omega
    simp [stockFulfillmentState, vendingFulfillmentState, notManual,
      notDispensed, notEmpty, notAll, failed] at same
  · intro notOnly
    unfold stockFulfillmentState vendingFulfillmentState
    dsimp only
    split_ifs with manual dispensed all both failed
    · rfl
    · rfl
    · rfl
    · rfl
    · refine absurd ⟨failed, all, ?_, Nat.eq_zero_of_not_pos manual⟩ notOnly
      simpa [failed] using both
    · rfl

theorem countLines_pos
    (isLine : line ∈ lines) :
    0 < countLines lines line.fulfillmentStatus :=
  List.length_pos_of_mem (List.mem_filter.mpr ⟨isLine, decide_eq_true rfl⟩)

theorem not_onlyFailed_of_dispensed
    (isLine : line ∈ lines)
    (dispensed : line.fulfillmentStatus = .dispensed) :
    ¬ OnlyFailed lines := by
  intro only
  have positive := countLines_pos isLine
  rw [dispensed, only.notDispensed] at positive
  exact absurd positive (Nat.lt_irrefl 0)

theorem countLines_congr
    (same : lines.map OrderItem.fulfillmentStatus =
      others.map OrderItem.fulfillmentStatus)
    (status : OrderLineFulfillmentStatus) :
    countLines lines status = countLines others status := by
  have counted : ∀ lines : List OrderItem, countLines lines status =
      (lines.map OrderItem.fulfillmentStatus).countP (· = status) := by
    intro lines
    rw [List.countP_map, List.countP_eq_length_filter]
    rfl
  rw [counted, counted, same]

theorem vendingFulfillmentState_congr
    (same : lines.map OrderItem.fulfillmentStatus =
      others.map OrderItem.fulfillmentStatus) :
    vendingFulfillmentState lines = vendingFulfillmentState others := by
  have sameLength : lines.length = others.length := by
    simpa using congrArg List.length same
  simp only [vendingFulfillmentState, countLines_congr same, sameLength]

theorem not_onlyFailed_of_closed
    (closed : lines.any OrderItem.isOpen = false) :
    ¬ OnlyFailed lines := by
  intro only
  apply only.notAll
  have allFailed : ∀ line ∈ lines,
      line.fulfillmentStatus = .dispenseFailed := by
    intro line isLine
    have positive := countLines_pos isLine
    have notOpen := List.any_eq_false.mp closed line isLine
    cases status : line.fulfillmentStatus with
    | pending => simp [OrderItem.isOpen, status] at notOpen
    | dispensing => simp [OrderItem.isOpen, status] at notOpen
    | dispensed => simp [status, only.notDispensed] at positive
    | dispenseFailed => rfl
    | manualHandling => simp [status, only.notManual] at positive
  unfold countLines
  rw [List.filter_eq_self.mpr fun line isLine =>
    decide_eq_true (allFailed line isLine)]

/-- A projection leaves the lines and writes the projected state. -/
theorem commits_sync
    {project : List OrderItem → OrderFulfillmentState}
    (synced :
      Commits (syncOrderFulfillmentStateFromLines project orderId)
        before () after) :
    after.orderItems = before.orderItems ∧
      ∀ order ∈ after.orders,
        (order.id = orderId ∧ before.linesOfOrder orderId ≠ [] ∧
          order.fulfillmentState = project (before.linesOfOrder orderId)) ∨
        ((order.id ≠ orderId ∨ before.linesOfOrder orderId = []) ∧
          order ∈ before.orders) := by
  rw [syncOrderFulfillmentStateFromLines, commits_get_bind] at synced
  dsimp only at synced
  split at synced
  · rename_i noLines
    obtain ⟨_, rfl⟩ := commits_pure.mp synced
    exact ⟨rfl, fun order stored => Or.inr ⟨Or.inr noLines, stored⟩⟩
  · rename_i someLines
    cases found : before.orders.find? orderId with
    | none =>
      rw [found] at synced
      obtain ⟨_, rfl⟩ := commits_pure.mp synced
      refine ⟨rfl, fun order stored => Or.inr ⟨Or.inl ?_, stored⟩⟩
      exact Table.find?_eq_none_iff.mp found order stored
    | some current =>
      simp only [found] at synced
      have sameId := Table.key_of_find? found
      split at synced
      · rename_i unchanged
        obtain ⟨_, rfl⟩ := commits_pure.mp synced
        refine ⟨rfl, fun order stored => ?_⟩
        by_cases named : order.id = orderId
        · obtain rfl := Table.eq_of_key_eq stored
            (Table.mem_of_find? found) (named.trans sameId.symm)
          exact Or.inl ⟨named, someLines, unchanged⟩
        · exact Or.inr ⟨Or.inl named, stored⟩
      · obtain rfl := commits_modify.mp synced
        refine ⟨rfl, fun order stored => ?_⟩
        have isRow : order ∈ before.orders.modify orderId fun row =>
            { row with
              status := projectOrderStatus current.paymentState
                (project (before.linesOfOrder orderId))
              paymentState := current.paymentState
              fulfillmentState := project (before.linesOfOrder orderId) } :=
          stored
        obtain ⟨old, oldStored, changed⟩ := Table.mem_modify.mp isRow
        split at changed
        · rename_i named
          subst changed
          exact Or.inl ⟨named, someLines, rfl⟩
        · rename_i other
          subst changed
          exact Or.inr ⟨Or.inl other, oldStored⟩

theorem state_of_sync
    (project : List OrderItem → OrderFulfillmentState)
    (stored : before.orders.find? orderId = some order)
    (someLines : before.linesOfOrder orderId ≠ []) :
    ∃ after written,
      Commits (syncOrderFulfillmentStateFromLines project orderId)
        before () after ∧
      after.orders.find? orderId = some written ∧
      written.fulfillmentState = project (before.linesOfOrder orderId) := by
  unfold syncOrderFulfillmentStateFromLines
  simp only [commits_get_bind, if_neg someLines, stored]
  by_cases unchanged :
      order.fulfillmentState = project (before.linesOfOrder orderId)
  · exact ⟨before, order, by simp [unchanged], stored, unchanged⟩
  · simp only [if_neg unchanged, commits_modify]
    refine ⟨_,
      { order with
        status := projectOrderStatus order.paymentState
          (project (before.linesOfOrder orderId))
        fulfillmentState := project (before.linesOfOrder orderId) },
      rfl, ?_, rfl⟩
    rw [Db.setOrderStates, Table.find?_modify, stored]
    simp

theorem sync_eq_iff
    {db : Db}
    (stored : db.orders.find? orderId = some order) :
    (syncOrderFulfillmentStateFromLines stockFulfillmentState orderId).run
        db =
      (syncOrderFulfillmentStateFromLines vendingFulfillmentState orderId).run
        db ↔
      ¬ OnlyFailed (db.linesOfOrder orderId) := by
  rw [← stockFulfillmentState_eq_iff]
  constructor
  · intro same
    by_cases noLines : db.linesOfOrder orderId = []
    · rw [noLines]
      rfl
    · obtain ⟨stocked, ofStock, stockCommits, isStock, stockState⟩ :=
        state_of_sync stockFulfillmentState stored noLines
      obtain ⟨vended, ofVending, vendingCommits, isVending, vendingState⟩ :=
        state_of_sync vendingFulfillmentState stored noLines
      unfold Commits at stockCommits vendingCommits
      rw [← same, stockCommits] at vendingCommits
      cases vendingCommits
      cases isStock.symm.trans isVending
      exact stockState.symm.trans vendingState
  · intro same
    change (if db.linesOfOrder orderId = [] then pure ()
      else _ : DrizzleTransaction Unit).run db = (if _ then _ else _ :
        DrizzleTransaction Unit).run db
    simp only [stored, same]

section LineSettlement

variable {result : LineResult} {settlement : LineSettlement} {middle : Db}

theorem LineSettlement.Fits.lines_of_ne
    (fits : settlement.Fits result before)
    (other : orderId ≠ settlement.orderId) :
    (before.changeLines settlement.test settlement.change
        settlement.keepsId).linesOfOrder orderId =
      before.linesOfOrder orderId := by
  rw [linesOfOrder_changeLines _ _ _ _ fits.keepsOrder]
  have unchanged : ∀ line ∈ before.linesOfOrder orderId,
      (if settlement.test line then settlement.change line else line) =
        line := by
    intro line isLine
    obtain ⟨stored, isOfOrder⟩ := List.mem_filter.mp isLine
    rw [if_neg]
    intro isTested
    have ofOrder := fits.ofOrder line ((fits.test line stored).mp isTested)
    exact other ((of_decide_eq_true isOfOrder).symm.trans ofOrder)
  exact (List.map_congr_left unchanged).trans (List.map_id _)

theorem LineSettlement.Fits.exists_changed
    (fits : settlement.Fits result before) :
    ∃ line ∈ before.orderItems,
      settlement.change line ∈
        (before.changeLines settlement.test settlement.change
          settlement.keepsId).linesOfOrder settlement.orderId := by
  obtain ⟨line, isLine⟩ := List.exists_mem_of_ne_nil _ fits.nonempty
  have stored := LineResult.mem_lines isLine
  refine ⟨line, stored, ?_⟩
  rw [linesOfOrder_changeLines _ _ _ _ fits.keepsOrder]
  refine List.mem_map.mpr ⟨line, List.mem_filter.mpr
    ⟨stored, decide_eq_true (fits.ofOrder line isLine)⟩, ?_⟩
  rw [if_pos ((fits.test line stored).mpr isLine)]

theorem OrderSideKept.changeLines
    (kept : OrderSideKept before middle) :
    (middle.changeLines settlement.test settlement.change
        settlement.keepsId).orderItems =
      (before.changeLines settlement.test settlement.change
        settlement.keepsId).orderItems := by
  unfold Db.changeLines
  rw [kept.orderItems]

theorem lines_of_sync
    {synced : Db}
    (kept : OrderSideKept before middle)
    (syncs :
      Commits
        (syncOrderFulfillmentStateFromLines settlement.project
          settlement.orderId)
        (middle.changeLines settlement.test settlement.change
          settlement.keepsId) () synced)
    (orderId : OrderId) :
    synced.linesOfOrder orderId =
      (before.changeLines settlement.test settlement.change
        settlement.keepsId).linesOfOrder orderId := by
  unfold Db.linesOfOrder
  rw [(commits_sync syncs).1, kept.changeLines]

theorem LineResult.Due.project_eq
    (due : result.Due before settlement) :
    settlement.project
        ((before.changeLines settlement.test settlement.change
          settlement.keepsId).linesOfOrder settlement.orderId) =
      vendingFulfillmentState
        ((before.changeLines settlement.test settlement.change
          settlement.keepsId).linesOfOrder settlement.orderId) := by
  obtain ⟨line, _, isChanged⟩ := due.fits.exists_changed
  cases due with
  | failure nonempty ofOrder => rfl
  | success isLine ofOrder =>
    exact (stockFulfillmentState_eq_iff _).mpr
      (not_onlyFailed_of_dispensed isChanged rfl)

end LineSettlement

/-- The order is as it was, with its lines, or as its lines are projected. -/
def Db.FollowsLines (first db : Db) : Prop :=
  ∀ order ∈ db.orders,
    (db.lineStatuses order.id = first.lineStatuses order.id ∧
      ∃ old ∈ first.orders, old.id = order.id ∧
        old.fulfillmentState = order.fulfillmentState) ∨
    order.fulfillmentState =
      vendingFulfillmentState (db.linesOfOrder order.id)

theorem Db.FollowsLines.later
    (follows : first.FollowsLines before)
    (kept : StatesKept before after) : first.FollowsLines after := by
  intro order stored
  obtain ⟨old, oldStored, sameId, sameState⟩ := kept.states order stored
  rw [← sameId, ← sameState, kept.statuses]
  refine (follows old oldStored).imp_right fun projected => ?_
  exact projected.trans
    (vendingFulfillmentState_congr (kept.statuses old.id).symm)

/-- A settled result projects its order, and leaves the others. -/
theorem Db.FollowsLines.settles
    {result : LineResult}
    {settlement : LineSettlement}
    (follows : first.FollowsLines before)
    (due : result.Due before settlement)
    (settles : settlement.Settles before after) :
    first.FollowsLines after := by
  obtain ⟨middle, synced, kept, syncs, stages⟩ := settles
  refine Db.FollowsLines.later ?_ (StatesKept.stage stages)
  have orders := (commits_sync syncs).2
  have linesOf := lines_of_sync kept syncs
  have marked : ∀ orderId,
      (middle.changeLines settlement.test settlement.change
        settlement.keepsId).linesOfOrder orderId =
      (before.changeLines settlement.test settlement.change
        settlement.keepsId).linesOfOrder orderId := by
    intro orderId
    unfold Db.linesOfOrder
    rw [kept.changeLines]
  intro order stored
  rcases orders order stored with ⟨named, _, projected⟩ | ⟨other, same⟩
  · right
    rw [projected, marked, due.project_eq, linesOf, named]
  · have isOther : order.id ≠ settlement.orderId := by
      rcases other with other | noLines
      · exact other
      · obtain ⟨line, _, isChanged⟩ := due.fits.exists_changed
        rw [marked] at noLines
        rw [noLines] at isChanged
        cases isChanged
    have oldStored : order ∈ before.orders := by
      rw [← kept.orders]
      exact same
    have sameOf := (linesOf order.id).trans (due.fits.lines_of_ne isOther)
    unfold Db.lineStatuses
    rw [sameOf]
    exact follows order oldStored

theorem projected_step
    {result : LineResult}
    (projected : ∀ order ∈ before.orders, order.Projected)
    (committed : Commits result.settle before () after) :
    ∀ order ∈ after.orders, order.Projected := by
  have keeps : ∃ dispensed, OrdersKept dispensed before after := by
    cases result with
    | failure delivery preferred now =>
      simp only [LineResult.settle, commits_bind, commits_pure] at committed
      obtain ⟨context, _, received, _, rfl⟩ := committed
      exact ⟨_, OrdersKept.receiveDispenseResult received⟩
    | success machineId input context now =>
      simp only [LineResult.settle,
        insertAcceptedWithOrderBoundDispenseConfirmation,
        commits_bind] at committed
      obtain ⟨_, _, inserted, confirmed⟩ := committed
      exact ⟨_, (OrdersKept.of_stockSideOnly
        (StockSideOnly.insertRaw _ _ _ _ inserted)).trans
        (OrdersKept.confirmOrderBoundDispenseSucceeded confirmed)⟩
  obtain ⟨dispensed, kept⟩ := keeps
  intro order stored
  rcases kept.projected order stored with
    isProjected | ⟨old, oldStored, status, payment, fulfillment⟩
  · exact isProjected
  · have oldProjected := projected old oldStored
    unfold Order.Projected at oldProjected ⊢
    rw [← status, ← payment, ← fulfillment]
    exact oldProjected

theorem follows_step
    {result : LineResult}
    (follows : first.FollowsLines before)
    (definite : result.IsDefinite before)
    (committed : Commits result.settle before () after) :
    first.FollowsLines after := by
  rcases LineResult.settle_cases definite committed with
    kept | ⟨settlement, due, settles⟩
  · exact follows.later (.of_kept kept)
  · exact follows.settles due settles

/--
Both services write the same state exactly where lines did not only fail, as
when no line is open.  Whatever results arrive in whatever order, a success
writes the state that the vending service projects, too: an order is left as
it was, or follows its lines, and its status is the projection of its states.
-/
theorem fulfillment_follows_lines
    {last : Db}
    {results : List LineResult}
    (projected : ∀ order ∈ first.orders, order.Projected)
    (definite :
      lineResultMachine.RunMeets (fun db result => result.IsDefinite db)
        first results)
    (run : lineResultMachine.run first results = some last) :
    (∀ (db : Db) (orderId : OrderId) (order : Order),
      db.orders.find? orderId = some order →
      ((syncOrderFulfillmentStateFromLines stockFulfillmentState
            orderId).run db =
          (syncOrderFulfillmentStateFromLines vendingFulfillmentState
            orderId).run db ↔
        ¬ OnlyFailed (db.linesOfOrder orderId))) ∧
      (∀ lines : List OrderItem, lines.any OrderItem.isOpen = false →
        stockFulfillmentState lines = vendingFulfillmentState lines) ∧
      first.FollowsLines last ∧
      ∀ order ∈ last.orders, order.Projected := by
  have stepKeeps : ∀ {db result next},
      first.FollowsLines db ∧ (∀ order ∈ db.orders, order.Projected) →
      LineResult.IsDefinite result db →
      lineResultMachine.step db result = some next →
      first.FollowsLines next ∧ ∀ order ∈ next.orders, order.Projected := by
    rintro db result next ⟨follows, isProjected⟩ isDefinite step
    rcases execute_cases result.settle db with
      ⟨refusal, failed⟩ | ⟨answer, after, committed, succeeded⟩
    · simp only [lineResultMachine, failed, Option.some.injEq] at step
      subst step
      exact ⟨follows, isProjected⟩
    · simp only [lineResultMachine, succeeded, Option.some.injEq] at step
      subst step
      exact ⟨follows_step follows isDefinite committed,
        projected_step isProjected committed⟩
  have start : first.FollowsLines first :=
    fun order stored => Or.inl ⟨rfl, order, stored, rfl, rfl⟩
  refine ⟨fun db orderId order stored => sync_eq_iff stored,
    fun lines closed =>
      (stockFulfillmentState_eq_iff lines).mpr
        (not_onlyFailed_of_closed closed),
    Machine.run_keeps_of_meets stepKeeps ⟨start, projected⟩ definite run⟩

/-- Slots 5 and 6 are ordered from the mock provider, and the order is paid. -/
def payForTwoLines : List OrderEvent :=
  [.submit (.inl (.inl
      (.createOrder (twoSlotOrder [(5, 1), (6, 2)] .mock .mock) 1 900))),
    .advance 0 (orderInput 1 .unsupported),
    .advance 0 (orderInput 2 .unsupported),
    .advance 0
      (orderInput 3
        (.intent
          { providerTradeNo := none, paymentUrl := "qr"
            initialStatus := none })),
    .advance 0 (orderInput 4 .unsupported),
    .submit (.inl (.inl
      (.webhookReceived 1 .mock
        { providerEventId := .named "paid", paymentStatus := .succeeded
          providerTradeNo := none, businessValid := true }))),
    .advance 0 (orderInput 7 .unsupported),
    .advance 0 (orderInput 8 .unsupported)]

/-- Both lines wait for the results of commands 1 and 2. -/
def twoPaidLines : Db :=
  ((orderService.machine.run { db := twoSlotDb, tasks := [] }
    payForTwoLines).map Service.Runtime.db).getD twoSlotDb

def noDropOf (commandId : CommandId) : LineResult :=
  .failure
    { machineId := 1, messageId := commandId, faultSlot := false
      payload :=
        { commandNo := commandId, success := false
          errorCode := some .noDrop, message := "no drop"
          reportedAt := 20 } }
    (fun _ => 0) 20

def firstLineDispensed : LineResult :=
  .success 1
    { movementId := .mqttDispense 1, planogramVersion := 1, slotId := 5
      movementType := .dispenseSucceeded, quantity := 1
      beforeQuantity := none, afterQuantity := none
      slotMappingSnapshot := none, source := .vendingCommand
      attributedTo := none, orderContext := none, occurredAt := 21 }
    { orderId := 1, orderItemId := 1, inventoryId := 50, quantity := 1
      vendingCommandId := 1 }
    21

/-- A line fails and the other is dispensed: the order follows both. -/
theorem fulfillment_follows_lines_partial :
    ∃ last,
      lineResultMachine.run twoPaidLines [noDropOf 2, firstLineDispensed] =
        some last ∧
      (last.orders.find? 1).map Order.fulfillmentState =
        some .partialDispensed ∧
      twoPaidLines.FollowsLines last := by
  have definite :
      lineResultMachine.RunMeets (fun db result => result.IsDefinite db)
        twoPaidLines [noDropOf 2, firstLineDispensed] := by
    decide +kernel
  have rows : ∀ order ∈ twoPaidLines.orders.rows, order.status =
      projectOrderStatus order.paymentState order.fulfillmentState := by
    decide +kernel
  have projected : ∀ order ∈ twoPaidLines.orders, order.Projected := rows
  have reached :
      (lineResultMachine.run twoPaidLines
        [noDropOf 2, firstLineDispensed]).any (fun last =>
          (last.orders.find? 1).map Order.fulfillmentState =
            some .partialDispensed) = true := by
    decide +kernel
  obtain ⟨last, run, ended⟩ := (Option.any_eq_true _ _).mp reached
  exact ⟨last, run, of_decide_eq_true ended,
    (fulfillment_follows_lines projected definite run).2.2.1⟩

/-- While the other line is open, the stock repository would end the order. -/
theorem fulfillment_projections_differ :
    ∃ db, lineResultMachine.run twoPaidLines [noDropOf 2] = some db ∧
      (((syncOrderFulfillmentStateFromLines vendingFulfillmentState 1).execute
        db).2.orders.find? 1).map Order.fulfillmentState =
          some .dispensing ∧
      (((syncOrderFulfillmentStateFromLines stockFulfillmentState 1).execute
        db).2.orders.find? 1).map Order.fulfillmentState =
          some .dispenseFailed := by
  have reached :
      (lineResultMachine.run twoPaidLines [noDropOf 2]).any (fun db =>
        (((syncOrderFulfillmentStateFromLines vendingFulfillmentState
            1).execute db).2.orders.find? 1).map Order.fulfillmentState =
              some .dispensing &&
          (((syncOrderFulfillmentStateFromLines stockFulfillmentState
            1).execute db).2.orders.find? 1).map Order.fulfillmentState =
              some .dispenseFailed) = true := by
    decide +kernel
  obtain ⟨db, run, differ⟩ := (Option.any_eq_true _ _).mp reached
  simp only [Bool.and_eq_true, decide_eq_true_eq] at differ
  exact ⟨db, run, differ⟩

end VendingSystem.Platform
