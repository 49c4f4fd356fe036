import VendingSystem.DaemonDispense

namespace VendingSystem.Daemon

/-!
# What a commit of a journaled result does

The inversion lemmas of the side-effect commit.  A commit that succeeds found
its result in the journal and either had no order session and reported a
failure, or found the session on this command and closed it.  A success takes
the command's quantity off one slot of the active planogram, once.
-/

/-- A slot of the active planogram that a dispense can be taken off. -/
structure CountedSlot (store : Store) (command : DispenseCommandPayload)
    (slot : PlanogramSlot) (projection : StockProjection) : Prop where
  stored : slot ∈ store.machinePlanogramSlots
  active : store.activePlanogramVersion = some slot.planogramVersion
  sameRow : slot.rowNo = command.slot.rowNo
  sameCell : slot.cellNo = command.slot.cellNo
  projected :
    store.currentStockProjection.find? slot.slotId = some projection
  sameVersion : projection.planogramVersion = slot.planogramVersion
  enough : 0 ≤ projection.physicalStock - command.quantity

/-- The movement a dispense of a counted slot records. -/
def dispenseMovement
    (command : DispenseCommandPayload)
    (slot : PlanogramSlot)
    (projection : StockProjection)
    (now : Time) : StockMovement where
  movementId := .dispense command.commandNo
  planogramVersion := slot.planogramVersion
  slotId := slot.slotId
  movementType := .dispenseSucceeded
  quantity := command.quantity
  beforeQuantity := projection.physicalStock
  afterQuantity := projection.physicalStock - command.quantity
  source := .vendingCommand
  attributedTo := some command.commandNo
  occurredAt := now

/-- The physical stock of a slot, under whichever version it is projected. -/
def Store.physicalStockOf (store : Store) (slotId : SlotId) : Option Int :=
  (store.currentStockProjection.find? slotId).map
    StockProjection.physicalStock

theorem physicalStockOf_upsertStockProjection
    (store : Store)
    (version : PlanogramVersion)
    (slotId : SlotId)
    (physicalStock capacity : Int)
    (resetLocalSlotHold : Bool)
    (now : Time)
    (other : SlotId) :
    (upsertStockProjection store version slotId physicalStock capacity
        resetLocalSlotHold now).physicalStockOf other =
      if other = slotId then some (max physicalStock 0)
      else store.physicalStockOf other := by
  unfold upsertStockProjection upsertStockProjectionWithState
    Store.physicalStockOf
  simp only [Table.find?_insertOrUpdate]
  split
  · cases store.currentStockProjection.find? other <;> simp
  · rfl

theorem physicalStockOf_upsertSaleViewProjection
    {store next : Store}
    {version : PlanogramVersion}
    {slotId : SlotId}
    {now : Time}
    (refreshed :
      upsertSaleViewProjection store version slotId now = .ok next)
    (other : SlotId) :
    next.physicalStockOf other = store.physicalStockOf other := by
  rw [upsertSaleViewProjection_frame refreshed]
  rfl

/-- The slot that a successful dispense is taken from. -/
def Store.dispenseSlot
    (store : Store)
    (command : DispenseCommandPayload)
    (preferred : PlanogramVersion × SlotId) : Option PlanogramSlot :=
  store.machinePlanogramSlots.anyRow
    (fun slot =>
      store.isActiveSlot slot && slot.rowNo == command.slot.rowNo &&
        slot.cellNo == command.slot.cellNo &&
        (store.projectionOf slot.planogramVersion slot.slotId).isSome)
    preferred

/-- A store with the movement of a dispense in its ledger. -/
def Store.recordDispense
    (store : Store)
    (command : DispenseCommandPayload)
    (slot : PlanogramSlot)
    (projection : StockProjection)
    (now : Time) : Store :=
  { store with
    stockMovements := store.stockMovements.insertOrIgnore
      (dispenseMovement command slot projection now) }

/-- A success finds its movement, or records it and projects what is left. -/
theorem applyDispenseSuccessToLocalStock_sold
    {store next : Store}
    {command : DispenseCommandPayload}
    {preferred : PlanogramVersion × SlotId}
    {now : Time}
    (applied :
      applyDispenseSuccessToLocalStock store command preferred now =
        .ok next) :
    ((store.stockMovements.find? (.dispense command.commandNo)).isSome ∧
      next = store) ∨
    (store.stockMovements.find? (.dispense command.commandNo) = none ∧
      ∃ slot projection, store.dispenseSlot command preferred = some slot ∧
        CountedSlot store command slot projection ∧
        upsertSaleViewProjection
          (upsertStockProjection
            (store.recordDispense command slot projection now)
            slot.planogramVersion slot.slotId
            (projection.physicalStock - command.quantity)
            slot.capacity false now)
          slot.planogramVersion slot.slotId now = .ok next) := by
  unfold applyDispenseSuccessToLocalStock at applied
  simp only at applied
  split at applied
  · cases applied
  rename_i slot found
  obtain ⟨member, qualifies⟩ := Table.anyRow_sound found
  simp only [Store.isActiveSlot, Store.projectionOf, Bool.and_eq_true,
    beq_iff_eq] at qualifies
  obtain ⟨⟨⟨active, sameRow⟩, sameCell⟩, counted⟩ := qualifies
  obtain ⟨projection, projected⟩ := Option.isSome_iff_exists.mp counted
  obtain ⟨stored, sameVersion⟩ := Option.filter_eq_some_iff.mp projected
  simp only [beq_iff_eq] at sameVersion
  split at applied
  · rename_i repeated
    cases applied
    exact Or.inl ⟨repeated, rfl⟩
  rename_i fresh
  simp only [Store.projectionOf, projected, Option.map_some,
    Option.getD_some] at applied
  split at applied
  · cases applied
  · rename_i enough
    exact Or.inr ⟨by simpa using fresh, slot, projection, found,
      { stored := member
        active := active
        sameRow := sameRow
        sameCell := sameCell
        projected := stored
        sameVersion := sameVersion
        enough := by omega },
      applied⟩

/-- Applying a success to the local stock either repeats or takes it off once. -/
theorem applyDispenseSuccessToLocalStock_cases
    {store next : Store}
    {command : DispenseCommandPayload}
    {preferred : PlanogramVersion × SlotId}
    {now : Time}
    (applied :
      applyDispenseSuccessToLocalStock store command preferred now =
        .ok next) :
    ((store.stockMovements.find? (.dispense command.commandNo)).isSome ∧
      next = store) ∨
    (store.stockMovements.find? (.dispense command.commandNo) = none ∧
      ∃ slot projection, CountedSlot store command slot projection ∧
        next = { store with
          stockMovements := store.stockMovements.insertOrIgnore
            (dispenseMovement command slot projection now)
          currentStockProjection := next.currentStockProjection
          saleViewProjection := next.saleViewProjection } ∧
        (∀ other, next.physicalStockOf other =
          if other = slot.slotId then
            some (projection.physicalStock - command.quantity)
          else store.physicalStockOf other) ∧
        (next.saleViewProjection.find? slot.slotId).map
            SaleViewItem.physicalStock =
          some (projection.physicalStock - command.quantity)) := by
  rcases applyDispenseSuccessToLocalStock_sold applied with
    repeated | ⟨absent, slot, projection, _, counted, refreshed⟩
  · exact Or.inl repeated
  have enough := counted.enough
  have positive :
      max (projection.physicalStock - (command.quantity : Int)) 0 =
        projection.physicalStock - command.quantity := by omega
  refine Or.inr ⟨absent, slot, projection, counted, ?_, ?_, ?_⟩
  · have frame := upsertSaleViewProjection_frame refreshed
    rw [frame]
    rfl
  · intro other
    rw [physicalStockOf_upsertSaleViewProjection refreshed,
      physicalStockOf_upsertStockProjection, positive]
    rfl
  · obtain ⟨item, row, shown, rowFound, samePhysical, _⟩ :=
      upsertSaleViewProjection_shows refreshed
    have projectedStock := physicalStockOf_upsertStockProjection
      (store.recordDispense command slot projection now)
      slot.planogramVersion slot.slotId
      (projection.physicalStock - command.quantity) slot.capacity
      false now slot.slotId
    rw [if_pos rfl, positive, Store.physicalStockOf,
      Option.map_eq_some_iff] at projectedStock
    obtain ⟨stored, storedFound, storedPhysical⟩ := projectedStock
    have sameRow : stored = row :=
      Option.some.inj (storedFound.symm.trans rowFound)
    subst sameRow
    rw [shown, Option.map_some, samePhysical, storedPhysical]

/-- What a successful commit did, given that it reported success. -/
structure CommitEffects
    (store : Store)
    (command : DispenseCommandPayload)
    (result : DispenseResultPayload)
    (preferred : PlanogramVersion × SlotId)
    (now : Time)
    (next : Store) : Prop where
  journaled :
    (store.getCommand command.commandNo).bind
      CommandLogRecord.resultPayload = some result
  written :
    (store.orderSessions.find? command.orderNo = none ∧
      result.success = false ∧
      next = markCommandSideEffectsCommitted
        (insertOutbox store (OutboxEvent.dispenseResult result now))
        command.commandNo now) ∨
    (∃ session stocked,
      store.orderSessions.find? command.orderNo = some session ∧
      session.currentCommandNo = some command.commandNo ∧
      ((result.success = true ∧
          applyDispenseSuccessToLocalStock store command preferred now =
            .ok stocked) ∨
        (result.success = false ∧ stocked = store)) ∧
      next = markCommandSideEffectsCommitted
        (closeOrderSession
          (insertOutbox stocked (OutboxEvent.dispenseResult result now))
          command result now)
        command.commandNo now)

theorem commitJournaledDispenseSideEffects_effects
    {store next : Store}
    {command : DispenseCommandPayload}
    {result : DispenseResultPayload}
    {preferred : PlanogramVersion × SlotId}
    {now : Time}
    {changed : Bool}
    (committed :
      commitJournaledDispenseSideEffects
        store command result preferred now = .ok (next, changed)) :
    CommitEffects store command result preferred now next := by
  unfold commitJournaledDispenseSideEffects at committed
  split at committed
  · cases committed
  · rename_i stored journaled
    split at committed
    · cases committed
    · rename_i sameResult
      have same : stored = result := by simpa using sameResult
      subst same
      refine { journaled := journaled, written := ?_ }
      simp only at committed
      split at committed
      · rename_i noSession
        split at committed
        · cases committed
        · rename_i failed
          cases committed
          exact Or.inl ⟨noSession, by simpa using failed, rfl⟩
      · rename_i session found
        split at committed
        · cases committed
        · rename_i current
          refine Or.inr ?_
          by_cases succeeded : stored.success = true
          · simp only [succeeded, ↓reduceIte] at committed
            cases applied :
                applyDispenseSuccessToLocalStock
                  store command preferred now with
            | error refusal =>
              rw [applied] at committed
              cases committed
            | ok stocked =>
              rw [applied] at committed
              cases committed
              exact ⟨session, stocked, found, by simpa using current,
                Or.inl ⟨succeeded, rfl⟩, rfl⟩
          · have failed : stored.success = false := by
              simpa using succeeded
            simp only [failed, Bool.false_eq_true, ↓reduceIte] at committed
            cases committed
            exact ⟨session, store, found, by simpa using current,
              Or.inr ⟨failed, rfl⟩, rfl⟩

namespace CommitEffects

variable
  {store next : Store}
  {command : DispenseCommandPayload}
  {result : DispenseResultPayload}
  {preferred : PlanogramVersion × SlotId}
  {now : Time}

section

variable (effects : CommitEffects store command result preferred now next)

include effects

theorem getCommand
    (commandNo : CommandNo) :
    next.getCommand commandNo =
      if commandNo = command.commandNo then
        (store.getCommand commandNo).map
          (fun record => { record with sideEffectsCommittedAt := some now })
      else store.getCommand commandNo := by
  rcases effects.written with
    ⟨_, _, rfl⟩ | ⟨session, stocked, _, _, stock, rfl⟩
  · unfold markCommandSideEffectsCommitted Store.getCommand
    rw [Table.find?_modify]
    rfl
  · have sameLog : stocked.commandLog = store.commandLog := by
      rcases stock with ⟨_, applied⟩ | ⟨_, rfl⟩
      · rcases applyDispenseSuccessToLocalStock_cases applied with
          ⟨_, rfl⟩ | ⟨_, slot, projection, _, frame, _, _⟩
        · rfl
        · rw [frame]
      · rfl
    unfold markCommandSideEffectsCommitted Store.getCommand
    rw [Table.find?_modify]
    simp only [closeOrderSession, insertOutbox, sameLog]

theorem failure_frame
    (failed : result.success = false) :
    next.stockMovements = store.stockMovements ∧
      next.currentStockProjection = store.currentStockProjection ∧
      next.saleViewProjection = store.saleViewProjection := by
  rcases effects.written with
    ⟨_, _, rfl⟩ | ⟨session, stocked, _, _, stock, rfl⟩
  · exact ⟨rfl, rfl, rfl⟩
  · rcases stock with ⟨succeeded, _⟩ | ⟨_, rfl⟩
    · rw [failed] at succeeded
      cases succeeded
    · exact ⟨rfl, rfl, rfl⟩

theorem success_applied
    (succeeded : result.success = true) :
    ∃ stocked,
      applyDispenseSuccessToLocalStock store command preferred now =
        .ok stocked ∧
      next.stockMovements = stocked.stockMovements ∧
      next.currentStockProjection = stocked.currentStockProjection ∧
      next.saleViewProjection = stocked.saleViewProjection := by
  rcases effects.written with
    ⟨_, failed, _⟩ | ⟨session, stocked, _, _, stock, rfl⟩
  · rw [succeeded] at failed
    cases failed
  · rcases stock with ⟨_, applied⟩ | ⟨failed, _⟩
    · exact ⟨stocked, applied, rfl, rfl, rfl⟩
    · rw [succeeded] at failed
      cases failed

theorem stockMovementSync :
    next.stockMovementSync = store.stockMovementSync := by
  rcases effects.written with
    ⟨_, _, rfl⟩ | ⟨session, stocked, _, _, stock, rfl⟩
  · rfl
  · rcases stock with ⟨_, applied⟩ | ⟨_, rfl⟩
    · rcases applyDispenseSuccessToLocalStock_cases applied with
        ⟨_, rfl⟩ | ⟨_, slot, projection, _, frame, _, _⟩
      · rfl
      · rw [frame]
        rfl
    · rfl

theorem resultEvent :
    (next.outboxEvents.find? (.result result.commandNo)).map
        OutboxEvent.payload = some (.dispenseResult result) := by
  have inserted : ∀ stocked : Store,
      ((insertOutbox stocked
          (OutboxEvent.dispenseResult result now)).outboxEvents.find?
            (.result result.commandNo)).map OutboxEvent.payload =
        some (.dispenseResult result) := by
    intro stocked
    simp only [insertOutbox, OutboxEvent.dispenseResult,
      Table.find?_insertOrUpdate, ↓reduceIte, Option.map_some]
    cases stocked.outboxEvents.find? (.result result.commandNo) <;> rfl
  rcases effects.written with
    ⟨_, _, rfl⟩ | ⟨session, stocked, _, _, _, rfl⟩
  · exact inserted store
  · exact inserted stocked

theorem closedSession :
    next.orderSessions.find? command.orderNo =
      (store.orderSessions.find? command.orderNo).map fun session =>
        { session with
          status := if result.success then "succeeded" else "failed"
          nextAction :=
            if result.success then "success" else "dispense_failed"
          lastBackendStatus := some (patchBackendStatusForDispenseResult
            (session.lastBackendStatus.getD .blank) command result)
          updatedAt := now } := by
  rcases effects.written with
    ⟨absent, _, rfl⟩ | ⟨session, stocked, _, _, stock, rfl⟩
  · simp [markCommandSideEffectsCommitted, insertOutbox, absent]
  · have sameSessions : stocked.orderSessions = store.orderSessions := by
      rcases stock with ⟨_, applied⟩ | ⟨_, rfl⟩
      · rcases applyDispenseSuccessToLocalStock_cases applied with
          ⟨_, rfl⟩ | ⟨_, slot, projection, _, frame, _, _⟩
        · rfl
        · rw [frame]
      · rfl
    simp [markCommandSideEffectsCommitted, closeOrderSession, insertOutbox,
      sameSessions]

theorem session_of_success
    (succeeded : result.success = true) :
    (store.orderSessions.find? command.orderNo).isSome = true := by
  rcases effects.written with
    ⟨_, failed, _⟩ | ⟨session, stocked, found, _, _, _⟩
  · rw [succeeded] at failed
    cases failed
  · rw [found]
    rfl

end

end CommitEffects

/-- The order session, if there is one, is on the command. -/
def Store.sessionAdmits
    (store : Store)
    (command : DispenseCommandPayload) : Prop :=
  ∀ session ∈ store.orderSessions.find? command.orderNo,
    session.currentCommandNo = some command.commandNo

theorem commit_failure_succeeds
    {store : Store}
    {command : DispenseCommandPayload}
    {result : DispenseResultPayload}
    (preferred : PlanogramVersion × SlotId)
    (now : Time)
    (journaled :
      (store.getCommand command.commandNo).bind
        CommandLogRecord.resultPayload = some result)
    (failed : result.success = false)
    (admits : store.sessionAdmits command) :
    ∃ committed, commitJournaledDispenseSideEffects
      store command result preferred now = .ok committed := by
  unfold commitJournaledDispenseSideEffects
  simp only [journaled, ne_eq, not_true_eq_false, ↓reduceIte, failed,
    Bool.false_eq_true]
  cases found : store.orderSessions.find? command.orderNo with
  | none => exact ⟨_, rfl⟩
  | some session =>
    have current := admits session found
    simp only [current, not_true_eq_false, ↓reduceIte]
    exact ⟨_, rfl⟩

end VendingSystem.Daemon
