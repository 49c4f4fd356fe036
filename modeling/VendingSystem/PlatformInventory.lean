import VendingSystem.PlatformSchema

namespace VendingSystem.Platform

/-!
# Stock and reservations

Stock is reserved for an order line, and a reservation is confirmed, given
back by its order, or given back by the expiry sweep.  A `LIMIT 1` selection
without an order takes the row it prefers, so a function that makes one
carries the preferred row as an argument.
-/

/-- The stock on hand of an inventory. -/
def Db.onHandQty (db : Db) (inventoryId : InventoryId) : Nat :=
  ((db.inventories.find? inventoryId).map Inventory.onHandQty).getD 0

/-- The reserved stock of an inventory. -/
def Db.reservedQty (db : Db) (inventoryId : InventoryId) : Nat :=
  ((db.inventories.find? inventoryId).map Inventory.reservedQty).getD 0

/-- The quantity that a reservation keeps reserved in an inventory. -/
def InventoryReservation.activeQuantity
    (inventoryId : InventoryId)
    (reservation : InventoryReservation) : Nat :=
  if reservation.inventoryId = inventoryId ∧ reservation.status = .active then
    reservation.quantity
  else 0

/-- The sum of the active reservations of an inventory. -/
def Db.activeReservedQty (db : Db) (inventoryId : InventoryId) : Nat :=
  db.inventoryReservations.total
    (InventoryReservation.activeQuantity inventoryId)

/-- The database with new quantities in one inventory. -/
def Db.setInventory
    (db : Db)
    (inventoryId : InventoryId)
    (onHandQty reservedQty : Nat)
    (valid : reservedQty ≤ onHandQty) : Db :=
  { db with
    inventories := db.inventories.modify inventoryId fun row =>
      { row with
        onHandQty := onHandQty
        reservedQty := reservedQty
        reservedLteOnHand := valid } }

/--
`UPDATE inventories SET … WHERE id = … AND guard RETURNING …`: the row before
the write, or none when no row qualified.
-/
def updateInventory
    (inventoryId : InventoryId)
    (guard : Inventory → Bool)
    (onHandQty reservedQty : Inventory → Nat) :
    DrizzleTransaction (Option Inventory) := do
  let db ← get
  match (db.inventories.find? inventoryId).filter guard with
  | none => pure none
  | some inventory =>
    if valid : reservedQty inventory ≤ onHandQty inventory then do
      modify fun db =>
        db.setInventory inventoryId (onHandQty inventory)
          (reservedQty inventory) valid
      pure (some inventory)
    else
      throw (.checkViolation "inventories_reserved_qty_lte_on_hand_qty")

/-- A guarded write that must find its row. -/
def updateOneInventory
    (inventoryId : InventoryId)
    (guard : Inventory → Bool)
    (onHandQty reservedQty : Inventory → Nat)
    (refusal : ServiceError) : DrizzleTransaction Unit := do
  let updated ← updateInventory inventoryId guard onHandQty reservedQty
  Transaction.require updated.isSome refusal

/-- The database with one more row in the movement ledger. -/
def Db.addMovement
    (db : Db)
    (inventoryId : InventoryId)
    (deltaQty : Int)
    (reason : InventoryMovementReason)
    (orderId : Option OrderId)
    (note : Option InventoryMovementNote) : Db :=
  { db with
    inventoryMovements := db.inventoryMovements.insertNext fun id =>
      { id, inventoryId, deltaQty, reason, orderId, note } }

/-- The database with one more active reservation. -/
def Db.addReservation
    (db : Db)
    (orderId : OrderId)
    (inventoryId : InventoryId)
    (orderItemId : Option OrderItemId)
    (quantity : Nat)
    (expiresAt : Time)
    (quantityPositive : 0 < quantity) : Db :=
  { db with
    inventoryReservations := db.inventoryReservations.insertNext fun id =>
      { id, orderId, inventoryId, orderItemId, quantity, expiresAt
        quantityPositive
        status := .active } }

/-- The database with one reservation moved to a status. -/
def Db.closeReservation
    (db : Db)
    (reservationId : Nat)
    (status : InventoryReservationStatus) : Db :=
  { db with
    inventoryReservations :=
      db.inventoryReservations.modify reservationId fun row =>
        { row with status } }

/-- Insert a row of the movement ledger. -/
def insertInventoryMovement
    (inventoryId : InventoryId)
    (deltaQty : Int)
    (reason : InventoryMovementReason)
    (orderId : Option OrderId)
    (note : Option InventoryMovementNote) : DrizzleTransaction Unit :=
  modify fun db => db.addMovement inventoryId deltaQty reason orderId note

/-- Insert an active reservation; its quantity must be positive. -/
def insertActiveReservation
    (orderId : OrderId)
    (inventoryId : InventoryId)
    (orderItemId : Option OrderItemId)
    (quantity : Nat)
    (expiresAt : Time) : DrizzleTransaction Unit :=
  if positive : 0 < quantity then
    modify fun db =>
      db.addReservation orderId inventoryId orderItemId quantity expiresAt
        positive
  else throw (.checkViolation "inventory_reservations_quantity_positive")

def setReservationStatus
    (reservationId : Nat)
    (status : InventoryReservationStatus) : DrizzleTransaction Unit :=
  modify fun db => db.closeReservation reservationId status

theorem Db.mem_closeReservation
    {db : Db}
    {reservationId : Nat}
    {status : InventoryReservationStatus}
    {reservation : InventoryReservation} :
    reservation ∈
        (db.closeReservation reservationId status).inventoryReservations ↔
      ∃ old ∈ db.inventoryReservations,
        (if old.id = reservationId then { old with status } else old) =
          reservation := by
  simp only [Db.closeReservation, Table.mem_modify]

structure ReserveForOrderInput where
  orderId : OrderId
  orderItemId : Option OrderItemId
  inventoryId : InventoryId
  quantity : Nat
  expiresAt : Time
  deriving Repr, DecidableEq

def reserveForOrder (input : ReserveForOrderInput) :
    DrizzleTransaction Unit := do
  updateOneInventory input.inventoryId
    (fun row => input.quantity ≤ row.onHandQty - row.reservedQty)
    (fun row => row.onHandQty)
    (fun row => row.reservedQty + input.quantity)
    (.conflict "Inventory is not available")
  insertActiveReservation input.orderId input.inventoryId input.orderItemId
    input.quantity input.expiresAt
  insertInventoryMovement input.inventoryId 0 .purchaseReserved
    (some input.orderId) none

/-- The reservation that a caller asks to confirm or to release. -/
structure ReservationInput where
  orderId : OrderId
  orderItemId : Option OrderItemId
  inventoryId : InventoryId
  quantity : Nat
  deriving Repr, DecidableEq

/-- An active reservation of the order, and of the line when one is named. -/
def ReservationInput.selects
    (input : ReservationInput)
    (reservation : InventoryReservation) : Bool :=
  reservation.orderId = input.orderId &&
    reservation.inventoryId = input.inventoryId &&
    input.orderItemId.all (fun item => reservation.orderItemId = some item) &&
    reservation.status = .active

def confirmReservation
    (input : ReservationInput)
    (preferred : Nat) : DrizzleTransaction Unit := do
  let db ← get
  match db.inventoryReservations.anyRow input.selects preferred with
  | none => pure ()
  | some reservation => do
      let quantity := min input.quantity reservation.quantity
      updateOneInventory input.inventoryId
        (fun row => quantity ≤ row.onHandQty && quantity ≤ row.reservedQty)
        (fun row => row.onHandQty - quantity)
        (fun row => row.reservedQty - quantity)
        (.conflict "Inventory confirmation failed")
      setReservationStatus reservation.id .confirmed
      insertInventoryMovement input.inventoryId (-quantity)
        .purchaseConfirmed (some input.orderId) none

def releaseReservation
    (input : ReservationInput)
    (reason : ReservationReleaseReason)
    (preferred : Nat) : DrizzleTransaction Unit := do
  let db ← get
  match db.inventoryReservations.anyRow input.selects preferred with
  | none => pure ()
  | some reservation => do
      let quantity := min input.quantity reservation.quantity
      updateOneInventory input.inventoryId
        (fun row => quantity ≤ row.reservedQty)
        (fun row => row.onHandQty)
        (fun row => row.reservedQty - quantity)
        (.conflict "Inventory reservation release failed")
      setReservationStatus reservation.id .released
      insertInventoryMovement input.inventoryId 0 .reservationReleased
        (some input.orderId) (some (.released reason))

def Db.activeReservationsOfOrder (db : Db) (orderId : OrderId) :
    List InventoryReservation :=
  db.inventoryReservations.rows.filter fun reservation =>
    reservation.orderId = orderId && reservation.status = .active

/--
Release, one by one, what the order holds.  Each call names the inventory and
the quantity of a row read at the start, but neither its line nor its id.
-/
def releaseActiveReservationsForOrder
    (orderId : OrderId)
    (reason : ReservationReleaseReason)
    (preferred : InventoryReservation → Nat) : DrizzleTransaction Unit := do
  let db ← get
  forM (db.activeReservationsOfOrder orderId) fun reservation =>
    releaseReservation
      { orderId
        orderItemId := none
        inventoryId := reservation.inventoryId
        quantity := reservation.quantity }
      reason (preferred reservation)

/-- The sweep takes active reservations whose time has come. -/
def InventoryReservation.expiredAt
    (now : Time)
    (reservation : InventoryReservation) : Bool :=
  reservation.status = .active && reservation.expiresAt ≤ now

/-- What the sweep gives back to one inventory. -/
def Db.expiredQty (db : Db) (now : Time) (inventoryId : InventoryId) : Nat :=
  db.inventoryReservations.total fun reservation =>
    if reservation.expiredAt now ∧ reservation.inventoryId = inventoryId then
      reservation.quantity
    else 0

/-- An inventory with its reserved stock lowered, but not below zero. -/
def Inventory.lowerReserved (row : Inventory) (quantity : Nat) :
    Inventory :=
  { row with
    reservedQty := row.reservedQty - quantity
    reservedLteOnHand := by
      have := row.reservedLteOnHand
      omega }

@[simp] theorem Inventory.lowerReserved_id
    (row : Inventory)
    (quantity : Nat) :
    (row.lowerReserved quantity).id = row.id := rfl

/-- The database after one sweep. -/
def Db.releaseExpired (db : Db) (now : Time) : Db :=
  { db with
    inventoryReservations := db.inventoryReservations.updateWhere
      (fun reservation => reservation.expiredAt now)
      (fun reservation => { reservation with status := .released })
    inventories := db.inventories.updateWhere
      (fun _ => true)
      (fun row => row.lowerReserved (db.expiredQty now row.id))
      (fun row => row.lowerReserved_id _)
    inventoryMovements :=
      (db.inventoryReservations.rows.filter (·.expiredAt now)).foldl
        (fun movements reservation =>
          movements.insertNext fun id =>
            { id
              inventoryId := reservation.inventoryId
              deltaQty := 0
              reason := .reservationReleased
              orderId := some reservation.orderId
              note := some (.released .paymentExpired) })
        db.inventoryMovements }

/-- One statement releases every expired reservation, whatever its order. -/
def releaseExpiredInventoryReservations (now : Time) :
    DrizzleTransaction Unit :=
  modify fun db => db.releaseExpired now

structure AdjustInventoryInput where
  inventoryId : InventoryId
  deltaQty : Int
  note : Option String
  deriving Repr, DecidableEq

/-- An operator's correction of the stock on hand. -/
def adjust (input : AdjustInventoryInput) : DrizzleTransaction Unit := do
  let updated ← updateInventory input.inventoryId
    (fun row =>
      0 ≤ row.onHandQty + input.deltaQty &&
        (row.reservedQty : Int) ≤ row.onHandQty + input.deltaQty)
    (fun row => (row.onHandQty + input.deltaQty).toNat)
    (fun row => row.reservedQty)
  match updated with
  | some _ =>
    insertInventoryMovement input.inventoryId input.deltaQty .adjust none
      (input.note.map .operator)
  | none => do
      let db ← get
      Transaction.require (db.inventories.find? input.inventoryId).isSome
        (.notFound "Inventory not found")
      throw (.conflict
        "Adjustment would make inventory negative or below reserved quantity")

/-- The lines that a dispense failure concerns. -/
def Db.affectedLines
    (db : Db)
    (orderId : OrderId)
    (orderItemId : Option OrderItemId)
    (slotId : SlotId) : List OrderItem :=
  db.orderItems.rows.filter fun line =>
    line.orderId = orderId &&
      match orderItemId with
      | some item => line.id = item
      | none => line.slotId = slotId

/--
Give back what a failed dispense held.  Whether the slot becomes faulted is
the policy of the error code.
-/
def releaseAffectedReservationForDispenseFailure
    (orderId : OrderId)
    (orderItemId : Option OrderItemId)
    (slotId : SlotId)
    (faultSlot : Bool)
    (preferred : OrderItem → Nat) : DrizzleTransaction Unit := do
  let db ← get
  forM (db.affectedLines orderId orderItemId slotId) fun line =>
    releaseReservation
      { orderId
        orderItemId
        inventoryId := line.inventoryId
        quantity := line.quantity }
      .dispenseFailed (preferred line)
  modify fun db =>
    { db with
      machineSlots := db.machineSlots.updateWhere
        (fun slot => faultSlot && slot.id = slotId)
        (fun slot => { slot with status := .faulted }) }

section Commits

open Transaction

variable {before after : Db} {inventoryId : InventoryId}
  {guard : Inventory → Bool} {answer : Unit} {input : ReservationInput}
  {preferred : Nat}

theorem commits_updateInventory
    {onHandQty reservedQty : Inventory → Nat}
    {answer : Option Inventory} :
    Commits (updateInventory inventoryId guard onHandQty reservedQty)
        before answer after ↔
      ((before.inventories.find? inventoryId).filter guard = none ∧
        answer = none ∧ after = before) ∨
      ∃ row, before.inventories.find? inventoryId = some row ∧
        guard row = true ∧ answer = some row ∧
        ∃ valid, after = before.setInventory inventoryId (onHandQty row)
          (reservedQty row) valid := by
  unfold updateInventory
  rw [commits_get_bind]
  cases selected : (before.inventories.find? inventoryId).filter guard with
  | none =>
    rw [commits_pure]
    constructor
    · exact fun nothing => Or.inl ⟨rfl, nothing⟩
    · rintro (⟨_, nothing⟩ | ⟨row, found, qualifies, _⟩)
      · exact nothing
      · simp [found, qualifies] at selected
  | some row =>
    obtain ⟨found, qualifies⟩ := Option.filter_eq_some_iff.mp selected
    by_cases valid : reservedQty row ≤ onHandQty row
    · simp [found, valid, qualifies, and_comm]
    · simp [found, valid]

/-- A required write rewrote the row it found. -/
theorem commits_updateOneInventory
    {onHandQty reservedQty : Inventory → Nat}
    {refusal : ServiceError} :
    Commits
        (updateOneInventory inventoryId guard onHandQty reservedQty refusal)
        before answer after ↔
      ∃ row, before.inventories.find? inventoryId = some row ∧
        guard row = true ∧
        ∃ valid, after = before.setInventory inventoryId (onHandQty row)
          (reservedQty row) valid := by
  simp only [updateOneInventory, commits_bind, commits_require,
    commits_updateInventory]
  constructor
  · rintro ⟨_, _, ⟨_, rfl, rfl⟩ | ⟨row, found, qualifies, rfl, valid, rfl⟩,
      isSome, rfl⟩
    · cases isSome
    · exact ⟨row, found, qualifies, valid, rfl⟩
  · rintro ⟨row, found, qualifies, valid, rfl⟩
    exact ⟨some row, _, Or.inr ⟨row, found, qualifies, rfl, valid, rfl⟩,
      rfl, rfl⟩

theorem commits_insertActiveReservation
    {orderId : OrderId}
    {orderItemId : Option OrderItemId}
    {quantity : Nat}
    {expiresAt : Time} :
    Commits
        (insertActiveReservation orderId inventoryId orderItemId quantity
          expiresAt)
        before answer after ↔
      ∃ positive, after = before.addReservation orderId inventoryId
        orderItemId quantity expiresAt positive := by
  unfold insertActiveReservation
  split
  · rename_i positive
    simp [positive]
  · rename_i notPositive
    simp [notPositive]

theorem commits_reserveForOrder
    {input : ReserveForOrderInput}
    (reserved : Commits (reserveForOrder input) before answer after) :
    ∃ row positive valid,
      before.inventories.find? input.inventoryId = some row ∧
      input.quantity ≤ row.onHandQty - row.reservedQty ∧
      after =
        ((before.setInventory input.inventoryId row.onHandQty
            (row.reservedQty + input.quantity) valid).addReservation
          input.orderId input.inventoryId input.orderItemId input.quantity
          input.expiresAt positive).addMovement
          input.inventoryId 0 .purchaseReserved (some input.orderId) none := by
  simp only [reserveForOrder, commits_bind, commits_updateOneInventory,
    commits_insertActiveReservation, insertInventoryMovement,
    commits_modify] at reserved
  obtain ⟨_, _, ⟨row, found, guard, valid, rfl⟩, _, _, ⟨positive, rfl⟩,
    rfl⟩ := reserved
  exact ⟨row, positive, valid, found, by simpa using guard, rfl⟩

/-- A confirmation found nothing to confirm, or closed the row it picked. -/
theorem commits_confirmReservation
    (confirmed :
      Commits (confirmReservation input preferred) before answer after) :
    after = before ∨
      ∃ reservation row valid,
        before.inventoryReservations.anyRow input.selects preferred =
          some reservation ∧
        before.inventories.find? input.inventoryId = some row ∧
        min input.quantity reservation.quantity ≤ row.onHandQty ∧
        min input.quantity reservation.quantity ≤ row.reservedQty ∧
        after =
          ((before.setInventory input.inventoryId
              (row.onHandQty - min input.quantity reservation.quantity)
              (row.reservedQty - min input.quantity reservation.quantity)
              valid).closeReservation reservation.id .confirmed).addMovement
            input.inventoryId
            (-(min input.quantity reservation.quantity : Nat))
            .purchaseConfirmed (some input.orderId) none := by
  simp only [confirmReservation, commits_get_bind] at confirmed
  cases picked :
      before.inventoryReservations.anyRow input.selects preferred with
  | none =>
    rw [picked] at confirmed
    exact Or.inl (commits_pure.mp confirmed).2
  | some reservation =>
    simp only [picked, commits_bind, commits_updateOneInventory,
      setReservationStatus, insertInventoryMovement, commits_modify]
      at confirmed
    obtain ⟨_, _, ⟨row, found, guard, valid, rfl⟩, _, _, rfl, rfl⟩ :=
      confirmed
    simp only [Bool.and_eq_true, decide_eq_true_eq] at guard
    exact Or.inr ⟨reservation, row, valid, rfl, found, guard.1, guard.2, rfl⟩

/-- A release found nothing to release, or closed the row it picked. -/
theorem commits_releaseReservation
    {reason : ReservationReleaseReason}
    (released :
      Commits (releaseReservation input reason preferred)
        before answer after) :
    after = before ∨
      ∃ reservation row valid,
        before.inventoryReservations.anyRow input.selects preferred =
          some reservation ∧
        before.inventories.find? input.inventoryId = some row ∧
        min input.quantity reservation.quantity ≤ row.reservedQty ∧
        after =
          ((before.setInventory input.inventoryId row.onHandQty
              (row.reservedQty - min input.quantity reservation.quantity)
              valid).closeReservation reservation.id .released).addMovement
            input.inventoryId 0 .reservationReleased (some input.orderId)
            (some (.released reason)) := by
  simp only [releaseReservation, commits_get_bind] at released
  cases picked :
      before.inventoryReservations.anyRow input.selects preferred with
  | none =>
    rw [picked] at released
    exact Or.inl (commits_pure.mp released).2
  | some reservation =>
    simp only [picked, commits_bind, commits_updateOneInventory,
      setReservationStatus, insertInventoryMovement, commits_modify]
      at released
    obtain ⟨_, _, ⟨row, found, guard, valid, rfl⟩, _, _, rfl, rfl⟩ :=
      released
    exact Or.inr
      ⟨reservation, row, valid, rfl, found, by simpa using guard, rfl⟩

theorem ReservationInput.selects_iff
    {reservation : InventoryReservation} :
    input.selects reservation = true ↔
      reservation.orderId = input.orderId ∧
        reservation.inventoryId = input.inventoryId ∧
        (∀ item, input.orderItemId = some item →
          reservation.orderItemId = some item) ∧
        reservation.status = .active := by
  cases named : input.orderItemId <;>
    simp [ReservationInput.selects, named, and_assoc]

end Commits

end VendingSystem.Platform
