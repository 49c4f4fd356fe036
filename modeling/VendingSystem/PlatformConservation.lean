import VendingSystem.Machine
import VendingSystem.PlatformDispenseResults

namespace VendingSystem.Platform

/-!
# Conservation of reserved stock

The reserved stock of an inventory is the sum of its active reservations.
Each operation on reservations changes both sides by the same quantity, as
long as the row that it closes is not larger than the quantity that it takes
off the inventory.
-/

/-- Reserved stock equals the active reservations, in every inventory. -/
def Db.ReservationsConserved (db : Db) : Prop :=
  ∀ inventoryId, db.reservedQty inventoryId = db.activeReservedQty inventoryId

section Quantities

variable {db : Db} {inventoryId : InventoryId} {row : Inventory}
  {onHandQty reservedQty quantity : Nat} {orderItemId : Option OrderItemId}
  {orderId : OrderId} {expiresAt : Time} {status : InventoryReservationStatus}

section

variable (found : db.inventories.find? inventoryId = some row)

include found

theorem Db.reservedQty_setInventory
    (valid : reservedQty ≤ onHandQty)
    (other : InventoryId) :
    (db.setInventory inventoryId onHandQty reservedQty valid).reservedQty
        other =
      if other = inventoryId then reservedQty else db.reservedQty other := by
  unfold Db.reservedQty Db.setInventory
  simp only [Table.find?_modify]
  by_cases same : other = inventoryId
  · subst same
    simp [found]
  · simp [same]

theorem Db.onHandQty_setInventory
    (valid : reservedQty ≤ onHandQty)
    (other : InventoryId) :
    (db.setInventory inventoryId onHandQty reservedQty valid).onHandQty
        other =
      if other = inventoryId then onHandQty else db.onHandQty other := by
  unfold Db.onHandQty Db.setInventory
  simp only [Table.find?_modify]
  by_cases same : other = inventoryId
  · subst same
    simp [found]
  · simp [same]

theorem Db.reservedQty_of_found :
    db.reservedQty inventoryId = row.reservedQty := by
  simp [Db.reservedQty, found]

theorem Db.onHandQty_of_found :
    db.onHandQty inventoryId = row.onHandQty := by
  simp [Db.onHandQty, found]

end

theorem Db.activeReservedQty_addReservation
    (positive : 0 < quantity)
    (other : InventoryId) :
    (db.addReservation orderId inventoryId orderItemId quantity expiresAt
        positive).activeReservedQty other =
      db.activeReservedQty other +
        if inventoryId = other then quantity else 0 := by
  unfold Db.activeReservedQty Db.addReservation
  rw [Table.total_insertNext _ rfl]
  simp [InventoryReservation.activeQuantity]

theorem Db.activeReservedQty_closeReservation
    {reservation : InventoryReservation}
    (stored : reservation ∈ db.inventoryReservations)
    (active : reservation.status = .active)
    (closes : status ≠ .active)
    (other : InventoryId) :
    (db.closeReservation reservation.id status).activeReservedQty other +
        (if reservation.inventoryId = other then reservation.quantity
          else 0) =
      db.activeReservedQty other := by
  have moved := Table.total_modify (Table.find?_of_mem stored)
    (fun row => { row with status }) (fun _ => rfl)
    (InventoryReservation.activeQuantity other)
  simp only [InventoryReservation.activeQuantity, active, closes, and_true,
    and_false, ↓reduceIte, Nat.add_zero] at moved
  exact moved

/-! What a write leaves alone. -/

@[simp] theorem Db.activeReservedQty_setInventory
    {valid : reservedQty ≤ onHandQty} :
    (db.setInventory inventoryId onHandQty reservedQty
      valid).activeReservedQty = db.activeReservedQty := rfl

@[simp] theorem Db.reservedQty_addReservation
    {positive : 0 < quantity} :
    (db.addReservation orderId inventoryId orderItemId quantity expiresAt
      positive).reservedQty = db.reservedQty := rfl

@[simp] theorem Db.reservedQty_closeReservation
    {reservationId : Nat} :
    (db.closeReservation reservationId status).reservedQty =
      db.reservedQty := rfl

end Quantities

namespace Db.ReservationsConserved

variable {db : Db} {inventoryId : InventoryId} {row : Inventory}
  {onHandQty : Nat}

theorem of_same
    {after : Db}
    (conserved : db.ReservationsConserved)
    (inventories : after.inventories = db.inventories)
    (reservations :
      after.inventoryReservations = db.inventoryReservations) :
    after.ReservationsConserved := by
  intro other
  have kept := conserved other
  unfold Db.reservedQty Db.activeReservedQty at kept ⊢
  rw [inventories, reservations]
  exact kept

theorem reserve
    (conserved : db.ReservationsConserved)
    (found : db.inventories.find? inventoryId = some row)
    {orderId : OrderId}
    {orderItemId : Option OrderItemId}
    {quantity : Nat}
    {expiresAt : Time}
    (valid : row.reservedQty + quantity ≤ row.onHandQty)
    (positive : 0 < quantity) :
    ((db.setInventory inventoryId row.onHandQty (row.reservedQty + quantity)
      valid).addReservation orderId inventoryId orderItemId quantity
        expiresAt positive).ReservationsConserved := by
  intro other
  rw [Db.reservedQty_addReservation, Db.reservedQty_setInventory found,
    Db.activeReservedQty_addReservation, Db.activeReservedQty_setInventory,
    ← conserved other]
  by_cases same : other = inventoryId
  · subst same
    simp [Db.reservedQty_of_found found]
  · have differs : inventoryId ≠ other := fun equal => same equal.symm
    simp [same, differs]

/-- Closing a whole row takes the same quantity off both sides. -/
theorem close
    (conserved : db.ReservationsConserved)
    (found : db.inventories.find? inventoryId = some row)
    {reservation : InventoryReservation}
    (stored : reservation ∈ db.inventoryReservations)
    (active : reservation.status = .active)
    (sameInventory : reservation.inventoryId = inventoryId)
    {status : InventoryReservationStatus}
    (closes : status ≠ .active)
    (valid : row.reservedQty - reservation.quantity ≤ onHandQty) :
    ((db.setInventory inventoryId onHandQty
      (row.reservedQty - reservation.quantity) valid).closeReservation
        reservation.id status).ReservationsConserved := by
  intro other
  have closed :=
    Db.activeReservedQty_closeReservation
      (show reservation ∈
          (db.setInventory inventoryId onHandQty
            (row.reservedQty - reservation.quantity)
              valid).inventoryReservations from stored)
      active closes other
  have kept := conserved other
  rw [Db.reservedQty_closeReservation, Db.reservedQty_setInventory found]
  rw [Db.activeReservedQty_setInventory, sameInventory] at closed
  by_cases same : other = inventoryId
  · subst same
    rw [Db.reservedQty_of_found found] at kept
    simp only [↓reduceIte] at closed ⊢
    omega
  · have differs : inventoryId ≠ other := fun equal => same equal.symm
    simp only [differs, ↓reduceIte, Nat.add_zero] at closed
    simp only [same, ↓reduceIte]
    omega

theorem setOnHand
    (conserved : db.ReservationsConserved)
    (found : db.inventories.find? inventoryId = some row)
    (valid : row.reservedQty ≤ onHandQty) :
    (db.setInventory inventoryId onHandQty row.reservedQty
      valid).ReservationsConserved := by
  intro other
  rw [Db.reservedQty_setInventory found, Db.activeReservedQty_setInventory,
    ← conserved other]
  by_cases same : other = inventoryId
  · subst same
    simp [Db.reservedQty_of_found found]
  · simp [same]

end Db.ReservationsConserved

/-- Conservation passes from one state to the next. -/
def KeepsConserved (before after : Db) : Prop :=
  before.ReservationsConserved → after.ReservationsConserved

section Operations

open Transaction

variable {before after : Db} {preferred : Nat} {input : ReservationInput}
  {answer : Unit} {reason : ReservationReleaseReason} {orderId : OrderId}

instance : IsPreorder Db KeepsConserved where
  refl _ := id
  trans _ _ _ leading trailing := trailing ∘ leading

theorem OrderSideOnly.keepsConserved
    (orderSide : OrderSideOnly before after) :
    KeepsConserved before after := fun conserved =>
  conserved.of_same orderSide.inventories orderSide.inventoryReservations

theorem reserveForOrder_keepsConserved (input : ReserveForOrderInput) :
    Within KeepsConserved (reserveForOrder input) := by
  intro before after answer committed conserved
  obtain ⟨row, positive, valid, found, _, rfl⟩ :=
    commits_reserveForOrder committed
  exact (conserved.reserve found valid positive).of_same rfl rfl

theorem confirmReservation_keepsConserved
    (committed :
      Commits (confirmReservation input preferred) before answer after)
    (covered : ∀ reservation,
      before.inventoryReservations.anyRow input.selects preferred =
        some reservation → reservation.quantity ≤ input.quantity) :
    KeepsConserved before after := by
  intro conserved
  rcases commits_confirmReservation committed with
    rfl | ⟨reservation, row, valid, picked, found, _, _, rfl⟩
  · exact conserved
  · obtain ⟨stored, selected⟩ := Table.anyRow_sound picked
    obtain ⟨_, sameInventory, _, active⟩ :=
      ReservationInput.selects_iff.mp selected
    have whole : min input.quantity reservation.quantity =
        reservation.quantity := Nat.min_eq_right (covered _ picked)
    simp only [whole] at valid ⊢
    exact (conserved.close found stored active sameInventory
      (by decide) valid).of_same rfl rfl

theorem releaseReservation_keepsConserved
    (committed :
      Commits (releaseReservation input reason preferred)
        before answer after)
    (covered : ∀ reservation,
      before.inventoryReservations.anyRow input.selects preferred =
        some reservation → reservation.quantity ≤ input.quantity) :
    KeepsConserved before after := by
  intro conserved
  rcases commits_releaseReservation committed with
    rfl | ⟨reservation, row, valid, picked, found, _, rfl⟩
  · exact conserved
  · obtain ⟨stored, selected⟩ := Table.anyRow_sound picked
    obtain ⟨_, sameInventory, _, active⟩ :=
      ReservationInput.selects_iff.mp selected
    have whole : min input.quantity reservation.quantity =
        reservation.quantity := Nat.min_eq_right (covered _ picked)
    simp only [whole] at valid ⊢
    exact (conserved.close found stored active sameInventory
      (by decide) valid).of_same rfl rfl

/-- The order's active reservations on one inventory have one quantity. -/
def Db.HoldsEvenly (db : Db) (orderId : OrderId) : Prop :=
  ∀ first ∈ db.activeReservationsOfOrder orderId,
    ∀ second ∈ db.activeReservationsOfOrder orderId,
      first.inventoryId = second.inventoryId →
        first.quantity = second.quantity

instance (db : Db) (orderId : OrderId) :
    Decidable (db.HoldsEvenly orderId) :=
  inferInstanceAs (Decidable (∀ first ∈ _, ∀ second ∈ _, _ → _))

theorem Db.mem_activeReservationsOfOrder
    {db : Db}
    {reservation : InventoryReservation} :
    reservation ∈ db.activeReservationsOfOrder orderId ↔
      reservation ∈ db.inventoryReservations ∧
        reservation.orderId = orderId ∧ reservation.status = .active := by
  simp [Db.activeReservationsOfOrder, Table.mem_def]

theorem releaseReservation_active
    (committed :
      Commits (releaseReservation input reason preferred)
        before answer after)
    {reservation : InventoryReservation}
    (stored : reservation ∈ after.inventoryReservations)
    (active : reservation.status = .active) :
    reservation ∈ before.inventoryReservations := by
  rcases commits_releaseReservation committed with
    rfl | ⟨picked, row, valid, _, _, _, rfl⟩
  · exact stored
  · obtain ⟨old, oldStored, same⟩ := Db.mem_closeReservation.mp stored
    split at same
    · subst same
      cases active
    · subst same
      exact oldStored

/--
Releasing rows of an order one by one conserves when the order held evenly in
the state that the rows were read from.
-/
theorem releaseEach_keepsConserved
    {origin : Db}
    {preferred : InventoryReservation → Nat}
    {reservations : List InventoryReservation}
    (even : origin.HoldsEvenly orderId)
    (read : ∀ reservation ∈ reservations,
      reservation ∈ origin.activeReservationsOfOrder orderId)
    (remaining : ∀ reservation ∈ before.activeReservationsOfOrder orderId,
      reservation ∈ origin.activeReservationsOfOrder orderId)
    (committed :
      Commits
        (forM reservations fun reservation =>
          releaseReservation
            { orderId
              orderItemId := none
              inventoryId := reservation.inventoryId
              quantity := reservation.quantity }
            reason (preferred reservation))
        before answer after) :
    KeepsConserved before after := by
  induction reservations generalizing before with
  | nil =>
    rw [commits_forM_nil] at committed
    subst committed
    exact id
  | cons reservation rest inductionHypothesis =>
    obtain ⟨middle, released, later⟩ := commits_forM_cons.mp committed
    intro conserved
    have middleConserved : middle.ReservationsConserved := by
      apply releaseReservation_keepsConserved released _ conserved
      intro picked isPicked
      obtain ⟨stored, selected⟩ := Table.anyRow_sound isPicked
      obtain ⟨sameOrder, sameInventory, _, active⟩ :=
        ReservationInput.selects_iff.mp selected
      have held := remaining picked
        (Db.mem_activeReservationsOfOrder.mpr ⟨stored, sameOrder, active⟩)
      exact le_of_eq
        (even picked held reservation (read _ List.mem_cons_self)
          sameInventory)
    apply inductionHypothesis _ _ later middleConserved
    · intro other member
      exact read other (List.mem_cons_of_mem _ member)
    · intro other member
      obtain ⟨stored, sameOrder, active⟩ :=
        Db.mem_activeReservationsOfOrder.mp member
      exact remaining other
        (Db.mem_activeReservationsOfOrder.mpr
          ⟨releaseReservation_active released stored active, sameOrder,
            active⟩)

theorem releaseActiveReservations_keepsConserved
    {preferred : InventoryReservation → Nat}
    (even : before.HoldsEvenly orderId)
    (committed :
      Commits (releaseActiveReservationsForOrder orderId reason preferred)
        before answer after) :
    KeepsConserved before after := by
  rw [releaseActiveReservationsForOrder, commits_get_bind] at committed
  exact releaseEach_keepsConserved even (fun _ member => member)
    (fun _ member => member) committed

/-! Closing a set of rows at once. -/

theorem activeReservedQty_closeWhere
    (db : Db)
    (test : InventoryReservation → Bool)
    {status : InventoryReservationStatus}
    (closes : status ≠ .active)
    (other : InventoryId) :
    db.activeReservedQty other =
      (db.inventoryReservations.updateWhere test
          (fun row => { row with status })).total
        (InventoryReservation.activeQuantity other) +
      db.inventoryReservations.total (fun row =>
        if test row then row.activeQuantity other else 0) := by
  rw [Table.total_updateWhere, ← Table.total_add]
  apply Table.total_congr
  intro row _
  by_cases taken : test row = true
  · simp [taken, InventoryReservation.activeQuantity, closes]
  · simp [taken]

/-- What the sweep gives back is what it closes. -/
theorem Db.expiredQty_eq (db : Db) (now : Time) (inventoryId : InventoryId) :
    db.expiredQty now inventoryId =
      db.inventoryReservations.total (fun row =>
        if row.expiredAt now then row.activeQuantity inventoryId else 0) := by
  apply Table.total_congr
  intro row _
  by_cases expired : row.expiredAt now = true
  · have active : row.status = .active := by
      simp only [InventoryReservation.expiredAt, Bool.and_eq_true,
        decide_eq_true_eq] at expired
      exact expired.1
    simp [expired, InventoryReservation.activeQuantity, active]
  · simp [expired]

theorem Db.reservedQty_releaseExpired
    (db : Db)
    (now : Time)
    (inventoryId : InventoryId) :
    (db.releaseExpired now).reservedQty inventoryId =
      db.reservedQty inventoryId - db.expiredQty now inventoryId := by
  have looked :
      (db.releaseExpired now).inventories.find? inventoryId =
        (db.inventories.find? inventoryId).map
          (fun row => row.lowerReserved (db.expiredQty now row.id)) := by
    simp [Db.releaseExpired]
  unfold Db.reservedQty
  rw [looked]
  cases found : db.inventories.find? inventoryId with
  | none => simp
  | some row => simp [Inventory.lowerReserved, Table.key_of_find? found]

/-- The sweep takes the same quantity off both sides. -/
theorem releaseExpired_keepsConserved (now : Time) :
    Within KeepsConserved (releaseExpiredInventoryReservations now) := by
  apply Within.modify
  intro db conserved other
  have split := activeReservedQty_closeWhere db
    (fun row => row.expiredAt now)
    (show InventoryReservationStatus.released ≠ .active by decide) other
  have kept := conserved other
  rw [Db.reservedQty_releaseExpired, Db.expiredQty_eq, kept, split]
  exact Nat.add_sub_cancel _ _

def Db.lineReservedQty
    (db : Db)
    (context : OrderBoundDispenseConfirmationContext) : Nat :=
  db.inventoryReservations.total fun row =>
    if row.orderId = context.orderId ∧
        row.inventoryId = context.inventoryId ∧
        row.orderItemId = some context.orderItemId ∧ row.status = .active then
      row.quantity
    else 0

theorem Db.activeReservedQty_confirmLineReservations
    (db : Db)
    (context : OrderBoundDispenseConfirmationContext)
    (other : InventoryId) :
    (db.confirmLineReservations context).activeReservedQty other +
        (if other = context.inventoryId then db.lineReservedQty context
          else 0) =
      db.activeReservedQty other := by
  have split := activeReservedQty_closeWhere db
    (fun reservation =>
      reservation.orderId = context.orderId &&
        reservation.inventoryId = context.inventoryId &&
        reservation.orderItemId = some context.orderItemId &&
        reservation.status = .active)
    (show InventoryReservationStatus.confirmed ≠ .active by decide) other
  rw [split]
  apply congrArg₂ (· + ·)
  · rfl
  · split
    · rename_i same
      subst same
      apply Table.total_congr
      intro row _
      by_cases taken :
          row.orderId = context.orderId ∧
            row.inventoryId = context.inventoryId ∧
            row.orderItemId = some context.orderItemId ∧
            row.status = .active
      · simp [InventoryReservation.activeQuantity, taken]
      · simp only [taken, ↓reduceIte]
        split
        · rename_i selected
          simp only [Bool.and_eq_true, decide_eq_true_eq, and_assoc] at selected
          exact (taken selected).elim
        · rfl
    · rename_i differs
      symm
      apply Table.total_eq_zero
      intro row _
      split
      · rename_i selected
        simp only [Bool.and_eq_true, decide_eq_true_eq] at selected
        have elsewhere : row.inventoryId ≠ other := fun equal =>
          differs (equal.symm.trans selected.1.1.2)
        simp [InventoryReservation.activeQuantity, elsewhere]
      · rfl

theorem confirmDispense_keepsConserved
    {machineId : MachineId}
    {input : RawMachineStockMovement}
    {context : OrderBoundDispenseConfirmationContext}
    {now : Time}
    (committed :
      Commits
        (confirmOrderBoundDispenseSucceededInTransaction machineId input
          context now)
        before answer after)
    (covered : before.lineReservedQty context = context.quantity) :
    KeepsConserved before after := by
  obtain ⟨command, row, valid, _, _, found, _, _, _, _, finished⟩ :=
    commits_confirmOrderBoundDispenseSucceeded committed
  intro conserved
  apply (OrderSideOnly.syncOrderAndStagePartialRefund _ _
    finished).keepsConserved
  intro other
  have reserved := Db.reservedQty_setInventory found valid other
  have active := before.activeReservedQty_confirmLineReservations context other
  have kept := conserved other
  change
    (before.setInventory context.inventoryId
      (row.onHandQty - context.quantity)
      (row.reservedQty - context.quantity) valid).reservedQty other =
      (before.confirmLineReservations context).activeReservedQty other
  rw [reserved]
  by_cases same : other = context.inventoryId
  · subst same
    rw [Db.reservedQty_of_found found] at kept
    simp only [↓reduceIte, covered] at active ⊢
    omega
  · simp only [same, ↓reduceIte] at active ⊢
    omega

/-! The remaining operations conserve whatever they are given. -/

theorem updateInventory_keepsConserved
    (inventoryId : InventoryId)
    (guard : Inventory → Bool)
    (onHandQty : Inventory → Nat) :
    Within KeepsConserved
      (updateInventory inventoryId guard onHandQty Inventory.reservedQty) := by
  intro before after answer committed conserved
  rcases commits_updateInventory.mp committed with
    ⟨_, _, rfl⟩ | ⟨row, found, _, _, valid, rfl⟩
  · exact conserved
  · exact conserved.setOnHand found valid

theorem insertInventoryMovement_keepsConserved
    (inventoryId : InventoryId)
    (deltaQty : Int)
    (reason : InventoryMovementReason)
    (orderId : Option OrderId)
    (note : Option InventoryMovementNote) :
    Within KeepsConserved
      (insertInventoryMovement inventoryId deltaQty reason orderId note) :=
  Within.modify fun _ conserved => conserved.of_same rfl rfl

theorem adjust_keepsConserved (input : AdjustInventoryInput) :
    Within KeepsConserved (adjust input) := by
  apply Within.bind (updateInventory_keepsConserved _ _ _)
  intro updated
  cases updated with
  | some row => exact insertInventoryMovement_keepsConserved _ _ _ _ _
  | none =>
    apply Within.bind Within.get
    intro db
    apply Within.bind (Within.require _ _)
    intro _
    exact Within.throw _

theorem applyTrusted_keepsConserved
    (machineId : MachineId)
    (input : RawMachineStockMovement) :
    Within KeepsConserved
      (applyTrustedFieldStockMovement machineId input) := by
  unfold applyTrustedFieldStockMovement
  split
  · apply Within.bind (updateInventory_keepsConserved _ _ _)
    intro updated
    cases updated with
    | none => exact Within.pure _
    | some row =>
      apply Within.bind (insertInventoryMovement_keepsConserved _ _ _ _ _)
      intro _
      exact Within.pure _
  · exact Within.pure _

theorem closeCase_keepsConserved
    (action : StockReconciliationResolveAction)
    (id : StockReconciliationCaseId)
    (db : Db) :
    KeepsConserved db (db.closeCase action id) := fun conserved => by
  cases id with
  | rawMovement machineId movementId => exact conserved.of_same rfl rfl
  | conflict conflictId => exact conserved.of_same rfl rfl

theorem applyResolution_keepsConserved
    (id : StockReconciliationCaseId)
    (current : StockReconciliationCase)
    (input : StockReconciliationResolveInput) :
    Within KeepsConserved (applyResolution id current input) := by
  apply Within.bind Within.get
  intro db
  split
  · exact Within.modify (closeCase_keepsConserved _ _)
  · apply Within.bind (Within.requireSome _ _)
    intro inventory
    apply Within.bind (Within.require _ _)
    intro _
    apply Within.bind (Within.modify (closeCase_keepsConserved _ _))
    intro _
    apply Within.bind
    · apply Within.bind (updateInventory_keepsConserved _ _ _)
      intro updated
      exact Within.require _ _
    · intro _
      exact insertInventoryMovement_keepsConserved _ _ _ _ _

theorem resolveCase_keepsConserved
    (id : StockReconciliationCaseId)
    (input : StockReconciliationResolveInput) :
    Within KeepsConserved (resolveCase id input) := by
  apply Within.bind Within.get
  intro db
  split
  · exact Within.pure _
  · apply Within.bind (applyResolution_keepsConserved _ _ _)
    intro _
    apply Within.bind
    · unfold clearResolvedCaseBlocker
      split
      · exact Within.modify fun _ conserved => conserved.of_same rfl rfl
      · exact Within.pure _
    · intro _
      exact Within.pure _

theorem createCompensation_keepsConserved
    (input : CompensationInput)
    (now : Time) :
    Within KeepsConserved (createCompensationDispenseCommand input now) := by
  intro before after answer committed conserved
  obtain ⟨row, inventory, positive, valid, _, found, _, rfl⟩ :=
    commits_createCompensationDispenseCommand committed
  exact (conserved.reserve found valid positive).of_same rfl rfl

theorem createOrderLine_keepsConserved
    (orderId : OrderId)
    (paymentExpiresAt : Time)
    (item : ItemDetail) :
    Within KeepsConserved (createOrderLine orderId paymentExpiresAt item) := by
  apply Within.bind
  · apply Within.bind Within.get
    intro db
    split
    · apply Within.bind
        (Within.modify fun _ conserved => conserved.of_same rfl rfl)
      intro _
      exact Within.pure _
    · exact Within.throw _
  · intro orderItemId
    exact reserveForOrder_keepsConserved _

/-- The lookups before an order is written change nothing. -/
theorem itemDetail_unchanged
    {relation : Db → Db → Prop}
    [IsPreorder Db relation]
    (machineId : MachineId)
    (item : MachineOrderItemInput) :
    Within relation (itemDetail machineId item) := by
  apply Within.bind Within.get
  intro db
  apply Within.bind (Within.requireSome _ _)
  intro row
  apply Within.bind (Within.require _ _)
  intro _
  apply Within.bind (Within.require _ _)
  intro _
  apply Within.bind (Within.require _ _)
  intro _
  exact Within.pure _

theorem createLocalMachineOrderDraft_keepsConserved
    (input : CreateMachineOrderInput)
    (machineId : MachineId)
    (paymentExpiresAt : Time)
    (paymentSelection : MachinePaymentSelection) :
    Within KeepsConserved
      (createLocalMachineOrderDraft input machineId paymentExpiresAt
        paymentSelection) := by
  apply Within.bind
  · exact Within.bind Within.get fun _ => Within.require _ _
  intro _
  apply Within.bind
  · exact Within.bind Within.get fun _ => Within.require _ _
  intro _
  apply Within.bind (Within.mapM (itemDetail_unchanged machineId) _)
  intro itemDetails
  apply Within.bind
  · apply Within.forM
    intro item
    exact Within.bind Within.get fun _ => Within.require _ _
  intro _
  apply Within.bind Within.get
  intro db
  apply Within.bind (Within.modify fun _ conserved => conserved.of_same rfl rfl)
  intro _
  apply Within.bind (Within.forM (createOrderLine_keepsConserved _ _) _)
  intro _
  apply Within.bind Within.get
  intro db
  apply Within.bind (Within.requireSome _ _)
  intro provider
  apply Within.bind (Within.modify fun _ conserved => conserved.of_same rfl rfl)
  intro _
  apply Within.bind (Within.modify fun _ conserved => conserved.of_same rfl rfl)
  intro _
  exact Within.pure _

end Operations

end VendingSystem.Platform
