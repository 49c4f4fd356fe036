import VendingSystem.PlatformConservation

namespace VendingSystem.Platform

/-!
# Runs of reservation operations

Every operation that moves reserved stock, in any order.  A release or a
confirmation takes its own quantity off the inventory but closes the row it
picked as a whole, so the sum is kept in those runs whose closed rows are not
larger than what is taken off.
-/

/-- An operation with its arguments and the rows that `LIMIT 1` prefers. -/
inductive ReservationEvent where
  | createOrder
      (input : CreateMachineOrderInput)
      (machineId : MachineId)
      (paymentExpiresAt : Time)
  | reserveForOrder (input : ReserveForOrderInput)
  | confirmReservation (input : ReservationInput) (preferred : Nat)
  | releaseReservation
      (input : ReservationInput)
      (reason : ReservationReleaseReason)
      (preferred : Nat)
  | releaseActiveReservationsForOrder
      (orderId : OrderId)
      (reason : ReservationReleaseReason)
      (preferred : InventoryReservation → Nat)
  | releaseExpiredInventoryReservations (now : Time)
  | createCompensationDispenseCommand (input : CompensationInput) (now : Time)
  | confirmOrderBoundDispenseSucceeded
      (machineId : MachineId)
      (input : RawMachineStockMovement)
      (context : OrderBoundDispenseConfirmationContext)
      (now : Time)
  | applyTrustedFieldStockMovement
      (machineId : MachineId)
      (input : RawMachineStockMovement)
  | adjust (input : AdjustInventoryInput)
  | resolveCase
      (id : StockReconciliationCaseId)
      (input : StockReconciliationResolveInput)

/-- The transaction of an operation, without its answer. -/
def ReservationEvent.transaction :
    ReservationEvent → DrizzleTransaction Unit
  | .createOrder input machineId paymentExpiresAt =>
    (fun _ => ()) <$> createAcceptedOrder input machineId paymentExpiresAt
  | .reserveForOrder input => Platform.reserveForOrder input
  | .confirmReservation input preferred =>
    Platform.confirmReservation input preferred
  | .releaseReservation input reason preferred =>
    Platform.releaseReservation input reason preferred
  | .releaseActiveReservationsForOrder orderId reason preferred =>
    Platform.releaseActiveReservationsForOrder orderId reason preferred
  | .releaseExpiredInventoryReservations now =>
    Platform.releaseExpiredInventoryReservations now
  | .createCompensationDispenseCommand input now =>
    Platform.createCompensationDispenseCommand input now
  | .confirmOrderBoundDispenseSucceeded machineId input context now =>
    confirmOrderBoundDispenseSucceededInTransaction machineId input context
      now
  | .applyTrustedFieldStockMovement machineId input =>
    (fun _ => ()) <$>
      Platform.applyTrustedFieldStockMovement machineId input
  | .adjust input => Platform.adjust input
  | .resolveCase id input => (fun _ => ()) <$> Platform.resolveCase id input

/-- Each operation is one transaction; a refused one leaves everything. -/
def reservationMachine : Machine Db ReservationEvent where
  step db event := some (event.transaction.execute db).2

/-- Every row that the selection can answer is at most the asked quantity. -/
def Db.CoversPicks (db : Db) (input : ReservationInput) : Prop :=
  ∀ reservation ∈ db.inventoryReservations.rows,
    input.selects reservation = true → reservation.quantity ≤ input.quantity

instance (db : Db) (input : ReservationInput) :
    Decidable (db.CoversPicks input) :=
  inferInstanceAs (Decidable (∀ reservation ∈ _, _ → _))

/--
What the operation closes is not larger than what it takes off: a named
selection finds no larger row, an order that is released as a whole holds
evenly, and a confirmed line has reserved exactly its quantity.
-/
def ClosesWholeRows (db : Db) : ReservationEvent → Prop
  | .confirmReservation input _ => db.CoversPicks input
  | .releaseReservation input _ _ => db.CoversPicks input
  | .releaseActiveReservationsForOrder orderId _ _ => db.HoldsEvenly orderId
  | .confirmOrderBoundDispenseSucceeded _ _ context _ =>
    db.lineReservedQty context = context.quantity
  | _ => True

instance decidableClosesWholeRows (db : Db) :
    ∀ event, Decidable (ClosesWholeRows db event)
  | .confirmReservation input _ =>
    inferInstanceAs (Decidable (db.CoversPicks input))
  | .releaseReservation input _ _ =>
    inferInstanceAs (Decidable (db.CoversPicks input))
  | .releaseActiveReservationsForOrder orderId _ _ =>
    inferInstanceAs (Decidable (db.HoldsEvenly orderId))
  | .confirmOrderBoundDispenseSucceeded _ _ _ _ =>
    inferInstanceAs (Decidable (_ = _))
  | .createOrder _ _ _
  | .reserveForOrder _
  | .releaseExpiredInventoryReservations _
  | .createCompensationDispenseCommand _ _
  | .applyTrustedFieldStockMovement _ _
  | .adjust _
  | .resolveCase _ _ => isTrue trivial

open Transaction

variable {before after db : Db} {event : ReservationEvent}

theorem createAcceptedOrder_keepsConserved
    (input : CreateMachineOrderInput)
    (machineId : MachineId)
    (paymentExpiresAt : Time) :
    Within KeepsConserved
      (createAcceptedOrder input machineId paymentExpiresAt) := by
  apply Within.bind (Within.require _ _)
  intro _
  apply Within.bind
  · unfold resolvePaymentSelection
    split <;> first | exact Within.pure _ | exact Within.throw _
  · intro selection
    exact createLocalMachineOrderDraft_keepsConserved _ _ _ _

/-- A committed operation that closes whole rows conserves. -/
theorem transaction_keepsConserved
    {answer : Unit}
    (closes : ClosesWholeRows before event)
    (committed : Commits event.transaction before answer after) :
    KeepsConserved before after := by
  cases event with
  | createOrder input machineId paymentExpiresAt =>
    obtain ⟨_, created, _⟩ := commits_map.mp committed
    exact createAcceptedOrder_keepsConserved _ _ _ created
  | reserveForOrder input => exact reserveForOrder_keepsConserved _ committed
  | confirmReservation input preferred =>
    apply confirmReservation_keepsConserved committed
    intro reservation picked
    obtain ⟨stored, selected⟩ := Table.anyRow_sound picked
    exact closes reservation stored selected
  | releaseReservation input reason preferred =>
    apply releaseReservation_keepsConserved committed
    intro reservation picked
    obtain ⟨stored, selected⟩ := Table.anyRow_sound picked
    exact closes reservation stored selected
  | releaseActiveReservationsForOrder orderId reason preferred =>
    exact releaseActiveReservations_keepsConserved closes committed
  | releaseExpiredInventoryReservations now =>
    exact releaseExpired_keepsConserved now committed
  | createCompensationDispenseCommand input now =>
    exact createCompensation_keepsConserved input now committed
  | confirmOrderBoundDispenseSucceeded machineId input context now =>
    exact confirmDispense_keepsConserved committed closes
  | applyTrustedFieldStockMovement machineId input =>
    obtain ⟨_, applied, _⟩ := commits_map.mp committed
    exact applyTrusted_keepsConserved machineId input applied
  | adjust input => exact adjust_keepsConserved input committed
  | resolveCase id input =>
    obtain ⟨_, resolved, _⟩ := commits_map.mp committed
    exact resolveCase_keepsConserved id input resolved

theorem step_keepsConserved
    (closes : ClosesWholeRows before event)
    (step : reservationMachine.step before event = some after) :
    KeepsConserved before after := by
  cases step
  rcases execute_cases event.transaction before with
    ⟨refusal, aborted⟩ | ⟨answer, next, committed, executed⟩
  · rw [aborted]
    exact id
  · rw [executed]
    exact transaction_keepsConserved closes committed

/-- No reservation exists and nothing is reserved. -/
def Db.Unreserved (db : Db) : Prop :=
  db.inventoryReservations = .empty ∧
    ∀ row ∈ db.inventories.rows, row.reservedQty = 0

instance (db : Db) : Decidable db.Unreserved :=
  inferInstanceAs (Decidable (_ ∧ ∀ row ∈ _, _))

theorem Db.Unreserved.reservationsConserved
    (unreserved : db.Unreserved) :
    db.ReservationsConserved := by
  intro inventoryId
  have noActive : db.activeReservedQty inventoryId = 0 := by
    unfold Db.activeReservedQty
    rw [unreserved.1]
    exact Table.total_empty _
  rw [noActive]
  unfold Db.reservedQty
  cases found : db.inventories.find? inventoryId with
  | none => rfl
  | some row => exact unreserved.2 row (Table.mem_of_find? found)

/--
Reserved stock is the sum of the active reservations and at most the stock on
hand, in every inventory.
-/
def Db.ReservedStockIsSound (db : Db) : Prop :=
  ∀ row ∈ db.inventories.rows,
    row.reservedQty = db.activeReservedQty row.id ∧
      row.reservedQty ≤ row.onHandQty

instance (db : Db) : Decidable db.ReservedStockIsSound :=
  inferInstanceAs (Decidable (∀ row ∈ _, _ ∧ _))

theorem Db.ReservationsConserved.reservedStockIsSound
    (conserved : db.ReservationsConserved) :
    db.ReservedStockIsSound := by
  intro row stored
  have kept := conserved row.id
  rw [Db.reservedQty_of_found (Table.find?_of_mem stored)] at kept
  exact ⟨kept, row.reservedLteOnHand⟩

/--
In every run from unreserved stock whose operations close whole rows, the
reserved stock is the sum of the active reservations.
-/
theorem reservedStockIsSound_of_closesWholeRows
    {first last : Db}
    {events : List ReservationEvent}
    (start : first.Unreserved)
    (meets : reservationMachine.RunMeets ClosesWholeRows first events)
    (run : reservationMachine.run first events = some last) :
    last.ReservedStockIsSound := by
  have conserved : last.ReservationsConserved :=
    Machine.run_keeps_of_meets
      (fun holds closes step => step_keepsConserved closes step holds)
      start.reservationsConserved meets run
  exact conserved.reservedStockIsSound

/-- An order with two lines on inventory 50, then its release. -/
def releasedOrderRun
    (quantities : List Nat)
    (preferred : InventoryReservation → Nat) : List ReservationEvent :=
  [.createOrder
      (twoSlotOrder (quantities.map fun quantity => (5, quantity)) .mock .mock)
      1 900,
    .releaseActiveReservationsForOrder 1 .canceled preferred]

/-- Two lines of one piece on one inventory are reserved and given back. -/
theorem reservedStockIsSound_of_closesWholeRows_evenLines :
    ∃ last,
      reservationMachine.run twoSlotDb (releasedOrderRun [1, 1] fun _ => 2) =
          some last ∧
        last.ReservedStockIsSound ∧ last.reservedQty 50 = 0 :=
  ⟨_, rfl,
    reservedStockIsSound_of_closesWholeRows
      (by decide : twoSlotDb.Unreserved)
      (by decide :
        reservationMachine.RunMeets ClosesWholeRows twoSlotDb
          (releasedOrderRun [1, 1] fun _ => 2))
      rfl,
    by decide⟩

/--
An order with lines of one and of two pieces on one inventory: the release of
the first line picks the row of the second, and one piece stays reserved for
no reservation.
-/
theorem reservedStockIsSound_fails_for_unevenLines :
    ¬ ∀ events last,
      reservationMachine.run twoSlotDb events = some last →
        last.ReservedStockIsSound := by
  intro always
  have sound := always (releasedOrderRun [1, 2] fun _ => 2) _ rfl
  revert sound
  decide

end VendingSystem.Platform
