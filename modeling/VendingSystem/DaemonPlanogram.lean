import VendingSystem.DaemonStock
import Mathlib.Data.List.Sort

namespace VendingSystem.Daemon

/-!
# Planogram activation

A new version takes over the physical stock of every slot that the previous
version also had; a stocked slot whose mapping changed is blocked.
-/

/-- A planogram that the platform or an operator applies. -/
structure MachinePlanogramInput where
  planogramVersion : PlanogramVersion
  source : String
  appliedBy : Option Nat
  slots : List MachinePlanogramSlotInput
  deriving Repr, DecidableEq

/-- A slot as the active planogram left it before the next activation. -/
structure PreviousSlotProjection where
  slotId : SlotId
  physicalStock : Int
  slotSalesState : SlotSalesState
  inventoryId : Nat
  variantId : Nat
  productId : Nat
  saleSafetyBlockerState : Option SlotSalesState
  deriving Repr, DecidableEq

/-- The slot sells the same product from the same inventory as before. -/
def PreviousSlotProjection.hasSameMapping
    (previous : PreviousSlotProjection)
    (slot : MachinePlanogramSlotInput) : Bool :=
  previous.inventoryId == slot.inventoryId &&
    previous.variantId == slot.variantId &&
    previous.productId == slot.productId

def PreviousSlotProjection.hasSaleSafetyBlocker
    (previous : PreviousSlotProjection) : Bool :=
  previous.saleSafetyBlockerState.isSome

/-- A projection joined with its mapping and its blocker. -/
def Store.previousSlotProjection
    (store : Store)
    (row : StockProjection) : Option PreviousSlotProjection :=
  if store.activePlanogramVersion = some row.planogramVersion then
    (store.machinePlanogramSlots.find?
      (row.planogramVersion, row.slotId)).map fun slot =>
        { slotId := row.slotId
          physicalStock := row.physicalStock
          slotSalesState := row.slotSalesState
          inventoryId := slot.inventoryId
          variantId := slot.variantId
          productId := slot.productId
          saleSafetyBlockerState :=
            (store.saleSafetyBlockers.find?
              (row.planogramVersion, row.slotId)).map
                SaleSafetyBlocker.slotSalesState }
  else none

/-- The projected slots of the active planogram. -/
def Store.currentSlotProjections (store : Store) :
    List PreviousSlotProjection :=
  store.currentStockProjection.rows.filterMap store.previousSlotProjection

def normalizePlanogramSlots (slots : List MachinePlanogramSlotInput) :
    List MachinePlanogramSlotInput :=
  slots.insertionSort (fun first second => first.slotId ≤ second.slotId)

/-- The stored slots of a version are the ones in the input. -/
def Store.planogramSlotsMatch
    (store : Store)
    (version : PlanogramVersion)
    (slots : List MachinePlanogramSlotInput) : Bool :=
  normalizePlanogramSlots
      ((store.machinePlanogramSlots.rows.filter
        (fun slot => slot.planogramVersion == version)).map
          PlanogramSlot.toMachinePlanogramSlotInput) ==
    normalizePlanogramSlots slots

/-- Project a slot that the previous planogram also had. -/
def carryPlanogramSlot
    (store : Store)
    (version : PlanogramVersion)
    (source : String)
    (slot : MachinePlanogramSlotInput)
    (previous : PreviousSlotProjection)
    (now : Time) : Store :=
  let saleableStock := max (min previous.physicalStock slot.capacity) 0
  if previous.hasSaleSafetyBlocker &&
      previous.slotSalesState.isReconciliationSaleSafetyBlocker then
    upsertSaleSafetyBlockerMarker
      (upsertStockProjectionWithState store version slot.slotId
        previous.physicalStock saleableStock previous.slotSalesState
        false now)
      version slot.slotId previous.slotSalesState
      "planogram_activation_replay" source
  else if decide (previous.physicalStock > 0) &&
      !previous.hasSameMapping slot then
    upsertStockProjectionWithState store version slot.slotId
      previous.physicalStock 0 .blockedForPlanogramChange false now
  else
    upsertStockProjectionWithState store version slot.slotId
      previous.physicalStock saleableStock
      (if previous.slotSalesState.isDispenseHold then
        previous.slotSalesState
      else if saleableStock > 0 then .saleReady
      else .soldOut)
      false now

/-- Project a slot that the previous planogram did not have. -/
def introducePlanogramSlot
    (store : Store)
    (version : PlanogramVersion)
    (source : String)
    (slotId : SlotId)
    (rebuiltAfterQuarantine : Bool)
    (now : Time) : Store :=
  let introduced := upsertStockProjectionWithState store version slotId
    0 0 .needsCount false now
  if rebuiltAfterQuarantine then
    upsertSaleSafetyBlockerMarker introduced version slotId .needsCount
      "stock_ledger_loss" source
  else introduced

def projectPlanogramSlot
    (store : Store)
    (version : PlanogramVersion)
    (source : String)
    (slot : MachinePlanogramSlotInput)
    (previousSlots : List PreviousSlotProjection)
    (rebuiltAfterQuarantine : Bool)
    (now : Time) : Store :=
  match previousSlots.find? (fun previous =>
      previous.slotId == slot.slotId) with
  | some previous =>
    carryPlanogramSlot store version source slot previous now
  | none =>
    introducePlanogramSlot store version source slot.slotId
      rebuiltAfterQuarantine now

/-- Store a slot of a new planogram; a second slot with its id is refused. -/
def insertPlanogramSlot
    (store : Store)
    (version : PlanogramVersion)
    (slot : MachinePlanogramSlotInput) : Except StoreError Store :=
  if (store.machinePlanogramSlots.find? (version, slot.slotId)).isSome then
    .error .constraintViolation
  else
    .ok { store with
      machinePlanogramSlots := store.machinePlanogramSlots.insertOrIgnore
        { slot with planogramVersion := version } }

/-- Store and project one slot of a new planogram. -/
def placePlanogramSlot
    (input : MachinePlanogramInput)
    (previousSlots : List PreviousSlotProjection)
    (rebuiltAfterQuarantine : Bool)
    (now : Time)
    (slot : MachinePlanogramSlotInput) :
    Transaction Store StoreError Unit := do
  Transaction.statement fun store =>
    insertPlanogramSlot store input.planogramVersion slot
  modify fun store =>
    projectPlanogramSlot store input.planogramVersion input.source slot
      previousSlots rebuiltAfterQuarantine now
  Transaction.statement fun store =>
    upsertSaleViewProjection store input.planogramVersion slot.slotId now

/-- Make a version the active one. -/
def activatePlanogramVersion
    (store : Store)
    (input : MachinePlanogramInput)
    (now : Time) : Store :=
  { store with
    activePlanogramVersion := some input.planogramVersion
    machinePlanogramVersions :=
      store.machinePlanogramVersions.insertOrIgnore
        { planogramVersion := input.planogramVersion
          source := input.source
          appliedBy := input.appliedBy
          appliedAt := now } }

/-- Activate a version that was never applied. -/
def activatePlanogram
    (input : MachinePlanogramInput)
    (now : Time) : Transaction Store StoreError Unit := do
  let before ← get
  modify fun store => activatePlanogramVersion store input now
  forM input.slots
    (placePlanogramSlot input before.currentSlotProjections
      before.stockLedgerRebuiltAfterQuarantine now)

/-- Confirm the active version and refresh its sale view. -/
def confirmActivePlanogram
    (input : MachinePlanogramInput)
    (now : Time) : Transaction Store StoreError Unit := do
  let before ← get
  Transaction.require
    (before.planogramSlotsMatch input.planogramVersion input.slots)
    (.invalidStockInput
      "planogram version already exists with different slot payload")
  Transaction.require
    (before.activePlanogramVersion == some input.planogramVersion)
    (.invalidStockInput
      "planogram version already exists but is not active")
  modify fun store =>
    { store with
      machinePlanogramVersions := store.machinePlanogramVersions.modify
        input.planogramVersion
        (fun version =>
          { version with
            source := input.source
            appliedBy := input.appliedBy
            appliedAt := now }) }
  forM input.slots fun slot =>
    Transaction.statement fun store =>
      upsertSaleViewProjection store input.planogramVersion slot.slotId now

def applyPlanogram
    (input : MachinePlanogramInput)
    (now : Time) : Transaction Store StoreError Unit := do
  Transaction.require (!input.slots.isEmpty)
    (.invalidStockInput
      "planogram version and at least one slot are required")
  Transaction.require
    (input.slots.all fun slot =>
      decide (0 ≤ slot.capacity ∧ 0 ≤ slot.parLevel ∧ 0 ≤ slot.priceCents))
    (.invalidStockInput
      "capacity, par level, and price must be nonnegative")
  let before ← get
  match before.machinePlanogramVersions.find? input.planogramVersion with
  | some _ => confirmActivePlanogram input now
  | none => activatePlanogram input now

end VendingSystem.Daemon
