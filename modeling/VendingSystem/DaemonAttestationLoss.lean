import Mathlib.Algebra.Ring.Int.Defs
import VendingSystem.DaemonAttestationConsistency

namespace VendingSystem.Daemon

/-!
# Movements between a count and its finalisation

Until a staged count is accepted, the machine goes on selling and refilling
the counted slots.  The finalisation projects the counted quantity whatever was
recorded in between.
-/

/-- What the recorded movements of a slot changed since some time. -/
def StockRuntime.effectSince
    (runtime : StockRuntime)
    (version : PlanogramVersion)
    (slotId : SlotId)
    (since : Time) : Int :=
  ((runtime.history.filter fun recorded =>
    decide (since < recorded.recordedAt) &&
      recorded.movement.planogramVersion == version &&
      recorded.movement.slotId == slotId).map fun recorded =>
        recorded.movement.afterQuantity -
          recorded.movement.beforeQuantity).sum

/-- The stock of a slot if no movement since its count were lost. -/
def StockRuntime.stockSinceCount
    (runtime : StockRuntime)
    (pending : PendingPhysicalStockAttestation)
    (slot : PhysicalStockAttestationSlotInput) : Int :=
  slot.quantity +
    runtime.effectSince pending.input.planogramVersion slot.slotId
      (pending.countedAt slot.slotId)

/-- Projection and ledger of a slot agree on a stock. -/
def Store.AgreesOnStock
    (store : Store)
    (idBefore : MovementId → MovementId → Bool)
    (version : PlanogramVersion)
    (slotId : SlotId)
    (stock : Int) : Prop :=
  (store.projectionOf version slotId).map StockProjection.physicalStock =
      some stock ∧
    (store.latestMovement idBefore version slotId).map
      StockMovement.afterQuantity = some stock

/-- A pending count is later than a movement in the order of the check. -/
def PendingPhysicalStockAttestation.countsAfter
    (pending : PendingPhysicalStockAttestation)
    (idBefore : MovementId → MovementId → Bool)
    (slotId : SlotId)
    (movement : StockMovement) : Bool :=
  decide (movement.occurredAt < pending.countedAt slotId) ||
    (movement.occurredAt == pending.countedAt slotId &&
      idBefore movement.movementId (pending.countedAs slotId))

/-- Nothing that happened since the count is lost with its finalisation. -/
def StockRuntime.CountStands
    (runtime : StockRuntime)
    (idBefore : MovementId → MovementId → Bool)
    (pending : PendingPhysicalStockAttestation)
    (slot : PhysicalStockAttestationSlotInput) : Prop :=
  runtime.effectSince pending.input.planogramVersion slot.slotId
      (pending.countedAt slot.slotId) = 0 ∧
    ∀ latest ∈ runtime.store.latestMovement idBefore
        pending.input.planogramVersion slot.slotId,
      pending.countsAfter idBefore slot.slotId latest = true ∨
        latest.afterQuantity = slot.quantity

/-- What a finalised count leaves of the ledger's last movement. -/
theorem latestMovement_finalized
    {before after : Store}
    {pending : PendingPhysicalStockAttestation}
    {slot : PhysicalStockAttestationSlotInput}
    {beforeQuantity : Int}
    (idBefore : MovementId → MovementId → Bool)
    (movedBy : SlotMovedBy (attestedMovement pending.input slot
      (pending.countedAs slot.slotId) beforeQuantity
      (pending.countedAt slot.slotId)) before after) :
    (after.latestMovement idBefore pending.input.planogramVersion
        slot.slotId).map StockMovement.afterQuantity = some slot.quantity ↔
      ∀ latest ∈ before.latestMovement idBefore
          pending.input.planogramVersion slot.slotId,
        pending.countsAfter idBefore slot.slotId latest = true ∨
          latest.afterQuantity = slot.quantity := by
  have appended : after.latestMovement idBefore
      pending.input.planogramVersion slot.slotId =
        laterMovement idBefore
          (before.latestMovement idBefore pending.input.planogramVersion
            slot.slotId)
          (attestedMovement pending.input slot
            (pending.countedAs slot.slotId) beforeQuantity
            (pending.countedAt slot.slotId)) :=
    latestMovement_of_append movedBy.ledger
  rw [appended]
  cases before.latestMovement idBefore pending.input.planogramVersion
      slot.slotId with
  | none => simp [laterMovement, attestedMovement]
  | some latest =>
    by_cases counted :
        pending.countsAfter idBefore slot.slotId latest = true
    · have later := counted
      simp only [PendingPhysicalStockAttestation.countsAfter,
        Bool.or_eq_true, Bool.and_eq_true, decide_eq_true_eq,
        beq_iff_eq] at later
      simp [laterMovement, attestedMovement, counted, later]
    · have sooner := counted
      simp only [PendingPhysicalStockAttestation.countsAfter,
        Bool.or_eq_true, Bool.and_eq_true, decide_eq_true_eq,
        beq_iff_eq] at sooner
      simp [laterMovement, attestedMovement, counted, sooner]

/--
In every run, right after a finalisation, an attested slot has its counted
stock plus what happened since, in the projection and in the ledger, exactly
when nothing happened on balance and the ledger's last movement is the count or
left the counted stock.
-/
theorem finalizedStock_keepsMovements_iff
    {runtime next : StockRuntime}
    {pending : PendingPhysicalStockAttestation}
    {now : Time}
    (idBefore : MovementId → MovementId → Bool)
    (reached : stockRuntimeMachine.Reaches .initial runtime)
    (isPending :
      runtime.store.pendingPhysicalStockAttestation = some pending)
    (makesFact :
      runtime.store.makesFact ⟨now, .finalizeAttestation⟩ = true)
    (transacts :
      runtime.transact ⟨now, .finalizeAttestation⟩ = some next) :
    ∀ slot ∈ pending.input.slots,
      next.store.AgreesOnStock idBefore pending.input.planogramVersion
          slot.slotId (runtime.stockSinceCount pending slot) ↔
        runtime.CountStands idBefore pending slot := by
  intro slot listed
  have sound := stockRuntime_sound reached
  have covered := sound.cover.pending pending isPending
  have nonneg := checkAttestedSlots_nonneg covered.checked listed
  obtain ⟨beforeQuantity, movedBy⟩ : ∃ beforeQuantity,
      SlotMovedBy (attestedMovement pending.input slot
        (pending.countedAs slot.slotId) beforeQuantity
        (pending.countedAt slot.slotId)) runtime.store next.store := by
    unfold StockRuntime.transact at transacts
    split at transacts
    · cases transacts
      obtain ⟨other, alsoPending, _, _, commits⟩ :=
        finalizeSlots_of_makesFact makesFact
      rw [isPending] at alsoPending
      cases alsoPending
      exact finalizeSlots_movedBy covered.checked commits listed
    · cases transacts
  have projected : (next.store.projectionOf
      pending.input.planogramVersion slot.slotId).map
        StockProjection.physicalStock = some slot.quantity := by
    have count := movedBy.count
    simp only [attestedMovement, max_eq_left nonneg] at count
    rw [physicalStock_eq_countOf, count]
    simp [Option.filter]
  have latest := latestMovement_finalized idBefore movedBy
  unfold Store.AgreesOnStock StockRuntime.CountStands
    StockRuntime.stockSinceCount
  rw [projected]
  constructor
  · rintro ⟨balanced, agrees⟩
    have noEffect := Option.some.inj balanced
    refine ⟨by omega, latest.mp ?_⟩
    rw [agrees, ← balanced]
  · rintro ⟨noEffect, stands⟩
    rw [noEffect, add_zero]
    exact ⟨rfl, latest.mpr stands⟩

/-- The runtime that has read and staged the count, with what it pends. -/
def pendingCount : PendingPhysicalStockAttestation where
  input := submittedCount
  attestedAt := 101
  movementIds := [.stockTask 7 5]
  slotGenerations :=
    [{ slotId := 5
       movementId := .stockTask 7 5
       generation := 7
       beforeQuantity := 0
       afterQuantity := 4
       occurredAt := 101 }]

/-- A runtime after a finalisation at some time. -/
def StockRuntime.finalizedAt
    (runtime : StockRuntime)
    (now : Time) : StockRuntime :=
  (runtime.transact ⟨now, .finalizeAttestation⟩).getD runtime

theorem StockRuntime.transact_finalizedAt
    {runtime : StockRuntime}
    {now : Time}
    (possible :
      (runtime.transact ⟨now, .finalizeAttestation⟩).isSome = true) :
    runtime.transact ⟨now, .finalizeAttestation⟩ =
      some (runtime.finalizedAt now) := by
  obtain ⟨next, transacts⟩ := Option.isSome_iff_exists.mp possible
  rw [StockRuntime.finalizedAt, transacts]
  rfl

/-- A staged count that the platform accepted, with the steps in between. -/
def acceptedAfter (between : List StockRuntimeEvent) : StockRuntime :=
  StockRuntime.initial.after (stagedRun ++ between ++ [countAccepted])

/-- Without a movement in between, the count stands. -/
theorem finalizedStock_keepsMovements_undisturbed :
    ((acceptedAfter []).finalizedAt 104).store.AgreesOnStock
      (fun _ _ => false) 1 5 4 := by
  have stands : (acceptedAfter []).CountStands (fun _ _ => false)
      pendingCount
      { slotId := 5, sku := "SKU-60", quantity := 4, enabled := true } := by
    refine ⟨by decide +kernel, fun latest isLatest => ?_⟩
    have noMovement : (acceptedAfter []).store.latestMovement
        (fun _ _ => false) 1 5 = none := by decide +kernel
    cases noMovement.symm.trans isLatest
  have reached : stockRuntimeMachine.Reaches .initial (acceptedAfter []) :=
    ⟨_, StockRuntime.run_after (by decide +kernel)⟩
  have isPending :
      (acceptedAfter []).store.pendingPhysicalStockAttestation =
        some pendingCount := by decide +kernel
  have makesFact : (acceptedAfter []).store.makesFact
      ⟨104, .finalizeAttestation⟩ = true := by decide +kernel
  have possible : ((acceptedAfter []).transact
      ⟨104, .finalizeAttestation⟩).isSome = true := by decide +kernel
  have agrees := (finalizedStock_keepsMovements_iff (fun _ _ => false)
    reached isPending makesFact (StockRuntime.transact_finalizedAt possible)
    _ (by decide +kernel)).mpr stands
  have counted : (acceptedAfter []).stockSinceCount pendingCount
      { slotId := 5, sku := "SKU-60", quantity := 4, enabled := true } =
        4 := by decide +kernel
  rw [counted] at agrees
  exact agrees

/-- A refill between a count and its finalisation is lost. -/
theorem finalizedStock_losesRefill :
    ¬ ∀ (runtime next : StockRuntime)
      (pending : PendingPhysicalStockAttestation) (now : Time)
      (idBefore : MovementId → MovementId → Bool),
      stockRuntimeMachine.Reaches .initial runtime →
      runtime.store.pendingPhysicalStockAttestation = some pending →
      runtime.store.makesFact ⟨now, .finalizeAttestation⟩ = true →
      runtime.transact ⟨now, .finalizeAttestation⟩ = some next →
      ∀ slot ∈ pending.input.slots,
        next.store.AgreesOnStock idBefore pending.input.planogramVersion
          slot.slotId (runtime.stockSinceCount pending slot) := by
  intro keepsMovements
  have agrees := keepsMovements (acceptedAfter [refilledAt 102]) _
    pendingCount 104 (fun _ _ => false)
    ⟨_, StockRuntime.run_after (by decide +kernel)⟩
    (by decide +kernel) (by decide +kernel)
    (StockRuntime.transact_finalizedAt (by decide +kernel))
    { slotId := 5, sku := "SKU-60", quantity := 4, enabled := true }
    (by decide +kernel)
  have counted : (acceptedAfter [refilledAt 102]).stockSinceCount
      pendingCount
      { slotId := 5, sku := "SKU-60", quantity := 4, enabled := true } =
        6 := by decide +kernel
  have projected :
      (((acceptedAfter [refilledAt 102]).finalizedAt
        104).store.projectionOf 1 5).map StockProjection.physicalStock =
          some 4 := by decide +kernel
  have balanced := projected.symm.trans agrees.1
  rw [counted] at balanced
  cases balanced

end VendingSystem.Daemon
