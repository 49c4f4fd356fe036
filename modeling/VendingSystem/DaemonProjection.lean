import VendingSystem.DaemonCommit
import VendingSystem.DaemonStockMachine

namespace VendingSystem.Daemon

/-!
# What stock transactions write into a slot

Every transaction on stock is a sequence of writes to single slots.  A write
touches the slot's projection, its blockers and its sale view, and nothing of
another slot; the projection after an upsert is given in closed form.
-/

/-- Two stores with the same projection and blockers of a slot. -/
structure SlotAgrees (slotId : SlotId) (first second : Store) : Prop where
  row : first.currentStockProjection.find? slotId =
    second.currentStockProjection.find? slotId
  blockers : ∀ version,
    first.saleSafetyBlockers.find? (version, slotId) =
      second.saleSafetyBlockers.find? (version, slotId)

namespace SlotAgrees

theorem refl (slotId : SlotId) (store : Store) :
    SlotAgrees slotId store store :=
  ⟨rfl, fun _ => rfl⟩

theorem trans
    {slotId : SlotId}
    {first second third : Store}
    (leading : SlotAgrees slotId first second)
    (trailing : SlotAgrees slotId second third) :
    SlotAgrees slotId first third :=
  ⟨leading.row.trans trailing.row, fun version =>
    (leading.blockers version).trans (trailing.blockers version)⟩

end SlotAgrees

/-- Two stores with the same planograms and the same state of every slot. -/
structure SameSlots (before after : Store) : Prop where
  active : after.activePlanogramVersion = before.activePlanogramVersion
  versions :
    after.machinePlanogramVersions = before.machinePlanogramVersions
  slots : after.machinePlanogramSlots = before.machinePlanogramSlots
  rows : after.currentStockProjection = before.currentStockProjection
  blockers : after.saleSafetyBlockers = before.saleSafetyBlockers
  shown : after.saleViewProjection = before.saleViewProjection

namespace SameSlots

theorem refl (store : Store) : SameSlots store store :=
  ⟨rfl, rfl, rfl, rfl, rfl, rfl⟩

theorem trans
    {first middle last : Store}
    (leading : SameSlots first middle)
    (trailing : SameSlots middle last) :
    SameSlots first last where
  active := trailing.active.trans leading.active
  versions := trailing.versions.trans leading.versions
  slots := trailing.slots.trans leading.slots
  rows := trailing.rows.trans leading.rows
  blockers := trailing.blockers.trans leading.blockers
  shown := trailing.shown.trans leading.shown

theorem agrees
    {before after : Store}
    (same : SameSlots before after)
    (slotId : SlotId) :
    SlotAgrees slotId after before := by
  refine ⟨?_, fun version => ?_⟩
  · rw [same.rows]
  · rw [same.blockers]

end SameSlots

/-- A store differs from another in nothing but one slot's stock state. -/
structure TouchesOnly (slotId : SlotId) (before after : Store) : Prop where
  active : after.activePlanogramVersion = before.activePlanogramVersion
  versions :
    after.machinePlanogramVersions = before.machinePlanogramVersions
  slots : after.machinePlanogramSlots = before.machinePlanogramSlots
  others : ∀ other, other ≠ slotId → SlotAgrees other after before
  shown : ∀ other, other ≠ slotId →
    after.saleViewProjection.find? other =
      before.saleViewProjection.find? other

namespace TouchesOnly

theorem refl (slotId : SlotId) (store : Store) :
    TouchesOnly slotId store store where
  active := rfl
  versions := rfl
  slots := rfl
  others := fun other _ => .refl other store
  shown := fun _ _ => rfl

variable {slotId : SlotId}

theorem trans
    {first middle last : Store}
    (leading : TouchesOnly slotId first middle)
    (trailing : TouchesOnly slotId middle last) :
    TouchesOnly slotId first last where
  active := trailing.active.trans leading.active
  versions := trailing.versions.trans leading.versions
  slots := trailing.slots.trans leading.slots
  others := fun other differs =>
    (trailing.others other differs).trans (leading.others other differs)
  shown := fun other differs =>
    (trailing.shown other differs).trans (leading.shown other differs)

theorem upsertSaleSafetyBlockerMarker
    (store : Store)
    (version : PlanogramVersion)
    (slotId : SlotId)
    (state : SlotSalesState)
    (reason source : String) :
    TouchesOnly slotId store
      (Daemon.upsertSaleSafetyBlockerMarker
        store version slotId state reason source) where
  active := rfl
  versions := rfl
  slots := rfl
  others := by
    intro other differs
    refine ⟨rfl, fun otherVersion => ?_⟩
    simp [Daemon.upsertSaleSafetyBlockerMarker, differs]
  shown := fun _ _ => rfl

theorem deleteBlockers
    (store : Store)
    {selects : SaleSafetyBlocker → Bool}
    (ofSlot : ∀ blocker, selects blocker = true →
      blocker.slotId = slotId) :
    TouchesOnly slotId store
      { store with
        saleSafetyBlockers :=
          store.saleSafetyBlockers.deleteWhere selects } where
  active := rfl
  versions := rfl
  slots := rfl
  others := by
    intro other differs
    refine ⟨rfl, fun otherVersion => ?_⟩
    rw [Table.find?_deleteWhere]
    cases found : store.saleSafetyBlockers.find? (otherVersion, other) with
    | none => rfl
    | some blocker =>
      have key := Table.key_of_find? found
      have kept : selects blocker = false := by
        rw [Bool.eq_false_iff]
        intro selected
        exact differs
          ((congrArg Prod.snd key).symm.trans (ofSlot blocker selected))
      simp [kept]
  shown := fun _ _ => rfl

theorem upsertStockProjectionWithState
    (store : Store)
    (version : PlanogramVersion)
    (slotId : SlotId)
    (physicalStock saleableStock : Int)
    (state : SlotSalesState)
    (resetLocalSlotHold : Bool)
    (now : Time) :
    TouchesOnly slotId store
      (Daemon.upsertStockProjectionWithState store version slotId
        physicalStock saleableStock state resetLocalSlotHold now) where
  active := rfl
  versions := rfl
  slots := rfl
  others := by
    intro other differs
    refine ⟨?_, fun _ => rfl⟩
    simp [Daemon.upsertStockProjectionWithState, differs]
  shown := fun _ _ => rfl

theorem updateRow
    (store : Store)
    (projections : Table StockProjection StockProjection.slotId)
    (kept : ∀ other, other ≠ slotId →
      projections.find? other =
        store.currentStockProjection.find? other) :
    TouchesOnly slotId store
      { store with currentStockProjection := projections } where
  active := rfl
  versions := rfl
  slots := rfl
  others := fun other differs => ⟨kept other differs, fun _ => rfl⟩
  shown := fun _ _ => rfl

theorem upsertSaleViewProjection
    {store next : Store}
    {version : PlanogramVersion}
    {now : Time}
    (refreshed :
      Daemon.upsertSaleViewProjection store version slotId now =
        .ok next) :
    TouchesOnly slotId store next := by
  unfold Daemon.upsertSaleViewProjection at refreshed
  split at refreshed
  · rename_i slot row slotFound projected
    have sameSlot : slot.slotId = slotId :=
      congrArg Prod.snd (Table.key_of_find? slotFound)
    cases refreshed
    refine ⟨rfl, rfl, rfl, fun _ _ => ⟨rfl, fun _ => rfl⟩, ?_⟩
    intro other differs
    have notShown : other ≠ (saleViewItem slot row now).slotId :=
      fun same => differs (same.trans sameSlot)
    simp [notShown]
  · cases refreshed

theorem of_same
    {before after : Store}
    (same : SameSlots before after) :
    TouchesOnly slotId before after where
  active := same.active
  versions := same.versions
  slots := same.slots
  others := fun other _ => same.agrees other
  shown := fun other _ => by rw [same.shown]

end TouchesOnly

/-- The blocker that decides what an upsert may project. -/
def Store.upsertBlocked (store : Store) (slotId : SlotId) : Bool :=
  (store.currentStockProjection.find? slotId).any fun row =>
    store.hasSaleSafetyBlocker row.planogramVersion row.slotId

/-- The state that an upsert leaves in place of the requested one. -/
def Store.keptState
    (store : Store)
    (slotId : SlotId)
    (state : SlotSalesState)
    (resetLocalSlotHold : Bool) : SlotSalesState :=
  match store.currentStockProjection.find? slotId with
  | none => state
  | some row =>
    if store.hasSaleSafetyBlocker row.planogramVersion row.slotId ||
        (!resetLocalSlotHold && row.slotSalesState.isDispenseHold) then
      row.slotSalesState
    else state

/-- The row that an upsert leaves. -/
def Store.projectedRow
    (store : Store)
    (version : PlanogramVersion)
    (slotId : SlotId)
    (physicalStock saleableStock : Int)
    (state : SlotSalesState)
    (resetLocalSlotHold : Bool)
    (now : Time) : StockProjection where
  planogramVersion := version
  slotId := slotId
  physicalStock := max physicalStock 0
  saleableStock :=
    if store.upsertBlocked slotId then 0 else max saleableStock 0
  slotSalesState := store.keptState slotId state resetLocalSlotHold
  updatedAt := now

variable {slotId : SlotId} {store first second next before after : Store}
  {row : StockProjection} {slot : MachinePlanogramSlotInput}
  {version : PlanogramVersion} {now : Time} {input : MachinePlanogramInput}

@[simp] theorem upsertBlocked_of_absent
    (absent : store.currentStockProjection.find? slotId = none) :
    store.upsertBlocked slotId = false := by
  simp [Store.upsertBlocked, absent]

@[simp] theorem keptState_of_absent
    (state : SlotSalesState)
    (resetLocalSlotHold : Bool)
    (absent : store.currentStockProjection.find? slotId = none) :
    store.keptState slotId state resetLocalSlotHold = state := by
  simp [Store.keptState, absent]

@[simp] theorem upsertBlocked_of_found
    (found : store.currentStockProjection.find? slotId = some row) :
    store.upsertBlocked slotId =
      store.hasSaleSafetyBlocker row.planogramVersion row.slotId := by
  simp [Store.upsertBlocked, found]

@[simp] theorem keptState_of_found
    (state : SlotSalesState)
    (resetLocalSlotHold : Bool)
    (found : store.currentStockProjection.find? slotId = some row) :
    store.keptState slotId state resetLocalSlotHold =
      if store.hasSaleSafetyBlocker row.planogramVersion row.slotId ||
          (!resetLocalSlotHold && row.slotSalesState.isDispenseHold) then
        row.slotSalesState
      else state := by
  simp [Store.keptState, found]

theorem find?_upsertStockProjectionWithState
    (store : Store)
    (version : PlanogramVersion)
    (slotId : SlotId)
    (physicalStock saleableStock : Int)
    (state : SlotSalesState)
    (resetLocalSlotHold : Bool)
    (now : Time) :
    (upsertStockProjectionWithState store version slotId physicalStock
        saleableStock state resetLocalSlotHold
        now).currentStockProjection.find? slotId =
      some (store.projectedRow version slotId physicalStock saleableStock
        state resetLocalSlotHold now) := by
  rcases Option.eq_none_or_eq_some
      (store.currentStockProjection.find? slotId) with absent | ⟨row, found⟩
  · simp [upsertStockProjectionWithState, Store.projectedRow, absent]
  · have key : row.slotId = slotId := Table.key_of_find? found
    cases blocked :
      store.hasSaleSafetyBlocker row.planogramVersion slotId
    · simp [upsertStockProjectionWithState, Store.projectedRow, found, key,
        blocked]
    · simp [upsertStockProjectionWithState, Store.projectedRow, found, key,
        blocked]

theorem projectedRow_congr
    (agrees : SlotAgrees slotId first second)
    (version : PlanogramVersion)
    (physicalStock saleableStock : Int)
    (state : SlotSalesState)
    (resetLocalSlotHold : Bool)
    (now : Time) :
    first.projectedRow version slotId physicalStock saleableStock state
        resetLocalSlotHold now =
      second.projectedRow version slotId physicalStock saleableStock state
        resetLocalSlotHold now := by
  have blocked : ∀ row : StockProjection,
      first.currentStockProjection.find? slotId = some row →
      first.hasSaleSafetyBlocker row.planogramVersion row.slotId =
        second.hasSaleSafetyBlocker row.planogramVersion row.slotId := by
    intro row found
    have key : row.slotId = slotId := Table.key_of_find? found
    simp only [Store.hasSaleSafetyBlocker, key, agrees.blockers]
  rcases Option.eq_none_or_eq_some
      (first.currentStockProjection.find? slotId) with absent | ⟨row, found⟩
  · have alsoAbsent := agrees.row.symm.trans absent
    simp [Store.projectedRow, absent, alsoAbsent]
  · have alsoFound := agrees.row.symm.trans found
    simp [Store.projectedRow, found, alsoFound, blocked row found]

theorem keptState_cases
    (store : Store)
    (slotId : SlotId)
    (state : SlotSalesState)
    (resetLocalSlotHold : Bool) :
    store.keptState slotId state resetLocalSlotHold = state ∨
      ∃ row, store.currentStockProjection.find? slotId = some row ∧
        store.keptState slotId state resetLocalSlotHold =
          row.slotSalesState ∧
        (store.upsertBlocked slotId = true ∨
          row.slotSalesState.isDispenseHold = true) := by
  cases found : store.currentStockProjection.find? slotId with
  | none =>
    exact Or.inl (keptState_of_absent state resetLocalSlotHold found)
  | some row =>
    rw [keptState_of_found state resetLocalSlotHold found,
      upsertBlocked_of_found found]
    by_cases kept :
        (store.hasSaleSafetyBlocker row.planogramVersion row.slotId ||
          (!resetLocalSlotHold && row.slotSalesState.isDispenseHold)) =
          true
    · refine Or.inr ⟨row, rfl, if_pos kept, ?_⟩
      simp only [Bool.or_eq_true, Bool.and_eq_true] at kept
      rcases kept with blocked | held
      · exact Or.inl blocked
      · exact Or.inr held.2
    · exact Or.inl (if_neg kept)

namespace TouchesOnly

theorem clearSaleSafetyBlockerMarker
    (store : Store)
    (version : PlanogramVersion)
    (slotId : SlotId) :
    TouchesOnly slotId store
      (Daemon.clearSaleSafetyBlockerMarker store version slotId) :=
  .deleteBlockers store (fun blocker selected => by
    simp only [Bool.and_eq_true, beq_iff_eq] at selected
    exact selected.2)

theorem recordMovement
    (slotId : SlotId)
    (store : Store)
    (movement : StockMovement)
    (upload : Bool)
    (now : Time) :
    TouchesOnly slotId store
      (Daemon.recordMovement store movement upload now) := by
  cases upload
  · exact .of_same ⟨rfl, rfl, rfl, rfl, rfl, rfl⟩
  · exact .of_same ⟨rfl, rfl, rfl, rfl, rfl, rfl⟩

variable {version : PlanogramVersion} {state : SlotSalesState} {next : Store}
  {now : Time} {source reason : String}

theorem projectStock
    {physicalStock saleableStock : Int}
    {resetLocalSlotHold : Bool}
    (earlier : TouchesOnly slotId before store)
    (refreshed :
      Daemon.upsertSaleViewProjection
        (Daemon.upsertStockProjectionWithState store version slotId
          physicalStock saleableStock state resetLocalSlotHold now)
        version slotId now = .ok next) :
    TouchesOnly slotId before next :=
  earlier.trans
    ((upsertStockProjectionWithState store version slotId physicalStock
      saleableStock state resetLocalSlotHold now).trans
        (upsertSaleViewProjection refreshed))

theorem applyStockMovement
    {movement : StockMovement}
    {capacity : Int}
    {upload : Bool}
    (applied :
      Daemon.applyStockMovement store movement capacity upload now =
        .ok next) :
    TouchesOnly movement.slotId store next := by
  have recorded :=
    recordMovement movement.slotId store movement upload now
  unfold Daemon.applyStockMovement at applied
  refine projectStock ?_ applied
  cases movement.source == .localMaintenance
  · refine recorded.trans (.deleteBlockers _ (fun blocker selected => ?_))
    simp only [Bool.and_eq_true, beq_iff_eq] at selected
    exact selected.1.2
  · exact recorded.trans (.clearSaleSafetyBlockerMarker ..)

theorem projectAttestedSlot
    {slot : PhysicalStockAttestationSlotInput}
    (projected :
      Daemon.projectAttestedSlot store version slot now = .ok next) :
    TouchesOnly slot.slotId store next :=
  projectStock (.clearSaleSafetyBlockerMarker ..) projected

theorem projectSnapshotSlot
    {slot : MachineStockSnapshotSlot}
    (projected :
      Daemon.projectSnapshotSlot store version slot now = .ok next) :
    TouchesOnly slot.slotId store next := by
  unfold Daemon.projectSnapshotSlot at projected
  refine projectStock ?_ projected
  split
  · refine .deleteBlockers store (fun blocker selected => ?_)
    simp only [Bool.and_eq_true, beq_iff_eq] at selected
    exact selected.1.2
  · exact .refl _ _

theorem projectBlocker
    (refreshed :
      Daemon.upsertSaleViewProjection
        { Daemon.upsertSaleSafetyBlockerMarker store version slotId state
            reason source with
          currentStockProjection := store.currentStockProjection.updateWhere
            (fun row =>
              row.planogramVersion == version && row.slotId == slotId)
            (fun row =>
              { row with
                saleableStock := 0
                slotSalesState := state
                updatedAt := now }) }
        version slotId now = .ok next) :
    TouchesOnly slotId store next := by
  refine (upsertSaleSafetyBlockerMarker store version slotId state reason
    source).trans ((updateRow _ _ ?_).trans
      (upsertSaleViewProjection refreshed))
  intro other differs
  rw [Table.find?_updateWhere]
  cases found : store.currentStockProjection.find? other with
  | none => exact found.symm
  | some row =>
    have key : row.slotId = other := Table.key_of_find? found
    have kept : (row.planogramVersion == version &&
        row.slotId == slotId) = false := by
      simp [key, differs]
    rw [Option.map_some, kept]
    exact found.symm

theorem blockSlotForReview
    (blocked :
      Daemon.blockSlotForReview store version slotId reason source now =
        .ok next) :
    TouchesOnly slotId store next :=
  projectBlocker blocked

theorem applySaleSafetyBlocker
    {blocker : StockMovementSaleSafetyBlocker}
    (applied :
      Daemon.applySaleSafetyBlocker store blocker now = .ok next) :
    TouchesOnly blocker.slotId store next := by
  unfold Daemon.applySaleSafetyBlocker at applied
  split at applied
  · cases applied
    exact .refl _ _
  · obtain ⟨marked, inserted, refreshed⟩ :=
      Transaction.bind_eq_ok_iff.mp applied
    unfold insertSaleSafetyBlocker at inserted
    split at inserted
    · cases inserted
      exact projectBlocker refreshed
    · cases inserted

theorem markSlotSalesState
    (store : Store)
    (version : PlanogramVersion)
    (slotId : SlotId)
    (state : SlotSalesState)
    (source : String) :
    TouchesOnly slotId store
      (Daemon.markSlotSalesState store version slotId state source) := by
  unfold Daemon.markSlotSalesState
  split
  · exact .upsertSaleSafetyBlockerMarker ..
  · exact .clearSaleSafetyBlockerMarker ..

theorem updateSlotSalesState
    (updated :
      Daemon.updateSlotSalesState store version slotId state source now =
        .ok next) :
    TouchesOnly slotId store next := by
  unfold Daemon.updateSlotSalesState at updated
  split at updated
  · cases updated
  unfold projectSlotSalesState at updated
  split at updated
  · cases updated
  refine (markSlotSalesState store version slotId state source).trans
    ((updateRow _ _ ?_).trans (upsertSaleViewProjection updated))
  intro other differs
  rw [Table.find?_modify, if_neg differs]

theorem applyDispenseSuccess
    {command : DispenseCommandPayload}
    {preferred : PlanogramVersion × SlotId}
    (applied :
      applyDispenseSuccessToLocalStock store command preferred now =
        .ok next) :
    next = store ∨
      ∃ slot, slot ∈ store.machinePlanogramSlots ∧
        store.activePlanogramVersion = some slot.planogramVersion ∧
        TouchesOnly slot.slotId store next := by
  rcases applyDispenseSuccessToLocalStock_sold applied with
    ⟨_, repeated⟩ | ⟨_, slot, projection, _, counted, refreshed⟩
  · exact Or.inl repeated
  · refine Or.inr ⟨slot, counted.stored, counted.active, ?_⟩
    have recorded : TouchesOnly slot.slotId store
        (store.recordDispense command slot projection now) :=
      .of_same ⟨rfl, rfl, rfl, rfl, rfl, rfl⟩
    exact recorded.projectStock refreshed

end TouchesOnly

theorem projectPlanogramSlot_congr
    (agrees : SlotAgrees slot.slotId first second)
    (version : PlanogramVersion)
    (source : String)
    (previousSlots : List PreviousSlotProjection)
    (rebuiltAfterQuarantine : Bool)
    (now : Time) :
    SlotAgrees slot.slotId
      (projectPlanogramSlot first version source slot previousSlots
        rebuiltAfterQuarantine now)
      (projectPlanogramSlot second version source slot previousSlots
        rebuiltAfterQuarantine now) := by
  have projected :
      ∀ physicalStock saleableStock state resetLocalSlotHold,
        SlotAgrees slot.slotId
          (upsertStockProjectionWithState first version slot.slotId
            physicalStock saleableStock state resetLocalSlotHold now)
          (upsertStockProjectionWithState second version slot.slotId
            physicalStock saleableStock state resetLocalSlotHold now) := by
    intro physicalStock saleableStock state resetLocalSlotHold
    refine ⟨?_, fun other => agrees.blockers other⟩
    rw [find?_upsertStockProjectionWithState,
      find?_upsertStockProjectionWithState]
    rw [projectedRow_congr agrees]
  have marked :
      ∀ {first second : Store} state reason,
        SlotAgrees slot.slotId first second →
        SlotAgrees slot.slotId
          (upsertSaleSafetyBlockerMarker first version slot.slotId state
            reason source)
          (upsertSaleSafetyBlockerMarker second version slot.slotId state
            reason source) := by
    intro first second state reason same
    refine ⟨same.row, fun other => ?_⟩
    simp only [upsertSaleSafetyBlockerMarker,
      Table.find?_insertOrUpdate, same.blockers]
  unfold projectPlanogramSlot
  split
  · unfold carryPlanogramSlot
    simp only
    split
    · exact marked _ _ (projected _ _ _ _)
    split
    · exact projected _ _ _ _
    · exact projected _ _ _ _
  · unfold introducePlanogramSlot
    simp only
    split
    · exact marked _ _ (projected _ _ _ _)
    · exact projected _ _ _ _

theorem projectPlanogramSlot_touches
    (store : Store)
    (version : PlanogramVersion)
    (source : String)
    (slot : MachinePlanogramSlotInput)
    (previousSlots : List PreviousSlotProjection)
    (rebuiltAfterQuarantine : Bool)
    (now : Time) :
    TouchesOnly slot.slotId store
      (projectPlanogramSlot store version source slot previousSlots
        rebuiltAfterQuarantine now) := by
  have projected := fun physicalStock saleableStock state =>
    TouchesOnly.upsertStockProjectionWithState store version slot.slotId
      physicalStock saleableStock state false now
  unfold projectPlanogramSlot
  split
  · unfold carryPlanogramSlot
    simp only
    split
    · exact (projected _ _ _).trans (.upsertSaleSafetyBlockerMarker ..)
    split
    · exact projected _ _ _
    · exact projected _ _ _
  · unfold introducePlanogramSlot
    simp only
    split
    · exact (projected _ _ _).trans (.upsertSaleSafetyBlockerMarker ..)
    · exact projected _ _ _

/-- The projection of a slot as a new planogram leaves it. -/
def Store.activatedSlot
    (store : Store)
    (input : MachinePlanogramInput)
    (slot : MachinePlanogramSlotInput)
    (now : Time) : Store :=
  projectPlanogramSlot store input.planogramVersion input.source slot
    store.currentSlotProjections store.stockLedgerRebuiltAfterQuarantine now

/-- The sale view of a slot shows its projection. -/
def Store.ShowsProjection (store : Store) (slotId : SlotId) : Prop :=
  ∃ item row,
    store.saleViewProjection.find? slotId = some item ∧
      store.currentStockProjection.find? slotId = some row ∧
      item.physicalStock = row.physicalStock ∧
      item.saleableStock = row.saleableStock ∧
      item.slotSalesState = row.slotSalesState

theorem upsertSaleViewProjection_showsProjection
    (refreshed :
      upsertSaleViewProjection store version slotId now = .ok next) :
    next.ShowsProjection slotId := by
  have rows :
      next.currentStockProjection = store.currentStockProjection := by
    rw [upsertSaleViewProjection_frame refreshed]
  rw [Store.ShowsProjection, rows]
  exact upsertSaleViewProjection_shows refreshed

theorem upsertSaleViewProjection_agrees
    (refreshed :
      upsertSaleViewProjection store version slotId now = .ok next)
    (other : SlotId) :
    SlotAgrees other next store := by
  rw [upsertSaleViewProjection_frame refreshed]
  exact ⟨rfl, fun _ => rfl⟩

theorem TouchesOnly.showsProjection
    {other : SlotId}
    (touches : TouchesOnly slotId before after)
    (differs : other ≠ slotId)
    (shows : before.ShowsProjection other) :
    after.ShowsProjection other := by
  rw [Store.ShowsProjection, touches.shown other differs,
    (touches.others other differs).row]
  exact shows

/-- A version's slot as it is stored. -/
def MachinePlanogramSlotInput.stored
    (slot : MachinePlanogramSlotInput)
    (version : PlanogramVersion) : PlanogramSlot :=
  { slot with planogramVersion := version }

/-- An activation on its way through the slots of its input. -/
structure ActivationProgress
    (input : MachinePlanogramInput)
    (now : Time)
    (before : Store)
    (remaining : List MachinePlanogramSlotInput)
    (store : Store) : Prop where
  active : store.activePlanogramVersion = some input.planogramVersion
  versions : store.machinePlanogramVersions =
    (activatePlanogramVersion before input now).machinePlanogramVersions
  oldSlots : ∀ version slotId, version ≠ input.planogramVersion →
    store.machinePlanogramSlots.find? (version, slotId) =
      before.machinePlanogramSlots.find? (version, slotId)
  fromInput : ∀ slot ∈ remaining, slot ∈ input.slots
  done : ∀ slot ∈ input.slots, slot ∈ remaining ∨
    store.machinePlanogramSlots.find?
      (input.planogramVersion, slot.slotId) =
        some (slot.stored input.planogramVersion)
  pending : ∀ slotId,
    store.machinePlanogramSlots.find? (input.planogramVersion, slotId) =
      none →
    SlotAgrees slotId store before
  placed : ∀ slotId slot,
    store.machinePlanogramSlots.find? (input.planogramVersion, slotId) =
      some slot →
    slot.toMachinePlanogramSlotInput ∈ input.slots ∧
      SlotAgrees slotId store
        (before.activatedSlot input slot.toMachinePlanogramSlotInput now) ∧
      store.ShowsProjection slotId

theorem insertPlanogramSlot_ok
    (inserted : insertPlanogramSlot store version slot = .ok next) :
    store.machinePlanogramSlots.find? (version, slot.slotId) = none ∧
      next = { store with
        machinePlanogramSlots := store.machinePlanogramSlots.insertOrIgnore
          (slot.stored version) } := by
  unfold insertPlanogramSlot at inserted
  split at inserted
  · cases inserted
  · rename_i absent
    cases inserted
    refine ⟨?_, rfl⟩
    simpa using absent

theorem ActivationProgress.place
    {remaining : List MachinePlanogramSlotInput}
    (progress :
      ActivationProgress input now before (slot :: remaining) store)
    (placed :
      (placePlanogramSlot input before.currentSlotProjections
        before.stockLedgerRebuiltAfterQuarantine now slot).Commits
          store () next) :
    ActivationProgress input now before remaining next := by
  unfold placePlanogramSlot at placed
  simp only [Transaction.commits_statement_bind,
    Transaction.commits_modify_bind,
    Transaction.commits_statement] at placed
  obtain ⟨stored, inserted, refreshed⟩ := placed
  obtain ⟨absent, rfl⟩ := insertPlanogramSlot_ok inserted
  have projects := projectPlanogramSlot_touches
    { store with
      machinePlanogramSlots := store.machinePlanogramSlots.insertOrIgnore
        (slot.stored input.planogramVersion) }
    input.planogramVersion input.source slot before.currentSlotProjections
    before.stockLedgerRebuiltAfterQuarantine now
  have refreshes := TouchesOnly.upsertSaleViewProjection refreshed
  have touches := projects.trans refreshes
  have slotsNow : ∀ version slotId,
      next.machinePlanogramSlots.find? (version, slotId) =
        if version = input.planogramVersion ∧ slotId = slot.slotId then
          some (slot.stored input.planogramVersion)
        else
          store.machinePlanogramSlots.find? (version, slotId) := by
    intro version slotId
    rw [touches.slots, Table.find?_insertOrIgnore]
    by_cases isNew :
        version = input.planogramVersion ∧ slotId = slot.slotId
    · obtain ⟨rfl, rfl⟩ := isNew
      simp [MachinePlanogramSlotInput.stored, absent]
    · have keyDiffers : ¬ (version, slotId) =
          ((slot.stored input.planogramVersion).planogramVersion,
            (slot.stored input.planogramVersion).slotId) := by
        simpa [MachinePlanogramSlotInput.stored, Prod.mk.injEq] using isNew
      rw [if_neg keyDiffers, if_neg isNew]
  have otherSlot : ∀ slotId, slotId ≠ slot.slotId →
      SlotAgrees slotId next store := by
    intro slotId differs
    exact (touches.others slotId differs).trans ⟨rfl, fun _ => rfl⟩
  refine ⟨?_, ?_, ?_, ?_, ?_, ?_, ?_⟩
  · rw [touches.active]
    exact progress.active
  · rw [touches.versions]
    exact progress.versions
  · intro version slotId old
    rw [slotsNow, if_neg (fun same => old same.1)]
    exact progress.oldSlots version slotId old
  · intro other member
    exact progress.fromInput other (List.mem_cons_of_mem _ member)
  · intro other member
    rw [slotsNow]
    rcases progress.done other member with waiting | stored
    · rcases List.mem_cons.mp waiting with rfl | later
      · exact Or.inr (if_pos ⟨rfl, rfl⟩)
      · exact Or.inl later
    · refine Or.inr ?_
      rw [if_neg, stored]
      rintro ⟨_, same⟩
      rw [same] at stored
      rw [absent] at stored
      cases stored
  · intro slotId none
    rw [slotsNow] at none
    split at none
    · cases none
    · rename_i isOther
      have differs : slotId ≠ slot.slotId :=
        fun same => isOther ⟨rfl, same⟩
      exact (otherSlot slotId differs).trans (progress.pending slotId none)
  · intro slotId other found
    rw [slotsNow] at found
    split at found
    · rename_i isNew
      obtain ⟨_, rfl⟩ := isNew
      cases found
      refine ⟨progress.fromInput slot List.mem_cons_self, ?_,
        upsertSaleViewProjection_showsProjection refreshed⟩
      refine (upsertSaleViewProjection_agrees refreshed
        slot.slotId).trans ?_
      apply projectPlanogramSlot_congr
      have untouched := progress.pending slot.slotId absent
      exact ⟨untouched.row, untouched.blockers⟩
    · rename_i isOther
      have differs : slotId ≠ slot.slotId :=
        fun same => isOther ⟨rfl, same⟩
      obtain ⟨member, agrees, shows⟩ := progress.placed slotId other found
      exact ⟨member, (otherSlot slotId differs).trans agrees,
        touches.showsProjection differs shows⟩

/-- What activating a planogram that was never applied did. -/
structure Activated
    (input : MachinePlanogramInput)
    (now : Time)
    (before after : Store) : Prop where
  active : after.activePlanogramVersion = some input.planogramVersion
  versions : after.machinePlanogramVersions =
    (activatePlanogramVersion before input now).machinePlanogramVersions
  oldSlots : ∀ version slotId, version ≠ input.planogramVersion →
    after.machinePlanogramSlots.find? (version, slotId) =
      before.machinePlanogramSlots.find? (version, slotId)
  newSlots : ∀ slotId slot,
    after.machinePlanogramSlots.find? (input.planogramVersion, slotId) =
      some slot →
    slot.toMachinePlanogramSlotInput ∈ input.slots ∧
      SlotAgrees slotId after
        (before.activatedSlot input slot.toMachinePlanogramSlotInput now) ∧
      after.ShowsProjection slotId
  others : ∀ slotId,
    after.machinePlanogramSlots.find? (input.planogramVersion, slotId) =
      none →
    SlotAgrees slotId after before

theorem activatePlanogram_activated
    (unused : ∀ slotId, before.machinePlanogramSlots.find?
      (input.planogramVersion, slotId) = none)
    (commits : (activatePlanogram input now).Commits before () after) :
    Activated input now before after := by
  unfold activatePlanogram at commits
  simp only [Transaction.commits_get_bind,
    Transaction.commits_modify_bind] at commits
  have start : ActivationProgress input now before input.slots
      (activatePlanogramVersion before input now) := by
    refine ⟨rfl, rfl, fun _ _ _ => rfl, fun _ member => member,
      fun _ member => Or.inl member, ?_, ?_⟩
    · intro slotId _
      exact ⟨rfl, fun _ => rfl⟩
    · intro slotId slot found
      have absent := unused slotId
      simp only [activatePlanogramVersion] at found
      rw [absent] at found
      cases found
  have finished : ActivationProgress input now before [] after :=
    Transaction.forM_keeps (ActivationProgress input now before)
      (fun progress round => progress.place round)
      start commits
  exact ⟨finished.active, finished.versions, finished.oldSlots,
    finished.placed, finished.pending⟩

end VendingSystem.Daemon
