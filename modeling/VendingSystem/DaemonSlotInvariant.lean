import VendingSystem.DaemonSlotWrites

namespace VendingSystem.Daemon

/-!
# The slot projection invariant

Physical stock, saleable stock, sales state, blocker and sale view of a slot
are written together.  The invariant says how they are linked.  A slot that a
dispense failure holds can have saleable stock without being ready for sale.
-/

def SaleSafetyBlocker.ofStateChange (blocker : SaleSafetyBlocker) : Bool :=
  blocker.reason == "field_action"

/-- The states, other than ready, that a state change gives without a blocker. -/
def SlotSalesState.isUnblockedStop : SlotSalesState → Bool
  | .soldOut
  | .suspect
  | .frozen => true
  | .saleReady
  | .needsCount
  | .blockedForPlanogramChange
  | .movementRejected
  | .needsPlatformReview => false

/-- The blocker of a projected slot. -/
def Store.blockerOf
    (store : Store)
    (row : StockProjection) : Option SaleSafetyBlocker :=
  store.saleSafetyBlockers.find? (row.planogramVersion, row.slotId)

/--
How the fields of a projection are linked with each other.  Only a `trusted`
platform, which never offers more than it has on hand, keeps the saleable
stock within the physical stock.
-/
structure RowSound
    (trusted : Prop)
    (store : Store)
    (row : StockProjection) : Prop where
  saleable_nonneg : 0 ≤ row.saleableStock
  saleable_le : trusted → row.saleableStock ≤ row.physicalStock
  ready : 0 < row.saleableStock → row.slotSalesState ≠ .saleReady →
    row.slotSalesState.isUnblockedStop = true ∨
      ∃ blocker, store.blockerOf row = some blocker ∧
        blocker.ofStateChange = true
  blocked : ∀ blocker, store.blockerOf row = some blocker →
    row.slotSalesState ≠ .saleReady ∧
      (row.saleableStock = 0 ∨ blocker.ofStateChange = true)

/-- A slot of the active planogram is projected, within capacity, and shown. -/
structure SlotProjected (store : Store) (slot : PlanogramSlot) : Prop where
  projected : ∃ row,
    store.currentStockProjection.find? slot.slotId = some row ∧
      row.planogramVersion = slot.planogramVersion ∧
      row.saleableStock ≤ slot.capacity
  shown : store.ShowsProjection slot.slotId

/-- Every projection is sound and every active slot is projected. -/
structure ProjectionsSound (trusted : Prop) (store : Store) : Prop where
  rows : ∀ slotId row,
    store.currentStockProjection.find? slotId = some row →
      RowSound trusted store row
  active : ∀ slot ∈ store.machinePlanogramSlots,
    store.activePlanogramVersion = some slot.planogramVersion →
      SlotProjected store slot
  capacities : ∀ slot ∈ store.machinePlanogramSlots, 0 ≤ slot.capacity
  blockers : ∀ version slotId,
    (store.saleSafetyBlockers.find? (version, slotId)).isSome = true →
      (store.machinePlanogramSlots.find? (version, slotId)).isSome = true
  versions : ∀ slot ∈ store.machinePlanogramSlots,
    (store.machinePlanogramVersions.find?
      slot.planogramVersion).isSome = true
  activeVersion : ∀ version,
    store.activePlanogramVersion = some version →
      (store.machinePlanogramVersions.find? version).isSome = true

variable {trusted : Prop} {row : StockProjection}
  {first second before next cleared store : Store} {slotId : SlotId}
  {state : SlotSalesState} {slot : PlanogramSlot} {version : PlanogramVersion}
  {now : Time} {resetLocalSlotHold : Bool} {physicalStock : Int}
  {source reason : String}

theorem RowSound.congr
    (sameBlocker : first.blockerOf row = second.blockerOf row)
    (sound : RowSound trusted second row) :
    RowSound trusted first row where
  saleable_nonneg := sound.saleable_nonneg
  saleable_le := sound.saleable_le
  ready := by
    rw [sameBlocker]
    exact sound.ready
  blocked := by
    rw [sameBlocker]
    exact sound.blocked

theorem SlotAgrees.blockerOf
    (agrees : SlotAgrees slotId first second)
    (ofSlot : row.slotId = slotId) :
    first.blockerOf row = second.blockerOf row := by
  rw [Store.blockerOf, Store.blockerOf, ofSlot]
  exact agrees.blockers row.planogramVersion

namespace ProjectionsSound

variable {after before : Store}

/-- The invariant only reads the planograms, projections, blockers and views. -/
theorem of_same
    (sound : ProjectionsSound trusted before)
    (active :
      after.activePlanogramVersion = before.activePlanogramVersion)
    (versions : ∀ version,
      (before.machinePlanogramVersions.find? version).isSome = true →
        (after.machinePlanogramVersions.find? version).isSome = true)
    (slots : after.machinePlanogramSlots = before.machinePlanogramSlots)
    (rows : after.currentStockProjection = before.currentStockProjection)
    (blockers : after.saleSafetyBlockers = before.saleSafetyBlockers)
    (shown : after.saleViewProjection = before.saleViewProjection) :
    ProjectionsSound trusted after where
  rows := by
    intro slotId row found
    rw [rows] at found
    refine RowSound.congr ?_ (sound.rows slotId row found)
    rw [Store.blockerOf, Store.blockerOf, blockers]
  active := by
    rw [slots, active]
    intro slot member isActive
    obtain ⟨projected, shows⟩ := sound.active slot member isActive
    refine ⟨?_, ?_⟩
    · rw [rows]
      exact projected
    · rw [Store.ShowsProjection, rows, shown]
      exact shows
  capacities := by
    rw [slots]
    exact sound.capacities
  blockers := by
    rw [slots, blockers]
    exact sound.blockers
  versions := by
    rw [slots]
    exact fun slot member => versions _ (sound.versions slot member)
  activeVersion := by
    rw [active]
    exact fun version isActive =>
      versions version (sound.activeVersion version isActive)

theorem of_sameSlots
    (sound : ProjectionsSound trusted before)
    (same : SameSlots before after) :
    ProjectionsSound trusted after := by
  refine sound.of_same same.active (fun version applied => ?_)
    same.slots same.rows same.blockers same.shown
  rw [same.versions]
  exact applied

/-- A write to one active slot that leaves its row sound and shown. -/
theorem of_slotWrite
    (sound : ProjectionsSound trusted before)
    (touches : TouchesOnly slotId before after)
    (slotFound :
      before.machinePlanogramSlots.find? (version, slotId) = some slot)
    (isActive : before.activePlanogramVersion = some version)
    (rowFound : after.currentStockProjection.find? slotId = some row)
    (rowVersion : row.planogramVersion = version)
    (withinCapacity : row.saleableStock ≤ slot.capacity)
    (rowSound : RowSound trusted after row)
    (shows : after.ShowsProjection slotId)
    (blockers : ∀ other,
      (after.saleSafetyBlockers.find? (other, slotId)).isSome = true →
        other = version ∨
          (before.saleSafetyBlockers.find? (other, slotId)).isSome =
            true) :
    ProjectionsSound trusted after where
  rows := by
    intro other otherRow found
    by_cases isSlot : other = slotId
    · subst isSlot
      rw [rowFound] at found
      cases found
      exact rowSound
    · have agrees := touches.others other isSlot
      rw [agrees.row] at found
      exact RowSound.congr
        (agrees.blockerOf (Table.key_of_find? found))
        (sound.rows other otherRow found)
  active := by
    rw [touches.slots, touches.active]
    intro other member otherActive
    by_cases isSlot : other.slotId = slotId
    · have sameVersion : other.planogramVersion = version :=
        Option.some.inj (otherActive.symm.trans isActive)
      have sameSlot : other = slot := by
        have found := Table.find?_of_mem member
        rw [isSlot, sameVersion, slotFound] at found
        exact (Option.some.inj found).symm
      subst sameSlot
      rw [← isSlot] at rowFound shows
      exact ⟨⟨row, rowFound, rowVersion.trans sameVersion.symm,
        withinCapacity⟩, shows⟩
    · obtain ⟨projected, otherShows⟩ :=
        sound.active other member otherActive
      refine ⟨?_, touches.showsProjection isSlot otherShows⟩
      rw [(touches.others other.slotId isSlot).row]
      exact projected
  capacities := by
    rw [touches.slots]
    exact sound.capacities
  blockers := by
    rw [touches.slots]
    intro otherVersion other isBlocked
    by_cases isSlot : other = slotId
    · subst isSlot
      rcases blockers otherVersion isBlocked with rfl | earlier
      · rw [slotFound]
        rfl
      · exact sound.blockers otherVersion other earlier
    · rw [(touches.others other isSlot).blockers] at isBlocked
      exact sound.blockers otherVersion other isBlocked
  versions := by
    rw [touches.slots, touches.versions]
    exact sound.versions
  activeVersion := by
    rw [touches.active, touches.versions]
    exact sound.activeVersion

theorem projection
    (sound : ProjectionsSound trusted store)
    (slotFound :
      store.machinePlanogramSlots.find? (version, slotId) = some slot)
    (isActive : store.activePlanogramVersion = some version) :
    ∃ row, store.currentStockProjection.find? slotId = some row ∧
      row.planogramVersion = version ∧ row.slotId = slotId ∧
      row.saleableStock ≤ slot.capacity ∧ RowSound trusted store row := by
  have key := Table.key_of_find? slotFound
  have sameVersion : slot.planogramVersion = version :=
    congrArg Prod.fst key
  have sameSlot : slot.slotId = slotId := congrArg Prod.snd key
  rw [← sameVersion] at isActive
  obtain ⟨row, found, rowVersion, withinCapacity⟩ :=
    (sound.active slot (Table.mem_of_find? slotFound) isActive).projected
  rw [sameSlot] at found
  exact ⟨row, found, rowVersion.trans sameVersion,
    Table.key_of_find? found, withinCapacity, sound.rows slotId row found⟩

end ProjectionsSound

theorem SlotSalesState.isUnblockedStop_of_isDispenseHold
    (held : state.isDispenseHold = true) :
    state.isUnblockedStop = true := by
  cases state <;> simp_all [isDispenseHold, isUnblockedStop]

/-- A store whose blockers of a slot were perhaps removed. -/
structure ClearsBlockers
    (slotId : SlotId)
    (before after : Store) : Prop where
  touches : TouchesOnly slotId before after
  row : after.currentStockProjection.find? slotId =
    before.currentStockProjection.find? slotId
  fewer : ∀ version blocker,
    after.saleSafetyBlockers.find? (version, slotId) = some blocker →
      before.saleSafetyBlockers.find? (version, slotId) = some blocker

namespace ClearsBlockers

variable {before : Store}

theorem of_same
    {after : Store}
    (touches : TouchesOnly slotId before after)
    (rows : after.currentStockProjection = before.currentStockProjection)
    (blockers : after.saleSafetyBlockers = before.saleSafetyBlockers) :
    ClearsBlockers slotId before after where
  touches := touches
  row := by rw [rows]
  fewer := by
    rw [blockers]
    exact fun _ _ found => found

theorem deleteBlockers
    (clears : ClearsBlockers slotId before store)
    {selects : SaleSafetyBlocker → Bool}
    (ofSlot : ∀ blocker, selects blocker = true →
      blocker.slotId = slotId) :
    ClearsBlockers slotId before
      { store with
        saleSafetyBlockers :=
          store.saleSafetyBlockers.deleteWhere selects } where
  touches := clears.touches.trans (.deleteBlockers store ofSlot)
  row := clears.row
  fewer := by
    intro version blocker found
    rw [Table.find?_deleteWhere] at found
    exact clears.fewer version blocker (Option.filter_eq_some_iff.mp found).1

theorem clearMarker
    (clears : ClearsBlockers slotId before store)
    (version : PlanogramVersion) :
    ClearsBlockers slotId before
      (clearSaleSafetyBlockerMarker store version slotId) :=
  clears.deleteBlockers (fun blocker selected => by
    simp only [Bool.and_eq_true, beq_iff_eq] at selected
    exact selected.2)

end ClearsBlockers

/-- A projected quantity leaves its slot sound. -/
theorem ProjectionsSound.projectStock
    {saleableStock : Int}
    (sound : ProjectionsSound trusted before)
    (clears : ClearsBlockers slotId before cleared)
    (slotFound :
      before.machinePlanogramSlots.find? (version, slotId) = some slot)
    (isActive : before.activePlanogramVersion = some version)
    (saleable_le : trusted → saleableStock ≤ max physicalStock 0)
    (withinCapacity : saleableStock ≤ slot.capacity)
    (ready : 0 < saleableStock → state = .saleReady)
    (refreshed :
      upsertSaleViewProjection
        (upsertStockProjectionWithState cleared version slotId
          physicalStock saleableStock state resetLocalSlotHold now)
        version slotId now = .ok next) :
    ProjectionsSound trusted next := by
  obtain ⟨oldRow, oldFound, oldVersion, oldSlot, _, oldSound⟩ :=
    sound.projection slotFound isActive
  have capacity := sound.capacities slot (Table.mem_of_find? slotFound)
  have agrees := upsertSaleViewProjection_agrees refreshed slotId
  have rowFound := agrees.row.trans
    (find?_upsertStockProjectionWithState cleared version slotId
      physicalStock saleableStock state resetLocalSlotHold now)
  have clearedFound := clears.row.trans oldFound
  have blockedBefore : cleared.upsertBlocked slotId =
      cleared.hasSaleSafetyBlocker version slotId := by
    rw [upsertBlocked_of_found clearedFound, oldVersion, oldSlot]
  have touches := clears.touches.trans
    ((TouchesOnly.upsertStockProjectionWithState cleared version slotId
      physicalStock saleableStock state resetLocalSlotHold now).trans
        (TouchesOnly.upsertSaleViewProjection refreshed))
  refine sound.of_slotWrite touches slotFound isActive rowFound rfl ?_ ?_
    (upsertSaleViewProjection_showsProjection refreshed) ?_
  · simp only [Store.projectedRow]
    split <;> omega
  · refine ⟨?_, ?_, ?_, ?_⟩
    · simp only [Store.projectedRow]
      split <;> omega
    · intro trust
      have within := saleable_le trust
      simp only [Store.projectedRow]
      split <;> omega
    · intro positive notReady
      simp only [Store.projectedRow] at positive notReady ⊢
      split at positive
      · omega
      · rename_i notBlocked
        rcases keptState_cases cleared slotId state resetLocalSlotHold with
          requested | ⟨row, found, kept, blocked | held⟩
        · rw [requested] at notReady
          exact absurd (ready (by omega)) notReady
        · exact absurd blocked notBlocked
        · rw [kept]
          exact Or.inl (SlotSalesState.isUnblockedStop_of_isDispenseHold held)
    · intro blocker found
      have inCleared :
          cleared.saleSafetyBlockers.find? (version, slotId) =
            some blocker := by
        rw [← found]
        exact (agrees.blockers version).symm
      have isBlocked :
          cleared.hasSaleSafetyBlocker version slotId = true := by
        simp [Store.hasSaleSafetyBlocker, inCleared]
      have inBefore := clears.fewer version blocker inCleared
      have oldBlocked := oldSound.blocked blocker (by
        rw [Store.blockerOf, oldVersion, oldSlot]
        exact inBefore)
      refine ⟨?_, Or.inl ?_⟩
      · simp only [Store.projectedRow]
        rw [keptState_of_found state resetLocalSlotHold clearedFound,
          oldVersion, oldSlot, isBlocked]
        exact oldBlocked.1
      · simp only [Store.projectedRow]
        rw [blockedBefore, if_pos isBlocked]
  · intro other isBlocked
    rw [agrees.blockers other] at isBlocked
    obtain ⟨blocker, found⟩ := Option.isSome_iff_exists.mp isBlocked
    exact Or.inr (Option.isSome_iff_exists.mpr
      ⟨blocker, clears.fewer other blocker found⟩)

theorem ProjectionsSound.projectCount
    (sound : ProjectionsSound trusted before)
    (clears : ClearsBlockers slotId before cleared)
    (slotFound :
      before.machinePlanogramSlots.find? (version, slotId) = some slot)
    (isActive : before.activePlanogramVersion = some version)
    (refreshed :
      upsertSaleViewProjection
        (upsertStockProjection cleared version slotId physicalStock
          slot.capacity resetLocalSlotHold now)
        version slotId now = .ok next) :
    ProjectionsSound trusted next := by
  have capacity := sound.capacities slot (Table.mem_of_find? slotFound)
  unfold upsertStockProjection at refreshed
  refine sound.projectStock clears slotFound isActive ?_ ?_ ?_ refreshed
  · omega
  · omega
  · intro positive
    exact if_pos positive

theorem recordMovement_clears
    (store : Store)
    (movement : StockMovement)
    (upload : Bool)
    (now : Time)
    (slotId : SlotId) :
    ClearsBlockers slotId store
      (recordMovement store movement upload now) := by
  cases upload
  · exact .of_same (.of_same ⟨rfl, rfl, rfl, rfl, rfl, rfl⟩) rfl rfl
  · exact .of_same (.of_same ⟨rfl, rfl, rfl, rfl, rfl, rfl⟩) rfl rfl

theorem ProjectionsSound.applyStockMovement
    {movement : StockMovement}
    {upload : Bool}
    (sound : ProjectionsSound trusted store)
    (slotFound :
      store.machinePlanogramSlots.find?
        (movement.planogramVersion, movement.slotId) = some slot)
    (isActive :
      store.activePlanogramVersion = some movement.planogramVersion)
    (applied :
      Daemon.applyStockMovement store movement slot.capacity upload now =
        .ok next) :
    ProjectionsSound trusted next := by
  have recorded :=
    recordMovement_clears store movement upload now movement.slotId
  unfold Daemon.applyStockMovement at applied
  refine sound.projectCount ?_ slotFound isActive applied
  cases movement.source == .localMaintenance
  · exact recorded.deleteBlockers (fun blocker selected => by
      simp only [Bool.and_eq_true, beq_iff_eq] at selected
      exact selected.1.2)
  · exact recorded.clearMarker movement.planogramVersion

theorem ProjectionsSound.projectAttestedSlot
    {row : PlanogramSlot}
    {slot : PhysicalStockAttestationSlotInput}
    (sound : ProjectionsSound trusted before)
    (clears : ClearsBlockers slot.slotId before store)
    (slotFound :
      before.machinePlanogramSlots.find? (version, slot.slotId) = some row)
    (isActive : before.activePlanogramVersion = some version)
    (withinCapacity : slot.quantity ≤ row.capacity)
    (projected :
      Daemon.projectAttestedSlot store version slot now = .ok next) :
    ProjectionsSound trusted next := by
  have capacity := sound.capacities row (Table.mem_of_find? slotFound)
  unfold Daemon.projectAttestedSlot at projected
  refine sound.projectStock (clears.clearMarker version) slotFound
    isActive ?_ ?_ ?_ projected
  · split <;> omega
  · split <;> omega
  · intro positive
    by_contra notReady
    rw [if_neg notReady] at positive
    omega

/-- A platform quantity with no more available than on hand is sound. -/
theorem ProjectionsSound.projectSnapshotSlot
    {slot : MachineStockSnapshotSlot}
    (sound : ProjectionsSound trusted store)
    (isActive : store.activePlanogramVersion = some version)
    (checked : checkSnapshotSlot store version slot = .ok ())
    (available : trusted → slot.availableQty ≤ slot.onHandQty)
    (projected :
      Daemon.projectSnapshotSlot store version slot now = .ok next) :
    ProjectionsSound trusted next := by
  unfold checkSnapshotSlot at checked
  split at checked
  · cases checked
  rename_i nonneg
  split at checked
  · cases checked
  rename_i localSlot slotFound
  split at checked
  · cases checked
  split at checked
  · cases checked
  rename_i sameCapacity
  have capacity : localSlot.capacity = slot.capacity := by omega
  unfold Daemon.projectSnapshotSlot at projected
  refine sound.projectStock ?_ slotFound isActive ?_ ?_ ?_ projected
  · split
    · exact (ClearsBlockers.of_same (.refl slot.slotId store)
        rfl rfl).deleteBlockers (fun blocker selected => by
          simp only [Bool.and_eq_true, beq_iff_eq] at selected
          exact selected.1.2)
    · exact .of_same (.refl _ _) rfl rfl
  · intro trust
    have offered := available trust
    split <;> omega
  · split <;> omega
  · intro positive
    split at positive
    · assumption
    · omega

/-- A rewritten row that is sound under its blockers leaves its slot sound. -/
theorem ProjectionsSound.projectState
    {marked : Store}
    {projections : Table StockProjection StockProjection.slotId}
    (sound : ProjectionsSound trusted before)
    (touches : TouchesOnly slotId before marked)
    (slotFound :
      before.machinePlanogramSlots.find? (version, slotId) = some slot)
    (isActive : before.activePlanogramVersion = some version)
    (others : ∀ other, other ≠ slotId →
      projections.find? other = marked.currentStockProjection.find? other)
    (rowFound : projections.find? slotId = some row)
    (rowVersion : row.planogramVersion = version)
    (withinCapacity : row.saleableStock ≤ slot.capacity)
    (rowSound : RowSound trusted marked row)
    (blockers : ∀ other,
      (marked.saleSafetyBlockers.find? (other, slotId)).isSome = true →
        other = version ∨
          (before.saleSafetyBlockers.find? (other, slotId)).isSome = true)
    (refreshed :
      upsertSaleViewProjection
        { marked with currentStockProjection := projections }
        version slotId now = .ok next) :
    ProjectionsSound trusted next := by
  have agrees := upsertSaleViewProjection_agrees refreshed slotId
  have rewritten := touches.trans
    ((TouchesOnly.updateRow marked projections others).trans
      (TouchesOnly.upsertSaleViewProjection refreshed))
  refine sound.of_slotWrite rewritten slotFound isActive
    (agrees.row.trans rowFound) rowVersion withinCapacity ?_
    (upsertSaleViewProjection_showsProjection refreshed) ?_
  · refine RowSound.congr ?_ rowSound
    exact (agrees.blockerOf (Table.key_of_find? rowFound)).trans rfl
  · intro other isBlocked
    rw [agrees.blockers other] at isBlocked
    exact blockers other isBlocked

theorem find?_upsertSaleSafetyBlockerMarker
    (store : Store)
    (version : PlanogramVersion)
    (slotId : SlotId)
    (state : SlotSalesState)
    (reason source : String)
    (other : PlanogramVersion) :
    ∃ blocker : SaleSafetyBlocker,
      blocker.reason = reason ∧
      (upsertSaleSafetyBlockerMarker store version slotId state reason
          source).saleSafetyBlockers.find? (other, slotId) =
        if other = version then some blocker
        else store.saleSafetyBlockers.find? (other, slotId) := by
  simp only [upsertSaleSafetyBlockerMarker, Table.find?_insertOrUpdate,
    Prod.mk.injEq, and_true]
  by_cases same : other = version
  · subst same
    simp only [↓reduceIte]
    refine ⟨_, ?_, rfl⟩
    cases store.saleSafetyBlockers.find? (other, slotId) <;> rfl
  · simp only [same, ↓reduceIte, and_true]
    exact ⟨⟨version, slotId, state, reason, source⟩, rfl⟩

theorem find?_updateSlotRow
    (store : Store)
    (version : PlanogramVersion)
    (slotId : SlotId)
    (change : StockProjection → StockProjection)
    (keepsSlot : ∀ row, (change row).slotId = row.slotId)
    (other : SlotId) :
    (store.currentStockProjection.updateWhere
        (fun row =>
          row.planogramVersion == version && row.slotId == slotId)
        change keepsSlot).find? other =
      if other = slotId then
        (store.currentStockProjection.find? other).map (fun row =>
          if row.planogramVersion = version then change row else row)
      else store.currentStockProjection.find? other := by
  rw [Table.find?_updateWhere]
  cases found : store.currentStockProjection.find? other with
  | none => simp
  | some row =>
    have key : row.slotId = other := Table.key_of_find? found
    by_cases same : other = slotId
    · simp [key, same]
    · simp [key, same]

/-- A slot blocked by a reconciliation state has nothing for sale. -/
theorem ProjectionsSound.projectBlocker
    (sound : ProjectionsSound trusted store)
    (slotFound :
      store.machinePlanogramSlots.find? (version, slotId) = some slot)
    (isActive : store.activePlanogramVersion = some version)
    (blocks : state ≠ .saleReady)
    (refreshed :
      upsertSaleViewProjection
        { upsertSaleSafetyBlockerMarker store version slotId state
            reason source with
          currentStockProjection := store.currentStockProjection.updateWhere
            (fun row =>
              row.planogramVersion == version && row.slotId == slotId)
            (fun row =>
              { row with
                saleableStock := 0
                slotSalesState := state
                updatedAt := now }) }
        version slotId now = .ok next) :
    ProjectionsSound trusted next := by
  obtain ⟨row, found, rowVersion, rowSlot, _, rowSound⟩ :=
    sound.projection slotFound isActive
  have capacity := sound.capacities slot (Table.mem_of_find? slotFound)
  have physical := rowSound.saleable_le
  have saleable := rowSound.saleable_nonneg
  have rewritten := find?_updateSlotRow store version slotId
    (fun row =>
      { row with
        saleableStock := 0
        slotSalesState := state
        updatedAt := now })
    (fun _ => rfl)
  have rowRewritten := rewritten slotId
  rw [if_pos rfl, found, Option.map_some, if_pos rowVersion] at rowRewritten
  refine sound.projectState
    (.upsertSaleSafetyBlockerMarker store version slotId state reason
      source)
    slotFound isActive ?_ rowRewritten rowVersion capacity ?_ ?_ refreshed
  · intro other differs
    rw [rewritten other, if_neg differs]
    rfl
  · refine ⟨le_refl _, fun trust => le_trans saleable (physical trust),
      ?_, ?_⟩
    · intro positive
      exact absurd positive (lt_irrefl _)
    · exact fun _ _ => ⟨blocks, Or.inl rfl⟩
  · intro other isBlocked
    obtain ⟨blocker, _, marked⟩ := find?_upsertSaleSafetyBlockerMarker
      store version slotId state reason source other
    rw [marked] at isBlocked
    by_cases same : other = version
    · exact Or.inl same
    · rw [if_neg same] at isBlocked
      exact Or.inr isBlocked

theorem SlotSalesState.ne_saleReady_of_isReconciliation
    (blocks : state.isReconciliationSaleSafetyBlocker = true) :
    state ≠ .saleReady := by
  rintro rfl
  cases blocks

theorem ProjectionsSound.blockSlotForReview
    (sound : ProjectionsSound trusted store)
    (slotFound :
      store.machinePlanogramSlots.find? (version, slotId) = some slot)
    (isActive : store.activePlanogramVersion = some version)
    (blocked :
      Daemon.blockSlotForReview store version slotId reason source now =
        .ok next) :
    ProjectionsSound trusted next :=
  sound.projectBlocker slotFound isActive (by decide) blocked

theorem upsertSaleViewProjection_mapped
    (refreshed :
      upsertSaleViewProjection store version slotId now = .ok next) :
    ∃ slot, store.machinePlanogramSlots.find? (version, slotId) =
      some slot := by
  unfold upsertSaleViewProjection at refreshed
  split at refreshed
  · rename_i slot _ slotFound _
    exact ⟨slot, slotFound⟩
  · cases refreshed

theorem ProjectionsSound.applySaleSafetyBlocker
    {blocker : StockMovementSaleSafetyBlocker}
    (sound : ProjectionsSound trusted store)
    (applied :
      Daemon.applySaleSafetyBlocker store blocker now = .ok next) :
    ProjectionsSound trusted next := by
  unfold Daemon.applySaleSafetyBlocker at applied
  split at applied
  · cases applied
    exact sound
  · rename_i projection found
    obtain ⟨rowFound, isActive⟩ := Option.filter_eq_some_iff.mp found
    obtain ⟨marked, inserted, refreshed⟩ :=
      Transaction.bind_eq_ok_iff.mp applied
    unfold insertSaleSafetyBlocker at inserted
    split at inserted
    · rename_i blocks
      cases inserted
      obtain ⟨slot, slotFound⟩ := upsertSaleViewProjection_mapped refreshed
      exact sound.projectBlocker slotFound (beq_iff_eq.mp isActive)
        (SlotSalesState.ne_saleReady_of_isReconciliation blocks) refreshed
    · cases inserted

theorem find?_markSlotSalesState
    (store : Store)
    (version : PlanogramVersion)
    (slotId : SlotId)
    (state : SlotSalesState)
    (source : String) :
    ((state.isReconciliationSaleSafetyBlocker = true ∧
        ∃ blocker : SaleSafetyBlocker, blocker.ofStateChange = true ∧
          (markSlotSalesState store version slotId state
            source).saleSafetyBlockers.find? (version, slotId) =
              some blocker) ∨
      (state.isReconciliationSaleSafetyBlocker = false ∧
        (markSlotSalesState store version slotId state
          source).saleSafetyBlockers.find? (version, slotId) = none)) ∧
    ∀ other, other ≠ version →
      ((markSlotSalesState store version slotId state
        source).saleSafetyBlockers.find? (other, slotId)).isSome = true →
      (store.saleSafetyBlockers.find? (other, slotId)).isSome = true := by
  unfold markSlotSalesState
  split
  · rename_i blocks
    refine ⟨Or.inl ⟨blocks, ?_⟩, ?_⟩
    · obtain ⟨blocker, reason, marked⟩ :=
        find?_upsertSaleSafetyBlockerMarker store version slotId state
          "field_action" source version
      refine ⟨blocker, by simp [SaleSafetyBlocker.ofStateChange, reason],
        ?_⟩
      rw [marked, if_pos rfl]
    · intro other differs isBlocked
      obtain ⟨_, _, marked⟩ :=
        find?_upsertSaleSafetyBlockerMarker store version slotId state
          "field_action" source other
      rw [marked, if_neg differs] at isBlocked
      exact isBlocked
  · rename_i free
    refine ⟨Or.inr ⟨by simpa using free, ?_⟩, ?_⟩
    · rw [clearSaleSafetyBlockerMarker, Table.find?_deleteWhere]
      cases found :
          store.saleSafetyBlockers.find? (version, slotId) with
      | none => rfl
      | some blocker =>
        have key := Table.key_of_find? found
        simp only [Prod.mk.injEq] at key
        simp [key.1, key.2]
    · intro other _ isBlocked
      obtain ⟨blocker, found⟩ := Option.isSome_iff_exists.mp isBlocked
      rw [clearSaleSafetyBlockerMarker, Table.find?_deleteWhere] at found
      exact Option.isSome_iff_exists.mpr
        ⟨blocker, (Option.filter_eq_some_iff.mp found).1⟩

theorem SlotSalesState.isUnblockedStop_of_free
    (free : state.isReconciliationSaleSafetyBlocker = false)
    (notReady : state ≠ .saleReady) :
    state.isUnblockedStop = true := by
  cases state <;>
    simp_all [isReconciliationSaleSafetyBlocker, isUnblockedStop]

theorem ProjectionsSound.updateSlotSalesState
    (sound : ProjectionsSound trusted store)
    (updated :
      Daemon.updateSlotSalesState store version slotId state source now =
        .ok next) :
    ProjectionsSound trusted next := by
  unfold Daemon.updateSlotSalesState at updated
  split at updated
  · cases updated
  rename_i slot mapped
  obtain ⟨slotFound, isActive⟩ := Option.filter_eq_some_iff.mp mapped
  have slotVersion : slot.planogramVersion = version :=
    congrArg Prod.fst (Table.key_of_find? slotFound)
  simp only [Store.isActiveSlot, beq_iff_eq, slotVersion] at isActive
  obtain ⟨row, found, rowVersion, rowSlot, withinCapacity, rowSound⟩ :=
    sound.projection slotFound isActive
  obtain ⟨marked, others⟩ :=
    find?_markSlotSalesState store version slotId state source
  have sameRows : (markSlotSalesState store version slotId state
      source).currentStockProjection = store.currentStockProjection := by
    rw [markSlotSalesState_frame]
  unfold projectSlotSalesState at updated
  split at updated
  · cases updated
  have rowRewritten :
      ((markSlotSalesState store version slotId state
        source).currentStockProjection.modify slotId
          (fun row => { row with slotSalesState := state, updatedAt := now })
          (fun _ => rfl)).find? slotId =
        some { row with slotSalesState := state, updatedAt := now } := by
    rw [Table.find?_modify, if_pos rfl, sameRows, found]
    rfl
  refine sound.projectState
    (.markSlotSalesState store version slotId state source)
    slotFound isActive ?_ rowRewritten rowVersion withinCapacity ?_ ?_
    updated
  · intro other differs
    rw [Table.find?_modify, if_neg differs]
  · have blocker : (markSlotSalesState store version slotId state
        source).blockerOf
          { row with slotSalesState := state, updatedAt := now } =
        (markSlotSalesState store version slotId state
          source).saleSafetyBlockers.find? (version, slotId) := by
      rw [Store.blockerOf, rowVersion, rowSlot]
    refine ⟨rowSound.saleable_nonneg, rowSound.saleable_le, ?_, ?_⟩
    · intro _ notReady
      rw [blocker]
      rcases marked with ⟨_, mark, ofChange, isMarked⟩ | ⟨free, _⟩
      · exact Or.inr ⟨mark, isMarked, ofChange⟩
      · exact Or.inl (SlotSalesState.isUnblockedStop_of_free free notReady)
    · intro mark isMarked
      rw [blocker] at isMarked
      rcases marked with ⟨blocks, other, ofChange, same⟩ | ⟨_, cleared⟩
      · rw [isMarked] at same
        cases same
        exact ⟨SlotSalesState.ne_saleReady_of_isReconciliation blocks,
          Or.inr ofChange⟩
      · rw [isMarked] at cleared
        cases cleared
  · intro other isBlocked
    by_cases same : other = version
    · exact Or.inl same
    · exact Or.inr (others other same isBlocked)

end VendingSystem.Daemon
