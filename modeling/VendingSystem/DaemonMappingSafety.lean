import VendingSystem.DaemonSlotRuns

namespace VendingSystem.Daemon

/-!
# Stock counted for one product and sold as another

When a new planogram maps a stocked slot to another product, the slot is
blocked until it is counted.  The block is only a sales state, which a next
planogram, a sale and an operator write over.
-/

/-- What a slot sells, and out of which inventory. -/
structure SlotMapping where
  inventoryId : Nat
  variantId : Nat
  productId : Nat
  deriving Repr, DecidableEq

def MachinePlanogramSlotInput.mapping
    (slot : MachinePlanogramSlotInput) : SlotMapping where
  inventoryId := slot.inventoryId
  variantId := slot.variantId
  productId := slot.productId

/-- The slot of the active planogram under an identifier. -/
def Store.activeSlotOf
    (store : Store)
    (slotId : SlotId) : Option PlanogramSlot :=
  store.activePlanogramVersion.bind fun version =>
    store.machinePlanogramSlots.find? (version, slotId)

/-- The slot is mapped away from what its stock was counted as. -/
def Store.HasStaleStock
    (store : Store)
    (slotId : SlotId)
    (counted : SlotMapping) : Prop :=
  ∃ slot ∈ store.activeSlotOf slotId,
    ∃ row ∈ store.currentStockProjection.find? slotId,
      slot.mapping ≠ counted ∧ 0 < row.physicalStock

/-- Stock counted under one mapping is ready for sale under another. -/
def Store.OffersStaleStock
    (store : Store)
    (slotId : SlotId)
    (counted : SlotMapping) : Prop :=
  ∃ slot ∈ store.activeSlotOf slotId,
    ∃ row ∈ store.currentStockProjection.find? slotId,
      slot.mapping ≠ counted ∧ 0 < row.physicalStock ∧
        row.slotSalesState = .saleReady

/-- A blocker or a dispense hold keeps the state of the slot. -/
def Store.heldBack (store : Store) (slotId : SlotId) : Bool :=
  (store.currentStockProjection.find? slotId).any fun row =>
    store.hasSaleSafetyBlocker row.planogramVersion row.slotId ||
      row.slotSalesState.isDispenseHold

/--
What puts stale stock on sale: a state change to ready and, unless the slot is
held back, a new planogram that repeats the mapping and a sale that leaves
stock in the slot.
-/
def StockEvent.Reoffers
    (store : Store)
    (slotId : SlotId) : StockEvent → Prop
  | .applyPlanogram input =>
    store.heldBack slotId = false ∧
      store.machinePlanogramVersions.find? input.planogramVersion =
        none ∧
      ∃ slot ∈ input.slots, slot.slotId = slotId ∧ 0 < slot.capacity ∧
        (store.activeSlotOf slotId).map
          (fun current => current.mapping) = some slot.mapping
  | .commitDispense command result preferred =>
    store.heldBack slotId = false ∧ result.success = true ∧
      store.stockMovements.find? (.dispense command.commandNo) = none ∧
      ∃ slot ∈ store.dispenseSlot command preferred,
        slot.slotId = slotId ∧ 0 < slot.capacity ∧
          ∃ row ∈ store.currentStockProjection.find? slotId,
            command.quantity < row.physicalStock
  | .updateSlotSalesState version changed state _ =>
    changed = slotId ∧ state = .saleReady ∧
      store.activePlanogramVersion = some version
  | .recordStockMovement _ _
  | .submitRefillBatch _ _ _
  | .recordAttestation _
  | .stageAttestation _ _ _
  | .finalizeAttestation
  | .uploadAnswered _ _
  | .uploadFailed _ _ _ _
  | .applySnapshot _
  | .journalDispense _ _
  | .pruneStockMovements _ _
  | .otherActivity _ => False

/-- The transaction has no entry, attestation or snapshot of the slot. -/
def StockEvent.LeavesCount
    (store : Store)
    (slotId : SlotId)
    (event : StockEvent) : Prop :=
  ¬ event.writeKinds store (.entry slotId) ∧
    ¬ event.writeKinds store (.attestation slotId) ∧
    ¬ event.writeKinds store (.snapshot slotId)

/-- The transaction does not put stale stock of the slot on sale. -/
def KeepsStaleStockOff
    (slotId : SlotId)
    (counted : SlotMapping)
    (store : Store)
    (timed : TimedStockEvent) : Prop :=
  store.HasStaleStock slotId counted →
    ¬ timed.event.Reoffers store slotId

instance
    (store : Store)
    (slotId : SlotId)
    (counted : SlotMapping) :
    Decidable (store.HasStaleStock slotId counted) :=
  inferInstanceAs (Decidable (∃ slot ∈ store.activeSlotOf slotId,
    ∃ row ∈ store.currentStockProjection.find? slotId,
      slot.mapping ≠ counted ∧ 0 < row.physicalStock))

instance
    (store : Store)
    (slotId : SlotId) :
    (event : StockEvent) → Decidable (event.Reoffers store slotId)
  | .applyPlanogram _ => inferInstanceAs (Decidable (_ ∧ _ ∧ _))
  | .commitDispense _ _ _ => inferInstanceAs (Decidable (_ ∧ _ ∧ _))
  | .updateSlotSalesState _ _ _ _ =>
    inferInstanceAs (Decidable (_ ∧ _ ∧ _))
  | .recordStockMovement _ _
  | .submitRefillBatch _ _ _
  | .recordAttestation _
  | .stageAttestation _ _ _
  | .finalizeAttestation
  | .uploadAnswered _ _
  | .uploadFailed _ _ _ _
  | .applySnapshot _
  | .journalDispense _ _
  | .pruneStockMovements _ _
  | .otherActivity _ => inferInstanceAs (Decidable False)

instance
    (slotId : SlotId)
    (counted : SlotMapping)
    (store : Store)
    (timed : TimedStockEvent) :
    Decidable (KeepsStaleStockOff slotId counted store timed) :=
  inferInstanceAs (Decidable (_ → ¬ _))

variable {slotId : SlotId} {counted : SlotMapping} {store after before : Store}
  {state : SlotSalesState} {version : PlanogramVersion} {now : Time}
  {source : String} {command : DispenseCommandPayload}
  {preferred : PlanogramVersion × SlotId} {input : MachinePlanogramInput}

theorem ProjectionsSound.keptState_of_heldBack
    (sound : ProjectionsSound False store)
    (held : store.heldBack slotId = true)
    (state : SlotSalesState) :
    store.keptState slotId state false ≠ .saleReady := by
  obtain ⟨row, found, holds⟩ := (Option.any_eq_true _ _).mp held
  rw [keptState_of_found state false found]
  simp only [Bool.or_eq_true] at holds
  simp only [Bool.not_false, Bool.true_and, Bool.or_eq_true]
  rw [if_pos holds]
  rcases holds with isBlocked | isHold
  · obtain ⟨blocker, blocked⟩ := Option.isSome_iff_exists.mp isBlocked
    exact ((sound.rows slotId row found).blocked blocker blocked).1
  · intro ready
    rw [ready] at isHold
    cases isHold

theorem ProjectionsSound.keptState_ne_ready
    (sound : ProjectionsSound False store)
    (off : store.heldBack slotId = true ∨ state ≠ .saleReady) :
    store.keptState slotId state false ≠ .saleReady := by
  by_cases held : store.heldBack slotId = true
  · exact sound.keptState_of_heldBack held state
  · have notReady := off.resolve_left held
    rcases keptState_cases store slotId state false with
      requested | ⟨row, found, kept, blocked | isHold⟩
    · rw [requested]
      exact notReady
    · refine absurd ?_ held
      rw [upsertBlocked_of_found found] at blocked
      simp [Store.heldBack, found, blocked]
    · refine absurd ?_ held
      simp [Store.heldBack, found, isHold]

theorem offersStaleStock_congr
    (sameSlot : after.activeSlotOf slotId = before.activeSlotOf slotId)
    (sameRow : after.currentStockProjection.find? slotId =
      before.currentStockProjection.find? slotId)
    (offers : after.OffersStaleStock slotId counted) :
    before.OffersStaleStock slotId counted := by
  unfold Store.OffersStaleStock at offers
  rw [sameSlot, sameRow] at offers
  exact offers

theorem SamePlanograms.activeSlotOf
    (same : SamePlanograms before after)
    (slotId : SlotId) :
    after.activeSlotOf slotId = before.activeSlotOf slotId := by
  rw [Store.activeSlotOf, Store.activeSlotOf, same.active, same.slots]

theorem TouchesOnly.offersStaleStock
    {other : SlotId}
    (touches : TouchesOnly other before after)
    (differs : slotId ≠ other)
    (offers : after.OffersStaleStock slotId counted) :
    before.OffersStaleStock slotId counted :=
  offersStaleStock_congr (touches.samePlanograms.activeSlotOf slotId)
    (touches.others slotId differs).row offers

theorem blockedWrite_row
    {next : Store}
    {blocked : SlotId}
    {reason : String}
    (blocks : state ≠ .saleReady)
    (refreshed :
      upsertSaleViewProjection
        { upsertSaleSafetyBlockerMarker store version blocked state
            reason source with
          currentStockProjection := store.currentStockProjection.updateWhere
            (fun row =>
              row.planogramVersion == version && row.slotId == blocked)
            (fun row =>
              { row with
                saleableStock := 0
                slotSalesState := state
                updatedAt := now }) }
        version blocked now = .ok next)
    (offers : next.OffersStaleStock slotId counted) :
    store.OffersStaleStock slotId counted := by
  have touches := TouchesOnly.projectBlocker refreshed
  by_cases isSlot : slotId = blocked
  · subst isSlot
    obtain ⟨slot, isActive, row, found, remapped, stocked, ready⟩ := offers
    rw [touches.samePlanograms.activeSlotOf] at isActive
    rw [(upsertSaleViewProjection_agrees refreshed slotId).row] at found
    have rewritten := find?_updateSlotRow store version slotId
      (fun row =>
        { row with
          saleableStock := 0
          slotSalesState := state
          updatedAt := now })
      (fun _ => rfl) slotId
    rw [if_pos rfl] at rewritten
    have looked := rewritten.symm.trans found
    obtain ⟨old, oldFound, changed⟩ := Option.map_eq_some_iff.mp looked
    split at changed
    · subst changed
      exact absurd ready blocks
    · subst changed
      exact ⟨slot, isActive, old, oldFound, remapped, stocked, ready⟩
  · exact touches.offersStaleStock isSlot offers

open Transaction

/-- A write that neither counts the slot nor sells nor restates. -/
theorem SlotWrite.keepsStaleStockOff
    {trusted : Prop}
    {allows : SlotWriteKind → Prop}
    {records : StockMovement → Prop}
    (write : SlotWrite trusted now allows records before after)
    (noEntry : ¬ allows (.entry slotId))
    (noAttestation : ¬ allows (.attestation slotId))
    (noSnapshot : ¬ allows (.snapshot slotId))
    (noSale : ¬ allows .sale)
    (noState : ¬ allows .state)
    (offers : after.OffersStaleStock slotId counted) :
    before.OffersStaleStock slotId counted := by
  cases write with
  | quiet same _ =>
    exact offersStaleStock_congr
      (SamePlanograms.activeSlotOf
        ⟨same.active, same.versions, same.slots⟩ slotId)
      (same.agrees slotId).row offers
  | pruned _ same _ _ =>
    exact offersStaleStock_congr
      (SamePlanograms.activeSlotOf
        ⟨same.active, same.versions, same.slots⟩ slotId)
      (same.agrees slotId).row offers
  | movement allowed _ _ _ _ applied =>
    refine (TouchesOnly.applyStockMovement applied).offersStaleStock ?_ offers
    rintro rfl
    exact noEntry allowed
  | attested allowed _ _ _ _ _ inserted projected =>
    refine (TouchesOnly.attestSlot inserted projected).offersStaleStock
      ?_ offers
    rintro rfl
    exact noAttestation allowed
  | snapshot allowed _ _ _ projected =>
    refine (TouchesOnly.projectSnapshotSlot projected).offersStaleStock
      ?_ offers
    rintro rfl
    exact noSnapshot allowed
  | review _ blocked =>
    exact blockedWrite_row (by decide) blocked offers
  | blocker applied =>
    unfold applySaleSafetyBlocker at applied
    split at applied
    · cases applied
      exact offers
    · obtain ⟨marked, inserted, refreshed⟩ :=
        bind_eq_ok_iff.mp applied
      unfold insertSaleSafetyBlocker at inserted
      split at inserted
      · rename_i blocks
        cases inserted
        exact blockedWrite_row
          (SlotSalesState.ne_saleReady_of_isReconciliation blocks)
          refreshed offers
      · cases inserted
  | state allowed _ => exact absurd allowed noState
  | sold allowed _ _ => exact absurd allowed noSale

/-- A sale from a slot held back, or one that empties it, offers nothing. -/
theorem sale_keepsStaleStockOff
    (sound : ProjectionsSound False before)
    (off : before.HasStaleStock slotId counted →
      before.heldBack slotId = false →
      before.stockMovements.find? (.dispense command.commandNo) = none →
      ∀ slot ∈ before.dispenseSlot command preferred,
        slot.slotId = slotId → 0 < slot.capacity →
          ∀ row ∈ before.currentStockProjection.find? slotId,
            row.physicalStock ≤ command.quantity)
    (sold :
      applyDispenseSuccessToLocalStock before command preferred now =
        .ok after)
    (offers : after.OffersStaleStock slotId counted) :
    before.OffersStaleStock slotId counted := by
  rcases applyDispenseSuccessToLocalStock_sold sold with
    ⟨_, rfl⟩ | ⟨fresh, slot, projection, selected, countedSlot, refreshed⟩
  · exact offers
  have recorded : SameSlots before
      (before.recordDispense command slot projection now) :=
    ⟨rfl, rfl, rfl, rfl, rfl, rfl⟩
  have touches : TouchesOnly slot.slotId before after :=
    (TouchesOnly.of_same recorded).projectStock refreshed
  by_cases isSlot : slotId = slot.slotId
  · subst isSlot
    have rowFound := countedSlot.projected
    obtain ⟨active, isActive, left, leftFound, remapped, stocked,
      ready⟩ := offers
    rw [touches.samePlanograms.activeSlotOf] at isActive
    unfold upsertStockProjection at refreshed
    rw [Option.mem_def, (upsertSaleViewProjection_agrees refreshed _).row,
      find?_upsertStockProjectionWithState] at leftFound
    cases leftFound
    simp only [Store.projectedRow] at stocked ready
    refine absurd ready ((sound.of_sameSlots
      recorded).keptState_ne_ready ?_)
    by_cases held : before.heldBack slot.slotId = true
    · exact Or.inl held
    · refine Or.inr ?_
      have sells := off
        ⟨active, isActive, projection, rowFound, remapped, by omega⟩
        (by simpa using held) fresh slot selected rfl
      by_cases capacity : 0 < slot.capacity
      · have emptied := sells capacity projection rowFound
        omega
      · rw [if_neg (by omega)]
        decide
  · exact touches.offersStaleStock isSlot offers

/-- A state other than ready offers nothing. -/
theorem updateSlotSalesState_keepsStaleStockOff
    {changed : SlotId}
    (updated :
      updateSlotSalesState before version changed state source now =
        .ok after)
    (off : before.HasStaleStock slotId counted →
      changed = slotId → before.activePlanogramVersion = some version →
      state ≠ .saleReady)
    (offers : after.OffersStaleStock slotId counted) :
    before.OffersStaleStock slotId counted := by
  have touches := TouchesOnly.updateSlotSalesState updated
  by_cases isSlot : slotId = changed
  · subst isSlot
    obtain ⟨_, ⟨row, found, rowState⟩, physical⟩ :=
      updateSlotSalesState_spec updated
    obtain ⟨slot, isActive, left, leftFound, remapped, stocked, ready⟩ :=
      offers
    rw [Option.mem_def, found] at leftFound
    cases leftFound
    rw [touches.samePlanograms.activeSlotOf] at isActive
    have sameStock := physical slotId
    rw [found] at sameStock
    obtain ⟨old, oldFound, oldStock⟩ :=
      Option.map_eq_some_iff.mp sameStock.symm
    have wasActive : before.activePlanogramVersion = some version := by
      unfold updateSlotSalesState at updated
      split at updated
      · cases updated
      · rename_i mapped
        obtain ⟨slotFound, active⟩ := Option.filter_eq_some_iff.mp mapped
        have key := congrArg Prod.fst (Table.key_of_find? slotFound)
        simp only [Store.isActiveSlot, beq_iff_eq] at active
        exact active.trans (congrArg some key)
    refine absurd (rowState.symm.trans ready) (off
      ⟨slot, isActive, old, oldFound, remapped, ?_⟩ rfl wasActive)
    rw [oldStock]
    exact stocked
  · exact touches.offersStaleStock isSlot offers

theorem confirmActivePlanogram_agrees
    (commits :
      (confirmActivePlanogram input now).Commits before () after) :
    after.activeSlotOf slotId = before.activeSlotOf slotId ∧
      SlotAgrees slotId after before := by
  unfold confirmActivePlanogram at commits
  simp only [commits_get_bind, commits_require_bind, commits_modify_bind] at commits
  obtain ⟨_, _, refreshes⟩ := commits
  refine forM_keeps
    (fun _ store => store.activeSlotOf slotId = before.activeSlotOf slotId ∧
      SlotAgrees slotId store before) ?_ ?_ refreshes
  · rintro slot rest store next ⟨sameSlot, agrees⟩ refreshed
    have shown := commits_statement.mp refreshed
    have touches := TouchesOnly.upsertSaleViewProjection shown
    exact ⟨(touches.samePlanograms.activeSlotOf slotId).trans sameSlot,
      (upsertSaleViewProjection_agrees shown slotId).trans agrees⟩
  · exact ⟨rfl, rfl, fun _ => rfl⟩

/-- A carried slot is off sale unless its mapping is repeated. -/
theorem carryPlanogramSlot_notReady
    {slot : MachinePlanogramSlotInput}
    {previous : PreviousSlotProjection}
    (source : String)
    (now : Time)
    (sound : ProjectionsSound False before)
    (found :
      before.currentSlotProjections.find? (fun previous =>
        previous.slotId == slot.slotId) = some previous)
    (off : previous.hasSameMapping slot = true →
      0 < previous.physicalStock →
      before.heldBack slot.slotId = true ∨ slot.capacity ≤ 0) :
    ∀ row ∈ (carryPlanogramSlot before version source slot previous
        now).currentStockProjection.find? slot.slotId,
      0 < row.physicalStock → row.slotSalesState ≠ .saleReady := by
  obtain ⟨old, oldSlot, oldFound, _, _, rowSlot, rfl⟩ :=
    currentSlotProjections_find? found
  intro row rowFound stocked
  unfold carryPlanogramSlot at rowFound
  simp only at rowFound
  split at rowFound
  · rename_i carries
    have projected :
        (upsertStockProjectionWithState before version slot.slotId
          old.physicalStock (max (min old.physicalStock slot.capacity) 0)
          old.slotSalesState false now).currentStockProjection.find?
            slot.slotId = some row := rowFound
    rw [find?_upsertStockProjectionWithState] at projected
    cases projected
    simp only [Bool.and_eq_true] at carries
    exact sound.keptState_ne_ready
      (Or.inr (SlotSalesState.ne_saleReady_of_isReconciliation carries.2))
  split at rowFound
  · rw [Option.mem_def, find?_upsertStockProjectionWithState] at rowFound
    cases rowFound
    exact sound.keptState_ne_ready (Or.inr (by decide))
  · rename_i sameOrEmpty
    rw [Option.mem_def, find?_upsertStockProjectionWithState] at rowFound
    cases rowFound
    simp only [Store.projectedRow] at stocked
    simp only [gt_iff_lt, Bool.and_eq_true, decide_eq_true_eq,
      Bool.not_eq_true', not_and, Bool.not_eq_false] at sameOrEmpty
    have wasStocked : 0 < old.physicalStock := by omega
    rcases off (sameOrEmpty wasStocked) wasStocked with held | empty
    · exact sound.keptState_of_heldBack held _
    · refine sound.keptState_ne_ready (Or.inr ?_)
      split
      · rename_i isHold
        intro ready
        rw [ready] at isHold
        cases isHold
      · rw [if_neg (by omega)]
        decide

/-- A new planogram that does not repeat a stale mapping offers nothing. -/
theorem Activated.keepsStaleStockOff
    (activated : Activated input now before after)
    (sound : ProjectionsSound False before)
    (off : before.HasStaleStock slotId counted →
      before.heldBack slotId = false →
      ∀ slot ∈ input.slots, slot.slotId = slotId → 0 < slot.capacity →
        (before.activeSlotOf slotId).map (fun current => current.mapping) ≠
          some slot.mapping) :
    ¬ after.OffersStaleStock slotId counted := by
  rintro ⟨slot, isActive, row, found, remapped, stocked, ready⟩
  have slotFound : after.machinePlanogramSlots.find?
      (input.planogramVersion, slotId) = some slot := by
    rw [Option.mem_def, Store.activeSlotOf, activated.active] at isActive
    exact isActive
  have sameSlot : slot.slotId = slotId :=
    congrArg Prod.snd (Table.key_of_find? slotFound)
  obtain ⟨member, agrees, _⟩ := activated.newSlots slotId slot slotFound
  rw [Option.mem_def, agrees.row] at found
  subst sameSlot
  unfold Store.activatedSlot projectPlanogramSlot at found
  split at found
  · rename_i previous previousFound
    refine carryPlanogramSlot_notReady input.source now sound
      previousFound ?_ row found stocked ready
    intro sameMapping wasStocked
    obtain ⟨old, oldSlot, oldFound, oldActive, oldSlotFound, _, rfl⟩ :=
      currentSlotProjections_find? previousFound
    have isOldSlot : before.activeSlotOf slot.slotId = some oldSlot := by
      rw [Store.activeSlotOf, oldActive]
      exact oldSlotFound
    have repeats : oldSlot.mapping = slot.mapping := by
      simp only [PreviousSlotProjection.hasSameMapping, Bool.and_eq_true,
        beq_iff_eq] at sameMapping
      simp only [MachinePlanogramSlotInput.mapping,
        SlotMapping.mk.injEq]
      exact ⟨sameMapping.1.1, sameMapping.1.2, sameMapping.2⟩
    by_cases held : before.heldBack slot.slotId = true
    · exact Or.inl held
    · by_cases capacity : 0 < slot.capacity
      · refine absurd ?_ (off ⟨oldSlot, isOldSlot, old, oldFound, ?_,
          wasStocked⟩ (by simpa using held) _ member rfl capacity)
        · rw [isOldSlot, Option.map_some]
          exact congrArg some repeats
        · rw [repeats]
          exact remapped
      · exact Or.inr (not_lt.mp capacity)
  · unfold introducePlanogramSlot at found
    have introduced : (upsertStockProjectionWithState before
        input.planogramVersion slot.slotId 0 0 .needsCount false
        now).currentStockProjection.find? slot.slotId = some row := by
      simp only at found
      split at found
      · exact found
      · exact found
    rw [find?_upsertStockProjectionWithState] at introduced
    cases introduced
    simp [Store.projectedRow] at stocked

theorem applyPlanogram_keepsStaleStockOff
    (sound : ProjectionsSound False before)
    (notOffered : ¬ before.OffersStaleStock slotId counted)
    (off : before.HasStaleStock slotId counted →
      ¬ (StockEvent.applyPlanogram input).Reoffers before slotId)
    (commits : (applyPlanogram input now).Commits before () after) :
    ¬ after.OffersStaleStock slotId counted := by
  unfold applyPlanogram at commits
  simp only [commits_require_bind, commits_get_bind] at commits
  obtain ⟨_, _, applied⟩ := commits
  split at applied
  · obtain ⟨sameSlot, agrees⟩ := confirmActivePlanogram_agrees applied
    exact fun offers =>
      notOffered (offersStaleStock_congr sameSlot agrees.row offers)
  · rename_i isNew
    refine (activatePlanogram_activated (sound.unused isNew)
      applied).keepsStaleStockOff sound ?_
    intro stale held slot member sameSlot capacity repeats
    exact off stale ⟨held, isNew, slot, member, sameSlot, capacity, repeats⟩

theorem commitJournaledDispenseSideEffects_sold
    {result : DispenseResultPayload}
    {changed : Bool}
    (committed :
      commitJournaledDispenseSideEffects before command result preferred
        now = .ok (after, changed)) :
    SameSlots before after ∨
      (result.success = true ∧ ∃ stocked,
        applyDispenseSuccessToLocalStock before command preferred now =
          .ok stocked ∧ SameSlots stocked after) := by
  unfold commitJournaledDispenseSideEffects at committed
  split at committed
  · cases committed
  split at committed
  · cases committed
  simp only at committed
  split at committed
  · split at committed
    · cases committed
    · cases committed
      exact Or.inl ⟨rfl, rfl, rfl, rfl, rfl, rfl⟩
  split at committed
  · cases committed
  obtain ⟨stocked, sold, same⟩ := map_eq_ok_iff.mp committed
  cases same
  split at sold
  · rename_i success
    exact Or.inr ⟨success, stocked, sold, rfl, rfl, rfl, rfl, rfl, rfl⟩
  · cases sold
    exact Or.inl ⟨rfl, rfl, rfl, rfl, rfl, rfl⟩

theorem perform_keepsStaleStockOff
    {timed : TimedStockEvent}
    (sound : ProjectionsSound False store)
    (notOffered : ¬ store.OffersStaleStock slotId counted)
    (uncounted : timed.event.LeavesCount store slotId)
    (off : KeepsStaleStockOff slotId counted store timed) :
    ¬ (store.perform timed.now timed.event).OffersStaleStock
      slotId counted := by
  obtain ⟨now, event⟩ := timed
  have chain :
      (∀ input, event ≠ .applyPlanogram input) →
      ¬ event.writeKinds store .sale →
      ¬ event.writeKinds store .state →
      ¬ (store.perform now event).OffersStaleStock slotId counted := by
    intro noPlanogram noSale noState
    have writes : SlotWrites False now (event.writeKinds store)
        (event.recordsMovement store now) store
        (store.perform now event) :=
      perform_writes noPlanogram (fun trust => trust.elim)
    refine SlotWrites.keeps
      (fun store => ¬ store.OffersStaleStock slotId counted)
      (fun write earlier offers => ?_) writes notOffered
    exact earlier
      (write.keepsStaleStockOff uncounted.1 uncounted.2.1 uncounted.2.2
        noSale noState offers)
  cases event with
  | applyPlanogram input =>
    simp only [Store.perform]
    rcases execute_cases (applyPlanogram input now) store
      with ⟨_, failed⟩ | ⟨_, _, commits, executed⟩
    · rw [failed]
      exact notOffered
    · rw [executed]
      exact applyPlanogram_keepsStaleStockOff sound notOffered off commits
  | commitDispense command result preferred =>
    simp only [Store.perform]
    split
    · rename_i committed
      intro offers
      rcases commitJournaledDispenseSideEffects_sold committed with
        same | ⟨success, stocked, sold, same⟩
      · exact notOffered (offersStaleStock_congr
          (SamePlanograms.activeSlotOf
            ⟨same.active, same.versions, same.slots⟩ slotId)
          (same.agrees slotId).row offers)
      · refine notOffered (sale_keepsStaleStockOff sound ?_ sold
          (offersStaleStock_congr
            (SamePlanograms.activeSlotOf
              ⟨same.active, same.versions, same.slots⟩ slotId)
            (same.agrees slotId).row offers))
        intro stale held fresh slot selected sameSlot capacity row found
        by_contra left
        exact off stale ⟨held, success, fresh, slot, selected, sameSlot,
          capacity, row, found, not_le.mp left⟩
    · exact notOffered
  | updateSlotSalesState version changed state source =>
    simp only [Store.perform]
    split
    · rename_i updated
      intro offers
      refine notOffered (updateSlotSalesState_keepsStaleStockOff updated
        ?_ offers)
      intro stale sameSlot isActive ready
      exact off stale ⟨sameSlot, ready, isActive⟩
    · exact notOffered
  | _ =>
    refine chain (by simp) ?_ ?_ <;>
      simp [StockEvent.writeKinds, EntersOneOf, AttestsOneOf, SnapshotsOneOf]

/--
From any reachable store, stock counted under the mapping of its slot is never
ready for sale under another, whatever the planograms, sales and state changes,
as long as the slot is not counted anew and no step puts stale stock on sale.
-/
theorem staleStock_neverOffered
    {start store : Store}
    {events : List TimedStockEvent}
    (reached : stockMachine.Reaches .empty start)
    (mapped : (start.activeSlotOf slotId).map
      (fun slot => slot.mapping) = some counted)
    (uncounted : stockMachine.RunMeets
      (fun store timed => timed.event.LeavesCount store slotId)
      start events)
    (off : stockMachine.RunMeets (KeepsStaleStockOff slotId counted)
      start events)
    (run : stockMachine.run start events = some store) :
    ¬ store.OffersStaleStock slotId counted := by
  obtain ⟨leading, leads⟩ := reached
  have sound : ProjectionsSound False start :=
    projectionsSound_run .empty (fun trust => trust.elim) leads
  have notOffered : ¬ start.OffersStaleStock slotId counted := by
    rintro ⟨slot, isActive, _, _, remapped, _⟩
    obtain ⟨current, currentActive, isCounted⟩ :=
      Option.map_eq_some_iff.mp mapped
    rw [Option.mem_def, currentActive] at isActive
    cases isActive
    exact remapped isCounted
  have stepKeeps : ∀ {state : Store} {timed : TimedStockEvent} {next},
      (ProjectionsSound False state ∧
        ¬ state.OffersStaleStock slotId counted) →
      (timed.event.LeavesCount state slotId ∧
        KeepsStaleStockOff slotId counted state timed) →
      stockMachine.step state timed = some next →
      (ProjectionsSound False next ∧
        ¬ next.OffersStaleStock slotId counted) := by
    rintro state timed next ⟨stateSound, earlier⟩ ⟨leaves, keeps⟩ step
    cases step
    exact ⟨perform_keepsSound stateSound (fun trust => trust.elim),
      perform_keepsStaleStockOff stateSound earlier leaves keeps⟩
  exact (Machine.run_keeps_of_meets stepKeeps ⟨sound, notOffered⟩
    (uncounted.and off) run).2

/-- One slot mapped to a product. -/
def remappingPlanogram
    (version : PlanogramVersion)
    (productId : Nat) : StockEvent :=
  .applyPlanogram
    { planogramVersion := version
      source := "platform"
      appliedBy := none
      slots := [{ oneSlotInput with productId := productId }] }

/-- A planogram of one slot and a count of five. -/
def countedSlotRun : List TimedStockEvent :=
  [⟨100, remappingPlanogram 1 70⟩,
    ⟨101, .recordStockMovement
      { taskId := 1
        planogramVersion := 1
        slotId := 5
        movementType := .stockCountCorrection
        quantity := 5
        source := .localMaintenance
        attributedTo := none } false⟩]

/-- A new product, a stop by hand, and the new product once more. -/
def stoppedRemapRun : List TimedStockEvent :=
  [⟨102, remappingPlanogram 2 71⟩,
    ⟨103, .updateSlotSalesState 2 5 .frozen "local_maintenance"⟩,
    ⟨104, remappingPlanogram 3 71⟩]

/-- A slot that is stopped by hand stays off sale under the new product. -/
theorem staleStock_neverOffered_stopped :
    ¬ (stockAfter (stockAfter .empty countedSlotRun)
        stoppedRemapRun).OffersStaleStock 5 oneSlotInput.mapping := by
  refine staleStock_neverOffered
    ⟨countedSlotRun, stockMachine_run .empty countedSlotRun⟩
    (by decide +kernel) ?_ ?_ (stockMachine_run _ stoppedRemapRun)
  · exact ⟨⟨id, id, id⟩, fun _ _ => ⟨⟨nofun, nofun, nofun⟩,
      fun _ _ => ⟨⟨id, id, id⟩, fun _ _ => trivial⟩⟩⟩
  · decide +kernel

/-- The same planogram twice: the second puts the old stock on sale. -/
def repeatedRemapRun : List TimedStockEvent :=
  [⟨102, remappingPlanogram 2 71⟩, ⟨103, remappingPlanogram 3 71⟩]

/-- A second planogram with the new mapping offers the old stock. -/
theorem staleStock_offered_after_repeatedRemap :
    ¬ ∀ (slotId : SlotId) (counted : SlotMapping) (start store : Store)
        (events : List TimedStockEvent),
      stockMachine.Reaches .empty start →
      (start.activeSlotOf slotId).map (fun slot => slot.mapping) =
        some counted →
      stockMachine.RunMeets
        (fun store timed => timed.event.LeavesCount store slotId)
        start events →
      stockMachine.run start events = some store →
      ¬ store.OffersStaleStock slotId counted := by
  intro never
  refine never 5 oneSlotInput.mapping _ _ repeatedRemapRun
    ⟨countedSlotRun, stockMachine_run .empty countedSlotRun⟩
    (by decide +kernel)
    ⟨⟨id, id, id⟩, fun _ _ => ⟨⟨id, id, id⟩, fun _ _ => trivial⟩⟩
    (stockMachine_run _ repeatedRemapRun) ?_
  refine ⟨{ oneSlotInput with productId := 71, planogramVersion := 3 },
    by decide +kernel,
    { planogramVersion := 3
      slotId := 5
      physicalStock := 5
      saleableStock := 5
      slotSalesState := .saleReady
      updatedAt := 103 },
    by decide +kernel, by decide, by decide, rfl⟩

end VendingSystem.Daemon
