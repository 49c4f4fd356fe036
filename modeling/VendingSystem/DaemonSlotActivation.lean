import VendingSystem.DaemonSlotInvariant

namespace VendingSystem.Daemon

/-!
# Planograms and the slot projection invariant

A new planogram version has no blockers yet, so what its slots carry over is
decided by the rows and blockers of the version before.  Each slot of the new
version starts sound, and the rows of other slots stay as they are.
-/

variable {trusted : Prop} {store before after : Store}
  {previous : PreviousSlotProjection} {slotId : SlotId}
  {slot : MachinePlanogramSlotInput} {version : PlanogramVersion} {now : Time}
  {input : MachinePlanogramInput}

theorem currentSlotProjections_find?
    (found :
      store.currentSlotProjections.find? (fun previous =>
        previous.slotId == slotId) = some previous) :
    ∃ row slot, store.currentStockProjection.find? slotId = some row ∧
      store.activePlanogramVersion = some row.planogramVersion ∧
      store.machinePlanogramSlots.find? (row.planogramVersion, slotId) =
        some slot ∧
      row.slotId = slotId ∧
      previous =
        { slotId := slotId
          physicalStock := row.physicalStock
          slotSalesState := row.slotSalesState
          inventoryId := slot.inventoryId
          variantId := slot.variantId
          productId := slot.productId
          saleSafetyBlockerState :=
            (store.saleSafetyBlockers.find?
              (row.planogramVersion, slotId)).map
                SaleSafetyBlocker.slotSalesState } := by
  have sameSlot : previous.slotId = slotId := by
    have selected := List.find?_some found
    exact beq_iff_eq.mp selected
  have member := List.mem_of_find?_eq_some found
  obtain ⟨row, rowMember, joined⟩ := List.mem_filterMap.mp member
  unfold Store.previousSlotProjection at joined
  split at joined
  · rename_i isActive
    obtain ⟨slot, slotFound, built⟩ := Option.map_eq_some_iff.mp joined
    have rowSlot : row.slotId = slotId := by
      rw [← sameSlot, ← built]
    have rowFound := Table.find?_of_mem
      (show row ∈ store.currentStockProjection from rowMember)
    rw [rowSlot] at rowFound slotFound built
    exact ⟨row, slot, rowFound, isActive, slotFound, rowSlot, built.symm⟩
  · cases joined

/-- A slot of a new version starts projected, within capacity and sound. -/
structure StartsSound
    (trusted : Prop)
    (before after : Store)
    (version : PlanogramVersion)
    (slot : MachinePlanogramSlotInput) : Prop where
  row : ∃ row, after.currentStockProjection.find? slot.slotId = some row ∧
    row.planogramVersion = version ∧
    row.saleableStock ≤ slot.capacity ∧ RowSound trusted after row
  blockers : ∀ other,
    (after.saleSafetyBlockers.find? (other, slot.slotId)).isSome = true →
      other = version ∨
        (before.saleSafetyBlockers.find? (other, slot.slotId)).isSome =
          true

theorem StartsSound.project
    {physicalStock saleableStock : Int}
    {state : SlotSalesState}
    (free :
      before.saleSafetyBlockers.find? (version, slot.slotId) = none)
    (capacity : 0 ≤ slot.capacity)
    (saleable_le : trusted → saleableStock ≤ max physicalStock 0)
    (withinCapacity : saleableStock ≤ slot.capacity)
    (ready : 0 < saleableStock → before.upsertBlocked slot.slotId = false →
      before.keptState slot.slotId state false ≠ .saleReady →
      (before.keptState slot.slotId state false).isUnblockedStop = true) :
    StartsSound trusted before
      (upsertStockProjectionWithState before version slot.slotId
        physicalStock saleableStock state false now)
      version slot := by
  refine ⟨⟨_, find?_upsertStockProjectionWithState .., rfl, ?_, ?_⟩,
    fun _ blocked => Or.inr blocked⟩
  · simp only [Store.projectedRow]
    split <;> omega
  refine ⟨?_, ?_, ?_, ?_⟩
  · simp only [Store.projectedRow]
    split <;> omega
  · intro trust
    have within := saleable_le trust
    simp only [Store.projectedRow]
    split <;> omega
  · intro positive notReady
    simp only [Store.projectedRow] at positive notReady ⊢
    split at positive
    · omega
    · rename_i notBlocked
      exact Or.inl (ready (by omega) (by simpa using notBlocked) notReady)
  · intro blocker found
    have none : (upsertStockProjectionWithState before version slot.slotId
        physicalStock saleableStock state false
        now).saleSafetyBlockers.find? (version, slot.slotId) = none := free
    rw [Store.blockerOf] at found
    simp only [Store.projectedRow] at found
    rw [none] at found
    cases found

theorem StartsSound.mark
    {row : StockProjection}
    (state : SlotSalesState)
    (reason source : String)
    (starts : StartsSound trusted before after version slot)
    (rowFound :
      after.currentStockProjection.find? slot.slotId = some row)
    (nothingForSale : row.saleableStock = 0)
    (notReady : row.slotSalesState ≠ .saleReady) :
    StartsSound trusted before
      (upsertSaleSafetyBlockerMarker after version slot.slotId state
        reason source)
      version slot := by
  obtain ⟨other, found, rowVersion, withinCapacity, rowSound⟩ := starts.row
  rw [rowFound] at found
  cases found
  refine ⟨⟨row, rowFound, rowVersion, withinCapacity, ?_⟩, ?_⟩
  · refine ⟨rowSound.saleable_nonneg, rowSound.saleable_le, ?_, ?_⟩
    · intro positive
      omega
    · exact fun _ _ => ⟨notReady, Or.inl nothingForSale⟩
  · intro otherVersion isBlocked
    obtain ⟨_, _, marked⟩ := find?_upsertSaleSafetyBlockerMarker
      after version slot.slotId state reason source otherVersion
    rw [marked] at isBlocked
    by_cases same : otherVersion = version
    · exact Or.inl same
    · rw [if_neg same] at isBlocked
      exact starts.blockers otherVersion isBlocked

theorem carryPlanogramSlot_startsSound
    (source : String)
    (now : Time)
    (free :
      before.saleSafetyBlockers.find? (version, slot.slotId) = none)
    (capacity : 0 ≤ slot.capacity)
    (found :
      before.currentSlotProjections.find? (fun previous =>
        previous.slotId == slot.slotId) = some previous) :
    StartsSound trusted before
      (carryPlanogramSlot before version source slot previous now)
      version slot := by
  obtain ⟨row, oldSlot, rowFound, _, _, rowSlot, rfl⟩ :=
    currentSlotProjections_find? found
  have blocked : before.upsertBlocked slot.slotId =
      (before.saleSafetyBlockers.find?
        (row.planogramVersion, slot.slotId)).isSome := by
    rw [upsertBlocked_of_found rowFound, rowSlot,
      Store.hasSaleSafetyBlocker]
  unfold carryPlanogramSlot
  simp only
  split
  · rename_i carries
    simp only [PreviousSlotProjection.hasSaleSafetyBlocker,
      Option.isSome_map, Bool.and_eq_true] at carries
    rw [← blocked] at carries
    have kept : before.keptState slot.slotId row.slotSalesState false =
        row.slotSalesState := by
      rw [keptState_of_found _ _ rowFound,
        ← upsertBlocked_of_found rowFound, carries.1]
      rfl
    refine StartsSound.mark _ _ _
      (StartsSound.project free capacity ?_ ?_ ?_)
      (find?_upsertStockProjectionWithState ..) ?_ ?_
    · omega
    · omega
    · intro _ notBlocked
      rw [carries.1] at notBlocked
      cases notBlocked
    · exact if_pos carries.1
    · simp only [Store.projectedRow, kept]
      exact SlotSalesState.ne_saleReady_of_isReconciliation carries.2
  split
  · refine StartsSound.project free capacity ?_ capacity ?_
    · omega
    · intro positive
      exact absurd positive (lt_irrefl _)
  · refine StartsSound.project free capacity ?_ ?_ ?_
    · omega
    · omega
    · intro positive notBlocked notReady
      rcases keptState_cases before slot.slotId _ false with
        requested | ⟨other, found, kept, blockedNow | held⟩
      · rw [requested] at notReady ⊢
        by_cases held : row.slotSalesState.isDispenseHold = true
        · rw [if_pos held]
          exact SlotSalesState.isUnblockedStop_of_isDispenseHold held
        · rw [if_neg held, if_pos positive] at notReady
          exact absurd rfl notReady
      · rw [blockedNow] at notBlocked
        cases notBlocked
      · rw [kept]
        exact SlotSalesState.isUnblockedStop_of_isDispenseHold held

theorem introducePlanogramSlot_startsSound
    (source : String)
    (rebuiltAfterQuarantine : Bool)
    (now : Time)
    (sound : ProjectionsSound trusted before)
    (free :
      before.saleSafetyBlockers.find? (version, slot.slotId) = none)
    (capacity : 0 ≤ slot.capacity) :
    StartsSound trusted before
      (introducePlanogramSlot before version source slot.slotId
        rebuiltAfterQuarantine now)
      version slot := by
  have introduced : StartsSound trusted before
      (upsertStockProjectionWithState before version slot.slotId 0 0
        .needsCount false now) version slot := by
    refine StartsSound.project free capacity (by omega) capacity ?_
    intro positive
    exact absurd positive (lt_irrefl _)
  unfold introducePlanogramSlot
  simp only
  split
  · refine introduced.mark _ _ _ (find?_upsertStockProjectionWithState ..) ?_ ?_
    · simp [Store.projectedRow]
    · simp only [Store.projectedRow]
      rcases keptState_cases before slot.slotId .needsCount false with
        requested | ⟨row, found, kept, blocked | held⟩
      · rw [requested]
        decide
      · rw [kept]
        rw [upsertBlocked_of_found found] at blocked
        obtain ⟨blocker, blockerFound⟩ :=
          Option.isSome_iff_exists.mp blocked
        exact ((sound.rows slot.slotId row found).blocked blocker
          blockerFound).1
      · rw [kept]
        intro ready
        rw [ready] at held
        cases held
  · exact introduced

theorem activatedSlot_startsSound
    (now : Time)
    (sound : ProjectionsSound trusted before)
    (free : before.saleSafetyBlockers.find?
      (input.planogramVersion, slot.slotId) = none)
    (capacity : 0 ≤ slot.capacity) :
    StartsSound trusted before (before.activatedSlot input slot now)
      input.planogramVersion slot := by
  unfold Store.activatedSlot projectPlanogramSlot
  split
  · rename_i previous found
    exact carryPlanogramSlot_startsSound _ now free capacity found
  · exact introducePlanogramSlot_startsSound _ _ now sound free capacity

theorem ProjectionsSound.unused
    (sound : ProjectionsSound trusted store)
    (isNew : store.machinePlanogramVersions.find? version = none)
    (slotId : SlotId) :
    store.machinePlanogramSlots.find? (version, slotId) = none := by
  rcases Option.eq_none_or_eq_some
      (store.machinePlanogramSlots.find? (version, slotId)) with
    none | ⟨slot, found⟩
  · exact none
  · have applied := sound.versions slot (Table.mem_of_find? found)
    have sameVersion : slot.planogramVersion = version :=
      congrArg Prod.fst (Table.key_of_find? found)
    rw [sameVersion, isNew] at applied
    cases applied

theorem ProjectionsSound.unblocked
    (sound : ProjectionsSound trusted store)
    (isNew : store.machinePlanogramVersions.find? version = none)
    (slotId : SlotId) :
    store.saleSafetyBlockers.find? (version, slotId) = none := by
  rcases Option.eq_none_or_eq_some
      (store.saleSafetyBlockers.find? (version, slotId)) with
    none | ⟨blocker, found⟩
  · exact none
  · have stored := sound.blockers version slotId (by rw [found]; rfl)
    rw [sound.unused isNew slotId] at stored
    cases stored

theorem Activated.projectionsSound
    (activated : Activated input now before after)
    (sound : ProjectionsSound trusted before)
    (isNew :
      before.machinePlanogramVersions.find? input.planogramVersion = none)
    (capacities : ∀ slot ∈ input.slots, 0 ≤ slot.capacity) :
    ProjectionsSound trusted after := by
  have free := sound.unblocked isNew
  have starts : ∀ slotId slot,
      after.machinePlanogramSlots.find?
          (input.planogramVersion, slotId) = some slot →
        slot.slotId = slotId ∧
          SlotAgrees slotId after (before.activatedSlot input
            slot.toMachinePlanogramSlotInput now) ∧
          StartsSound trusted before (before.activatedSlot input
              slot.toMachinePlanogramSlotInput now)
            input.planogramVersion slot.toMachinePlanogramSlotInput := by
    intro slotId slot found
    obtain ⟨member, agrees, _⟩ := activated.newSlots slotId slot found
    exact ⟨congrArg Prod.snd (Table.key_of_find? found), agrees,
      activatedSlot_startsSound now sound (free _) (capacities _ member)⟩
  have oldVersion : ∀ version slotId,
      (before.machinePlanogramSlots.find? (version, slotId)).isSome =
          true →
        version ≠ input.planogramVersion := by
    rintro version slotId stored rfl
    rw [sound.unused isNew slotId] at stored
    cases stored
  have appliedBefore : ∀ version,
      (before.machinePlanogramVersions.find? version).isSome = true →
        (after.machinePlanogramVersions.find? version).isSome = true := by
    intro version applied
    rw [activated.versions, activatePlanogramVersion,
      Table.find?_insertOrIgnore]
    split
    · rfl
    · exact applied
  have appliedNow : (after.machinePlanogramVersions.find?
      input.planogramVersion).isSome = true := by
    rw [activated.versions, activatePlanogramVersion,
      Table.find?_insertOrIgnore, if_pos rfl]
    rfl
  refine ⟨?_, ?_, ?_, ?_, ?_, ?_⟩
  · intro slotId row found
    rcases Option.eq_none_or_eq_some
        (after.machinePlanogramSlots.find?
          (input.planogramVersion, slotId)) with absent | ⟨slot, isSlot⟩
    · have agrees := activated.others slotId absent
      rw [agrees.row] at found
      exact RowSound.congr
        (agrees.blockerOf (Table.key_of_find? found))
        (sound.rows slotId row found)
    · obtain ⟨sameSlot, agrees, startsSound⟩ := starts slotId slot isSlot
      obtain ⟨other, otherFound, _, _, otherSound⟩ := startsSound.row
      rw [sameSlot] at otherFound
      rw [agrees.row, otherFound] at found
      cases found
      exact RowSound.congr
        (agrees.blockerOf (Table.key_of_find? otherFound)) otherSound
  · intro slot member isActive
    have sameVersion : slot.planogramVersion = input.planogramVersion :=
      (Option.some.inj (activated.active.symm.trans isActive)).symm
    have isSlot := Table.find?_of_mem member
    rw [sameVersion] at isSlot
    obtain ⟨_, agrees, startsSound⟩ := starts slot.slotId slot isSlot
    obtain ⟨row, rowFound, rowVersion, withinCapacity, _⟩ :=
      startsSound.row
    exact ⟨⟨row, agrees.row.trans rowFound,
      rowVersion.trans sameVersion.symm, withinCapacity⟩,
      (activated.newSlots slot.slotId slot isSlot).2.2⟩
  · intro slot member
    have isSlot := Table.find?_of_mem member
    by_cases sameVersion : slot.planogramVersion = input.planogramVersion
    · rw [sameVersion] at isSlot
      exact capacities _ (activated.newSlots slot.slotId slot isSlot).1
    · rw [activated.oldSlots _ _ sameVersion] at isSlot
      exact sound.capacities slot (Table.mem_of_find? isSlot)
  · intro version slotId isBlocked
    have stored : version = input.planogramVersion ∧
        (after.machinePlanogramSlots.find?
          (input.planogramVersion, slotId)).isSome = true ∨
        (before.saleSafetyBlockers.find? (version, slotId)).isSome = true := by
      rcases Option.eq_none_or_eq_some
          (after.machinePlanogramSlots.find?
            (input.planogramVersion, slotId)) with
        absent | ⟨slot, isSlot⟩
      · rw [(activated.others slotId absent).blockers] at isBlocked
        exact Or.inr isBlocked
      · obtain ⟨sameSlot, agrees, startsSound⟩ :=
          starts slotId slot isSlot
        have either := startsSound.blockers version
        rw [sameSlot, ← agrees.blockers version] at either
        rcases either isBlocked with same | earlier
        · exact Or.inl ⟨same, by rw [isSlot]; rfl⟩
        · exact Or.inr earlier
    rcases stored with ⟨rfl, isSlot⟩ | earlier
    · exact isSlot
    · have inBefore := sound.blockers version slotId earlier
      rw [activated.oldSlots _ _ (oldVersion version slotId inBefore)]
      exact inBefore
  · intro slot member
    have isSlot := Table.find?_of_mem member
    by_cases sameVersion : slot.planogramVersion = input.planogramVersion
    · rw [sameVersion]
      exact appliedNow
    · rw [activated.oldSlots _ _ sameVersion] at isSlot
      exact appliedBefore _ (sound.versions slot (Table.mem_of_find? isSlot))
  · intro version isActive
    rw [activated.active] at isActive
    cases isActive
    exact appliedNow

theorem ProjectionsSound.refresh
    {next : Store}
    (sound : ProjectionsSound trusted store)
    (refreshed :
      upsertSaleViewProjection store version slotId now = .ok next) :
    ProjectionsSound trusted next := by
  have touches := TouchesOnly.upsertSaleViewProjection refreshed
  have agrees := upsertSaleViewProjection_agrees refreshed
  refine ⟨?_, ?_, ?_, ?_, ?_, ?_⟩
  · intro other row found
    rw [(agrees other).row] at found
    exact RowSound.congr
      ((agrees other).blockerOf (Table.key_of_find? found))
      (sound.rows other row found)
  · rw [touches.slots, touches.active]
    intro slot member isActive
    obtain ⟨projected, shows⟩ := sound.active slot member isActive
    refine ⟨?_, ?_⟩
    · rw [(agrees slot.slotId).row]
      exact projected
    · by_cases same : slot.slotId = slotId
      · rw [same]
        exact upsertSaleViewProjection_showsProjection refreshed
      · exact touches.showsProjection same shows
  · rw [touches.slots]
    exact sound.capacities
  · intro otherVersion other isBlocked
    rw [(agrees other).blockers] at isBlocked
    rw [touches.slots]
    exact sound.blockers otherVersion other isBlocked
  · rw [touches.slots, touches.versions]
    exact sound.versions
  · rw [touches.active, touches.versions]
    exact sound.activeVersion

theorem confirmActivePlanogram_keepsSound
    (sound : ProjectionsSound trusted before)
    (commits :
      (confirmActivePlanogram input now).Commits before () after) :
    ProjectionsSound trusted after := by
  unfold confirmActivePlanogram at commits
  simp only [Transaction.commits_get_bind,
    Transaction.commits_require_bind,
    Transaction.commits_modify_bind] at commits
  obtain ⟨_, _, refreshes⟩ := commits
  refine Transaction.forM_keeps
    (fun _ => ProjectionsSound trusted) ?_ ?_ refreshes
  · intro slot rest store next earlier refreshed
    exact earlier.refresh (Transaction.commits_statement.mp refreshed)
  · refine sound.of_same rfl (fun version applied => ?_) rfl rfl rfl rfl
    rw [Table.find?_modify]
    split
    · rw [Option.isSome_map]
      exact applied
    · exact applied

theorem applyPlanogram_keepsSound
    (sound : ProjectionsSound trusted before)
    (commits : (applyPlanogram input now).Commits before () after) :
    ProjectionsSound trusted after := by
  unfold applyPlanogram at commits
  simp only [Transaction.commits_require_bind,
    Transaction.commits_get_bind] at commits
  obtain ⟨_, nonnegative, applied⟩ := commits
  split at applied
  · exact confirmActivePlanogram_keepsSound sound applied
  · rename_i isNew
    refine (activatePlanogram_activated (sound.unused isNew)
      applied).projectionsSound sound isNew ?_
    intro slot member
    have checked := List.all_eq_true.mp nonnegative slot member
    simp only [decide_eq_true_eq] at checked
    exact checked.1

end VendingSystem.Daemon
