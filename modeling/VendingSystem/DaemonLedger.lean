import VendingSystem.DaemonSlotRuns

namespace VendingSystem.Daemon

/-!
# The ledger of a slot

A transaction adds at most one movement to the ledger of a slot and then
projects the stock that this movement left, under a time that need not be the
last one.
-/

/-- The movements of a slot under a version, in the order of recording. -/
def Store.slotMovements
    (store : Store)
    (version : PlanogramVersion)
    (slotId : SlotId) : List StockMovement :=
  store.stockMovements.rows.filter fun movement =>
    movement.planogramVersion == version && movement.slotId == slotId

/-- The stock that is projected for a slot, with the version it is for. -/
def Store.countOf
    (store : Store)
    (slotId : SlotId) : Option (PlanogramVersion × Int) :=
  (store.currentStockProjection.find? slotId).map fun row =>
    (row.planogramVersion, row.physicalStock)

/-- The later of two movements in the order of the consistency check. -/
def laterMovement
    (idBefore : MovementId → MovementId → Bool)
    (latest : Option StockMovement)
    (movement : StockMovement) : Option StockMovement :=
  match latest with
  | none => some movement
  | some current =>
    if current.occurredAt < movement.occurredAt ∨
        (current.occurredAt = movement.occurredAt ∧
          idBefore current.movementId movement.movementId = true) then
      some movement
    else some current

theorem physicalStock_eq_countOf
    (store : Store)
    (version : PlanogramVersion)
    (slotId : SlotId) :
    (store.projectionOf version slotId).map StockProjection.physicalStock =
      ((store.countOf slotId).filter
        (fun count => count.1 == version)).map Prod.snd := by
  unfold Store.projectionOf Store.countOf
  cases store.currentStockProjection.find? slotId with
  | none => rfl
  | some row =>
    by_cases sameVersion : row.planogramVersion = version
    · simp [Option.filter, sameVersion]
    · simp [Option.filter, sameVersion]

variable {slotId : SlotId} {version : PlanogramVersion} {next store : Store}
  {state : SlotSalesState} {upload : Bool} {capacity : Int} {source : String}
  {blocker : StockMovementSaleSafetyBlocker} {trusted : Prop} {now : Time}
  {allows : SlotWriteKind → Prop} {records : StockMovement → Prop}
  {event : StockEvent}

theorem projectedStock_congr
    {first second : Store}
    (same : first.countOf slotId = second.countOf slotId)
    (version : PlanogramVersion) :
    first.projectedStock version slotId =
      second.projectedStock version slotId := by
  rw [Store.projectedStock, Store.projectedStock, physicalStock_eq_countOf,
    physicalStock_eq_countOf, same]

theorem latestMovement_eq_foldl
    (store : Store)
    (idBefore : MovementId → MovementId → Bool)
    (version : PlanogramVersion)
    (slotId : SlotId) :
    store.latestMovement idBefore version slotId =
      (store.slotMovements version slotId).foldl
        (laterMovement idBefore) none :=
  rfl

theorem latestMovement_of_append
    {before after : Store}
    {idBefore : MovementId → MovementId → Bool}
    {movement : StockMovement}
    (recorded : after.slotMovements version slotId =
      before.slotMovements version slotId ++ [movement]) :
    after.latestMovement idBefore version slotId =
      laterMovement idBefore
        (before.latestMovement idBefore version slotId) movement := by
  rw [latestMovement_eq_foldl, latestMovement_eq_foldl, recorded,
    List.foldl_append]
  rfl

/-- A write that neither records a movement nor changes a count. -/
structure KeepsCounts (before after : Store) : Prop where
  ledger : after.stockMovements = before.stockMovements
  counts : ∀ slotId, after.countOf slotId = before.countOf slotId

/-- A write that records a movement and projects what it left. -/
structure Moves (movement : StockMovement) (before after : Store) :
    Prop where
  fresh : before.stockMovements.find? movement.movementId = none
  ledger : after.stockMovements =
    before.stockMovements.insertOrIgnore movement
  count : after.countOf movement.slotId =
    some (movement.planogramVersion, max movement.afterQuantity 0)
  others : ∀ other, other ≠ movement.slotId →
    after.countOf other = before.countOf other

/-- A movement made now from the stock that was projected. -/
structure StockMovement.Enters
    (movement : StockMovement)
    (now : Time)
    (store : Store) : Prop where
  occurred : movement.occurredAt = now
  before : movement.beforeQuantity =
    store.projectedStock movement.planogramVersion movement.slotId
  nonneg : 0 ≤ movement.beforeQuantity → 0 ≤ movement.afterQuantity

/-- What is known of a movement that a transaction adds to the ledger. -/
structure StockMovement.Admitted
    (movement : StockMovement)
    (now : Time)
    (allows : SlotWriteKind → Prop)
    (records : StockMovement → Prop)
    (store : Store) : Prop where
  recorded : records movement
  ofActive : store.activePlanogramVersion = some movement.planogramVersion
  within : ∀ row,
    store.machinePlanogramSlots.find?
        (movement.planogramVersion, movement.slotId) = some row →
      store.projectedStock movement.planogramVersion movement.slotId ≤
        row.capacity →
      movement.afterQuantity ≤ row.capacity
  entered : allows (.attestation movement.slotId) ∨
    movement.Enters now store

theorem upsertSaleViewProjection_countOf
    (refreshed :
      upsertSaleViewProjection store version slotId now = .ok next) :
    KeepsCounts store next := by
  rw [upsertSaleViewProjection_frame refreshed]
  exact ⟨rfl, fun _ => rfl⟩

theorem projectStock_moves
    {before : Store}
    {movement : StockMovement}
    {physicalStock saleableStock : Int}
    {resetLocalSlotHold : Bool}
    (fresh : before.stockMovements.find? movement.movementId = none)
    (ledger : store.stockMovements =
      before.stockMovements.insertOrIgnore movement)
    (rows : store.currentStockProjection = before.currentStockProjection)
    (left : max physicalStock 0 = max movement.afterQuantity 0)
    (refreshed :
      upsertSaleViewProjection
        (upsertStockProjectionWithState store movement.planogramVersion
          movement.slotId physicalStock saleableStock state
          resetLocalSlotHold now)
        movement.planogramVersion movement.slotId now = .ok next) :
    Moves movement before next := by
  have shown := upsertSaleViewProjection_countOf refreshed
  refine ⟨fresh, shown.ledger.trans ledger, ?_, fun other differs => ?_⟩
  · rw [shown.counts, Store.countOf, find?_upsertStockProjectionWithState,
      Option.map_some, Store.projectedRow, left]
  · have touches := TouchesOnly.upsertStockProjectionWithState store
      movement.planogramVersion movement.slotId physicalStock saleableStock
      state resetLocalSlotHold now
    rw [shown.counts, Store.countOf, (touches.others other differs).row,
      rows]
    rfl

theorem applyStockMovement_moves
    {before after : Store}
    {movement : StockMovement}
    (fresh : before.stockMovements.find? movement.movementId = none)
    (applied :
      applyStockMovement before movement capacity upload now =
        .ok after) :
    Moves movement before after := by
  unfold applyStockMovement upsertStockProjection at applied
  refine projectStock_moves fresh ?_ ?_ (by simp) applied
  · cases upload <;> cases movement.source <;> rfl
  · cases upload <;> cases movement.source <;> rfl

theorem projectAttestedSlot_moves
    {before noted after : Store}
    {movement : StockMovement}
    {slot : PhysicalStockAttestationSlotInput}
    (counts : movement.Counts version slot)
    (inserted : insertStockMovement before movement = .ok noted)
    (projected :
      projectAttestedSlot noted version slot now = .ok after) :
    Moves movement before after := by
  obtain ⟨fresh, rfl⟩ := insertStockMovement_ok inserted
  obtain ⟨rfl, ofSlot, counted⟩ := counts
  unfold projectAttestedSlot at projected
  rw [← ofSlot] at projected
  refine projectStock_moves fresh ?_ ?_ ?_ projected
  · rfl
  · rfl
  · rw [counted]

theorem applyDispenseSuccess_moves
    {before after : Store}
    {command : DispenseCommandPayload}
    {preferred : PlanogramVersion × SlotId}
    (applied :
      applyDispenseSuccessToLocalStock before command preferred now =
        .ok after) :
    after = before ∨
      ∃ slot projection,
        CountedSlot before command slot projection ∧
        Moves (dispenseMovement command slot projection now)
          before after := by
  rcases applyDispenseSuccessToLocalStock_sold applied with
    ⟨_, repeated⟩ | ⟨fresh, slot, projection, _, counted, refreshed⟩
  · exact Or.inl repeated
  · refine Or.inr ⟨slot, projection, counted, ?_⟩
    unfold upsertStockProjection at refreshed
    refine projectStock_moves fresh ?_ ?_ ?_ refreshed
    · rfl
    · rfl
    · simp [dispenseMovement]

theorem projectBlocker_keeps
    {reason : String}
    (refreshed :
      upsertSaleViewProjection
        { upsertSaleSafetyBlockerMarker store version slotId state
            reason source with
          currentStockProjection := store.currentStockProjection.updateWhere
            (fun row =>
              row.planogramVersion == version && row.slotId == slotId)
            (fun row =>
              { row with
                saleableStock := 0
                slotSalesState := state
                updatedAt := now }) }
        version slotId now = .ok next) :
    KeepsCounts store next := by
  have shown := upsertSaleViewProjection_countOf refreshed
  refine ⟨shown.ledger, fun other => (shown.counts other).trans ?_⟩
  simp only [Store.countOf, Table.find?_updateWhere, Option.map_map]
  congr 1
  funext row
  simp only [Function.comp_apply]
  split <;> rfl

theorem applySaleSafetyBlocker_keeps
    {before after : Store}
    (applied : applySaleSafetyBlocker before blocker now = .ok after) :
    KeepsCounts before after := by
  unfold applySaleSafetyBlocker at applied
  split at applied
  · cases applied
    exact ⟨rfl, fun _ => rfl⟩
  · obtain ⟨marked, inserted, refreshed⟩ :=
      Transaction.bind_eq_ok_iff.mp applied
    unfold insertSaleSafetyBlocker at inserted
    split at inserted
    · cases inserted
      exact projectBlocker_keeps refreshed
    · cases inserted

theorem updateSlotSalesState_keeps
    {before after : Store}
    (updated :
      updateSlotSalesState before version slotId state source now =
        .ok after) :
    KeepsCounts before after := by
  unfold updateSlotSalesState at updated
  split at updated
  · cases updated
  unfold projectSlotSalesState at updated
  split at updated
  · cases updated
  rw [markSlotSalesState_frame] at updated
  have shown := upsertSaleViewProjection_countOf updated
  refine ⟨shown.ledger, fun other => (shown.counts other).trans ?_⟩
  simp only [Store.countOf, Table.find?_modify]
  split
  · cases before.currentStockProjection.find? other <;> rfl
  · rfl

/-- A write that neither prunes nor trusts the platform's quantities. -/
def SlotWrite.Moving
    (now : Time)
    (allows : SlotWriteKind → Prop)
    (records : StockMovement → Prop)
    (before after : Store) : Prop :=
  KeepsCounts before after ∨
    ∃ movement : StockMovement,
      movement.Admitted now allows records before ∧
      Moves movement before after

theorem SlotWrite.ledger_cases
    {before after : Store}
    (write : SlotWrite trusted now allows records before after) :
    SlotWrite.Moving now allows records before after ∨
      (allows .prune ∧ ∀ movement ∈ after.stockMovements,
        movement ∈ before.stockMovements) ∨
      ((∃ slotId, allows (.snapshot slotId)) ∧
        after.stockMovements = before.stockMovements) := by
  cases write with
  | quiet same _ =>
    refine Or.inl (Or.inl ⟨same.ledger, fun slotId => ?_⟩)
    rw [Store.countOf, Store.countOf, same.rows]
  | pruned allowed _ fewer _ => exact Or.inr (Or.inl ⟨allowed, fewer⟩)
  | movement _ recorded slotFound isActive entered applied =>
    refine Or.inl (Or.inr ⟨_, ⟨recorded, isActive, ?_, Or.inr ?_⟩,
      applyStockMovement_moves entered.fresh applied⟩)
    · intro row found _
      rw [slotFound] at found
      cases found
      exact entered.within
    · exact ⟨entered.occurred, entered.before, entered.nonneg⟩
  | attested allowed recorded counts slotFound isActive within inserted
        projected =>
      have moved := projectAttestedSlot_moves counts inserted projected
      obtain ⟨ofVersion, ofSlot, counted⟩ := counts
      rw [← ofSlot] at allowed slotFound
      rw [← ofVersion] at isActive slotFound
      refine Or.inl
        (Or.inr ⟨_, ⟨recorded, isActive, ?_, Or.inl allowed⟩, moved⟩)
      intro other found _
      rw [slotFound] at found
      cases found
      rw [counted]
      exact within
  | snapshot allowed _ _ _ projected =>
    refine Or.inr (Or.inr ⟨⟨_, allowed⟩, ?_⟩)
    rw [(upsertSaleViewProjection_countOf projected).ledger]
    split <;> rfl
  | review _ blocked =>
    exact Or.inl (Or.inl (projectBlocker_keeps blocked))
  | blocker applied =>
    exact Or.inl (Or.inl (applySaleSafetyBlocker_keeps applied))
  | state _ updated =>
    exact Or.inl (Or.inl (updateSlotSalesState_keeps updated))
  | sold _ recorded applied =>
    rcases applyDispenseSuccess_moves applied with
      rfl | ⟨slot, projection, counted, moved⟩
    · exact Or.inl (Or.inl ⟨rfl, fun _ => rfl⟩)
    · have projected : before.projectedStock slot.planogramVersion
          slot.slotId = projection.physicalStock := by
        rw [Store.projectedStock, physicalStock_eq_countOf,
          Store.countOf, counted.projected]
        simp [Option.filter, counted.sameVersion]
      refine Or.inl (Or.inr ⟨_, ⟨recorded slot projection,
        counted.active, ?_,
        Or.inr ⟨rfl, projected.symm, fun _ => ?_⟩⟩, moved⟩)
      · intro row found fits
        rw [dispenseMovement, projected] at fits
        simp only [dispenseMovement]
        omega
      · have enough := counted.enough
        simp only [dispenseMovement]
        omega

theorem SlotWrite.moves
    {before after : Store}
    (write : SlotWrite trusted now allows records before after)
    (noPruning : ¬ allows .prune)
    (noSnapshot : ∀ slotId, ¬ allows (.snapshot slotId)) :
    SlotWrite.Moving now allows records before after := by
  rcases write.ledger_cases with
    moving | ⟨allowed, _⟩ | ⟨⟨slotId, allowed⟩, _⟩
  · exact moving
  · exact absurd allowed noPruning
  · exact absurd allowed (noSnapshot slotId)

theorem SameAttestations.upsertSaleViewProjection
    {before : Store}
    (earlier : SameAttestations before store)
    (refreshed :
      Daemon.upsertSaleViewProjection store version slotId now =
        .ok next) :
    SameAttestations before next := by
  rw [upsertSaleViewProjection_frame refreshed]
  exact ⟨earlier.stored, earlier.pending, earlier.failed⟩

theorem SameAttestations.applyStockMovement
    {before after : Store}
    {movement : StockMovement}
    (applied :
      Daemon.applyStockMovement before movement capacity upload now =
        .ok after) :
    SameAttestations before after := by
  refine upsertSaleViewProjection ?_ applied
  cases upload <;> cases movement.source <;> exact ⟨rfl, rfl, rfl⟩

theorem SameAttestations.applySaleSafetyBlocker
    {before after : Store}
    (applied :
      Daemon.applySaleSafetyBlocker before blocker now = .ok after) :
    SameAttestations before after := by
  unfold Daemon.applySaleSafetyBlocker at applied
  split at applied
  · cases applied
    exact ⟨rfl, rfl, rfl⟩
  · obtain ⟨marked, inserted, refreshed⟩ :=
      Transaction.bind_eq_ok_iff.mp applied
    unfold insertSaleSafetyBlocker at inserted
    split at inserted
    · cases inserted
      refine upsertSaleViewProjection ?_ refreshed
      exact ⟨rfl, rfl, rfl⟩
    · cases inserted

theorem SlotWrite.sameAttestations
    {before after : Store}
    (write : SlotWrite trusted now allows records before after)
    (noSubmission : ¬ allows .submission) :
    SameAttestations before after := by
  cases write with
  | quiet _ submitted =>
    exact submitted.resolve_left noSubmission
  | pruned _ _ _ attestations => exact attestations
  | movement _ _ _ _ _ applied => exact .applyStockMovement applied
  | attested _ _ _ _ _ _ inserted projected =>
    obtain ⟨_, rfl⟩ := insertStockMovement_ok inserted
    refine .upsertSaleViewProjection ?_ projected
    exact ⟨rfl, rfl, rfl⟩
  | snapshot _ _ _ _ projected =>
    refine .upsertSaleViewProjection ?_ projected
    split <;> exact ⟨rfl, rfl, rfl⟩
  | review _ blocked =>
    refine .upsertSaleViewProjection ?_ blocked
    exact ⟨rfl, rfl, rfl⟩
  | blocker applied => exact .applySaleSafetyBlocker applied
  | state _ updated =>
    rw [(updateSlotSalesState_spec updated).1]
    exact ⟨rfl, rfl, rfl⟩
  | sold _ _ applied =>
    rcases applyDispenseSuccessToLocalStock_sold applied with
      ⟨_, rfl⟩ | ⟨_, _, _, _, _, refreshed⟩
    · exact ⟨rfl, rfl, rfl⟩
    · refine .upsertSaleViewProjection ?_ refreshed
      exact ⟨rfl, rfl, rfl⟩

theorem SlotWrite.ledger_mem
    {before after : Store}
    {movement : StockMovement}
    (write : SlotWrite trusted now allows records before after)
    (member : movement ∈ after.stockMovements) :
    movement ∈ before.stockMovements ∨
      (records movement ∧
        (allows (.attestation movement.slotId) ∨
          movement.occurredAt = now)) := by
  rcases write.ledger_cases with
    (keeps | ⟨recorded, admitted, moves⟩) | ⟨_, fewer⟩ | ⟨_, same⟩
  · exact Or.inl (keeps.ledger ▸ member)
  · have stored := Table.find?_of_mem member
    rw [moves.ledger, Table.find?_insertOrIgnore] at stored
    split at stored
    · rename_i same
      rw [same, moves.fresh] at stored
      cases stored
      exact Or.inr ⟨admitted.recorded,
        admitted.entered.imp id StockMovement.Enters.occurred⟩
    · exact Or.inl (Table.mem_of_find? stored)
  · exact Or.inl (fewer movement member)
  · exact Or.inl (same ▸ member)

/-- A slot whose ledger and count are as before. -/
structure SlotUnmoved (slotId : SlotId) (before after : Store) : Prop where
  ledger : ∀ version, after.slotMovements version slotId =
    before.slotMovements version slotId
  count : after.countOf slotId = before.countOf slotId

/-- A slot that one movement was recorded and projected for. -/
structure SlotMovedBy
    (movement : StockMovement)
    (before after : Store) : Prop where
  fresh : before.stockMovements.find? movement.movementId = none
  stored : after.stockMovements.find? movement.movementId = some movement
  ledger : after.slotMovements movement.planogramVersion movement.slotId =
    before.slotMovements movement.planogramVersion movement.slotId ++
      [movement]
  count : after.countOf movement.slotId =
    some (movement.planogramVersion, max movement.afterQuantity 0)

theorem slotMovements_insertOrIgnore
    {before after : Store}
    {movement : StockMovement}
    (fresh : before.stockMovements.find? movement.movementId = none)
    (ledger : after.stockMovements =
      before.stockMovements.insertOrIgnore movement)
    (version : PlanogramVersion)
    (slotId : SlotId) :
    after.slotMovements version slotId =
      before.slotMovements version slotId ++
        if movement.planogramVersion = version ∧
            movement.slotId = slotId then [movement] else [] := by
  unfold Store.slotMovements
  rw [ledger, Table.insertOrIgnore, dif_pos fresh]
  simp only [List.filter_append]
  congr 1
  by_cases ofSlot : movement.planogramVersion = version ∧
    movement.slotId = slotId
  · simp [ofSlot]
  · rw [if_neg ofSlot]
    simpa using ofSlot

namespace SlotUnmoved

theorem trans
    {first middle last : Store}
    (leading : SlotUnmoved slotId first middle)
    (trailing : SlotUnmoved slotId middle last) :
    SlotUnmoved slotId first last where
  ledger := fun version =>
    (trailing.ledger version).trans (leading.ledger version)
  count := trailing.count.trans leading.count

variable {after before : Store}

theorem of_keepsCounts
    (keeps : KeepsCounts before after)
    (slotId : SlotId) :
    SlotUnmoved slotId before after where
  ledger := fun version => by
    rw [Store.slotMovements, Store.slotMovements, keeps.ledger]
  count := keeps.counts slotId

theorem of_moves
    {movement : StockMovement}
    (moves : Moves movement before after)
    (otherSlot : slotId ≠ movement.slotId) :
    SlotUnmoved slotId before after where
  ledger := fun version => by
    rw [slotMovements_insertOrIgnore moves.fresh moves.ledger,
      if_neg (fun ofSlot => otherSlot ofSlot.2.symm), List.append_nil]
  count := moves.others slotId otherSlot

end SlotUnmoved

namespace Moves

variable
  {movement : StockMovement}
  {before after : Store}

theorem keepsStored
    (moves : Moves movement before after)
    {other : StockMovement}
    (stored : before.stockMovements.find? other.movementId = some other) :
    after.stockMovements.find? other.movementId = some other := by
  rw [moves.ledger, Table.find?_insertOrIgnore]
  split
  · rename_i same
    rw [same, moves.fresh] at stored
    cases stored
  · exact stored

theorem movedBy (moves : Moves movement before after) :
    SlotMovedBy movement before after where
  fresh := moves.fresh
  stored := by
    rw [moves.ledger, Table.find?_insertOrIgnore, if_pos rfl, moves.fresh]
    rfl
  ledger := by
    rw [slotMovements_insertOrIgnore moves.fresh moves.ledger,
      if_pos ⟨rfl, rfl⟩]
  count := moves.count

end Moves

namespace SlotMovedBy

variable
  {movement : StockMovement}
  {before middle after : Store}

theorem after_moves
    {other : StockMovement}
    (moves : Moves other before middle)
    (otherSlot : movement.slotId ≠ other.slotId)
    (movedBy : SlotMovedBy movement middle after) :
    SlotMovedBy movement before after where
  fresh := by
    by_contra recorded
    obtain ⟨earlier, stored⟩ := Option.ne_none_iff_exists'.mp recorded
    have key : earlier.movementId = movement.movementId :=
      Table.key_of_find? stored
    rw [← key] at stored
    have kept := moves.keepsStored stored
    rw [key, movedBy.fresh] at kept
    cases kept
  stored := movedBy.stored
  ledger := by
    rw [movedBy.ledger,
      (SlotUnmoved.of_moves moves otherSlot).ledger]
  count := movedBy.count

theorem before_unmoved
    (movedBy : SlotMovedBy movement before middle)
    (keepsStored : middle.stockMovements.find? movement.movementId =
      some movement → after.stockMovements.find? movement.movementId =
        some movement)
    (unmoved : SlotUnmoved movement.slotId middle after) :
    SlotMovedBy movement before after where
  fresh := movedBy.fresh
  stored := keepsStored movedBy.stored
  ledger := (unmoved.ledger _).trans movedBy.ledger
  count := unmoved.count.trans movedBy.count

end SlotMovedBy

section Loops

variable {Item Error : Type} {body : Item → Transaction Store Error PUnit}
  {slotOf : Item → SlotId} {describes : Item → StockMovement → Prop}
  {after before : Store}

variable {items : List Item}

theorem forM_unmoved
    (round : ∀ {item before after},
      (body item).Commits before PUnit.unit after →
        ∃ movement, Moves movement before after ∧
          movement.slotId = slotOf item ∧ describes item movement)
    (commits : (forM items body).Commits before PUnit.unit after)
    (otherSlots : slotId ∉ items.map slotOf) :
    SlotUnmoved slotId before after ∧
      ∀ {movement : StockMovement},
        before.stockMovements.find? movement.movementId = some movement →
          after.stockMovements.find? movement.movementId =
            some movement := by
  refine (Transaction.forM_keeps
    (fun remaining store => slotId ∉ remaining.map slotOf ∧
      SlotUnmoved slotId before store ∧
      ∀ {movement : StockMovement},
        before.stockMovements.find? movement.movementId = some movement →
          store.stockMovements.find? movement.movementId = some movement)
    ?_ ⟨otherSlots, ⟨fun _ => rfl, rfl⟩, id⟩ commits).2
  rintro item rest store next ⟨others, unmoved, kept⟩ moved
  obtain ⟨movement, moves, sameSlot, _⟩ := round moved
  rw [List.map_cons, List.mem_cons, not_or] at others
  rw [← sameSlot] at others
  exact ⟨others.2, unmoved.trans (.of_moves moves others.1),
    fun stored => moves.keepsStored (kept stored)⟩

theorem forM_movedBy
    (round : ∀ {item before after},
      (body item).Commits before PUnit.unit after →
        ∃ movement, Moves movement before after ∧
          movement.slotId = slotOf item ∧ describes item movement)
    (distinct : (items.map slotOf).Nodup)
    (commits : (forM items body).Commits before PUnit.unit after)
    {item : Item}
    (member : item ∈ items) :
    ∃ movement, SlotMovedBy movement before after ∧
      movement.slotId = slotOf item ∧ describes item movement := by
  induction items generalizing before with
  | nil => cases member
  | cons first rest inductionHypothesis =>
    obtain ⟨middle, moved, later⟩ :=
      Transaction.commits_forM_cons.mp commits
    obtain ⟨movement, moves, sameSlot, described⟩ := round moved
    rw [List.map_cons, List.nodup_cons] at distinct
    rcases List.mem_cons.mp member with rfl | inRest
    · rw [← sameSlot] at distinct
      have untouched := forM_unmoved round later distinct.1
      exact ⟨movement, moves.movedBy.before_unmoved untouched.2
        untouched.1, sameSlot, described⟩
    · obtain ⟨other, movedBy, otherSlot, otherDescribed⟩ :=
        inductionHypothesis distinct.2 later inRest
      refine ⟨other, movedBy.after_moves moves ?_, otherSlot,
        otherDescribed⟩
      rw [otherSlot, sameSlot]
      intro same
      exact distinct.1 (same ▸ List.mem_map_of_mem inRest)

end Loops

theorem StockMovement.Admitted.of_unmoved
    {movement : StockMovement}
    {before middle : Store}
    (admitted : movement.Admitted now allows records middle)
    (planograms : SamePlanograms before middle)
    (unmoved : SlotUnmoved movement.slotId before middle) :
    movement.Admitted now allows records before := by
  have sameStock := projectedStock_congr unmoved.count movement.planogramVersion
  refine ⟨admitted.recorded, ?_, ?_, ?_⟩
  · rw [← planograms.active]
    exact admitted.ofActive
  · intro row found fits
    rw [← planograms.slots] at found
    rw [← sameStock] at fits
    exact admitted.within row found fits
  · rcases admitted.entered with counted | entered
    · exact Or.inl counted
    · exact Or.inr ⟨entered.occurred, entered.before.trans sameStock,
        entered.nonneg⟩

theorem SlotWrites.keepsStored
    {before after : Store}
    {movement : StockMovement}
    (noPruning : ¬ allows .prune)
    (noSnapshot : ∀ slotId, ¬ allows (.snapshot slotId))
    (writes : SlotWrites trusted now allows records before after)
    (stored :
      before.stockMovements.find? movement.movementId = some movement) :
    after.stockMovements.find? movement.movementId = some movement := by
  refine SlotWrites.keeps
    (fun store =>
      store.stockMovements.find? movement.movementId = some movement)
    (fun write earlier => ?_) writes stored
  rcases write.moves noPruning noSnapshot with keeps | ⟨_, _, moves⟩
  · rw [keeps.ledger]
    exact earlier
  · exact moves.keepsStored earlier

/-- A chain of writes moves a slot at most once. -/
theorem SlotWrites.slot
    {before after : Store}
    (named : ∀ {first second : StockMovement}, records first →
      records second → first.slotId = second.slotId →
        first.movementId = second.movementId)
    (noPruning : ¬ allows .prune)
    (noSnapshot : ∀ slotId, ¬ allows (.snapshot slotId))
    (writes : SlotWrites trusted now allows records before after)
    (slotId : SlotId) :
    SlotUnmoved slotId before after ∨
      ∃ movement : StockMovement, movement.slotId = slotId ∧
        movement.Admitted now allows records before ∧
        SlotMovedBy movement before after := by
  induction writes with
  | refl => exact Or.inl ⟨fun _ => rfl, rfl⟩
  | @tail middle last earlier write inductionHypothesis =>
    rcases write.moves noPruning noSnapshot with
      keeps | ⟨movement, admitted, moves⟩
    · have unmoved := SlotUnmoved.of_keepsCounts keeps slotId
      rcases inductionHypothesis with
        still | ⟨moved, rfl, ofBefore, movedBy⟩
      · exact Or.inl (still.trans unmoved)
      · refine Or.inr ⟨moved, rfl, ofBefore, movedBy.fresh, ?_,
          (unmoved.ledger _).trans movedBy.ledger,
          unmoved.count.trans movedBy.count⟩
        rw [keeps.ledger]
        exact movedBy.stored
    · by_cases otherSlot : slotId = movement.slotId
      · subst otherSlot
        rcases inductionHypothesis with
          still | ⟨moved, sameSlot, ofBefore, movedBy⟩
        · -- The first movement of the slot is the only one so far.
          have movedBy := moves.movedBy
          refine Or.inr ⟨movement, rfl,
            admitted.of_unmoved (SlotWrites.samePlanograms earlier) still,
            ?_, movedBy.stored, ?_, movedBy.count⟩
          · by_contra recorded
            obtain ⟨other, stored⟩ :=
              Option.ne_none_iff_exists'.mp recorded
            have key : other.movementId = movement.movementId :=
              Table.key_of_find? stored
            rw [← key] at stored
            have kept := SlotWrites.keepsStored noPruning noSnapshot
              earlier stored
            rw [key, moves.fresh] at kept
            cases kept
          · rw [movedBy.ledger, still.ledger]
        · have sameName :=
            named ofBefore.recorded admitted.recorded sameSlot
          have stored := movedBy.stored
          rw [sameName, moves.fresh] at stored
          cases stored
      · have unmoved := SlotUnmoved.of_moves moves otherSlot
        rcases inductionHypothesis with
          still | ⟨moved, rfl, ofBefore, movedBy⟩
        · exact Or.inl (still.trans unmoved)
        · exact Or.inr ⟨moved, rfl, ofBefore, movedBy.fresh,
            moves.keepsStored movedBy.stored,
            (unmoved.ledger _).trans movedBy.ledger,
            unmoved.count.trans movedBy.count⟩

theorem recordsMovement_named
    {first second : StockMovement}
    (recordsFirst : event.recordsMovement store now first)
    (recordsSecond : event.recordsMovement store now second)
    (sameSlot : first.slotId = second.slotId) :
    first.movementId = second.movementId := by
  cases event with
  | recordStockMovement input upload => rw [recordsFirst, recordsSecond]
  | submitRefillBatch input operatorId identity =>
    rw [recordsFirst, recordsSecond, sameSlot]
  | recordAttestation input =>
    obtain ⟨slot, _, _, rfl⟩ := recordsFirst
    obtain ⟨other, _, _, rfl⟩ := recordsSecond
    exact congrArg (MovementId.stockTask input.attestationId) sameSlot
  | finalizeAttestation =>
    obtain ⟨pending, isPending, slot, _, _, rfl⟩ := recordsFirst
    obtain ⟨same, alsoPending, other, _, _, rfl⟩ := recordsSecond
    obtain rfl := Option.mem_unique isPending alsoPending
    exact congrArg pending.countedAs sameSlot
  | commitDispense command result preferred =>
    obtain ⟨_, _, rfl⟩ := recordsFirst
    obtain ⟨_, _, rfl⟩ := recordsSecond
    rfl
  | applyPlanogram _ | stageAttestation _ _ _ | uploadAnswered _ _
  | uploadFailed _ _ _ _ | applySnapshot _ | journalDispense _ _
  | updateSlotSalesState _ _ _ _ | pruneStockMovements _ _ | otherActivity _ =>
    exact recordsFirst.elim

/-- The transactions that write the ledger as the attestation expects. -/
def StockEvent.keepsLedger : StockEvent → Bool
  | .applyPlanogram _
  | .applySnapshot _
  | .pruneStockMovements _ _ => false
  | .recordStockMovement _ _
  | .submitRefillBatch _ _ _
  | .recordAttestation _
  | .stageAttestation _ _ _
  | .finalizeAttestation
  | .uploadAnswered _ _
  | .uploadFailed _ _ _ _
  | .journalDispense _ _
  | .commitDispense _ _ _
  | .updateSlotSalesState _ _ _ _
  | .otherActivity _ => true

theorem perform_slot
    (keepsLedger : event.keepsLedger = true)
    (slotId : SlotId) :
    SlotUnmoved slotId store (store.perform now event) ∨
      ∃ movement : StockMovement, movement.slotId = slotId ∧
        movement.Admitted now (event.writeKinds store)
          (event.recordsMovement store now) store ∧
        SlotMovedBy movement store (store.perform now event) := by
  have writes : SlotWrites False now (event.writeKinds store)
      (event.recordsMovement store now) store
      (store.perform now event) := by
    refine perform_writes ?_ (fun trust => trust.elim)
    rintro input rfl
    cases keepsLedger
  refine SlotWrites.slot recordsMovement_named ?_ ?_ writes slotId
  · cases event <;> intro allowed <;>
      simp_all [StockEvent.writeKinds, StockEvent.keepsLedger,
        EntersOneOf, AttestsOneOf]
  · intro other
    cases event <;> intro allowed <;>
      simp_all [StockEvent.writeKinds, StockEvent.keepsLedger,
        EntersOneOf, AttestsOneOf]

end VendingSystem.Daemon
