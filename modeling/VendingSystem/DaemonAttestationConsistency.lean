import VendingSystem.DaemonAttestationRuns

namespace VendingSystem.Daemon

/-!
# When the consistency check finds nothing

Movements made now keep projected stock and ledger equal.  Pruning deletes the
last movement of a slot, and a finalisation projects a count that its movement
dates back to the time of the staging.
-/

/-- The movement of a slot that is later than every other one. -/
def Store.IsLastMovement
    (store : Store)
    (version : PlanogramVersion)
    (slotId : SlotId)
    (last : StockMovement) : Prop :=
  last ∈ store.slotMovements version slotId ∧
    ∀ other ∈ store.slotMovements version slotId,
      other = last ∨ other.occurredAt < last.occurredAt

instance
    (store : Store)
    (version : PlanogramVersion)
    (slotId : SlotId)
    (last : StockMovement) :
    Decidable (store.IsLastMovement version slotId last) :=
  inferInstanceAs (Decidable (_ ∧ ∀ other ∈ _, _))

variable {version : PlanogramVersion} {store before : Store} {slotId : SlotId}
  {last movement : StockMovement} {row : PlanogramSlot}
  {slot : PhysicalStockAttestationSlotInput}
  {input : PhysicalStockAttestationInput} {now clock : Time}
  {pending : PendingPhysicalStockAttestation} {event : StockEvent}
  {runtime next : StockRuntime} {timed : TimedStockEvent}

/-- The check selects the last movement, whatever the order of identifiers. -/
theorem latestMovement_of_last
    (isLast : store.IsLastMovement version slotId last)
    (idBefore : MovementId → MovementId → Bool) :
    store.latestMovement idBefore version slotId = some last := by
  rw [latestMovement_eq_foldl]
  have folded : ∀ (movements : List StockMovement)
      (earlier : Option StockMovement),
      (∀ current ∈ earlier,
        current = last ∨ current.occurredAt < last.occurredAt) →
      (∀ other ∈ movements,
        other = last ∨ other.occurredAt < last.occurredAt) →
      earlier = some last ∨ last ∈ movements →
      movements.foldl (laterMovement idBefore) earlier = some last := by
    intro movements
    induction movements with
    | nil =>
      intro earlier _ _ found
      exact found.resolve_right List.not_mem_nil
    | cons movement rest inductionHypothesis =>
      intro earlier before others found
      have ofMovement := others movement List.mem_cons_self
      refine inductionHypothesis _ ?_
        (fun other member => others other (List.mem_cons_of_mem _ member))
        ?_
      · intro current isCurrent
        unfold laterMovement at isCurrent
        split at isCurrent
        · cases isCurrent
          exact ofMovement
        · split at isCurrent
          · cases isCurrent
            exact ofMovement
          · exact before current isCurrent
      · rcases found with rfl | inList
        · rcases ofMovement with rfl | sooner
          · refine Or.inl ?_
            simp only [laterMovement]
            split <;> rfl
          · refine Or.inl (if_neg ?_)
            rintro (later | ⟨same, _⟩)
            · exact absurd later (not_lt.mpr sooner.le)
            · exact absurd same sooner.ne'
        · rcases List.mem_cons.mp inList with rfl | inRest
          · cases earlier with
            | none => exact Or.inl rfl
            | some current =>
              rcases before current rfl with rfl | sooner
              · refine Or.inl ?_
                simp only [laterMovement]
                split <;> rfl
              · exact Or.inl (if_pos (Or.inl sooner))
          · exact Or.inr inRest
  refine folded _ none ?_ isLast.2 (Or.inr isLast.1)
  intro current isCurrent
  cases isCurrent

theorem isLastMovement_of_later
    {after : Store}
    (movedBy : SlotMovedBy movement before after)
    (later : ∀ other ∈ before.slotMovements
      movement.planogramVersion movement.slotId,
      other.occurredAt < movement.occurredAt) :
    after.IsLastMovement movement.planogramVersion movement.slotId
      movement := by
  refine ⟨?_, fun other member => ?_⟩
  · rw [movedBy.ledger]
    exact List.mem_append_right _ (List.mem_singleton_self movement)
  · rw [movedBy.ledger] at member
    rcases List.mem_append.mp member with earlier | added
    · exact Or.inr (later other earlier)
    · exact Or.inl (List.mem_singleton.mp added)

theorem isLastMovement_of_sooner
    {after : Store}
    (movedBy : SlotMovedBy movement before after)
    (isLast : before.IsLastMovement movement.planogramVersion
      movement.slotId last)
    (sooner : movement.occurredAt < last.occurredAt) :
    after.IsLastMovement movement.planogramVersion movement.slotId
      last := by
  refine ⟨?_, fun other member => ?_⟩
  · rw [movedBy.ledger]
    exact List.mem_append_left _ isLast.1
  · rw [movedBy.ledger] at member
    rcases List.mem_append.mp member with earlier | added
    · exact isLast.2 other earlier
    · rw [List.mem_singleton.mp added]
      exact Or.inr sooner

/-- The last movement of a slot left the stock that is projected. -/
def Store.TellsStock
    (store : Store)
    (row : PlanogramSlot) : Prop :=
  ∃ last, store.IsLastMovement row.planogramVersion row.slotId last ∧
    0 ≤ last.afterQuantity ∧ last.afterQuantity ≤ row.capacity ∧
    store.countOf row.slotId =
      some (row.planogramVersion, last.afterQuantity)

/-- The ledger tells the stock of every slot of an attested version. -/
structure Store.LedgerTells
    (store : Store)
    (version : PlanogramVersion) : Prop where
  isActive : store.activePlanogramVersion = some version
  stored : ∃ stored, store.physicalStockAttestation = some stored ∧
    stored.planogramVersion = version
  slots : ∀ slotId row,
    store.machinePlanogramSlots.find? (version, slotId) = some row →
      store.TellsStock row

theorem Store.TellsStock.of_unmoved
    {after : Store}
    (tells : before.TellsStock row)
    (unmoved : SlotUnmoved row.slotId before after) :
    after.TellsStock row := by
  obtain ⟨last, isLast, nonneg, within, count⟩ := tells
  refine ⟨last, ?_, nonneg, within, unmoved.count.trans count⟩
  rw [Store.IsLastMovement, unmoved.ledger]
  exact isLast

theorem Store.TellsStock.of_movedBy
    {after : Store}
    (movedBy : SlotMovedBy movement before after)
    (ofVersion : movement.planogramVersion = row.planogramVersion)
    (ofSlot : movement.slotId = row.slotId)
    (later : ∀ other ∈ before.slotMovements
      movement.planogramVersion movement.slotId,
      other.occurredAt < movement.occurredAt)
    (nonneg : 0 ≤ movement.afterQuantity)
    (within : movement.afterQuantity ≤ row.capacity) :
    after.TellsStock row := by
  have isLast := isLastMovement_of_later movedBy later
  have count := movedBy.count
  rw [ofVersion, ofSlot] at isLast count
  refine ⟨movement, isLast, nonneg, within, ?_⟩
  rw [count, max_eq_left nonneg]

theorem Store.TellsStock.consistent
    (tells : store.TellsStock row)
    (idBefore : MovementId → MovementId → Bool)
    (stored : StoredPhysicalStockAttestation)
    (ofVersion : stored.planogramVersion = row.planogramVersion)
    (counted : attestedSlotFor stored.slots row = .ok slot) :
    store.slotIsInconsistent idBefore stored row = false := by
  obtain ⟨last, isLast, _, within, count⟩ := tells
  have latest := latestMovement_of_last isLast idBefore
  have projected := physicalStock_eq_countOf store row.planogramVersion
    row.slotId
  rw [count] at projected
  simp only [Option.filter, BEq.rfl, ↓reduceIte, Option.map_some] at projected
  unfold attestedSlotFor at counted
  unfold Store.slotIsInconsistent
  rw [ofVersion, latest, projected]
  split at counted
  · cases counted
  rename_i other found
  split at counted
  · cases counted
  rename_i sameMapping
  split at counted
  · cases counted
  rename_i fits
  simp only [not_or, not_not] at sameMapping
  simp [sameMapping.1, sameMapping.2, within, not_lt.mp fits]

theorem planogramSlots_distinct
    (store : Store)
    (version : PlanogramVersion) :
    ((store.planogramSlots version).map
      (fun row => row.slotId)).Nodup := by
  have keys : ((store.planogramSlots version).map
      (fun row => (row.planogramVersion, row.slotId))).Nodup := by
    unfold Store.planogramSlots
    refine ((List.perm_insertionSort _ _).map _).nodup_iff.mpr ?_
    exact store.machinePlanogramSlots.keysDistinct.sublist
      (List.filter_sublist.map _)
  refine List.Nodup.of_map (fun slotId => (version, slotId)) ?_
  rw [List.map_map]
  have sameKeys : (store.planogramSlots version).map
      (fun row => (row.planogramVersion, row.slotId)) =
        (store.planogramSlots version).map
          ((fun slotId => (version, slotId)) ∘ fun row => row.slotId) := by
    refine List.map_congr_left fun row member => ?_
    have key := Table.key_of_find? (planogramSlots_mem member)
    exact key
  rw [← sameKeys]
  exact keys

open Transaction

theorem attestSlot_moves
    {after : Store}
    (commits : (attestSlot input now row).Commits before () after) :
    ∃ movement, Moves movement before after ∧
      movement.slotId = row.slotId ∧
      ∃ slot beforeQuantity, attestedSlotFor input.slots row = .ok slot ∧
        movement = attestedMovement input slot
          (.stockTask input.attestationId slot.slotId) beforeQuantity
          now := by
  unfold attestSlot at commits
  simp only [commits_ofExcept_bind, commits_statement_bind, commits_statement]
    at commits
  obtain ⟨slot, fits, noted, inserted, projected⟩ := commits
  exact ⟨_, projectAttestedSlot_moves ⟨rfl, rfl, rfl⟩ inserted projected,
    (attestedSlotFor_ok fits).2.1, slot, _, fits, rfl⟩

theorem finalizeSlot_moves
    {after : Store}
    (commits :
      (finalizeSlot pending now slot).Commits before () after) :
    ∃ movement, Moves movement before after ∧
      movement.slotId = slot.slotId ∧
      ∃ beforeQuantity,
        movement = attestedMovement pending.input slot
          (pending.countedAs slot.slotId) beforeQuantity
          (pending.countedAt slot.slotId) := by
  unfold finalizeSlot at commits
  simp only [commits_get_bind, commits_requireSome_bind, commits_require_bind,
    commits_statement_bind, commits_statement] at commits
  obtain ⟨row, _, _, observation, observed, noted, inserted, projected⟩ :=
    commits
  obtain ⟨sameName, sameTime⟩ := observationOf_some observed
  rw [sameName, sameTime] at inserted
  exact ⟨_, projectAttestedSlot_moves ⟨rfl, rfl, rfl⟩
      (mapError_eq_ok_iff.mp inserted)
      (mapError_eq_ok_iff.mp projected),
    rfl, _, rfl⟩

theorem recordPhysicalStockAttestation_movedBy
    {after : Store}
    (commits :
      (recordPhysicalStockAttestation input now).Commits
        before () after)
    {row : PlanogramSlot}
    (listed : row ∈ before.planogramSlots input.planogramVersion) :
    ∃ slot beforeQuantity, attestedSlotFor input.slots row = .ok slot ∧
      SlotMovedBy (attestedMovement input slot
        (.stockTask input.attestationId slot.slotId) beforeQuantity now)
        before after := by
  unfold recordPhysicalStockAttestation at commits
  simp only [commits_require_bind] at commits
  obtain ⟨_, admits⟩ := commits
  obtain ⟨rows, middle, admitted, attests⟩ :=
    commits_bind.mp admits
  obtain ⟨rfl, _, rfl, _, _⟩ := admitAttestation_commits admitted
  obtain ⟨_, recorded, attested, stored⟩ :=
    commits_bind.mp attests
  rw [commits_modify] at stored
  subst stored
  obtain ⟨movement, movedBy, _, slot, beforeQuantity, fits, rfl⟩ :=
    forM_movedBy attestSlot_moves (planogramSlots_distinct _ _) attested listed
  exact ⟨slot, beforeQuantity, fits, movedBy.fresh, movedBy.stored,
    movedBy.ledger, movedBy.count⟩

theorem finalizeSlots_movedBy
    {after : Store}
    (checked : checkAttestedSlots [] pending.input.slots = .ok ())
    (commits : (finalizeSlots pending now).Commits before () after)
    (listed : slot ∈ pending.input.slots) :
    ∃ beforeQuantity, SlotMovedBy (attestedMovement pending.input slot
        (pending.countedAs slot.slotId) beforeQuantity
        (pending.countedAt slot.slotId)) before after := by
  unfold finalizeSlots at commits
  obtain ⟨_, finalized, attested, stored⟩ :=
    commits_bind.mp commits
  rw [commits_modify] at stored
  subst stored
  obtain ⟨movement, movedBy, _, beforeQuantity, rfl⟩ :=
    forM_movedBy finalizeSlot_moves
      (checkAttestedSlots_distinct checked).1 attested listed
  exact ⟨beforeQuantity, movedBy.fresh, movedBy.stored, movedBy.ledger,
    movedBy.count⟩

/-- A pending count comes last, or the last movement left what it counted. -/
def PendingPhysicalStockAttestation.CountsLast
    (pending : PendingPhysicalStockAttestation)
    (store : Store)
    (slot : PhysicalStockAttestationSlotInput) : Prop :=
  (∀ movement ∈ store.slotMovements
      pending.input.planogramVersion slot.slotId,
    movement.occurredAt < pending.countedAt slot.slotId) ∨
  ∃ last ∈ store.slotMovements
      pending.input.planogramVersion slot.slotId,
    store.IsLastMovement pending.input.planogramVersion slot.slotId last ∧
      pending.countedAt slot.slotId < last.occurredAt ∧
      last.afterQuantity = slot.quantity

instance
    (pending : PendingPhysicalStockAttestation)
    (store : Store)
    (slot : PhysicalStockAttestationSlotInput) :
    Decidable (pending.CountsLast store slot) :=
  inferInstanceAs (Decidable ((∀ movement ∈ _, _) ∨ ∃ last ∈ _, _))

theorem slotMovements_sound
    (member : movement ∈ store.slotMovements version slotId) :
    movement ∈ store.stockMovements :=
  (List.mem_filter.mp member).1

theorem perform_samePlanograms
    (noPlanogram : ∀ input, event ≠ .applyPlanogram input) :
    SamePlanograms store (store.perform now event) := by
  have writes : SlotWrites False now (event.writeKinds store)
      (event.recordsMovement store now) store
      (store.perform now event) :=
    perform_writes noPlanogram (fun trust => trust.elim)
  exact SlotWrites.samePlanograms writes

theorem recordAttestation_tells
    (past : ∀ movement ∈ store.stockMovements,
      movement.occurredAt ≤ clock)
    (passes : clock < now)
    (planograms : SamePlanograms store
      (store.perform now (.recordAttestation input)))
    (commits :
      (recordPhysicalStockAttestation input now).Commits store ()
        (store.perform now (.recordAttestation input))) :
    (store.perform now (.recordAttestation input)).LedgerTells
      input.planogramVersion := by
  obtain ⟨isActive, checked, _, stored, _⟩ :=
    recordPhysicalStockAttestation_stores commits
  refine ⟨planograms.active.trans isActive, ⟨_, stored, rfl⟩, ?_⟩
  intro slotId row found
  rw [planograms.slots] at found
  obtain ⟨slot, _, fits, movedBy⟩ :=
    recordPhysicalStockAttestation_movedBy commits (mem_planogramSlots found)
  obtain ⟨submitted, sameSlot, within⟩ := attestedSlotFor_ok fits
  have ofVersion : row.planogramVersion = input.planogramVersion :=
    congrArg Prod.fst (Table.key_of_find? found)
  refine .of_movedBy movedBy ofVersion.symm sameSlot ?_
    (checkAttestedSlots_nonneg checked submitted) within
  intro other member
  exact (past other (slotMovements_sound member)).trans_lt passes

/-- The ledger tells the stock that was finalised, if it counts last. -/
theorem finalizeAttestation_tells
    (covered : store.CoveredBy pending.input.planogramVersion
      pending.input.slots)
    (isActive : store.activePlanogramVersion =
      some pending.input.planogramVersion)
    (countsLast : ∀ slot ∈ pending.input.slots,
      pending.CountsLast store slot)
    (planograms : SamePlanograms store
      (store.perform now .finalizeAttestation))
    (commits : (finalizeSlots pending now).Commits store ()
      (store.perform now .finalizeAttestation)) :
    (store.perform now .finalizeAttestation).LedgerTells
      pending.input.planogramVersion := by
  refine ⟨planograms.active.trans isActive,
    ⟨_, (finalizeSlots_stores commits).1, rfl⟩, ?_⟩
  intro slotId row found
  rw [planograms.slots] at found
  obtain ⟨slot, fits⟩ := covered.counted slotId row found
  obtain ⟨submitted, sameSlot, within⟩ := attestedSlotFor_ok fits
  have ofVersion : row.planogramVersion = pending.input.planogramVersion :=
    congrArg Prod.fst (Table.key_of_find? found)
  have nonneg := checkAttestedSlots_nonneg covered.checked submitted
  obtain ⟨_, movedBy⟩ :=
    finalizeSlots_movedBy covered.checked commits submitted
  rcases countsLast slot submitted with
    later | ⟨last, _, isLast, sooner, sameStock⟩
  · exact .of_movedBy movedBy ofVersion.symm sameSlot later nonneg within
  · -- The count is dated back, but it found what the last movement left.
    have staysLast := isLastMovement_of_sooner movedBy isLast sooner
    have count := movedBy.count
    simp only [attestedMovement] at staysLast count
    rw [← ofVersion, sameSlot] at staysLast count
    rw [max_eq_left nonneg] at count
    refine ⟨last, staysLast, ?_, ?_, ?_⟩
    · rw [sameStock]
      exact nonneg
    · rw [sameStock]
      exact within
    · rw [count, sameStock]

theorem Store.TellsStock.of_entry
    {after : Store}
    {allows : SlotWriteKind → Prop}
    {records : StockMovement → Prop}
    (tells : before.TellsStock row)
    (past : ∀ movement ∈ before.stockMovements,
      movement.occurredAt ≤ clock)
    (passes : clock < now)
    (found : before.machinePlanogramSlots.find?
      (row.planogramVersion, row.slotId) = some row)
    (ofVersion : movement.planogramVersion = row.planogramVersion)
    (ofSlot : movement.slotId = row.slotId)
    (admitted : movement.Admitted now allows records before)
    (entered : movement.Enters now before)
    (movedBy : SlotMovedBy movement before after) :
    after.TellsStock row := by
  obtain ⟨last, _, nonneg, within, count⟩ := tells
  have projected : before.projectedStock movement.planogramVersion
      movement.slotId = last.afterQuantity := by
    rw [Store.projectedStock, physicalStock_eq_countOf, ofVersion, ofSlot,
      count]
    simp [Option.filter]
  have beforeStock := entered.before.trans projected
  refine .of_movedBy movedBy ofVersion ofSlot ?_ ?_ ?_
  · intro other member
    rw [entered.occurred]
    exact (past other (slotMovements_sound member)).trans_lt passes
  · exact entered.nonneg (beforeStock ▸ nonneg)
  · rw [← ofVersion, ← ofSlot] at found
    exact admitted.within row found (projected ▸ within)

/-- The transaction runs on the attested planogram and trusts the ledger. -/
def StockEvent.staysOnVersion : StockEvent → Bool
  | .applyPlanogram _
  | .applySnapshot _ => false
  | .recordStockMovement _ _
  | .submitRefillBatch _ _ _
  | .recordAttestation _
  | .stageAttestation _ _ _
  | .finalizeAttestation
  | .uploadAnswered _ _
  | .uploadFailed _ _ _ _
  | .journalDispense _ _
  | .commitDispense _ _ _
  | .updateSlotSalesState _ _ _ _
  | .pruneStockMovements _ _
  | .otherActivity _ => true

/-- The transaction counts every slot. -/
def StockEvent.attests : StockEvent → Bool
  | .recordAttestation _
  | .finalizeAttestation => true
  | .applyPlanogram _
  | .applySnapshot _
  | .recordStockMovement _ _
  | .submitRefillBatch _ _ _
  | .stageAttestation _ _ _
  | .uploadAnswered _ _
  | .uploadFailed _ _ _ _
  | .journalDispense _ _
  | .commitDispense _ _ _
  | .updateSlotSalesState _ _ _ _
  | .pruneStockMovements _ _
  | .otherActivity _ => false

/-- Pruning up to a cutoff deletes the movement. -/
def Store.prunes
    (store : Store)
    (cutoff : Time)
    (movement : StockMovement) : Bool :=
  (store.stockMovementSync.find? movement.movementId).any
    (fun sync => sync.prunable store.protectedMovementIds cutoff)

/--
The transaction neither prunes the last movement of an active slot nor
finalises a count that another movement followed and did not leave.
-/
def StockEvent.KeepsLastMovements (store : Store) : StockEvent → Prop
  | .pruneStockMovements _ cutoff =>
    ∀ row ∈ store.machinePlanogramSlots.rows,
      store.isActiveSlot row = true →
        ∀ last ∈ store.slotMovements row.planogramVersion row.slotId,
          store.IsLastMovement row.planogramVersion row.slotId last →
            store.prunes cutoff last = false
  | .finalizeAttestation =>
    ∀ pending ∈ store.pendingPhysicalStockAttestation,
      pending.accepted store = true →
        ∀ slot ∈ pending.input.slots, pending.CountsLast store slot
  | .applyPlanogram _
  | .applySnapshot _
  | .recordStockMovement _ _
  | .submitRefillBatch _ _ _
  | .recordAttestation _
  | .stageAttestation _ _ _
  | .uploadAnswered _ _
  | .uploadFailed _ _ _ _
  | .journalDispense _ _
  | .commitDispense _ _ _
  | .updateSlotSalesState _ _ _ _
  | .otherActivity _ => True

instance (store : Store) :
    ∀ event : StockEvent, Decidable (event.KeepsLastMovements store)
  | .pruneStockMovements _ cutoff =>
    inferInstanceAs (Decidable (∀ row ∈ store.machinePlanogramSlots.rows,
      store.isActiveSlot row = true → ∀ last ∈ _, _ →
        store.prunes cutoff last = false))
  | .finalizeAttestation =>
    inferInstanceAs (Decidable
      (∀ pending ∈ store.pendingPhysicalStockAttestation,
        pending.accepted store = true → ∀ slot ∈ _, _))
  | .applyPlanogram _
  | .applySnapshot _
  | .recordStockMovement _ _
  | .submitRefillBatch _ _ _
  | .recordAttestation _
  | .stageAttestation _ _ _
  | .uploadAnswered _ _
  | .uploadFailed _ _ _ _
  | .journalDispense _ _
  | .commitDispense _ _ _
  | .updateSlotSalesState _ _ _ _
  | .otherActivity _ => isTrue trivial

theorem slotMovements_prune
    (store : Store)
    (taskIds : List TaskId)
    (cutoff : Time)
    (version : PlanogramVersion)
    (slotId : SlotId) :
    (pruneStockMovementHistory store taskIds cutoff).slotMovements
        version slotId =
      (store.slotMovements version slotId).filter
        (fun movement => !store.prunes cutoff movement) := by
  unfold Store.slotMovements
  rw [List.filter_comm]
  rfl

theorem prune_tells
    {taskIds : List TaskId}
    {cutoff : Time}
    (now : Time)
    (spares : (StockEvent.pruneStockMovements taskIds
      cutoff).KeepsLastMovements store)
    (tells : store.LedgerTells version) :
    (store.perform now (.pruneStockMovements taskIds cutoff)).LedgerTells
      version := by
  refine ⟨tells.isActive, tells.stored, fun slotId row found => ?_⟩
  have stored : store.machinePlanogramSlots.find? (version, slotId) =
      some row := found
  obtain ⟨last, isLast, nonneg, within, count⟩ :=
    tells.slots slotId row stored
  have ofVersion : row.planogramVersion = version :=
    congrArg Prod.fst (Table.key_of_find? stored)
  have isActive : store.isActiveSlot row = true := by
    simp [Store.isActiveSlot, tells.isActive, ofVersion]
  have spared := spares row (Table.mem_of_find? stored) isActive last
    isLast.1 isLast
  refine ⟨last, ⟨?_, fun other member => ?_⟩, nonneg, within, count⟩
  · simp only [Store.perform, slotMovements_prune, List.mem_filter]
    exact ⟨isLast.1, by rw [spared]; rfl⟩
  · simp only [Store.perform, slotMovements_prune, List.mem_filter] at member
    exact isLast.2 other member.1

/-- Movements made now keep telling the stock of every slot. -/
theorem entries_tell
    (past : ∀ movement ∈ store.stockMovements,
      movement.occurredAt ≤ clock)
    (passes : clock < now)
    (keepsLedger : event.keepsLedger = true)
    (attestsNot : event.attests = false)
    (tells : store.LedgerTells version) :
    (store.perform now event).LedgerTells version := by
  have planograms : SamePlanograms store (store.perform now event) := by
    refine perform_samePlanograms ?_
    rintro input rfl
    cases keepsLedger
  have noCount : ∀ slotId,
      ¬ event.writeKinds store (.attestation slotId) := by
    intro slotId
    cases event <;> intro counts <;>
      simp_all [StockEvent.writeKinds, StockEvent.attests, EntersOneOf,
        SnapshotsOneOf]
  refine ⟨planograms.active.trans tells.isActive, ?_, ?_⟩
  · rcases perform_attestations store now event with
      same | ⟨input, rfl, _⟩ | ⟨_, _, _, _, staged⟩ | ⟨_, rfl, _⟩
    · rw [same.stored]
      exact tells.stored
    · cases attestsNot
    · rw [staged.stored]
      exact tells.stored
    · cases attestsNot
  · intro slotId row found
    rw [planograms.slots] at found
    have key := Table.key_of_find? found
    obtain ⟨rfl, rfl⟩ : row.planogramVersion = version ∧
        row.slotId = slotId := Prod.mk.injEq .. ▸ key
    have earlier := tells.slots _ row found
    rcases perform_slot keepsLedger row.slotId with
      unmoved | ⟨movement, ofSlot, admitted, movedBy⟩
    · exact earlier.of_unmoved unmoved
    · have ofVersion : movement.planogramVersion =
          row.planogramVersion :=
        Option.some.inj (admitted.ofActive.symm.trans tells.isActive)
      exact earlier.of_entry past passes found ofVersion ofSlot admitted
        (admitted.entered.resolve_left (noCount _)) movedBy

/-- The transaction makes an attestation a stock fact. -/
def Store.makesFact (store : Store) (timed : TimedStockEvent) : Bool :=
  match timed.event with
  | .recordAttestation input =>
    ((recordPhysicalStockAttestation input timed.now).execute
      store).1.isOk
  | .finalizeAttestation =>
    match finalizePendingPhysicalStockAttestationIfAccepted
        store timed.now with
    | .ok (_, finalized) => finalized
    | .error _ => false
  | _ => false

theorem finalizeSlots_of_makesFact
    (makesFact : store.makesFact ⟨now, .finalizeAttestation⟩ = true) :
    ∃ pending, store.pendingPhysicalStockAttestation = some pending ∧
      pending.accepted store = true ∧
      store.activePlanogramVersion = some pending.input.planogramVersion ∧
      (finalizeSlots pending now).Commits store ()
        (store.perform now .finalizeAttestation) := by
  simp only [Store.makesFact] at makesFact
  cases finalized :
      finalizePendingPhysicalStockAttestationIfAccepted store now with
  | error refusal =>
    rw [finalized] at makesFact
    cases makesFact
  | ok result =>
    obtain ⟨after, done⟩ := result
    rw [finalized] at makesFact
    have isDone : done = true := makesFact
    have performed :
        store.perform now .finalizeAttestation = after := by
      simp only [Store.perform, finalized]
    rw [performed]
    rcases finalizePending_cases finalized with
      ⟨notDone, _⟩ | ⟨_, pending, isPending, accepted, isActive, commits⟩
    · cases notDone.symm.trans isDone
    · exact ⟨pending, isPending, accepted, isActive, commits⟩

/-- What a committed attestation does, one-phase or finalised. -/
theorem makesFact_tells
    (sound : runtime.Sound)
    (passes : runtime.clock < timed.now)
    (keepsLast : timed.event.KeepsLastMovements runtime.store)
    (makesFact : runtime.store.makesFact timed = true) :
    ∃ version,
      (runtime.store.perform timed.now timed.event).LedgerTells
        version := by
  obtain ⟨now, event⟩ := timed
  have planograms : event.attests = true →
      SamePlanograms runtime.store (runtime.store.perform now event) := by
    intro attests
    refine perform_samePlanograms ?_
    rintro input rfl
    cases attests
  cases event with
  | recordAttestation input =>
    simp only [Store.makesFact] at makesFact
    rcases execute_cases
        (recordPhysicalStockAttestation input now) runtime.store with
      ⟨refusal, failed⟩ | ⟨_, after, commits, executed⟩
    · rw [failed] at makesFact
      cases makesFact
    · have performed : runtime.store.perform now
          (.recordAttestation input) = after := by
        simp only [Store.perform, executed]
      exact ⟨_, recordAttestation_tells sound.ledger passes
        (planograms rfl) (performed ▸ commits)⟩
  | finalizeAttestation =>
    obtain ⟨pending, isPending, accepted, isActive, commits⟩ :=
      finalizeSlots_of_makesFact makesFact
    exact ⟨_, finalizeAttestation_tells
      (sound.cover.pending pending isPending) isActive
      (keepsLast pending isPending accepted) (planograms rfl) commits⟩
  | _ => cases makesFact

theorem perform_of_noFact
    (attests : timed.event.attests = true)
    (noFact : store.makesFact timed = false) :
    store.perform timed.now timed.event = store := by
  obtain ⟨now, event⟩ := timed
  cases event with
  | recordAttestation input =>
    simp only [Store.makesFact] at noFact
    rcases execute_cases
        (recordPhysicalStockAttestation input now) store with
      ⟨refusal, failed⟩ | ⟨_, after, commits, executed⟩
    · simp only [Store.perform, failed]
    · rw [executed] at noFact
      cases noFact
  | finalizeAttestation =>
    simp only [Store.makesFact] at noFact
    simp only [Store.perform]
    split
    · rename_i finalized
      rcases finalizePending_cases finalized with
        ⟨_, same⟩ | ⟨done, _⟩
      · exact same
      · rw [finalized] at noFact
        cases done.symm.trans noFact
    · rfl
  | _ => cases attests

/-- A step on the attested version keeps the ledger telling the stock. -/
theorem transact_tells
    (sound : runtime.Sound)
    (onVersion : timed.event.staysOnVersion = true)
    (keepsLast : timed.event.KeepsLastMovements runtime.store)
    (transacts : runtime.transact timed = some next)
    (tells : ∃ version, runtime.store.LedgerTells version) :
    ∃ version, next.store.LedgerTells version := by
  unfold StockRuntime.transact at transacts
  split at transacts
  · rename_i admitted
    cases transacts
    obtain ⟨version, tells⟩ := tells
    cases attests : timed.event.attests with
    | true =>
      cases makesFact : runtime.store.makesFact timed with
      | true =>
        exact makesFact_tells sound admitted.1 keepsLast makesFact
      | false =>
        refine ⟨version, ?_⟩
        simp only [perform_of_noFact attests makesFact]
        exact tells
    | false =>
      cases keepsLedger : timed.event.keepsLedger with
      | true =>
        exact ⟨version, entries_tell sound.ledger admitted.1
          keepsLedger attests tells⟩
      | false =>
        obtain ⟨now, event⟩ := timed
        cases event with
        | pruneStockMovements taskIds cutoff =>
          exact ⟨version, prune_tells now keepsLast tells⟩
        | applyPlanogram input => cases onVersion
        | applySnapshot snapshot => cases onVersion
        | _ => cases keepsLedger
  · cases transacts

/-- A step of a run that stays on the attested version. -/
def StockRuntimeEvent.staysOnVersion : StockRuntimeEvent → Bool
  | .read _ => true
  | .transact timed => timed.event.staysOnVersion

/-- A step of a run that keeps the last movements the last ones. -/
def KeepsLastMovements
    (runtime : StockRuntime) : StockRuntimeEvent → Prop
  | .read _ => True
  | .transact timed => timed.event.KeepsLastMovements runtime.store

instance (runtime : StockRuntime) :
    ∀ event : StockRuntimeEvent,
      Decidable (KeepsLastMovements runtime event)
  | .read _ => isTrue trivial
  | .transact timed =>
    inferInstanceAs
      (Decidable (timed.event.KeepsLastMovements runtime.store))

/-- A runtime in which the ledger tells the stock of an attested version. -/
def StockRuntime.TellsStock (runtime : StockRuntime) : Prop :=
  runtime.Sound ∧ ∃ version, runtime.store.LedgerTells version

theorem StockRuntime.TellsStock.step
    {event : StockRuntimeEvent}
    (tells : runtime.TellsStock)
    (meets : event.staysOnVersion = true ∧
      KeepsLastMovements runtime event)
    (step : stockRuntimeMachine.step runtime event = some next) :
    next.TellsStock := by
  refine ⟨tells.1.step step, ?_⟩
  cases event with
  | read input =>
    cases step
    have same : (runtime.read input).store = runtime.store := by
      unfold StockRuntime.read
      split <;> rfl
    rw [same]
    exact tells.2
  | transact timed =>
    exact transact_tells tells.1 meets.1 meets.2 step tells.2

/-- Where the ledger tells the stock, the check finds no slot. -/
theorem attestationStatus_of_tells
    (cover : AttestationsCover store)
    (tells : store.LedgerTells version)
    (idBefore : MovementId → MovementId → Bool) :
    (store.attestationStatus idBefore).inconsistentSlots = [] := by
  unfold Store.attestationStatus
  split
  · rfl
  · rfl
  · rfl
  · rename_i stored _ _ isStored
    obtain ⟨other, alsoStored, ofVersion⟩ := tells.stored
    rw [isStored] at alsoStored
    cases alsoStored
    have covered := cover.stored stored isStored
    have found : (store.planogramSlots stored.planogramVersion).filter
        (store.slotIsInconsistent idBefore stored) = [] := by
      rw [List.filter_eq_nil_iff]
      intro row member
      have slotFound := planogramSlots_mem member
      have rowVersion : row.planogramVersion = stored.planogramVersion :=
        congrArg Prod.fst (Table.key_of_find? slotFound)
      obtain ⟨slot, counted⟩ := covered.counted _ row slotFound
      rw [ofVersion] at slotFound
      have consistent := (tells.slots _ row slotFound).consistent idBefore
        stored rowVersion.symm counted
      rw [consistent]
      exact Bool.false_ne_true
    unfold storedAttestationStatus
    simp only [found, List.map_nil, List.isEmpty_nil, if_true]
    split <;> rfl

/-- The ledger of a version tells its stock in the order of the check. -/
def Store.LatestTellsStock
    (store : Store)
    (idBefore : MovementId → MovementId → Bool)
    (row : PlanogramSlot) : Prop :=
  ∃ latest,
    store.latestMovement idBefore row.planogramVersion row.slotId =
      some latest ∧
    (store.projectionOf row.planogramVersion row.slotId).map
      StockProjection.physicalStock = some latest.afterQuantity

/--
From an attestation that became a stock fact, whatever movements, batches,
attestations and prunings follow, the consistency check finds no slot, as long
as no pruning deletes the last movement of a slot and no finalisation dates its
count back behind a movement that left another stock.
-/
theorem attestationStatus_consistent
    {runtime final : StockRuntime}
    {first : TimedStockEvent}
    {events : List StockRuntimeEvent}
    {now : Time}
    {after : Store}
    {status : PhysicalStockAttestationStatus}
    (idBefore : MovementId → MovementId → Bool)
    (reached : stockRuntimeMachine.Reaches .initial runtime)
    (makesFact : runtime.store.makesFact first = true)
    (onVersion : stockRuntimeMachine.RunMeets
      (fun _ event => event.staysOnVersion = true)
      runtime (.transact first :: events))
    (keepsLast : stockRuntimeMachine.RunMeets KeepsLastMovements
      runtime (.transact first :: events))
    (run : stockRuntimeMachine.run
      runtime (.transact first :: events) = some final)
    (later : final.clock < now)
    (checkKeepsLast :
      StockEvent.finalizeAttestation.KeepsLastMovements final.store)
    (reports :
      physicalStockAttestationStatus final.store idBefore now =
        .ok (after, status)) :
    status.inconsistentSlots = [] ∧
      ∀ row ∈ after.machinePlanogramSlots, after.isActiveSlot row = true →
        after.LatestTellsStock idBefore row := by
  have sound := stockRuntime_sound reached
  obtain ⟨second, step, rest⟩ := Machine.run_cons_iff.mp run
  have transacts : runtime.transact first = some second := step
  have begins : second.TellsStock := by
    refine ⟨sound.transact transacts, ?_⟩
    unfold StockRuntime.transact at transacts
    split at transacts
    · rename_i admitted
      cases transacts
      exact makesFact_tells sound admitted.1 keepsLast.1 makesFact
    · cases transacts
  have ends : final.TellsStock :=
    Machine.run_keeps_of_meets StockRuntime.TellsStock.step begins
      ((onVersion.2 second step).and (keepsLast.2 second step)) rest
  obtain ⟨endSound, tells⟩ := ends
  -- The check runs a finalisation of its own before it reads.
  obtain ⟨⟨finalized, done⟩, finalizes, same⟩ :=
    map_eq_ok_iff.mp reports
  cases same
  have performed : final.store.perform now .finalizeAttestation =
      finalized := by
    simp only [Store.perform, finalizes]
  have transacted : final.transact ⟨now, .finalizeAttestation⟩ = some
      { final with
        store := finalized
        clock := now
        history := final.history ++
          finalized.recordedSince final.store now } := by
    simp only [StockRuntime.transact, StockRuntime.hasRead, later,
      performed, and_self, if_true]
  obtain ⟨version, afterTells⟩ :=
    transact_tells endSound rfl checkKeepsLast transacted tells
  refine ⟨attestationStatus_of_tells (endSound.transact transacted).cover
    afterTells idBefore, ?_⟩
  intro row member isActive
  have ofVersion : version = row.planogramVersion := by
    have active := afterTells.isActive
    simp only [Store.isActiveSlot, beq_iff_eq] at isActive
    exact Option.some.inj (active.symm.trans isActive)
  obtain ⟨last, isLast, _, _, count⟩ := afterTells.slots row.slotId row
    (ofVersion ▸ Table.find?_of_mem member)
  refine ⟨last, latestMovement_of_last isLast idBefore, ?_⟩
  rw [physicalStock_eq_countOf, count]
  simp [Option.filter]

/-- A count of the only slot, submitted under task 7. -/
def submittedCount : PhysicalStockAttestationInput where
  attestationId := 7
  planogramVersion := 1
  operatorId := 3
  slots :=
    [{ slotId := 5, sku := "SKU-60", quantity := 4, enabled := true }]

/-- The count is staged, with its correction queued for the platform. -/
def stagedRun : List StockRuntimeEvent :=
  [.transact ⟨100, .applyPlanogram
      { planogramVersion := 1
        source := "platform"
        appliedBy := none
        slots := [oneSlotInput] }⟩,
    .read submittedCount,
    .transact ⟨101, .stageAttestation submittedCount [] none⟩]

/-- The platform accepts the correction. -/
def countAccepted : StockRuntimeEvent :=
  .transact ⟨103, .uploadAnswered
    { id := .stockMovement (.stockTask 7 5)
      payload := .stockMovementUpload
        { movementId := .stockTask 7 5
          planogramVersion := 1
          slotId := 5
          movementType := .stockCountCorrection
          quantity := 4
          beforeQuantity := 0
          afterQuantity := 4
          source := .physicalStockAttestation
          attributedTo := some 3
          occurredAt := 101 }
      priority := 250
      createdAt := 101
      nextAttemptAt := 101
      attemptCount := 0
      expiresAt := 101 + outboxTtlDays * secondsPerDay }
    { movementId := .stockTask 7 5
      status := .accepted
      acceptedAt := some 103
      saleSafetyBlocker := none }⟩

/-- A refill of the attested slot at some time. -/
def refilledAt (now : Time) : StockRuntimeEvent :=
  .transact ⟨now, .recordStockMovement
    { taskId := 8
      planogramVersion := 1
      slotId := 5
      movementType := .plannedRefill
      quantity := 2
      source := .localMaintenance
      attributedTo := some 3 } true⟩

/-- Everything that was accepted a retention period ago is pruned. -/
def prunedAt (now : Time) : StockRuntimeEvent :=
  .transact ⟨now, .pruneStockMovements []
    (now - stockMovementRetentionDays * secondsPerDay)⟩

def StockRuntime.after
    (runtime : StockRuntime)
    (events : List StockRuntimeEvent) : StockRuntime :=
  (stockRuntimeMachine.run runtime events).getD runtime

theorem StockRuntime.run_after
    {events : List StockRuntimeEvent}
    (possible :
      (stockRuntimeMachine.run runtime events).isSome = true) :
    stockRuntimeMachine.run runtime events = some (runtime.after events) := by
  obtain ⟨final, run⟩ := Option.isSome_iff_exists.mp possible
  rw [StockRuntime.after, run]
  rfl

/-- A refill after a finalised count leaves nothing inconsistent. -/
theorem attestationStatus_consistent_refilled :
    ∃ after status,
      physicalStockAttestationStatus
        ((StockRuntime.initial.after (stagedRun ++ [countAccepted])).after
          [.transact ⟨104, .finalizeAttestation⟩, refilledAt 105]).store
        (fun _ _ => false) 106 = .ok (after, status) ∧
      status.inconsistentSlots = [] := by
  have reported : (physicalStockAttestationStatus
      ((StockRuntime.initial.after (stagedRun ++ [countAccepted])).after
        [.transact ⟨104, .finalizeAttestation⟩, refilledAt 105]).store
      (fun _ _ => false) 106).isOk = true := by decide +kernel
  cases reports : physicalStockAttestationStatus
      ((StockRuntime.initial.after (stagedRun ++ [countAccepted])).after
        [.transact ⟨104, .finalizeAttestation⟩, refilledAt 105]).store
      (fun _ _ => false) 106 with
  | error refusal =>
    rw [reports] at reported
    cases reported
  | ok report =>
    refine ⟨report.1, report.2, rfl, ?_⟩
    exact (attestationStatus_consistent (fun _ _ => false)
      ⟨_, StockRuntime.run_after (by decide +kernel)⟩
      (by decide +kernel) (by decide +kernel) (by decide +kernel)
      (StockRuntime.run_after (by decide +kernel))
      (by decide +kernel) (by decide +kernel) reports).1

/-- Pruning the accepted count of an idle slot makes it inconsistent. -/
theorem attestationStatus_inconsistent_afterPruning :
    ¬ ∀ (runtime final : StockRuntime) (first : TimedStockEvent)
      (events : List StockRuntimeEvent) (now : Time) (after : Store)
      (status : PhysicalStockAttestationStatus)
      (idBefore : MovementId → MovementId → Bool),
      stockRuntimeMachine.Reaches .initial runtime →
      runtime.store.makesFact first = true →
      stockRuntimeMachine.RunMeets
        (fun _ event => event.staysOnVersion = true)
        runtime (.transact first :: events) →
      stockRuntimeMachine.run
        runtime (.transact first :: events) = some final →
      final.clock < now →
      physicalStockAttestationStatus final.store idBefore now =
        .ok (after, status) →
      status.inconsistentSlots = [] := by
  intro neverInconsistent
  have reported : ((physicalStockAttestationStatus
      ((StockRuntime.initial.after (stagedRun ++ [countAccepted])).after
        [.transact ⟨104, .finalizeAttestation⟩, prunedAt 2700000]).store
      (fun _ _ => false) 2700001).toOption.map
        fun report => report.2.inconsistentSlots) = some [5] := by
    decide +kernel
  cases reports : physicalStockAttestationStatus
      ((StockRuntime.initial.after (stagedRun ++ [countAccepted])).after
        [.transact ⟨104, .finalizeAttestation⟩, prunedAt 2700000]).store
      (fun _ _ => false) 2700001 with
  | error refusal =>
    rw [reports] at reported
    cases reported
  | ok report =>
    have consistent := neverInconsistent _ _ _ _ _ report.1 report.2 _
      ⟨_, StockRuntime.run_after (by decide +kernel)⟩
      (by decide +kernel) (by decide +kernel)
      (StockRuntime.run_after (by decide +kernel))
      (by decide +kernel) reports
    rw [reports] at reported
    simp only [Except.toOption, Option.map_some, consistent] at reported
    cases reported

end VendingSystem.Daemon
