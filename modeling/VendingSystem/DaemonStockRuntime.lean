import VendingSystem.DaemonLedger

namespace VendingSystem.Daemon

/-!
# Stock keeping on a clock

A submitted count reads the pending attestation before the transaction that
stages it, so the runtime keeps what was read.  It also keeps every movement
ever recorded, which the ledger forgets when it is pruned.
-/

/-- What a submission read of the pending attestation. -/
structure AttestationReading where
  input : PhysicalStockAttestationInput
  carried : List PendingPhysicalStockAttestationSlotGeneration
  deriving DecidableEq

structure RecordedMovement where
  recordedAt : Time
  movement : StockMovement
  deriving DecidableEq

structure StockRuntime where
  store : Store
  clock : Time
  readings : List AttestationReading
  history : List RecordedMovement

def StockRuntime.initial : StockRuntime where
  store := .empty
  clock := 0
  readings := []
  history := []

inductive StockRuntimeEvent where
  | read (input : PhysicalStockAttestationInput)
  | transact (timed : TimedStockEvent)
  deriving DecidableEq

/-- What a submission is about to stage was read before. -/
def StockRuntime.hasRead
    (runtime : StockRuntime) : StockEvent → Bool
  | .stageAttestation input carried _ =>
    runtime.readings.contains { input := input, carried := carried }
  | .applyPlanogram _
  | .recordStockMovement _ _
  | .submitRefillBatch _ _ _
  | .recordAttestation _
  | .finalizeAttestation
  | .uploadAnswered _ _
  | .uploadFailed _ _ _ _
  | .applySnapshot _
  | .journalDispense _ _
  | .commitDispense _ _ _
  | .updateSlotSalesState _ _ _ _
  | .pruneStockMovements _ _
  | .otherActivity _ => true

/-- The movements that a transaction added to the ledger. -/
def Store.recordedSince
    (after before : Store)
    (now : Time) : List RecordedMovement :=
  (after.stockMovements.rows.filter fun movement =>
    !before.stockMovements.rows.contains movement).map
      (RecordedMovement.mk now)

/-- Read the pending attestation for a submission that may then be staged. -/
def StockRuntime.read
    (runtime : StockRuntime)
    (input : PhysicalStockAttestationInput) : StockRuntime :=
  match readPendingAttestation runtime.store input with
  | .ok (.admitted carried) =>
    { runtime with
      readings := { input := input, carried := carried } ::
        runtime.readings }
  | .ok .replayed
  | .error _ => runtime

/-- Run a transaction later than every transaction before it. -/
def StockRuntime.transact
    (runtime : StockRuntime)
    (timed : TimedStockEvent) : Option StockRuntime :=
  if runtime.clock < timed.now ∧ runtime.hasRead timed.event = true then
    let after := runtime.store.perform timed.now timed.event
    some
      { runtime with
        store := after
        clock := timed.now
        history := runtime.history ++
          after.recordedSince runtime.store timed.now }
  else none

def stockRuntimeMachine : Machine StockRuntime StockRuntimeEvent where
  step := fun runtime event =>
    match event with
    | .read input => some (runtime.read input)
    | .transact timed => runtime.transact timed

/-- Nothing that is kept of a pending attestation is later than a time. -/
structure PendingPhysicalStockAttestation.TakenBy
    (pending : PendingPhysicalStockAttestation)
    (clock : Time) : Prop where
  attested : pending.attestedAt ≤ clock
  generations : ∀ generation ∈ pending.slotGenerations,
    generation.occurredAt ≤ clock

/-- Nothing is recorded, read or pending under a time still to come. -/
structure StockRuntime.Timely (runtime : StockRuntime) : Prop where
  ledger : ∀ movement ∈ runtime.store.stockMovements,
    movement.occurredAt ≤ runtime.clock
  pending : ∀ pending ∈ runtime.store.pendingPhysicalStockAttestation,
    pending.TakenBy runtime.clock
  readings : ∀ reading ∈ runtime.readings,
    ∀ generation ∈ reading.carried,
      generation.occurredAt ≤ runtime.clock

variable {pending : PendingPhysicalStockAttestation} {clock now : Time}
  {input : PhysicalStockAttestationInput} {store after before : Store}

theorem PendingPhysicalStockAttestation.TakenBy.countedAt
    (taken : pending.TakenBy clock)
    (slotId : SlotId) :
    pending.countedAt slotId ≤ clock := by
  unfold PendingPhysicalStockAttestation.countedAt
  cases found : pending.generationOf slotId with
  | none => exact taken.attested
  | some generation =>
    exact taken.generations generation (List.mem_of_find?_eq_some found)

/-- A time that has come stays past. -/
theorem PendingPhysicalStockAttestation.TakenBy.later
    (taken : pending.TakenBy clock)
    (passes : clock < now) :
    pending.TakenBy now where
  attested := taken.attested.trans passes.le
  generations := fun generation member =>
    (taken.generations generation member).trans passes.le

theorem carrySlotGeneration_takenBy
    {slot : PhysicalStockAttestationSlotInput}
    {generation : PendingPhysicalStockAttestationSlotGeneration}
    (taken : pending.TakenBy clock)
    (carries :
      carrySlotGeneration store pending input slot = .ok (some generation)) :
    generation.occurredAt ≤ clock := by
  unfold carrySlotGeneration at carries
  simp only at carries
  split at carries
  · cases carries
  split at carries
  · cases carries
  split at carries
  · cases carries
  split at carries
  · cases carries
  · cases carries
    unfold PendingPhysicalStockAttestation.carriedGeneration
    cases found : pending.generationOf slot.slotId with
    | none => exact taken.attested
    | some generation =>
      exact taken.generations generation (List.mem_of_find?_eq_some found)

theorem readPendingAttestation_takenBy
    {carried : List PendingPhysicalStockAttestationSlotGeneration}
    (taken : ∀ pending ∈ store.pendingPhysicalStockAttestation,
      pending.TakenBy clock)
    (reads : readPendingAttestation store input = .ok (.admitted carried)) :
    ∀ generation ∈ carried, generation.occurredAt ≤ clock := by
  unfold readPendingAttestation at reads
  split at reads
  · cases reads
  split at reads
  · cases reads
    exact fun generation member => absurd member List.not_mem_nil
  rename_i pending found
  split at reads
  · cases reads
  split at reads
  · cases reads
  obtain ⟨carriedSlots, computed, same⟩ :=
    Transaction.map_eq_ok_iff.mp reads
  cases same
  intro generation member
  obtain ⟨slotGeneration, ofSlot, same⟩ := List.mem_filterMap.mp member
  obtain ⟨slot, _, carries⟩ :=
    Transaction.mem_of_mapM_eq_ok computed ofSlot
  cases same
  exact carrySlotGeneration_takenBy
    (taken pending (Option.filter_eq_some_iff.mp found).1) carries

/-- Two stores with the same ledger and the same attestations. -/
structure SameRecords (before after : Store) : Prop
    extends SameAttestations before after where
  ledger : after.stockMovements = before.stockMovements

namespace SameRecords

theorem trans
    {first middle last : Store}
    (leading : SameRecords first middle)
    (trailing : SameRecords middle last) :
    SameRecords first last where
  toSameAttestations :=
    leading.toSameAttestations.trans trailing.toSameAttestations
  ledger := trailing.ledger.trans leading.ledger

instance : IsPreorder Store SameRecords where
  refl _ := ⟨⟨rfl, rfl, rfl⟩, rfl⟩
  trans _ _ _ := trans

theorem upsertSaleViewProjection
    {next : Store}
    {version : PlanogramVersion}
    {slotId : SlotId}
    (refreshed :
      Daemon.upsertSaleViewProjection store version slotId now =
        .ok next) :
    SameRecords store next := by
  rw [upsertSaleViewProjection_frame refreshed]
  exact ⟨⟨rfl, rfl, rfl⟩, rfl⟩

theorem projectPlanogramSlot
    (store : Store)
    (version : PlanogramVersion)
    (source : String)
    (slot : MachinePlanogramSlotInput)
    (previousSlots : List PreviousSlotProjection)
    (rebuiltAfterQuarantine : Bool)
    (now : Time) :
    SameRecords store
      (Daemon.projectPlanogramSlot store version source slot previousSlots
        rebuiltAfterQuarantine now) := by
  unfold Daemon.projectPlanogramSlot
  split
  · unfold carryPlanogramSlot
    split
    · exact ⟨⟨rfl, rfl, rfl⟩, rfl⟩
    · split
      · exact ⟨⟨rfl, rfl, rfl⟩, rfl⟩
      · exact ⟨⟨rfl, rfl, rfl⟩, rfl⟩
  · unfold introducePlanogramSlot
    split
    · exact ⟨⟨rfl, rfl, rfl⟩, rfl⟩
    · exact ⟨⟨rfl, rfl, rfl⟩, rfl⟩

/-- A planogram writes neither the ledger nor an attestation. -/
theorem applyPlanogram
    (input : MachinePlanogramInput)
    (now : Time) :
    Transaction.Within SameRecords (Daemon.applyPlanogram input now) := by
  unfold Daemon.applyPlanogram
  apply Transaction.Within.bind (Transaction.Within.require _ _)
  intro _
  apply Transaction.Within.bind (Transaction.Within.require _ _)
  intro _
  apply Transaction.Within.bind Transaction.Within.get
  intro before
  split
  · unfold confirmActivePlanogram
    apply Transaction.Within.bind Transaction.Within.get
    intro _
    apply Transaction.Within.bind (Transaction.Within.require _ _)
    intro _
    apply Transaction.Within.bind (Transaction.Within.require _ _)
    intro _
    apply Transaction.Within.bind
      (Transaction.Within.modify fun _ => ⟨⟨rfl, rfl, rfl⟩, rfl⟩)
    intro _
    refine Transaction.Within.forM (fun slot => ?_) _
    apply Transaction.Within.statement
    exact fun refreshed => upsertSaleViewProjection refreshed
  · unfold activatePlanogram
    apply Transaction.Within.bind Transaction.Within.get
    intro _
    apply Transaction.Within.bind
      (Transaction.Within.modify fun _ => ⟨⟨rfl, rfl, rfl⟩, rfl⟩)
    intro _
    refine Transaction.Within.forM (fun slot => ?_) _
    unfold placePlanogramSlot
    apply Transaction.Within.bind (Transaction.Within.statement ?_)
    · intro _
      apply Transaction.Within.bind
        (Transaction.Within.modify fun store =>
          projectPlanogramSlot store _ _ _ _ _ _)
      intro _
      apply Transaction.Within.statement
      exact fun refreshed => upsertSaleViewProjection refreshed
    · intro store next inserted
      unfold insertPlanogramSlot at inserted
      split at inserted
      · cases inserted
      · cases inserted
        exact ⟨⟨rfl, rfl, rfl⟩, rfl⟩

end SameRecords

/-- A version that was applied keeps its slots. -/
structure KeepsVersions (before after : Store) : Prop where
  versions : ∀ version,
    (before.machinePlanogramVersions.find? version).isSome = true →
      (after.machinePlanogramVersions.find? version).isSome = true
  slots : ∀ version,
    (before.machinePlanogramVersions.find? version).isSome = true →
      ∀ slotId, after.machinePlanogramSlots.find? (version, slotId) =
        before.machinePlanogramSlots.find? (version, slotId)

theorem SamePlanograms.keepsVersions
    (same : SamePlanograms before after) :
    KeepsVersions before after where
  versions := fun version applied => by rwa [same.versions]
  slots := fun version _ slotId => by rw [same.slots]

/-- Applying a planogram leaves the slots of the versions before it. -/
theorem applyPlanogram_keepsVersions
    {trusted : Prop}
    {input : MachinePlanogramInput}
    (sound : ProjectionsSound trusted before)
    (commits : (applyPlanogram input now).Commits before () after) :
    KeepsVersions before after := by
  unfold applyPlanogram at commits
  simp only [Transaction.commits_require_bind,
    Transaction.commits_get_bind] at commits
  obtain ⟨_, _, applied⟩ := commits
  split at applied
  · unfold confirmActivePlanogram at applied
    simp only [Transaction.commits_get_bind,
      Transaction.commits_require_bind,
      Transaction.commits_modify_bind] at applied
    obtain ⟨_, _, refreshes⟩ := applied
    refine Transaction.forM_keeps (fun _ => KeepsVersions before) ?_ ?_
      refreshes
    · intro slot rest store next earlier refreshed
      have touches := TouchesOnly.upsertSaleViewProjection
        (Transaction.commits_statement.mp refreshed)
      refine ⟨fun version applied => ?_, fun version applied slotId => ?_⟩
      · rw [touches.versions]
        exact earlier.versions version applied
      · rw [touches.slots]
        exact earlier.slots version applied slotId
    · refine ⟨fun version applied => ?_, fun _ _ _ => rfl⟩
      rw [Table.find?_modify]
      split
      · rw [Option.isSome_map]
        exact applied
      · exact applied
  · rename_i isNew
    have activated :=
      activatePlanogram_activated (sound.unused isNew) applied
    refine ⟨fun version applied => ?_, fun version applied slotId => ?_⟩
    · rw [activated.versions]
      simp only [activatePlanogramVersion, Table.find?_insertOrIgnore]
      split
      · rfl
      · exact applied
    · refine activated.oldSlots version slotId ?_
      rintro rfl
      rw [isNew] at applied
      cases applied

end VendingSystem.Daemon
