import VendingSystem.DaemonStockRuntime

namespace VendingSystem.Daemon

/-!
# What an attestation was checked for

An attestation that is pending or stored counts every slot of its planogram
version within the slot's capacity.  It was checked when it was submitted, and
the slots of a version that was applied never change.
-/

/-- The submitted counts cover the slots of an applied version. -/
structure Store.CoveredBy
    (store : Store)
    (version : PlanogramVersion)
    (slots : List PhysicalStockAttestationSlotInput) : Prop where
  applied :
    (store.machinePlanogramVersions.find? version).isSome = true
  checked : checkAttestedSlots [] slots = .ok ()
  counted : ∀ slotId row,
    store.machinePlanogramSlots.find? (version, slotId) = some row →
      ∃ slot, attestedSlotFor slots row = .ok slot

/-- Every attestation in the store covers its version. -/
structure AttestationsCover (store : Store) : Prop where
  pending : ∀ pending ∈ store.pendingPhysicalStockAttestation,
    store.CoveredBy pending.input.planogramVersion pending.input.slots
  stored : ∀ stored ∈ store.physicalStockAttestation,
    store.CoveredBy stored.planogramVersion stored.slots

variable {slots : List PhysicalStockAttestationSlotInput}
  {after before store : Store} {seen : List SlotId}
  {input : PhysicalStockAttestationInput} {now : Time} {row : PlanogramSlot}
  {carried : List PendingPhysicalStockAttestationSlotGeneration}
  {event : StockEvent} {movement : StockMovement} {runtime next : StockRuntime}
  {timed : TimedStockEvent}

theorem Store.CoveredBy.keepsVersions
    {version : PlanogramVersion}
    (covered : before.CoveredBy version slots)
    (keeps : KeepsVersions before after) :
    after.CoveredBy version slots where
  applied := keeps.versions version covered.applied
  checked := covered.checked
  counted := by
    intro slotId row found
    rw [keeps.slots version covered.applied] at found
    exact covered.counted slotId row found

theorem checkAttestedSlots_nonneg
    (checked : checkAttestedSlots seen slots = .ok ())
    {slot : PhysicalStockAttestationSlotInput}
    (member : slot ∈ slots) :
    0 ≤ slot.quantity := by
  induction slots generalizing seen with
  | nil => cases member
  | cons first rest inductionHypothesis =>
    unfold checkAttestedSlots at checked
    split at checked
    · cases checked
    rename_i nonneg
    split at checked
    · cases checked
    rcases List.mem_cons.mp member with rfl | inRest
    · exact not_lt.mp nonneg
    · exact inductionHypothesis checked inRest

theorem checkAttestedSlots_distinct
    (checked : checkAttestedSlots seen slots = .ok ()) :
    (slots.map PhysicalStockAttestationSlotInput.slotId).Nodup ∧
      ∀ slot ∈ slots, slot.slotId ∉ seen := by
  induction slots generalizing seen with
  | nil => exact ⟨List.nodup_nil, fun _ member => absurd member
      List.not_mem_nil⟩
  | cons first rest inductionHypothesis =>
    unfold checkAttestedSlots at checked
    split at checked
    · cases checked
    split at checked
    · cases checked
    rename_i unseen
    obtain ⟨distinct, fresh⟩ := inductionHypothesis checked
    refine ⟨?_, ?_⟩
    · rw [List.map_cons, List.nodup_cons]
      refine ⟨?_, distinct⟩
      intro member
      obtain ⟨other, inRest, same⟩ := List.mem_map.mp member
      exact fresh other inRest (same ▸ List.mem_cons_self)
    · intro slot member
      rcases List.mem_cons.mp member with rfl | inRest
      · exact unseen
      · exact fun inSeen =>
          fresh slot inRest (List.mem_cons_of_mem _ inSeen)

open Transaction

theorem attestSlot_within
    (input : PhysicalStockAttestationInput)
    (now : Time)
    (row : PlanogramSlot) :
    Within SameAttestations (attestSlot input now row) := by
  unfold attestSlot
  apply Within.bind (Within.ofExcept _)
  intro slot
  apply Within.bind (Within.statement ?_)
  · intro _
    apply Within.statement
    intro before after projected
    refine .upsertSaleViewProjection ?_ projected
    exact ⟨rfl, rfl, rfl⟩
  · intro before after inserted
    obtain ⟨_, rfl⟩ := insertStockMovement_ok inserted
    exact ⟨rfl, rfl, rfl⟩

theorem attestSlot_counted
    (commits : (attestSlot input now row).Commits before () after) :
    ∃ slot, attestedSlotFor input.slots row = .ok slot := by
  unfold attestSlot at commits
  simp only [commits_ofExcept_bind] at commits
  obtain ⟨slot, fits, _⟩ := commits
  exact ⟨slot, fits⟩

/-- What an attestation leaves that becomes a stock fact at once. -/
theorem recordPhysicalStockAttestation_stores
    (commits :
      (recordPhysicalStockAttestation input now).Commits
        before () after) :
    before.activePlanogramVersion = some input.planogramVersion ∧
      checkAttestedSlots [] input.slots = .ok () ∧
      (∀ row ∈ before.planogramSlots input.planogramVersion,
        ∃ slot, attestedSlotFor input.slots row = .ok slot) ∧
      after.physicalStockAttestation = some
        { attestationId := input.attestationId
          planogramVersion := input.planogramVersion
          operatorId := input.operatorId
          attestedAt := now
          slots := input.slots } ∧
      after.pendingPhysicalStockAttestation =
        before.pendingPhysicalStockAttestation := by
  unfold recordPhysicalStockAttestation at commits
  simp only [commits_require_bind] at commits
  obtain ⟨_, admits⟩ := commits
  obtain ⟨rows, middle, admitted, attests⟩ :=
    commits_bind.mp admits
  obtain ⟨rfl, isActive, rfl, _, checked⟩ :=
    admitAttestation_commits admitted
  obtain ⟨_, recorded, attested, stored⟩ :=
    commits_bind.mp attests
  rw [commits_modify] at stored
  subst stored
  refine ⟨isActive, checked, ?_, rfl, ?_⟩
  · -- Every row is counted in its round of the loop.
    have rounds := forM_keeps
      (fun remaining _ =>
        ∀ row ∈ middle.planogramSlots input.planogramVersion,
          row ∈ remaining ∨
            ∃ slot, attestedSlotFor input.slots row = .ok slot)
      (fun {row rest store next} earlier round other member => by
        rcases earlier other member with inRemaining | counted
        · rcases List.mem_cons.mp inRemaining with rfl | inRest
          · exact Or.inr (attestSlot_counted round)
          · exact Or.inl inRest
        · exact Or.inr counted)
      (fun row member => Or.inl member) attested
    intro row member
    exact (rounds row member).resolve_left List.not_mem_nil
  · exact (Within.forM (attestSlot_within input now) _
      attested).pending

theorem stageSlot_ok
    {generation : PendingPhysicalStockAttestationSlotGeneration}
    (commits :
      (stageSlot input carried now row).Commits before generation after) :
    (∃ slot, attestedSlotFor input.slots row = .ok slot) ∧
      (generation ∈ carried ∨ generation.occurredAt = now) := by
  unfold stageSlot at commits
  simp only [commits_ofExcept_bind, commits_get_bind] at commits
  obtain ⟨slot, fits, staged⟩ := commits
  refine ⟨⟨slot, fits⟩, ?_⟩
  split at staged
  · rename_i kept found
    obtain ⟨rfl, _⟩ := commits_pure.mp staged
    exact Or.inl (List.mem_of_find?_eq_some found)
  · simp only [commits_require_bind, commits_modify_bind, commits_pure] at staged
    obtain ⟨_, rfl, _⟩ := staged
    exact Or.inr rfl

/-- What a staged attestation has been checked for. -/
structure StagedNow
    (input : PhysicalStockAttestationInput)
    (carried : List PendingPhysicalStockAttestationSlotGeneration)
    (now : Time)
    (before after : Store) : Prop where
  isActive : before.activePlanogramVersion = some input.planogramVersion
  checked : checkAttestedSlots [] input.slots = .ok ()
  counted : ∀ row ∈ before.planogramSlots input.planogramVersion,
    ∃ slot, attestedSlotFor input.slots row = .ok slot
  stored : after.physicalStockAttestation = before.physicalStockAttestation
  pending : ∃ pending, after.pendingPhysicalStockAttestation =
      some pending ∧
    pending.input = input ∧ pending.attestedAt = now ∧
    ∀ generation ∈ pending.slotGenerations,
      generation ∈ carried ∨ generation.occurredAt = now

theorem stageSlot_sameAttestations
    (input : PhysicalStockAttestationInput)
    (carried : List PendingPhysicalStockAttestationSlotGeneration)
    (now : Time)
    (row : PlanogramSlot) :
    Within SameAttestations
      (stageSlot input carried now row) := by
  apply Within.bind (Within.ofExcept _)
  intro slot
  apply Within.bind Within.get
  intro store
  split
  · exact Within.pure _
  · apply Within.bind (Within.require _ _)
    intro _
    apply Within.bind (Within.modify fun _ => ⟨rfl, rfl, rfl⟩)
    exact fun _ => Within.pure _

theorem stageAdmittedAttestation_stages
    (commits :
      (stageAdmittedAttestation input carried now).Commits
        before () after) :
    StagedNow input carried now before after := by
  unfold stageAdmittedAttestation at commits
  obtain ⟨rows, middle, admitted, later⟩ :=
    commits_bind.mp commits
  obtain ⟨rfl, isActive, rfl, _, checked⟩ :=
    admitAttestation_commits admitted
  obtain ⟨generations, staged, stages, stored⟩ :=
    commits_bind.mp later
  rw [commits_modify] at stored
  subst stored
  obtain ⟨rowRounds, generationRounds⟩ := mapM_commits stages
  have same := Within.mapM
    (stageSlot_sameAttestations input carried now) _ stages
  refine ⟨isActive, checked, ?_, same.stored, ?_⟩
  · intro row member
    obtain ⟨generation, first, last, round⟩ := rowRounds row member
    exact (stageSlot_ok round).1
  · refine ⟨_, rfl, rfl, rfl, fun generation member => ?_⟩
    obtain ⟨row, _, first, last, round⟩ :=
      generationRounds generation member
    exact (stageSlot_ok round).2

/-- What a finalisation leaves. -/
theorem finalizeSlots_stores
    {pending : PendingPhysicalStockAttestation}
    (commits : (finalizeSlots pending now).Commits before () after) :
    after.physicalStockAttestation = some
        { attestationId := pending.input.attestationId
          planogramVersion := pending.input.planogramVersion
          operatorId := pending.input.operatorId
          attestedAt := pending.attestedAt
          slots := pending.input.slots } ∧
      after.pendingPhysicalStockAttestation = none ∧
      after.failedPhysicalStockAttestation = none := by
  unfold finalizeSlots at commits
  obtain ⟨_, finalized, _, stored⟩ := commits_bind.mp commits
  rw [commits_modify] at stored
  subst stored
  exact ⟨rfl, rfl, rfl⟩

theorem SlotWrites.sameAttestations
    {trusted : Prop}
    {allows : SlotWriteKind → Prop}
    {records : StockMovement → Prop}
    (writes : SlotWrites trusted now allows records before after)
    (noSubmission : ¬ allows .submission) :
    SameAttestations before after :=
  SlotWrites.keeps (SameAttestations before)
    (fun write earlier =>
      earlier.trans (write.sameAttestations noSubmission))
    writes ⟨rfl, rfl, rfl⟩

theorem stagePhysicalStockAttestation_cases
    {identity : Option StockMaintenanceTaskIdentity}
    {answer : Except StoreError Unit}
    (commits :
      (stagePhysicalStockAttestation input carried identity now).Commits
        before answer after) :
    SameAttestations before after ∨
      StagedNow input carried now before after := by
  unfold stagePhysicalStockAttestation at commits
  simp only [commits_get_bind] at commits
  split at commits
  · unfold stageCurrentAttestation at commits
    obtain ⟨_, middle, staged, answered⟩ :=
      commits_bind.mp commits
    obtain ⟨_, rfl⟩ := commits_pure.mp answered
    exact Or.inr (stageAdmittedAttestation_stages staged)
  · have writes : SlotWrites False now (fun _ => False) (fun _ => False)
        before after := by
      refine refuseStaleTask_writes (fun difference member => ?_) commits
      unfold Store.taskDifferences at member
      split at member
      · exact stockMaintenanceIdentityDifferences_version member
      · cases member
    exact Or.inl (SlotWrites.sameAttestations writes id)

theorem perform_attestations
    (store : Store)
    (now : Time)
    (event : StockEvent) :
    SameAttestations store (store.perform now event) ∨
      (∃ input, event = .recordAttestation input ∧
        (recordPhysicalStockAttestation input now).Commits
          store () (store.perform now event)) ∨
      (∃ input carried identity,
        event = .stageAttestation input carried identity ∧
        StagedNow input carried now store (store.perform now event)) ∨
      ∃ pending, event = .finalizeAttestation ∧
        store.pendingPhysicalStockAttestation = some pending ∧
        store.activePlanogramVersion =
          some pending.input.planogramVersion ∧
        (finalizeSlots pending now).Commits
          store () (store.perform now event) := by
  have chain :
      (∀ input, event ≠ .applyPlanogram input) →
      ¬ event.writeKinds store .submission →
      SameAttestations store (store.perform now event) := by
    intro noPlanogram noSubmission
    exact SlotWrites.sameAttestations
      (perform_writes noPlanogram (fun trust : False => trust.elim))
      noSubmission
  cases event with
  | applyPlanogram input =>
    refine Or.inl ?_
    simp only [Store.perform]
    rcases execute_cases (applyPlanogram input now) store
      with ⟨_, failed⟩ | ⟨_, _, commits, executed⟩
    · rw [failed]
      exact ⟨rfl, rfl, rfl⟩
    · rw [executed]
      exact (SameRecords.applyPlanogram input now
        commits).toSameAttestations
  | recordAttestation input =>
    simp only [Store.perform]
    rcases execute_cases
        (recordPhysicalStockAttestation input now) store with
      ⟨_, failed⟩ | ⟨_, _, commits, executed⟩
    · rw [failed]
      exact Or.inl ⟨rfl, rfl, rfl⟩
    · rw [executed]
      exact Or.inr (Or.inl ⟨input, rfl, commits⟩)
  | stageAttestation input carried identity =>
    simp only [Store.perform]
    rcases execute_cases
        (stagePhysicalStockAttestation input carried identity now)
        store with ⟨_, failed⟩ | ⟨_, _, commits, executed⟩
    · rw [failed]
      exact Or.inl ⟨rfl, rfl, rfl⟩
    · rw [executed]
      rcases stagePhysicalStockAttestation_cases commits with
        same | staged
      · exact Or.inl same
      · exact Or.inr (Or.inr (Or.inl
          ⟨input, carried, identity, rfl, staged⟩))
  | finalizeAttestation =>
    simp only [Store.perform]
    split
    · rename_i finalized
      rcases finalizePending_cases finalized with
        ⟨_, rfl⟩ | ⟨_, pending, isPending, _, isActive, commits⟩
      · exact Or.inl ⟨rfl, rfl, rfl⟩
      · exact Or.inr (Or.inr (Or.inr
          ⟨pending, trivial, isPending, isActive, commits⟩))
    · exact Or.inl ⟨rfl, rfl, rfl⟩
  | _ =>
    refine Or.inl (chain (by simp) ?_)
    simp [StockEvent.writeKinds, EntersOneOf, SnapshotsOneOf]

theorem perform_keepsVersions
    (sound : ProjectionsSound False store)
    (now : Time)
    (event : StockEvent) :
    KeepsVersions store (store.perform now event) := by
  by_cases isPlanogram : ∃ input, event = .applyPlanogram input
  · obtain ⟨input, rfl⟩ := isPlanogram
    simp only [Store.perform]
    rcases execute_cases (applyPlanogram input now) store with
      ⟨_, failed⟩ | ⟨_, _, commits, executed⟩
    · rw [failed]
      exact ⟨fun _ => id, fun _ _ _ => rfl⟩
    · rw [executed]
      exact applyPlanogram_keepsVersions sound commits
  · have writes : SlotWrites False now (event.writeKinds store)
        (event.recordsMovement store now) store
        (store.perform now event) :=
      perform_writes (fun input same => isPlanogram ⟨input, same⟩)
        (fun trust => trust.elim)
    exact (SlotWrites.samePlanograms writes).keepsVersions

theorem perform_attestationsCover
    (sound : ProjectionsSound False store)
    (cover : AttestationsCover store) :
    AttestationsCover (store.perform now event) := by
  have keeps := perform_keepsVersions sound now event
  have ofActive : ∀ {input : PhysicalStockAttestationInput},
      store.activePlanogramVersion = some input.planogramVersion →
      checkAttestedSlots [] input.slots = .ok () →
      (∀ row ∈ store.planogramSlots input.planogramVersion,
        ∃ slot, attestedSlotFor input.slots row = .ok slot) →
      (store.perform now event).CoveredBy
        input.planogramVersion input.slots := by
    intro input isActive checked counted
    refine Store.CoveredBy.keepsVersions
      ⟨sound.activeVersion _ isActive, checked, ?_⟩ keeps
    exact fun slotId row found => counted row (mem_planogramSlots found)
  rcases perform_attestations store now event with
    same | ⟨input, rfl, commits⟩ | ⟨input, carried, identity, rfl, staged⟩ |
      ⟨pending, rfl, isPending, _, commits⟩
  · refine ⟨?_, ?_⟩
    · rw [same.pending]
      exact fun pending isPending =>
        (cover.pending pending isPending).keepsVersions keeps
    · rw [same.stored]
      exact fun stored isStored =>
        (cover.stored stored isStored).keepsVersions keeps
  · obtain ⟨isActive, checked, counted, stored, pending⟩ :=
      recordPhysicalStockAttestation_stores commits
    refine ⟨?_, ?_⟩
    · rw [pending]
      exact fun pending isPending =>
        (cover.pending pending isPending).keepsVersions keeps
    · rw [stored]
      rintro _ ⟨⟩
      exact ofActive isActive checked counted
  · obtain ⟨pending, isPending, rfl, _⟩ := staged.pending
    refine ⟨?_, ?_⟩
    · rw [isPending]
      rintro _ ⟨⟩
      exact ofActive staged.isActive staged.checked staged.counted
    · rw [staged.stored]
      exact fun stored isStored =>
        (cover.stored stored isStored).keepsVersions keeps
  · obtain ⟨stored, noPending, _⟩ := finalizeSlots_stores commits
    refine ⟨?_, ?_⟩
    · rw [noPending]
      exact fun _ impossible => by cases impossible
    · rw [stored]
      rintro _ ⟨⟩
      exact (cover.pending pending isPending).keepsVersions keeps

/-- The ledger after a transaction holds old movements and recorded ones. -/
theorem perform_ledger_mem
    (member : movement ∈ (store.perform now event).stockMovements) :
    movement ∈ store.stockMovements ∨
      (event.recordsMovement store now movement ∧
        (event.writeKinds store (.attestation movement.slotId) ∨
          movement.occurredAt = now)) := by
  by_cases isPlanogram : ∃ input, event = .applyPlanogram input
  · obtain ⟨input, rfl⟩ := isPlanogram
    simp only [Store.perform] at member
    rcases execute_cases (applyPlanogram input now) store with
      ⟨_, failed⟩ | ⟨_, _, commits, executed⟩
    · rw [failed] at member
      exact Or.inl member
    · rw [executed] at member
      have same := SameRecords.applyPlanogram input now commits
      exact Or.inl (same.ledger ▸ member)
  · have writes : SlotWrites False now (event.writeKinds store)
        (event.recordsMovement store now) store
        (store.perform now event) :=
      perform_writes (fun input same => isPlanogram ⟨input, same⟩)
        (fun trust => trust.elim)
    refine SlotWrites.keeps
      (fun after => ∀ movement ∈ after.stockMovements,
        movement ∈ store.stockMovements ∨
          (event.recordsMovement store now movement ∧
            (event.writeKinds store (.attestation movement.slotId) ∨
              movement.occurredAt = now)))
      (fun write earlier movement recorded => ?_) writes
      (fun _ => Or.inl) movement member
    rcases write.ledger_mem recorded with old | fresh
    · exact earlier movement old
    · exact Or.inr fresh

/-- A count is recorded under a time that has come. -/
theorem recordsMovement_occurredBy
    {clock : Time}
    (taken : ∀ pending ∈ store.pendingPhysicalStockAttestation,
      pending.TakenBy clock)
    (passes : clock < now)
    (records : event.recordsMovement store now movement)
    (counts : event.writeKinds store (.attestation movement.slotId)) :
    movement.occurredAt ≤ now := by
  cases event with
  | recordAttestation input =>
    obtain ⟨slot, _, _, rfl⟩ := records
    exact le_refl now
  | finalizeAttestation =>
    obtain ⟨pending, isPending, slot, _, _, rfl⟩ := records
    exact ((taken pending isPending).countedAt slot.slotId).trans passes.le
  | recordStockMovement input upload => cases counts
  | submitRefillBatch input operatorId identity =>
    obtain ⟨_, _, impossible⟩ := counts
    cases impossible
  | applySnapshot snapshot =>
    obtain ⟨_, _, impossible⟩ := counts
    cases impossible
  | stageAttestation input carried identity
  | commitDispense command result preferred
  | updateSlotSalesState version slotId state source
  | pruneStockMovements taskIds cutoff => cases counts
  | applyPlanogram input => exact counts.elim
  | uploadAnswered event response => exact counts.elim
  | uploadFailed eventId movementId error nextAttemptAt =>
    exact counts.elim
  | journalDispense command result => exact counts.elim
  | otherActivity after => exact counts.elim

/-- What every run keeps. -/
structure StockRuntime.Sound (runtime : StockRuntime) : Prop
    extends runtime.Timely where
  projections : ProjectionsSound False runtime.store
  cover : AttestationsCover runtime.store

theorem StockRuntime.Sound.initial : StockRuntime.initial.Sound where
  ledger := fun movement member =>
    absurd member (Table.not_mem_empty movement)
  pending := by
    intro pending isPending
    cases isPending
  readings := by
    intro reading member
    cases member
  projections := .empty
  cover := by
    refine ⟨?_, ?_⟩
    · intro pending isPending
      cases isPending
    · intro stored isStored
      cases isStored

theorem StockRuntime.Sound.read
    (sound : runtime.Sound)
    (input : PhysicalStockAttestationInput) :
    (runtime.read input).Sound := by
  unfold StockRuntime.read
  split
  · rename_i carried reads
    refine ⟨⟨sound.ledger, sound.pending, ?_⟩, sound.projections,
      sound.cover⟩
    intro reading member
    rcases List.mem_cons.mp member with rfl | earlier
    · exact readPendingAttestation_takenBy sound.pending reads
    · exact sound.readings reading earlier
  · exact sound
  · exact sound

/-- What a pending attestation remembers was taken by the time of a run. -/
theorem StockRuntime.Sound.transact_pending
    (sound : runtime.Sound)
    (passes : runtime.clock < timed.now)
    (hasRead : runtime.hasRead timed.event = true) :
    ∀ pending ∈
      (runtime.store.perform timed.now
        timed.event).pendingPhysicalStockAttestation,
      pending.TakenBy timed.now := by
  obtain ⟨now, event⟩ := timed
  have earlier : ∀ pending ∈ runtime.store.pendingPhysicalStockAttestation,
      pending.TakenBy now := fun pending isPending =>
    (sound.pending pending isPending).later passes
  rcases perform_attestations runtime.store now event with
    same | ⟨input, rfl, commits⟩ | ⟨input, carried, identity, rfl, staged⟩ |
      ⟨pending, rfl, _, _, commits⟩
  · rw [same.pending]
    exact earlier
  · rw [(recordPhysicalStockAttestation_stores commits).2.2.2.2]
    exact earlier
  · obtain ⟨pending, isPending, _, attestedAt, taken⟩ := staged.pending
    rw [isPending]
    rintro _ ⟨⟩
    refine ⟨attestedAt.le, fun generation member => ?_⟩
    rcases taken generation member with wasCarried | takenNow
    · have read : AttestationReading.mk input carried ∈
          runtime.readings := by
        simpa [StockRuntime.hasRead] using hasRead
      exact (sound.readings _ read generation wasCarried).trans passes.le
    · exact takenNow.le
  · rw [(finalizeSlots_stores commits).2.1]
    exact fun _ impossible => by cases impossible

theorem StockRuntime.Sound.transact
    (sound : runtime.Sound)
    (transacts : runtime.transact timed = some next) :
    next.Sound := by
  unfold StockRuntime.transact at transacts
  split at transacts
  · rename_i admitted
    obtain ⟨passes, hasRead⟩ := admitted
    cases transacts
    refine ⟨⟨?_, sound.transact_pending passes hasRead, ?_⟩,
      perform_keepsSound sound.projections (fun trust => trust.elim),
      perform_attestationsCover sound.projections sound.cover⟩
    · intro movement member
      rcases perform_ledger_mem member with
        old | ⟨records, counts | entered⟩
      · exact (sound.ledger movement old).trans passes.le
      · exact recordsMovement_occurredBy sound.pending passes records counts
      · exact entered.le
    · exact fun reading member generation carried =>
        (sound.readings reading member generation carried).trans passes.le
  · cases transacts

theorem StockRuntime.Sound.step
    {event : StockRuntimeEvent}
    (sound : runtime.Sound)
    (step : stockRuntimeMachine.step runtime event = some next) :
    next.Sound := by
  cases event with
  | read input =>
    cases step
    exact sound.read input
  | transact timed => exact sound.transact step

theorem stockRuntime_sound
    (reached : stockRuntimeMachine.Reaches .initial runtime) :
    runtime.Sound :=
  Machine.Reaches.keeps StockRuntime.Sound.step .initial reached

end VendingSystem.Daemon
