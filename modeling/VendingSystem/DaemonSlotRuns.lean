import VendingSystem.DaemonMachine
import VendingSystem.DaemonSlotActivation

namespace VendingSystem.Daemon

/-!
# The slot projection invariant over runs

Every write and every planogram keeps the projections sound.  The stronger
link between sales state and saleable stock fails once a sales state is
changed alone.
-/

variable {trusted : Prop} {now : Time}

theorem ProjectionsSound.applyDispenseSuccess
    {store next : Store}
    {command : DispenseCommandPayload}
    {preferred : PlanogramVersion × SlotId}
    (sound : ProjectionsSound trusted store)
    (applied :
      applyDispenseSuccessToLocalStock store command preferred now =
        .ok next) :
    ProjectionsSound trusted next := by
  rcases applyDispenseSuccessToLocalStock_sold applied with
    ⟨_, rfl⟩ | ⟨_, slot, projection, _, counted, refreshed⟩
  · exact sound
  · refine sound.projectCount ?_ (Table.find?_of_mem counted.stored)
      counted.active refreshed
    exact .of_same (.of_same ⟨rfl, rfl, rfl, rfl, rfl, rfl⟩) rfl rfl

theorem SlotWrite.keepsSound
    {allows : SlotWriteKind → Prop}
    {records : StockMovement → Prop}
    {before after : Store}
    (write : SlotWrite trusted now allows records before after)
    (sound : ProjectionsSound trusted before) :
    ProjectionsSound trusted after := by
  cases write with
  | quiet same _ => exact sound.of_sameSlots same.toSameSlots
  | pruned _ same _ _ => exact sound.of_sameSlots same
  | movement _ _ slotFound isActive _ applied =>
    exact sound.applyStockMovement slotFound isActive applied
  | attested _ _ _ slotFound isActive within inserted projected =>
    have noted := insertStockMovement_same inserted
    exact sound.projectAttestedSlot
      (.of_same (.of_same noted) noted.rows noted.blockers)
      slotFound isActive within projected
  | snapshot _ isActive checked available projected =>
    exact sound.projectSnapshotSlot isActive checked available projected
  | review isActive blocked =>
    obtain ⟨slot, slotFound⟩ := upsertSaleViewProjection_mapped blocked
    exact sound.blockSlotForReview slotFound isActive blocked
  | blocker applied => exact sound.applySaleSafetyBlocker applied
  | state _ updated => exact sound.updateSlotSalesState updated
  | sold _ _ applied => exact sound.applyDispenseSuccess applied

theorem perform_keepsSound
    {store : Store}
    {event : StockEvent}
    (sound : ProjectionsSound trusted store)
    (onHandOnly : trusted → event.OffersOnHandOnly) :
    ProjectionsSound trusted (store.perform now event) := by
  by_cases isPlanogram : ∃ input, event = .applyPlanogram input
  · obtain ⟨input, rfl⟩ := isPlanogram
    simp only [Store.perform]
    rcases Transaction.execute_cases (applyPlanogram input now) store with
      ⟨_, failed⟩ | ⟨_, _, commits, executed⟩
    · rw [failed]
      exact sound
    · rw [executed]
      exact applyPlanogram_keepsSound sound commits
  · have writes : SlotWrites trusted now (event.writeKinds store)
        (event.recordsMovement store now) store
        (store.perform now event) :=
      perform_writes (fun input same => isPlanogram ⟨input, same⟩) onHandOnly
    exact SlotWrites.keeps (ProjectionsSound trusted)
      SlotWrite.keepsSound writes sound

theorem ProjectionsSound.empty :
    ProjectionsSound trusted Store.empty where
  rows := by
    intro slotId row found
    cases found
  active := by
    intro slot member
    exact absurd member (Table.not_mem_empty slot)
  capacities := by
    intro slot member
    exact absurd member (Table.not_mem_empty slot)
  blockers := by
    intro version slotId isBlocked
    cases isBlocked
  versions := by
    intro slot member
    exact absurd member (Table.not_mem_empty slot)
  activeVersion := by
    intro version isActive
    cases isActive

theorem projectionsSound_run
    {first last : Store}
    {events : List TimedStockEvent}
    (sound : ProjectionsSound trusted first)
    (onHandOnly : trusted → ∀ timed ∈ events,
      timed.event.OffersOnHandOnly)
    (run : stockMachine.run first events = some last) :
    ProjectionsSound trusted last := by
  induction events generalizing first with
  | nil =>
    cases run
    exact sound
  | cons timed rest inductionHypothesis =>
    obtain ⟨next, step, later⟩ := Machine.run_cons_iff.mp run
    cases step
    refine inductionHypothesis (perform_keepsSound sound ?_) ?_ later
    · exact fun trust => onHandOnly trust timed List.mem_cons_self
    · exact fun trust other member =>
        onHandOnly trust other (List.mem_cons_of_mem _ member)

/-- The store after a run of stock transactions. -/
def stockAfter (store : Store) (events : List TimedStockEvent) : Store :=
  events.foldl (fun store timed => store.perform timed.now timed.event)
    store

theorem stockMachine_run
    (store : Store)
    (events : List TimedStockEvent) :
    stockMachine.run store events = some (stockAfter store events) := by
  induction events generalizing store with
  | nil => rfl
  | cons timed rest inductionHypothesis =>
    exact inductionHypothesis (store.perform timed.now timed.event)

end VendingSystem.Daemon
