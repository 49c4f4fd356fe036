import VendingSystem.PlatformOrderWrites
import VendingSystem.PlatformPaymentCodeWorker

namespace VendingSystem.Platform

/-!
# The steps of the payment-code worker

Every transaction of the worker, and of what writes attempts next to it, taken
apart once: fences grow, an attempt that waits for its submission was waiting
before, and a task that follows carries the same claim or a new one.
-/

open Transaction

variable {before after : Db} {input : PaymentCodeInput}
  {answer : List PaymentCodeTask} {task : PaymentCodeTask}

/-- The attempt waits for its submission. -/
def PaymentCodeAttempt.isWaiting (attempt : PaymentCodeAttempt) : Bool :=
  attempt.status = .created && attempt.isActive

/-- What the worker can find out about an attempt. -/
def decidedAttemptStatuses : List PaymentCodeAttemptStatus :=
  [.succeeded, .failed, .reversed]

namespace PaymentCodeAttempt

variable {attempt : PaymentCodeAttempt}

def IsDecided (attempt : PaymentCodeAttempt) : Prop :=
  attempt.status ∈ decidedAttemptStatuses

/-- Once it is decided, the attempt is closed and nobody claims it. -/
def Settled (attempt : PaymentCodeAttempt) : Prop :=
  attempt.IsDecided →
    attempt.isActive = false ∧ attempt.recoveryLease.ownerToken = none

theorem Settled.undecided_of_active
    (settled : attempt.Settled)
    (active : attempt.isActive = true) : ¬ attempt.IsDecided :=
  fun decided => by cases (settled decided).1.symm.trans active

theorem Settled.undecided_of_held
    {claim : LeaseClaim}
    {now : Time}
    (settled : attempt.Settled)
    (held :
      attempt.recoveryLease.heldBy claim.ownerToken claim.fence now = true) :
    ¬ attempt.IsDecided :=
  fun decided => by simp [Lease.heldBy, (settled decided).2] at held

theorem undecided_of_created (created : attempt.status = .created) :
    ¬ attempt.IsDecided := by
  simp [IsDecided, decidedAttemptStatuses, created]

end PaymentCodeAttempt

def Db.AttemptsSettled (db : Db) : Prop :=
  ∀ attempt ∈ db.paymentCodeAttempts, attempt.Settled

/-- What every write of an attempt keeps. -/
structure AttemptKept (old new : PaymentCodeAttempt) : Prop where
  fence : old.recoveryLease.fence ≤ new.recoveryLease.fence
  waited : new.isWaiting = true → old.isWaiting = true
  settled : old.Settled → new.Settled
  decided : old.Settled → old.IsDecided → new = old

/-- Every attempt stays, and is kept. -/
structure AttemptsKept (before after : Db) : Prop where
  row : ∀ {id old}, before.paymentCodeAttempts.find? id = some old →
    ∃ new, after.paymentCodeAttempts.find? id = some new ∧ AttemptKept old new
  settled : before.AttemptsSettled → after.AttemptsSettled

namespace AttemptKept

variable {old new : PaymentCodeAttempt}

theorem refl (attempt : PaymentCodeAttempt) : AttemptKept attempt attempt :=
  ⟨Nat.le_refl _, id, id, fun _ _ => rfl⟩

/-- A write that finds only undecided attempts. -/
theorem of_undecided
    (fence : old.recoveryLease.fence ≤ new.recoveryLease.fence)
    (waited : new.isWaiting = true → old.isWaiting = true)
    (undecided : old.Settled → ¬ old.IsDecided)
    (settles : ¬ old.IsDecided → new.Settled) : AttemptKept old new where
  fence := fence
  waited := waited
  settled settled := settles (undecided settled)
  decided settled isDecided := absurd isDecided (undecided settled)

theorem of_same_status
    (fence : old.recoveryLease.fence ≤ new.recoveryLease.fence)
    (status : new.status = old.status)
    (isActive : new.isActive = old.isActive)
    (undecided : old.Settled → ¬ old.IsDecided) : AttemptKept old new :=
  of_undecided fence
    (by simp [PaymentCodeAttempt.isWaiting, status, isActive]) undecided
    (fun isOpen decided => by
      rw [PaymentCodeAttempt.IsDecided, status] at decided
      exact absurd decided isOpen)

/-- A write that leaves an attempt to its worker. -/
theorem of_open
    (status : PaymentCodeAttemptStatus)
    (fence : old.recoveryLease.fence ≤ new.recoveryLease.fence)
    (undecided : old.Settled → ¬ old.IsDecided)
    (isStatus : new.status = status)
    (submitted : status ≠ .created)
    (isOpen : status ∉ decidedAttemptStatuses) : AttemptKept old new :=
  of_undecided fence
    (by simp [PaymentCodeAttempt.isWaiting, isStatus, submitted]) undecided
    (fun _ decided => by
      rw [PaymentCodeAttempt.IsDecided, isStatus] at decided
      exact absurd decided isOpen)

/-- A write that closes an attempt and drops its claim. -/
theorem of_closed
    (fence : old.recoveryLease.fence ≤ new.recoveryLease.fence)
    (undecided : old.Settled → ¬ old.IsDecided)
    (isActive : new.isActive = false)
    (unclaimed : new.recoveryLease.ownerToken = none) : AttemptKept old new :=
  of_undecided fence
    (by simp [PaymentCodeAttempt.isWaiting, isActive]) undecided
    (fun _ _ => ⟨isActive, unclaimed⟩)

end AttemptKept

namespace AttemptsKept

theorem of_same
    (same : after.paymentCodeAttempts = before.paymentCodeAttempts) :
    AttemptsKept before after where
  row found := ⟨_, same ▸ found, .refl _⟩
  settled settled := by
    unfold Db.AttemptsSettled
    rw [same]
    exact settled

theorem of_pure
    {Answer : Type}
    {value given : Answer}
    (committed :
      Commits (pure value : DrizzleTransaction Answer) before given after) :
    AttemptsKept before after :=
  of_same (congrArg _ (commits_pure.mp committed).2)

instance : IsPreorder Db AttemptsKept where
  refl _ := of_same rfl
  trans first middle last leading trailing := by
    refine ⟨fun found => ?_, trailing.settled ∘ leading.settled⟩
    obtain ⟨between, isBetween, kept⟩ := leading.row found
    obtain ⟨new, isNew, keptOn⟩ := trailing.row isBetween
    refine ⟨new, isNew, kept.fence.trans keptOn.fence,
      kept.waited ∘ keptOn.waited, keptOn.settled ∘ kept.settled,
      fun settled decided => ?_⟩
    have same := kept.decided settled decided
    subst same
    exact keptOn.decided settled decided

theorem elsewhere
    {change : Db → Db}
    (same : ∀ db,
      (change db).paymentCodeAttempts = db.paymentCodeAttempts := by
        exact fun _ => rfl) :
    Within AttemptsKept (modify change : DrizzleTransaction PUnit) := by
  apply Within.modify
  exact fun db => of_same (same db)

theorem updateWhere
    {test : PaymentCodeAttempt → Bool}
    {change : PaymentCodeAttempt → PaymentCodeAttempt}
    (written : ∀ keepsId, after.paymentCodeAttempts =
      before.paymentCodeAttempts.updateWhere test change keepsId)
    (keepsId : ∀ attempt, (change attempt).id = attempt.id)
    (kept : ∀ attempt ∈ before.paymentCodeAttempts, test attempt = true →
      AttemptKept attempt (change attempt)) :
    AttemptsKept before after where
  row {id old} found := by
    rw [written keepsId, Table.find?_updateWhere, found]
    refine ⟨_, rfl, ?_⟩
    dsimp only
    split
    · next tested => exact kept old (Table.mem_of_find? found) tested
    · exact .refl old
  settled settled := by
    intro attempt stored
    rw [written keepsId] at stored
    obtain ⟨old, oldStored, rfl⟩ := Table.mem_updateWhere.mp stored
    split
    · next tested =>
      exact (kept old oldStored tested).settled (settled old oldStored)
    · exact settled old oldStored

theorem updateAttemptWhere
    {attemptId : Nat}
    {qualifies : Db → PaymentCodeAttempt → Bool}
    {status : PaymentCodeAttempt → PaymentCodeAttemptStatus}
    {isActive : PaymentCodeAttempt → Bool}
    {recoveryLease : Lease → Lease}
    {recoveryNextAt : PaymentCodeAttempt → Option Time}
    (kept : ∀ db attempt, qualifies db attempt = true →
      AttemptKept attempt
        { attempt with
          status := status attempt
          isActive := isActive attempt
          recoveryLease := recoveryLease attempt.recoveryLease
          recoveryNextAt := recoveryNextAt attempt }) :
    Within AttemptsKept
      (updateAttemptWhere attemptId qualifies status isActive recoveryLease
        recoveryNextAt) := by
  apply Within.modify
  intro db
  refine updateWhere (fun _ => rfl) (fun _ => rfl) fun attempt _ tested => kept db attempt ?_
  exact ((Bool.and_eq_true _ _).mp tested).2

section Statements

variable {attemptId : Nat} {claim : LeaseClaim} {now : Time}

theorem renewRecoveryClaim :
    Within AttemptsKept (renewRecoveryClaim attemptId claim now) :=
  updateAttemptWhere fun _ _ held =>
    .of_same_status (Nat.le_refl _) rfl rfl (·.undecided_of_held held)

theorem beginReversal :
    Within AttemptsKept (beginReversal attemptId claim now) := by
  refine updateAttemptWhere fun _ _ admitted => ?_
  simp only [Bool.and_eq_true] at admitted
  exact .of_open .reversing (Nat.le_refl _)
    (·.undecided_of_active admitted.1.1) rfl (by decide) (by decide)

theorem releaseRecoveryClaim
    {status : PaymentCodeAttemptStatus}
    {nextRecoveryAt : Option Time}
    (submitted : status ≠ .created) :
    Within AttemptsKept
      (releaseRecoveryClaim attemptId claim status nextRecoveryAt now) := by
  refine updateAttemptWhere fun _ attempt held => ?_
  by_cases decided : status ∈ decidedAttemptStatuses
  · refine .of_closed (Nat.le_refl _) (·.undecided_of_held held) ?_ rfl
    simp [decidedAttemptStatuses] at decided
    simp [terminalPaymentCodeAttemptStatuses]
    tauto
  · exact .of_open status (Nat.le_refl _) (·.undecided_of_held held) rfl
      submitted decided

theorem failCreatedAttempt :
    Within AttemptsKept (failCreatedAttempt attemptId) :=
  updateAttemptWhere fun _ attempt created =>
    .of_closed (Nat.le_refl _)
      (fun _ => attempt.undecided_of_created (of_decide_eq_true created)) rfl
      rfl

theorem requestRecoveryAction (action : ManualAction) :
    Within AttemptsKept
      (requestRecoveryAction attemptId action.status now) := by
  refine updateAttemptWhere fun _ attempt admitted => ?_
  simp only [Bool.and_eq_true] at admitted
  refine .of_open action.status (Nat.le_refl _) (fun _ decided => ?_) rfl ?_
    ?_
  · exact of_decide_eq_true admitted.1
      (List.mem_append_left
        ([.canceled] : List PaymentCodeAttemptStatus) decided)
  · cases action <;> decide
  · cases action <;> decide

theorem parks {reason : String} {eventName : PaymentEventName} :
    Within AttemptsKept
      (markPaymentCodeAttemptManualHandling attemptId claim reason eventName
        now) := by
  intro before after _ committed
  rw [markPaymentCodeAttemptManualHandling, commits_get_bind] at committed
  split at committed
  · exact of_pure committed
  · next row projected =>
    simp only [Db.attemptForManualHandling, Option.bind_eq_bind,
      Option.bind_eq_some_iff, Option.ite_none_right_eq_some,
      Bool.and_eq_true, Option.pure_def, Option.some.injEq,
      Prod.mk.injEq] at projected
    obtain ⟨attempt, found, _, _, ⟨held, _⟩, rfl, _⟩ := projected
    simp only [commits_modify_bind, Platform.updateAttemptWhere,
      commits_modify] at committed
    subst committed
    refine updateWhere (fun _ => rfl) (fun _ => rfl) fun other stored named => ?_
    have same : other = attempt := Table.eq_of_key_eq stored
      (Table.mem_of_find? found) (by simpa using named)
    subst same
    exact .of_open .manualHandling (Nat.le_refl _)
      (·.undecided_of_held held) rfl (by decide) (by decide)

theorem wakeActiveAttempts {paymentId : PaymentId} :
    Within AttemptsKept (wakeActiveAttempts paymentId now) := by
  apply Within.modify
  intro db
  refine updateWhere (fun _ => rfl) (fun _ => rfl) fun attempt _ woken => ?_
  simp only [Bool.and_eq_true] at woken
  exact .of_same_status (Nat.le_refl _) rfl rfl
    (·.undecided_of_active woken.2)

theorem createOrReplayAttempt {orderId : OrderId} {idempotencyKey : Nat} :
    Within AttemptsKept
      (createOrReplayAttempt orderId idempotencyKey now) := by
  intro before after _ committed
  simp only [Platform.createOrReplayAttempt, commits_get_bind,
    commits_requireSome_bind, commits_require_bind] at committed
  obtain ⟨row, _, _, committed⟩ := committed
  split at committed
  · obtain ⟨_, rfl⟩ := commits_pure.mp committed
    exact of_same rfl
  · simp only [commits_require_bind, commits_modify_bind,
      commits_pure] at committed
    obtain ⟨_, _, _, _, _, rfl⟩ := committed
    refine ⟨fun {id old} found => ⟨old, ?_, .refl old⟩, ?_⟩
    · dsimp only [Db.addAttempt]
      rw [Table.find?_insertNext _ rfl, if_neg, found]
      rintro rfl
      cases (Table.find?_nextId _).symm.trans found
    · intro settled attempt stored
      rcases (Table.mem_insertNext _ rfl _).mp stored with old | rfl
      · exact settled attempt old
      · exact fun decided =>
          absurd decided (PaymentCodeAttempt.undecided_of_created rfl)

end Statements

/-- The attempts are not written. -/
def SameAttempts (before after : Db) : Prop :=
  after.paymentCodeAttempts = before.paymentCodeAttempts

namespace SameAttempts

instance : IsPreorder Db SameAttempts where
  refl _ := rfl
  trans _ _ _ leading trailing := trailing.trans leading

theorem elsewhere
    {change : Db → Db}
    (same : ∀ db, SameAttempts db (change db) := by exact fun _ => rfl) :
    Within SameAttempts (modify change : DrizzleTransaction PUnit) := by
  apply Within.modify
  exact same

variable {row : PaymentRow} {preferred : InventoryReservation → Nat}

theorem releaseActive
    (orderId : OrderId)
    (reason : ReservationReleaseReason) :
    Within SameAttempts
      (releaseActiveReservationsForOrder orderId reason preferred) :=
  Within.mono (StockSideOnly.releaseActiveReservations _ _ _)
    fun only => only.attempts

theorem applyProviderStatus (transition : PaymentTerminalTransitionInput) :
    Within SameAttempts (applyProviderStatus transition row preferred) := by
  unfold Platform.applyProviderStatus
  split
  · apply Within.bind
    · exact elsewhere
    intro _
    apply Within.bind
    · exact elsewhere
    intro _
    apply Within.bind
    · exact createPendingDispatchCommands_within (fun _ _ => rfl) _
    intro _
    exact Within.pure _
  · apply Within.bind
    · exact elsewhere
    intro _
    apply Within.bind
    · apply Within.modify
      intro db
      unfold Db.cancelUnpaidOrder
      split <;> rfl
    intro _
    exact releaseActive _ _

theorem expireAdmittedPayment (payment : Payment) (order : Order) :
    Within SameAttempts (expireAdmittedPayment payment order preferred) := by
  apply Within.bind Within.get
  intro db
  split
  · exact Within.pure _
  · apply Within.bind
    · exact elsewhere
    intro _
    apply Within.bind
    · exact elsewhere
    intro _
    apply Within.bind
    · apply Within.modify
      intro later
      unfold Db.expireOrder
      split <;> rfl
    intro _
    apply Within.bind (releaseActive _ _)
    intro _
    exact Within.pure _

theorem cancelCheckedOrder :
    Within SameAttempts (cancelCheckedOrder row preferred) := by
  apply Within.bind
  · exact elsewhere
  intro _
  apply Within.bind Within.get
  intro db
  apply Within.bind
  · exact Within.require _ _
  intro _
  apply Within.bind
  · exact elsewhere
  intro _
  apply Within.bind Within.get
  intro later
  apply Within.bind
  · exact Within.require _ _
  intro _
  apply Within.bind
  · exact elsewhere
  intro _
  apply Within.bind (releaseActive _ _)
  intro _
  exact Within.pure _

end SameAttempts

section Transactions

variable {row : PaymentRow} {preferred : InventoryReservation → Nat}
  {now : Time}

theorem transitionProviderPaymentTerminal
    (transition : PaymentTerminalTransitionInput) :
    Within AttemptsKept
      (transitionProviderPaymentTerminal transition preferred now) := by
  intro before after _ committed
  rw [Platform.transitionProviderPaymentTerminal, commits_get_bind]
    at committed
  split at committed
  · exact of_pure committed
  split at committed
  · exact of_pure committed
  · next row admitted =>
    rw [applyProviderTerminal, commits_get_bind] at committed
    split at committed
    · exact of_pure committed
    · rw [commits_modify_bind] at committed
      obtain ⟨_, middle, applied, committed⟩ := commits_bind.mp committed
      have same := SameAttempts.applyProviderStatus _ applied
      change middle.paymentCodeAttempts = before.paymentCodeAttempts at same
      obtain ⟨_, _, finished, returned⟩ := commits_bind.mp committed
      obtain ⟨_, rfl⟩ := commits_pure.mp returned
      unfold finishPaymentCodeAttempt at finished
      split at finished
      · exact of_same ((congrArg _ (commits_pure.mp finished).2).trans same)
      · next attemptTransition isTransition =>
        rw [commits_modify] at finished
        subst finished
        refine Trans.trans (of_same same) (updateWhere (fun _ => rfl)
          (fun _ => rfl) fun attempt stored named => ?_)
        rw [same] at stored
        have admits := (Option.filter_eq_some_iff.mp admitted).2
        simp only [Db.admitsTransition, Db.attemptAdmits, isTransition,
          Bool.and_eq_true, Option.any_eq_true] at admits
        obtain ⟨⟨⟨⟨other, found, isAdmitted⟩, _⟩, _⟩, _⟩ := admits
        have same : attempt = other := Table.eq_of_key_eq stored
          (Table.mem_of_find? found)
          ((of_decide_eq_true named).trans (Table.key_of_find? found).symm)
        subst same
        simp only [PaymentCodeAttemptTerminalTransition.admits,
          Bool.and_eq_true] at isAdmitted
        exact .of_closed (Nat.le_refl _)
          (·.undecided_of_active isAdmitted.1.1) rfl rfl

/-- The active attempt is not decided. -/
theorem activeAttempt
    {db : Db}
    {paymentId : PaymentId}
    {attempt other : PaymentCodeAttempt}
    (found : db.activeAttempt? paymentId = some attempt)
    (stored : other ∈ db.paymentCodeAttempts)
    (named : other.id = attempt.id) :
    other.Settled → ¬ other.IsDecided := by
  have same : other = attempt :=
    Table.eq_of_key_eq stored (List.mem_of_find?_eq_some found) named
  subst same
  have active := List.find?_some found
  simp only [Bool.and_eq_true] at active
  exact (·.undecided_of_active active.2)

theorem cancelAttempt
    {db : Db}
    {paymentId : PaymentId}
    {attempt : PaymentCodeAttempt}
    (found : db.activeAttempt? paymentId = some attempt) :
    AttemptsKept db (db.cancelAttempt attempt.id) :=
  updateWhere (fun _ => rfl) (fun _ => rfl) fun _ stored named =>
    .of_undecided (Nat.le_refl _) (by simp [PaymentCodeAttempt.isWaiting])
      (activeAttempt found stored (of_decide_eq_true named))
      (fun _ decided => by
        simp [PaymentCodeAttempt.IsDecided, decidedAttemptStatuses]
          at decided)

theorem expirePayment (payment : Payment) :
    Within AttemptsKept (expirePayment payment preferred now) := by
  intro before after _ committed
  rw [Platform.expirePayment, commits_get_bind] at committed
  split at committed
  · exact of_pure committed
  split at committed
  · exact of_same (SameAttempts.expireAdmittedPayment _ _ committed)
  · next attempt found =>
    split at committed
    · rw [commits_modify_bind] at committed
      exact Trans.trans (cancelAttempt found)
        (of_same (SameAttempts.expireAdmittedPayment _ _ committed))
    · exact of_pure committed

theorem cancelMachineOrder :
    Within AttemptsKept (cancelMachineOrder row preferred now) := by
  intro before after _ committed
  rw [Platform.cancelMachineOrder, commits_get_bind, commits_requireSome_bind]
    at committed
  obtain ⟨current, _, committed⟩ := committed
  split at committed
  · exact of_pure committed
  · exact (commits_throw committed).elim
  rw [cancelOrderOrScheduleRecovery, commits_get_bind] at committed
  split at committed
  · exact of_same (SameAttempts.cancelCheckedOrder committed)
  · next attempt filtered =>
    have found := (Option.filter_eq_some_iff.mp filtered).1
    split at committed
    · rw [commits_modify_bind] at committed
      exact Trans.trans (cancelAttempt found)
        (of_same (SameAttempts.cancelCheckedOrder committed))
    · rw [commits_modify_bind] at committed
      obtain ⟨_, rfl⟩ := commits_pure.mp committed
      refine updateWhere (fun _ => rfl) (fun _ => rfl) fun other _ woken => ?_
      simp only [Bool.and_eq_true] at woken
      exact .of_same_status (Nat.le_refl _) rfl rfl
        (·.undecided_of_active woken.2)

end Transactions

end AttemptsKept

/-- The claim that a task carries. -/
def PaymentCodeTask.claim? : PaymentCodeTask → Option PaymentCodeRecoveryClaim
  | .releasing claim _
  | .parking claim _
  | .readingContext claim
  | .renewing claim _
  | .calling claim _
  | .awaiting claim _
  | .answered claim _ _
  | .deferring claim _ => some claim
  | _ => none

/-- The task leads to a charge of the attempt. -/
def PaymentCodeTask.charges (attemptId : Nat) : PaymentCodeTask → Bool
  | .renewing claim .charge
  | .calling claim .charge => claim.attempt.id = attemptId
  | _ => false

/-- The number of times that the task's next step charges the attempt. -/
def PaymentCodeTask.chargesNow (attemptId : Nat) : PaymentCodeTask → Nat
  | .calling claim .charge => if claim.attempt.id = attemptId then 1 else 0
  | _ => 0

/-- A claiming statement found its row and took the next fence. -/
structure Claims
    (before after : Db)
    (old : PaymentCodeAttempt)
    (claim : PaymentCodeRecoveryClaim) : Prop where
  found : before.paymentCodeAttempts.find? claim.attempt.id = some old
  returned :
    after.paymentCodeAttempts.find? claim.attempt.id = some claim.attempt
  fence : claim.held.fence = old.recoveryLease.fence + 1
  taken : claim.attempt.recoveryLease.fence = claim.held.fence

/-- A committed task leaves at most one, with its claim or with a new one. -/
inductive Follows (before after : Db) (task : PaymentCodeTask) :
    List PaymentCodeTask → Prop where
  | ends : Follows before after task []
  | begins
      {next : PaymentCodeTask}
      (unclaimed : next.claim? = none) : Follows before after task [next]
  | carries
      {claim later : PaymentCodeRecoveryClaim}
      {next : PaymentCodeTask}
      (carried : task.claim? = some claim)
      (isLater : next.claim? = some later)
      (sameId : later.attempt.id = claim.attempt.id)
      (sameHeld : later.held = claim.held)
      (charges : ∀ attemptId,
        task.chargesNow attemptId + (next.charges attemptId).toNat ≤
          (task.charges attemptId).toNat) : Follows before after task [next]
  | claims
      {old : PaymentCodeAttempt}
      {claim : PaymentCodeRecoveryClaim}
      {next : PaymentCodeTask}
      (idle : task.claim? = none)
      (claims : Claims before after old claim)
      (isClaim : next.claim? = some claim)
      (charges : ∀ attemptId, next.charges attemptId = true →
        old.isWaiting = true ∧ claim.attempt.isWaiting = false) :
      Follows before after task [next]

/-- What a task's transaction does to the attempts, and what follows it. -/
structure TaskStep
    (before after : Db)
    (task : PaymentCodeTask)
    (answer : List PaymentCodeTask) : Prop where
  kept : AttemptsKept before after
  follows : Follows before after task answer

theorem commits_thenNothing
    {Answer : Type}
    {first : DrizzleTransaction Answer} :
    Commits (first >>= fun _ => pure []) before answer after ↔
      answer = [] ∧ ∃ value, Commits first before value after := by
  simp only [commits_bind, commits_pure]
  constructor
  · rintro ⟨value, _, committed, rfl, rfl⟩
    exact ⟨rfl, value, committed⟩
  · rintro ⟨rfl, value, committed⟩
    exact ⟨value, after, committed, rfl, rfl⟩

namespace TaskStep

variable {claim : PaymentCodeRecoveryClaim}

theorem ends
    {Answer : Type}
    {first : DrizzleTransaction Answer}
    (within : Within AttemptsKept first)
    (committed : Commits (first >>= fun _ => pure []) before answer after) :
    TaskStep before after task answer := by
  obtain ⟨rfl, _, committed⟩ := commits_thenNothing.mp committed
  exact ⟨within committed, .ends⟩

theorem deferRecovery
    {status : DeferredStatus}
    (committed :
      Commits (claim.deferRecovery status input) before answer after) :
    TaskStep before after task answer := by
  rw [PaymentCodeRecoveryClaim.deferRecovery] at committed
  split at committed
  · exact ends .parks committed
  · refine ends (.releaseRecoveryClaim ?_) committed
    cases status <;> simp [DeferredStatus.attemptStatus]

theorem kept_of_returning
    {attemptId : Nat}
    {statement : DrizzleTransaction Unit}
    {returned : Option PaymentCodeRecoveryClaim}
    (within : Within AttemptsKept statement)
    (committed :
      Commits (returningClaim attemptId input statement) before returned
        after) :
    AttemptsKept before after := by
  simp only [returningClaim, commits_bind, commits_get, commits_pure]
    at committed
  obtain ⟨_, _, ⟨_, rfl⟩, _, _, wrote, _, _, ⟨_, rfl⟩, _, rfl⟩ := committed
  exact within wrote

/-- A claiming statement returns the row that it took the next fence of. -/
theorem claims_of_returning
    {attemptId : Nat}
    {qualifies : Db → PaymentCodeAttempt → Bool}
    {status : PaymentCodeAttempt → PaymentCodeAttemptStatus}
    {expiresAt : Time}
    {nextAt : PaymentCodeAttempt → Option Time}
    (committed :
      Commits
        (returningClaim attemptId input
          (updateAttemptWhere attemptId qualifies status
            PaymentCodeAttempt.isActive
            (fun lease => lease.claim input.token expiresAt) nextAt))
        before (some claim) after) :
    ∃ old, Claims before after old claim ∧ qualifies before old = true ∧
      claim.attempt.status = status old := by
  simp only [returningClaim, updateAttemptWhere, commits_get_bind,
    commits_modify_bind, commits_pure, Option.bind_eq_bind] at committed
  obtain ⟨returned, rfl⟩ := committed
  cases found : before.paymentCodeAttempts.find? attemptId with
  | none => simp [found] at returned
  | some old =>
    have isId := Table.key_of_find? found
    by_cases holds : qualifies before old = true
    · simp [found, isId, holds, Lease.claim] at returned
      subst returned
      refine ⟨old, ⟨found, ?_, rfl, rfl⟩, holds, rfl⟩
      simp [isId, found, holds, Lease.claim]
    · simp [found, isId, holds] at returned

theorem claimSubmission
    {attemptId : Nat}
    (committed :
      Commits (PaymentCodeTask.perform (.claimingSubmission attemptId) input)
        before answer after) :
    TaskStep before after (.claimingSubmission attemptId) answer := by
  simp only [PaymentCodeTask.perform, commits_bind, commits_pure] at committed
  obtain ⟨returned, _, claimed, rfl, rfl⟩ := committed
  refine ⟨kept_of_returning ?_ claimed, ?_⟩
  · refine AttemptsKept.updateAttemptWhere fun _ attempt holds => ?_
    simp only [Bool.and_eq_true] at holds
    exact .of_open .submitting (Nat.le_succ _)
      (·.undecided_of_active holds.1.2) rfl (by decide) (by decide)
  · cases returned with
    | none => exact .ends
    | some claim =>
      obtain ⟨old, claims, holds, status⟩ := claims_of_returning claimed
      simp only [Bool.and_eq_true] at holds
      refine .claims rfl claims rfl fun _ _ => ⟨?_, ?_⟩
      · simp [PaymentCodeAttempt.isWaiting, holds.1]
      · simp [PaymentCodeAttempt.isWaiting, status]

theorem claimRecovery
    {attemptId : Nat}
    (committed :
      Commits (PaymentCodeTask.perform (.claimingRecovery attemptId) input)
        before answer after) :
    TaskStep before after (.claimingRecovery attemptId) answer := by
  simp only [PaymentCodeTask.perform, commits_bind, commits_pure] at committed
  obtain ⟨returned, _, claimed, rfl, rfl⟩ := committed
  refine ⟨kept_of_returning ?_ claimed, ?_⟩
  · refine AttemptsKept.updateAttemptWhere fun _ attempt holds => ?_
    simp only [Bool.and_eq_true] at holds
    exact .of_same_status (Nat.le_succ _) rfl rfl
      (·.undecided_of_active holds.1.1.1.1)
  · cases returned with
    | none => exact .ends
    | some claim =>
      obtain ⟨old, claims, _⟩ := claims_of_returning claimed
      have isClaim : claim.recovery.claim? = some claim ∧
          ∀ other, claim.recovery.charges other = false := by
        unfold PaymentCodeRecoveryClaim.recovery
        repeat' split
        all_goals exact ⟨rfl, fun _ => rfl⟩
      refine .claims rfl claims isClaim.1 fun other charges => ?_
      cases (isClaim.2 other).symm.trans charges

/-- A step that goes on with its claim. -/
theorem goesOn
    {next : PaymentCodeTask}
    {later : PaymentCodeRecoveryClaim}
    (carried : task.claim? = some claim)
    (kept : AttemptsKept before after)
    (isLater : next.claim? = some later)
    (sameId : later.attempt.id = claim.attempt.id)
    (sameHeld : later.held = claim.held)
    (charges : ∀ attemptId,
      task.chargesNow attemptId + (next.charges attemptId).toNat ≤
        (task.charges attemptId).toNat) :
    TaskStep before after task [next] :=
  ⟨kept, .carries carried isLater sameId sameHeld charges⟩

theorem renewThen
    {next : PaymentCodeTask}
    (carried : task.claim? = some claim)
    (isLater : next.claim? = some claim)
    (charges : ∀ attemptId,
      task.chargesNow attemptId = 0 ∧
        (next.charges attemptId = true → task.charges attemptId = true))
    (committed :
      Commits (claim.renewThen next input.now) before answer after) :
    TaskStep before after task answer := by
  rw [PaymentCodeRecoveryClaim.renewThen, commits_get_bind] at committed
  split at committed
  · obtain ⟨_, _, renewed, returned⟩ := commits_bind.mp committed
    obtain ⟨rfl, rfl⟩ := commits_pure.mp returned
    refine goesOn carried (.renewRecoveryClaim renewed) isLater rfl rfl
      fun attemptId => ?_
    obtain ⟨none, leads⟩ := charges attemptId
    rw [none, Nat.zero_add]
    exact Bool.toNat_le_toNat leads
  · obtain ⟨rfl, rfl⟩ := commits_pure.mp committed
    refine goesOn carried (.of_same rfl) rfl rfl rfl fun attemptId => ?_
    rw [(charges attemptId).1]
    exact Nat.zero_le _

theorem resolve
    {operation : ProviderOperation}
    {call : Provider.ProviderCall}
    (committed :
      Commits (claim.resolve operation call input) before answer after) :
    TaskStep before after (.answered claim operation call) answer := by
  rw [PaymentCodeRecoveryClaim.resolve] at committed
  split at committed
  · refine ends ?_ committed
    apply Within.bind Within.get
    intro db
    apply Within.bind
    · exact Within.requireSome _ _
    intro attempt
    apply Within.bind
    · exact Within.requireSome _ _
    intro payment
    apply Within.bind
    · exact AttemptsKept.transitionProviderPaymentTerminal _
    intro _
    exact Within.pure _
  · exact ends (.releaseRecoveryClaim (by simp)) committed
  · rw [PaymentCodeRecoveryClaim.reverseAfterQuery, commits_get_bind]
      at committed
    split at committed
    · obtain ⟨_, middle, begun, returned⟩ := commits_bind.mp committed
      obtain ⟨rfl, rfl⟩ := commits_pure.mp returned
      exact goesOn rfl (.beginReversal begun) rfl rfl rfl
        fun _ => Nat.zero_le _
    · obtain ⟨rfl, rfl⟩ := commits_pure.mp committed
      exact ⟨.of_same rfl, .ends⟩
  · exact deferRecovery committed

end TaskStep

theorem taskStep
    (committed :
      Commits (paymentCodeService.perform task input) before answer after) :
    TaskStep before after task answer := by
  cases task with
  | submit orderId idempotencyKey =>
    simp only [paymentCodeService, PaymentCodeTask.perform,
      submitPaymentCode, commits_bind, commits_get, commits_pure] at committed
    obtain ⟨_, _, created, _, _, ⟨_, rfl⟩, rfl, rfl⟩ := committed
    refine ⟨.createOrReplayAttempt created, ?_⟩
    split
    · exact .begins rfl
    · exact .ends
  | requestManual attemptId action =>
    simp only [paymentCodeService, PaymentCodeTask.perform,
      requestManualAction, commits_bind, commits_get, commits_pure]
      at committed
    obtain ⟨_, _, requested, _, _, ⟨_, rfl⟩, rfl, rfl⟩ := committed
    refine ⟨.requestRecoveryAction action requested, ?_⟩
    split
    · exact .begins rfl
    · exact .ends
  | admitting attemptId =>
    obtain ⟨rfl, rfl⟩ := commits_pure.mp committed
    refine ⟨.of_same rfl, ?_⟩
    split <;> exact .begins rfl
  | claimingSubmission attemptId => exact .claimSubmission committed
  | claimingRecovery attemptId => exact .claimRecovery committed
  | releasing claim succeeded =>
    refine .ends (.releaseRecoveryClaim ?_) committed
    cases succeeded <;> simp
  | readingContext claim =>
    rw [paymentCodeService] at committed
    simp only [PaymentCodeTask.perform, commits_get_bind] at committed
    split at committed
    · obtain ⟨rfl, rfl⟩ := commits_pure.mp committed
      exact .goesOn rfl (.of_same rfl) rfl rfl rfl fun _ => Nat.zero_le _
    · obtain ⟨rfl, rfl⟩ := commits_pure.mp committed
      unfold PaymentCodeRecoveryClaim.afterContext
      repeat' split
      all_goals
        exact .goesOn rfl (.of_same rfl) rfl rfl rfl fun _ => Nat.zero_le _
  | renewing claim operation =>
    refine .renewThen rfl rfl (fun _ => ⟨rfl, fun charges => ?_⟩) committed
    cases operation <;> exact charges
  | calling claim operation =>
    obtain ⟨rfl, rfl⟩ := commits_pure.mp committed
    refine .goesOn rfl (.of_same rfl) rfl rfl rfl fun attemptId => ?_
    cases operation with
    | charge =>
      simp only [PaymentCodeTask.charges, PaymentCodeTask.chargesNow]
      split <;> simp_all
    | query expiresAt | reverse => exact Nat.zero_le _
  | awaiting claim operation =>
    rw [paymentCodeService] at committed
    simp only [PaymentCodeTask.perform] at committed
    split at committed
    · obtain ⟨rfl, rfl⟩ := commits_pure.mp committed
      exact .goesOn rfl (.of_same rfl) rfl rfl rfl fun _ => Nat.zero_le _
    · refine .renewThen rfl rfl (fun _ => ⟨rfl, fun charges => ?_⟩) committed
      cases charges
  | answered claim operation call => exact .resolve committed
  | deferring claim status => exact .deferRecovery committed
  | parking claim reason => exact .ends .parks committed
  | refusing attemptId => exact .ends .failCreatedAttempt committed
  | expire payment => exact .ends (.expirePayment payment) committed
  | cancel row => exact .ends .cancelMachineOrder committed
  | wake paymentId => exact .ends .wakeActiveAttempts committed
  | elsewhere => exact .ends .elsewhere committed

end VendingSystem.Platform
