import VendingSystem.Budgets
import VendingSystem.PlatformPaymentCodeSteps
import VendingSystem.PlatformPaymentNotifications

namespace VendingSystem.Platform

/-!
# Payment-code attempts in every run

Whatever fails, expires or is lost in between, a code is presented to its
provider at most once, and of the tasks that hold a claim on its attempt one
at most can still write.
-/

open Transaction

abbrev PaymentCodeRuntime : Type :=
  Service.Runtime Db PaymentCodeTask

abbrev PaymentCodeEvent : Type :=
  Service.Event ServiceError PaymentCodeTask PaymentCodeInput

variable {before after : Db} {input : PaymentCodeInput}
  {answer : List PaymentCodeTask} {task : PaymentCodeTask}
  {claim : PaymentCodeRecoveryClaim} {now : Time}

/-- A failure leaves a task that keeps the claim or drops it. -/
theorem recover_cases
    (task : PaymentCodeTask)
    (refusal : ServiceError) :
    task.recover refusal = [] ∨
      ∃ next, task.recover refusal = [next] ∧
        (∀ attemptId, next.charges attemptId = false) ∧
        (next.claim? = none ∨ next.claim? = task.claim?) := by
  cases task with
  | admitting attemptId =>
    exact Or.inr ⟨_, rfl, fun _ => rfl, Or.inl rfl⟩
  | readingContext claim | renewing claim _ | awaiting claim _ =>
    exact Or.inr ⟨_, rfl, fun _ => rfl, Or.inr rfl⟩
  | _ => exact Or.inl rfl

/-- The attempt was not claimed for a submission yet. -/
def Db.mayCharge (db : Db) (attemptId : Nat) : Bool :=
  (db.paymentCodeAttempts.find? attemptId).all PaymentCodeAttempt.isWaiting

theorem AttemptsKept.mayCharge
    {attemptId : Nat}
    (kept : AttemptsKept before after)
    (may : after.mayCharge attemptId = true) :
    before.mayCharge attemptId = true := by
  cases found : before.paymentCodeAttempts.find? attemptId with
  | none => simp [Db.mayCharge, found]
  | some old =>
    obtain ⟨new, newFound, keeps⟩ := kept.row found
    simp only [Db.mayCharge, newFound, found, Option.all_some] at may ⊢
    exact keeps.waited may

namespace PaymentCodeTask

theorem claim_of_charges
    {attemptId : Nat}
    (charges : task.charges attemptId = true) :
    ∃ claim, task.claim? = some claim ∧ claim.attempt.id = attemptId := by
  unfold PaymentCodeTask.charges at charges
  split at charges
  · exact ⟨_, rfl, by simpa using charges⟩
  · exact ⟨_, rfl, by simpa using charges⟩
  · cases charges

theorem charges_of_unclaimed
    (unclaimed : task.claim? = none)
    (attemptId : Nat) : task.charges attemptId = false := by
  by_contra charges
  obtain ⟨claim, isClaim, _⟩ :=
    claim_of_charges (Bool.eq_true_of_not_eq_false charges)
  cases unclaimed.symm.trans isClaim

theorem chargesNow_le (attemptId : Nat) :
    task.chargesNow attemptId ≤ (task.charges attemptId).toNat := by
  unfold PaymentCodeTask.chargesNow
  split
  · simp only [PaymentCodeTask.charges]
    split <;> simp_all
  · exact Nat.zero_le _

end PaymentCodeTask

/-- A charge is paid for by an attempt that was still to be submitted. -/
theorem paymentCodeService_pays_charges (attemptId : Nat) :
    paymentCodeService.Pays
      (PaymentCodeTask.chargesNow attemptId)
      (fun db => (db.mayCharge attemptId).toNat)
      (PaymentCodeTask.charges attemptId) where
  starts {task} starts := by cases task <;> first | rfl | cases starts
  recovers task refusal := by
    have most := task.chargesNow_le attemptId
    change _ + (task.recover refusal).countP _ ≤ _
    rcases recover_cases task refusal with ends | ⟨next, isNext, charges, _⟩
    · simpa [ends] using most
    · simpa [isNext, charges] using most
  performs {before after task input answer} committed := by
    have step := taskStep committed
    have fewer : (after.mayCharge attemptId).toNat ≤
        (before.mayCharge attemptId).toNat :=
      Bool.toNat_le_toNat step.kept.mayCharge
    have most := task.chargesNow_le attemptId
    cases step.follows with
    | ends =>
      simp only [List.countP_nil]
      omega
    | begins unclaimed =>
      rw [Service.countP_one,
        PaymentCodeTask.charges_of_unclaimed unclaimed, Bool.toNat_false]
      omega
    | carries _ _ _ _ charges =>
      have charges := charges attemptId
      rw [Service.countP_one]
      omega
    | @claims old claim next idle claims isClaim charges =>
      rw [Service.countP_one]
      rw [PaymentCodeTask.charges_of_unclaimed idle, Bool.toNat_false]
        at most ⊢
      cases leads : next.charges attemptId with
      | false =>
        rw [Bool.toNat_false]
        omega
      | true =>
        obtain ⟨other, isOther, rfl⟩ := PaymentCodeTask.claim_of_charges leads
        cases isClaim.symm.trans isOther
        obtain ⟨waited, gone⟩ := charges _ leads
        simp only [Db.mayCharge, claims.found, claims.returned, waited, gone,
          Option.all_some, Bool.toNat_true, Bool.toNat_false]
        omega

/-- How often the steps of a run charge the attempt. -/
def chargesOf
    (attemptId : Nat)
    (first : Db)
    (events : List PaymentCodeEvent) : Nat :=
  paymentCodeService.machine.tally
    (Service.weightOf (PaymentCodeTask.chargesNow attemptId))
    { db := first, tasks := [] } events

/-- A code is charged once at most, and not after an earlier submission. -/
theorem paymentCode_charged_once
    (first : Db)
    (events : List PaymentCodeEvent)
    (last : PaymentCodeRuntime)
    (attemptId : Nat)
    (run :
      paymentCodeService.machine.run { db := first, tasks := [] } events =
        some last) :
    chargesOf attemptId first events ≤ 1 ∧
      ((first.paymentCodeAttempts.find? attemptId).any
          (fun attempt => attempt.status ≠ .created) →
        chargesOf attemptId first events = 0) := by
  have paid := (paymentCodeService_pays_charges attemptId).run run
  simp only [Service.Runtime.budget, List.countP_nil, Nat.add_zero] at paid
  have most := Bool.toNat_le (first.mayCharge attemptId)
  refine ⟨by unfold chargesOf; omega, fun submitted => ?_⟩
  have spent : first.mayCharge attemptId = false := by
    obtain ⟨attempt, found, isSubmitted⟩ :=
      (Option.any_eq_true _ _).mp submitted
    simp only [decide_eq_true_eq] at isSubmitted
    simp [Db.mayCharge, found, PaymentCodeAttempt.isWaiting, isSubmitted]
  rw [spent, Bool.toNat_false] at paid
  unfold chargesOf
  omega

/-- An order that waits for a code. -/
def paymentCodeDb : Db :=
  { openPaymentDb with
    payments := openPaymentDb.payments.updateWhere (fun _ => true)
      fun payment =>
        { payment with method := .paymentCode, expiresAt := some 900 } }

def paymentCodeInput (now : Time) : PaymentCodeInput where
  now := now
  token := now
  pastTimeoutCompensation := false
  answer := .unsupported
  eventName := .named "unused"
  preferred := fun _ => 0
  preferredLine := fun _ => 0
  admitted := true
  recoveryAttemptCount := 1
  nextRecoveryAt := now + 5
  call := none
  elsewhere := Db.empty

/-- A code is presented, and its provider does not answer. -/
def presentCode : List PaymentCodeEvent :=
  .submit (.submit 1 7) ::
    List.replicate 5 (.advance 0 (paymentCodeInput 1))

/-- The charge is recovered after its claim has run out. -/
def recoverLateCharge : List PaymentCodeEvent :=
  [.submit (.claimingRecovery 1), .advance 1 (paymentCodeInput 40),
    .advance 1 (paymentCodeInput 40)]

/-- A code that is presented again after a crash is not charged again. -/
theorem paymentCode_charged_once_again :
    ∃ last,
      paymentCodeService.machine.run { db := paymentCodeDb, tasks := [] }
          (presentCode ++ .crash :: presentCode.take 2) = some last ∧
        chargesOf 1 paymentCodeDb
            (presentCode ++ .crash :: presentCode.take 2) ≤ 1 :=
  ⟨_, rfl, (paymentCode_charged_once paymentCodeDb _ _ 1 rfl).1⟩

theorem run_keepsAttempts
    {first last : PaymentCodeRuntime}
    {events : List PaymentCodeEvent}
    (run : paymentCodeService.machine.run first events = some last) :
    AttemptsKept first.db last.db := by
  have stepKeeps {middle next : PaymentCodeRuntime} {event}
      (kept : AttemptsKept first.db middle.db)
      (step : paymentCodeService.machine.step middle event = some next) :
      AttemptsKept first.db next.db := by
    rcases Service.step_db_cases step with
      same | ⟨_, _, _, _, _, _, committed⟩
    · rw [same]
      exact kept
    · exact Trans.trans kept (taskStep committed).kept
  exact Machine.run_keeps stepKeeps (AttemptsKept.of_same rfl) run

/-- What was found out about an attempt is never written over. -/
theorem attempt_decision_is_final
    (first : Db)
    (leading trailing : List PaymentCodeEvent)
    (middle last : PaymentCodeRuntime)
    (attemptId : Nat)
    (attempt : PaymentCodeAttempt)
    (settled : first.AttemptsSettled)
    (run :
      paymentCodeService.machine.run { db := first, tasks := [] } leading =
        some middle)
    (later : paymentCodeService.machine.run middle trailing = some last)
    (found : middle.db.paymentCodeAttempts.find? attemptId = some attempt)
    (decided : attempt.status ∈ decidedAttemptStatuses) :
    last.db.paymentCodeAttempts.find? attemptId = some attempt := by
  have settledLater := (run_keepsAttempts run).settled settled
  obtain ⟨new, newFound, kept⟩ := (run_keepsAttempts later).row found
  rw [newFound,
    kept.decided (settledLater attempt (Table.mem_of_find? found)) decided]

/-- A submission that is refused, and what an operator asks for then. -/
def refuseSubmission : List PaymentCodeEvent :=
  [.submit (.submit 1 7), .advance 0 (paymentCodeInput 1),
    .advance 0 { paymentCodeInput 1 with admitted := false },
    .advance 0 (paymentCodeInput 1)]

def askForReversal : List PaymentCodeEvent :=
  [.submit (.requestManual 1 .reverse), .advance 0 (paymentCodeInput 2)]

theorem attempt_decision_is_final_for_operator :
    ∃ middle last attempt,
      paymentCodeService.machine.run { db := paymentCodeDb, tasks := [] }
          refuseSubmission = some middle ∧
        paymentCodeService.machine.run middle askForReversal = some last ∧
        middle.db.paymentCodeAttempts.find? 1 = some attempt ∧
        attempt.status = .failed ∧
        last.db.paymentCodeAttempts.find? 1 = some attempt := by
  refine ⟨_, _, _, rfl, rfl, rfl, rfl, ?_⟩
  exact attempt_decision_is_final paymentCodeDb refuseSubmission
    askForReversal _ _ 1 _ (fun _ stored => by cases stored) rfl rfl rfl
    (by decide)

/-- The attempt's row has not given out the fence yet. -/
def Db.fenceIsFree (db : Db) (attemptId fence : Nat) : Bool :=
  (db.paymentCodeAttempts.find? attemptId).all fun attempt =>
    attempt.recoveryLease.fence < fence

def PaymentCodeTask.carries
    (attemptId fence : Nat)
    (task : PaymentCodeTask) : Bool :=
  task.claim?.any fun claim =>
    claim.attempt.id = attemptId && claim.held.fence = fence

theorem AttemptsKept.fenceIsFree
    {attemptId fence : Nat}
    (kept : AttemptsKept before after)
    (free : after.fenceIsFree attemptId fence = true) :
    before.fenceIsFree attemptId fence = true := by
  cases found : before.paymentCodeAttempts.find? attemptId with
  | none => simp [Db.fenceIsFree, found]
  | some old =>
    obtain ⟨new, newFound, keeps⟩ := kept.row found
    simp only [Db.fenceIsFree, newFound, found, Option.all_some,
      decide_eq_true_eq] at free ⊢
    exact keeps.fence.trans_lt free

/-- A claim is paid for by a fence that was still free. -/
theorem paymentCodeService_pays_claims (attemptId fence : Nat) :
    paymentCodeService.Pays
      (fun _ => 0)
      (fun db => (db.fenceIsFree attemptId fence).toNat)
      (PaymentCodeTask.carries attemptId fence) where
  starts {task} starts := by cases task <;> first | rfl | cases starts
  recovers task refusal := by
    change _ + (task.recover refusal).countP _ ≤ _
    rcases recover_cases task refusal with
      ends | ⟨next, isNext, _, unclaimed | same⟩
    · simp [ends]
    · simp [isNext, PaymentCodeTask.carries, unclaimed]
    · rw [isNext, Service.countP_one, PaymentCodeTask.carries, same]
      exact (Nat.zero_add _).le
  performs {before after task input answer} committed := by
    have step := taskStep committed
    have fewer : (after.fenceIsFree attemptId fence).toNat ≤
        (before.fenceIsFree attemptId fence).toNat :=
      Bool.toNat_le_toNat step.kept.fenceIsFree
    cases step.follows with
    | ends =>
      simp only [List.countP_nil]
      omega
    | begins unclaimed =>
      rw [Service.countP_one, PaymentCodeTask.carries, unclaimed]
      simp only [Option.any_none, Bool.toNat_false]
      omega
    | carries carried isLater sameId sameHeld =>
      rw [Service.countP_one, PaymentCodeTask.carries, PaymentCodeTask.carries,
        carried, isLater, Option.any_some, Option.any_some, sameId, sameHeld]
      omega
    | @claims old claim next idle claims isClaim =>
      rw [Service.countP_one, PaymentCodeTask.carries, isClaim,
        Option.any_some]
      cases isIt : (claim.attempt.id = attemptId &&
          claim.held.fence = fence : Bool) with
      | false =>
        rw [Bool.toNat_false]
        omega
      | true =>
        simp only [Bool.and_eq_true, decide_eq_true_eq] at isIt
        obtain ⟨rfl, rfl⟩ := isIt
        simp [Db.fenceIsFree, claims.found, claims.returned, claims.fence,
          claims.taken]

/-- The claim is not the one that the attempt's row knows. -/
def Db.Superseded (db : Db) (claim : PaymentCodeRecoveryClaim) : Prop :=
  ∀ attempt ∈ db.paymentCodeAttempts.find? claim.attempt.id,
    attempt.recoveryLease.fence ≠ claim.held.fence

section Superseded

theorem Db.Superseded.notHeld
    (superseded : before.Superseded claim)
    {attempt : PaymentCodeAttempt}
    (found :
      before.paymentCodeAttempts.find? claim.attempt.id = some attempt) :
    attempt.recoveryLease.heldBy claim.held.ownerToken claim.held.fence now =
      false := by
  simp [Lease.heldBy, superseded attempt found]

theorem updateAttemptWhere_writesNothing
    {attemptId : Nat}
    {qualifies : Db → PaymentCodeAttempt → Bool}
    {status : PaymentCodeAttempt → PaymentCodeAttemptStatus}
    {isActive : PaymentCodeAttempt → Bool}
    {recoveryLease : Lease → Lease}
    {recoveryNextAt : PaymentCodeAttempt → Option Time}
    {done : PUnit}
    (finds : ∀ {attempt},
      before.paymentCodeAttempts.find? attemptId = some attempt →
        qualifies before attempt = false)
    (committed :
      Commits (updateAttemptWhere attemptId qualifies status isActive
        recoveryLease recoveryNextAt) before done after) :
    after = before := by
  rw [updateAttemptWhere, commits_modify] at committed
  subst committed
  rw [Table.updateWhere_of_none]
  intro attempt stored
  by_cases named : attempt.id = attemptId
  · subst named
    simp [finds (Table.find?_of_mem stored)]
  · simp [named]

theorem refused_writesNothing
    {transition : PaymentTerminalTransitionInput}
    {preferred : InventoryReservation → Nat}
    {result : PaymentTerminalTransitionResult}
    (refused : ∀ payment, before.attemptAdmits transition payment now = false)
    (committed :
      Commits (transitionProviderPaymentTerminal transition preferred now)
        before result after) :
    after = before := by
  rw [transitionProviderPaymentTerminal, commits_get_bind] at committed
  split at committed
  · exact (commits_pure.mp committed).2
  · split at committed
    · exact (commits_pure.mp committed).2
    · next admitted =>
      have admits := (Option.filter_eq_some_iff.mp admitted).2
      simp [Db.admitsTransition, refused] at admits

theorem Db.Superseded.terminal
    {operation : ProviderOperation}
    {call : Provider.ProviderCall}
    {paymentSucceeded : Bool}
    {done : Unit}
    (superseded : before.Superseded claim)
    (committed :
      Commits
        ((claim.terminal operation call paymentSucceeded).perform
          input.toPaymentInput) before done after) :
    after = before := by
  simp only [PaymentCodeRecoveryClaim.terminal, AttemptStatement.perform,
    commits_get_bind, commits_requireSome_bind] at committed
  obtain ⟨attempt, found, payment, _, committed⟩ := committed
  obtain ⟨_, _, transitioned, returned⟩ := commits_bind.mp committed
  obtain ⟨_, rfl⟩ := commits_pure.mp returned
  refine refused_writesNothing (fun _ => ?_) transitioned
  simp [Db.attemptAdmits, found, PaymentCodeAttemptTerminalTransition.admits,
    superseded.notHeld found]

theorem superseded_writesNothing
    (isClaim : task.claim? = some claim)
    (superseded : before.Superseded claim)
    (committed :
      Commits (paymentCodeService.perform task input) before answer after) :
    after = before := by
  have release {status nextAt} {done : PUnit}
      (released : Commits
        (releaseRecoveryClaim claim.attempt.id claim.held status nextAt
          input.now) before done after) : after = before :=
    updateAttemptWhere_writesNothing superseded.notHeld released
  have park {reason answer}
      (parked : Commits (claim.parkFor reason input) before answer after) :
      after = before := by
    obtain ⟨_, _, parked⟩ := commits_thenNothing.mp parked
    rw [markPaymentCodeAttemptManualHandling, commits_get_bind] at parked
    split at parked
    · exact (commits_pure.mp parked).2
    · next projected =>
      simp only [Db.attemptForManualHandling, Option.bind_eq_bind,
        Option.bind_eq_some_iff, Option.ite_none_right_eq_some,
        Bool.and_eq_true] at projected
      obtain ⟨_, found, _, _, ⟨held, _⟩, _⟩ := projected
      rw [superseded.notHeld found] at held
      cases held
  have deferred {status answer}
      (committed :
        Commits (claim.deferRecovery status input) before answer after) :
      after = before := by
    rw [PaymentCodeRecoveryClaim.deferRecovery] at committed
    split at committed
    · exact park committed
    · obtain ⟨_, _, released⟩ := commits_thenNothing.mp committed
      exact release released
  have renewed {next answer}
      (committed :
        Commits (claim.renewThen next input.now) before answer after) :
      after = before := by
    rw [PaymentCodeRecoveryClaim.renewThen, commits_get_bind] at committed
    split at committed
    · next holds =>
      obtain ⟨_, found, held⟩ := (Option.any_eq_true _ _).mp holds
      rw [superseded.notHeld found] at held
      cases held
    · exact (commits_pure.mp committed).2
  cases task <;> cases isClaim
  case releasing succeeded =>
    obtain ⟨_, _, released⟩ := commits_thenNothing.mp committed
    exact release released
  case parking reason => exact park committed
  case readingContext =>
    rw [paymentCodeService] at committed
    simp only [PaymentCodeTask.perform, commits_get_bind] at committed
    split at committed <;> exact (commits_pure.mp committed).2
  case renewing operation => exact renewed committed
  case calling operation => exact (commits_pure.mp committed).2
  case awaiting operation =>
    rw [paymentCodeService] at committed
    simp only [PaymentCodeTask.perform] at committed
    split at committed
    · exact (commits_pure.mp committed).2
    · exact renewed committed
  case answered operation call =>
    change Commits (claim.resolve operation call input) before answer after
      at committed
    rw [PaymentCodeRecoveryClaim.resolve] at committed
    split at committed
    · obtain ⟨_, _, performed⟩ := commits_thenNothing.mp committed
      exact superseded.terminal performed
    · obtain ⟨_, _, released⟩ := commits_thenNothing.mp committed
      exact release released
    · rw [PaymentCodeRecoveryClaim.reverseAfterQuery, commits_get_bind]
        at committed
      split at committed
      · next admits =>
        obtain ⟨_, found, admitted⟩ := (Option.any_eq_true _ _).mp admits
        rw [superseded.notHeld found] at admitted
        simp at admitted
      · exact (commits_pure.mp committed).2
    · exact deferred committed
  case deferring status => exact deferred committed

end Superseded

/-- What is left of the database when the task takes its next step. -/
def PaymentCodeTask.executed
    (task : PaymentCodeTask)
    (input : PaymentCodeInput)
    (db : Db) : Db :=
  ((paymentCodeService.perform task input).execute db).2

theorem Db.not_superseded
    {db : Db}
    (isClaim : task.claim? = some claim)
    (writes : task.executed input db ≠ db) :
    ∃ attempt, db.paymentCodeAttempts.find? claim.attempt.id = some attempt ∧
      attempt.recoveryLease.fence = claim.held.fence := by
  rcases Transaction.execute_cases (paymentCodeService.perform task input)
      db with ⟨refusal, executed⟩ | ⟨answer, after, committed, executed⟩
  · exact absurd (congrArg Prod.snd executed) writes
  · by_contra none
    refine writes ((congrArg Prod.snd executed).trans
      (superseded_writesNothing isClaim ?_ committed))
    intro attempt found same
    exact none ⟨attempt, found, same⟩

/-- Of two tasks that claim one attempt, one at most can still write. -/
theorem attempt_has_one_writer
    (first : Db)
    (events : List PaymentCodeEvent)
    (last : PaymentCodeRuntime)
    (run :
      paymentCodeService.machine.run { db := first, tasks := [] } events =
        some last)
    (position other : Nat)
    (task rival : PaymentCodeTask)
    (claim rivalClaim : PaymentCodeRecoveryClaim)
    (found : last.tasks[position]? = some task)
    (foundRival : last.tasks[other]? = some rival)
    (apart : position ≠ other)
    (isClaim : task.claim? = some claim)
    (isRival : rival.claim? = some rivalClaim)
    (sameAttempt : rivalClaim.attempt.id = claim.attempt.id)
    (input rivalInput : PaymentCodeInput)
    (writes : task.executed input last.db ≠ last.db) :
    rival.executed rivalInput last.db = last.db := by
  by_contra rivalWrites
  obtain ⟨attempt, stored, fence⟩ := Db.not_superseded isClaim writes
  obtain ⟨_, rivalStored, rivalFence⟩ :=
    Db.not_superseded isRival rivalWrites
  rw [sameAttempt, stored] at rivalStored
  cases rivalStored
  have paid :=
    (paymentCodeService_pays_claims claim.attempt.id claim.held.fence).run run
  simp only [Service.Runtime.budget, List.countP_nil, Nat.add_zero] at paid
  have most := Bool.toNat_le
    (first.fenceIsFree claim.attempt.id claim.held.fence)
  have oneTask : last.tasks.countP
      (PaymentCodeTask.carries claim.attempt.id claim.held.fence) ≤ 1 := by
    omega
  refine apart (Service.position_unique oneTask found foundRival ?_ ?_)
  · simp [PaymentCodeTask.carries, isClaim]
  · simp [PaymentCodeTask.carries, isRival, sameAttempt, ← rivalFence, fence]

/-- The worker that waits for the provider cannot write once it is late. -/
theorem attempt_has_one_writer_late :
    ∃ last task rival,
      paymentCodeService.machine.run { db := paymentCodeDb, tasks := [] }
          (presentCode ++ recoverLateCharge) = some last ∧
        last.tasks = [rival, task] ∧
        rival.executed (paymentCodeInput 41) last.db = last.db :=
  ⟨_, _, _, rfl, rfl,
    attempt_has_one_writer paymentCodeDb (presentCode ++ recoverLateCharge) _
      rfl 1 0 _ _ _ _ rfl rfl (by decide) rfl rfl rfl (paymentCodeInput 41)
      (paymentCodeInput 41) (by decide +kernel)⟩

end VendingSystem.Platform
