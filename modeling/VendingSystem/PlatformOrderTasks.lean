import VendingSystem.PlatformOrderPayments

namespace VendingSystem.Platform

/-!
# What the tasks that write orders keep

A payment that a task has read is still stored for the same order when the
task writes.  With that, every payment, movement, refund and vending task
keeps the orders, and only a dispense that settles names the order of it.
-/

def PaymentTask.payment? : PaymentTask → Option Payment
  | .webhookFound payment _
  | .expireChecking payment
  | .expireQuerying payment
  | .expireCanceling payment
  | .expireSucceeded payment _
  | .expireLocally payment
  | .scheduledQuerying payment
  | .scheduledAnswered payment _
  | .onReadClaiming payment
  | .onReadQuerying payment _
  | .onReadReleasing payment _
  | .onReadAnswered payment _ _
  | .manualQuerying payment
  | .manualAnswered payment _ => some payment
  | _ => none

/-- A payment that was read is stored, for the same order. -/
def Db.Names (db : Db) (payment : Payment) : Prop :=
  ∃ stored, db.payments.find? payment.id = some stored ∧
    stored.orderId = payment.orderId

/-- The payment in a task's hands is stored. -/
def PaymentTask.InOrder (db : Db) (task : PaymentTask) : Prop :=
  ∀ payment, task.payment? = some payment → db.Names payment

open Transaction

variable {before after : Db} {payment : Payment} {paymentId : PaymentId}

theorem Db.names_of_find?
    {db : Db}
    (found : db.payments.find? paymentId = some payment) :
    db.Names payment := by
  obtain rfl : payment.id = paymentId := Table.key_of_find? found
  exact ⟨payment, found, rfl⟩

theorem Db.Names.ordered
    {db : Db}
    (names : db.Names payment) :
    ∀ stored, db.payments.find? payment.id = some stored →
      stored.orderId = payment.orderId := by
  obtain ⟨kept, found, same⟩ := names
  intro stored storedFound
  rw [found] at storedFound
  cases storedFound
  exact same

theorem Db.Names.later
    {dispensed : Option OrderId}
    (names : before.Names payment)
    (kept : OrdersKept dispensed before after) :
    after.Names payment := by
  obtain ⟨stored, found, same⟩ := names
  obtain ⟨later, laterFound, same'⟩ := kept.payments found
  exact ⟨later, laterFound, same'.trans same⟩

def PaymentTask.AllInOrder (db : Db) (tasks : List PaymentTask) : Prop :=
  ∀ task ∈ tasks, task.InOrder db

namespace PaymentTask.AllInOrder

variable {db : Db} {tasks : List PaymentTask}

theorem nil : AllInOrder db [] := fun _ member => by cases member

theorem singleton
    {task : PaymentTask}
    (inOrder : task.InOrder db) :
    AllInOrder db [task] := by
  intro other member
  rw [List.mem_singleton.mp member]
  exact inOrder

theorem of_none (none : ∀ task ∈ tasks, task.payment? = none) :
    AllInOrder db tasks := by
  intro task member payment held
  rw [none task member] at held
  cases held

theorem of_names
    (names : db.Names payment)
    (held : ∀ task ∈ tasks, task.payment? = some payment) :
    AllInOrder db tasks := by
  intro task member other same
  rw [held task member] at same
  cases same
  exact names

end PaymentTask.AllInOrder

theorem followUps_of_lookup
    {test : Payment → Bool}
    (next : Payment → PaymentTask)
    (holds : ∀ payment, (next payment).payment? = some payment)
    {answer : List PaymentTask}
    (committed :
      Commits
        (match (before.payments.find? paymentId).filter test with
          | none => pure []
          | some payment => pure [next payment] :
          DrizzleTransaction (List PaymentTask))
        before answer after) :
    PaymentTask.AllInOrder before answer := by
  cases selected : (before.payments.find? paymentId).filter test with
  | none =>
    rw [selected] at committed
    obtain ⟨rfl, _⟩ := commits_pure.mp committed
    exact .nil
  | some payment =>
    rw [selected] at committed
    obtain ⟨rfl, _⟩ := commits_pure.mp committed
    obtain ⟨found, _⟩ := Option.filter_eq_some_iff.mp selected
    apply PaymentTask.AllInOrder.singleton
    intro other held
    rw [holds] at held
    cases held
    exact Db.names_of_find? found

theorem finishTransition_answers
    (transition : PaymentTerminalTransitionInput)
    (input : PaymentInput) :
    Answers (· = []) (finishTransition transition input) :=
  Answers.bind fun _ => Answers.pure rfl

theorem insertPaymentEvent_answers
    (payment : Payment)
    (providerEventId : PaymentEventName) :
    Answers (· = []) (insertPaymentEvent payment providerEventId) :=
  Answers.bind fun _ => Answers.pure rfl

theorem handlePaymentWebhook_answers
    (payment : Payment)
    (webhook : ProviderPaymentWebhook)
    (input : PaymentInput) :
    Answers (· = []) (handlePaymentWebhook payment webhook input) := by
  unfold handlePaymentWebhook
  split
  · exact insertPaymentEvent_answers _ _
  · split
    · exact Answers.bind fun _ => Answers.pure rfl
    · split
      · exact finishTransition_answers _ _
      · exact finishTransition_answers _ _
      · exact insertPaymentEvent_answers _ _

theorem settleOnRead_answers
    (payment : Payment)
    (claim : LeaseClaim)
    (result : ProviderQueryResult)
    (input : PaymentInput) :
    Answers (· = []) (settleOnRead payment claim result input) := by
  unfold settleOnRead
  split
  · exact Answers.bind fun _ => Answers.pure rfl
  · exact finishTransition_answers _ _

theorem settleManually_answers
    (payment : Payment)
    (result : ProviderQueryResult)
    (input : PaymentInput) :
    Answers (· = []) (settleManually payment result input) := by
  unfold settleManually
  split
  · exact finishTransition_answers _ _
  · exact Answers.bind fun _ => Answers.pure rfl

theorem afterProviderError_payment?
    (payment : Payment)
    (input : PaymentInput) :
    ∀ next ∈ payment.afterProviderError input,
      next.payment? = some payment := by
  intro next member
  unfold Payment.afterProviderError at member
  split at member
  · rw [List.mem_singleton.mp member]
    rfl
  · cases member

theorem afterExpiryQuery_payment?
    (payment : Payment)
    (input : PaymentInput) :
    ∀ next ∈ payment.afterExpiryQuery input,
      next.payment? = some payment := by
  intro next member
  unfold Payment.afterExpiryQuery at member
  split at member
  · rw [List.mem_singleton.mp member]
    rfl
  · split at member
    · rw [List.mem_singleton.mp member]
      rfl
    · split at member
      · split at member
        · rw [List.mem_singleton.mp member]
          rfl
        · cases member
      · rw [List.mem_singleton.mp member]
        rfl
  · exact afterProviderError_payment? payment input next member

theorem afterExpiryCancel_payment?
    (payment : Payment)
    (input : PaymentInput) :
    ∀ next ∈ payment.afterExpiryCancel input,
      next.payment? = some payment := by
  intro next member
  unfold Payment.afterExpiryCancel at member
  split at member
  · rw [List.mem_singleton.mp member]
    rfl
  · exact afterProviderError_payment? payment input next member

theorem afterRestore_payment?
    (db : Db)
    (row : PaymentRow)
    (now : Time) :
    ∀ next ∈ db.afterRestore row now, next.payment? = none := by
  intro next member
  unfold Db.afterRestore at member
  dsimp only at member
  split at member
  · cases member
  · split at member
    · rw [List.mem_singleton.mp member]
      rfl
    · split at member
      · rw [List.mem_singleton.mp member]
        rfl
      · rw [List.mem_singleton.mp member]
        rfl
    · rcases List.mem_pair.mp member with rfl | rfl
      · rfl
      · rfl
    · cases member

theorem afterIntent_payment?
    (draft : LocalPaymentDraft)
    (claim : LeaseClaim)
    (answer : ProviderAnswer) :
    ∀ next ∈ draft.afterIntent claim answer, next.payment? = none := by
  intro next member
  unfold LocalPaymentDraft.afterIntent at member
  split at member
  all_goals
    rw [List.mem_singleton.mp member]
    rfl

theorem afterClose_payment?
    (row : PaymentRow)
    (answer : ProviderAnswer) :
    ∀ next ∈ row.afterClose answer, next.payment? = none := by
  intro next member
  unfold PaymentRow.afterClose at member
  split at member
  all_goals
    rw [List.mem_singleton.mp member]
    rfl

theorem PaymentTask.InOrder.followUps
    {task : PaymentTask}
    {input : PaymentInput}
    {answer : List PaymentTask}
    (inOrder : task.InOrder before)
    (committed : Commits (task.perform input) before answer after) :
    PaymentTask.AllInOrder before answer := by
  have nothing : Answers (· = []) (task.perform input) →
      AllInOrder before answer := by
    intro answers
    rw [answers before answer after committed]
    exact .nil
  have same : ∀ payment, task.payment? = some payment →
      Answers (fun tasks => ∀ next ∈ tasks, next.payment? = some payment)
        (task.perform input) →
      AllInOrder before answer := fun payment held answers =>
    .of_names (inOrder payment held) (answers _ _ _ committed)
  have without :
      Answers (fun tasks => ∀ next ∈ tasks, next.payment? = none)
        (task.perform input) →
      AllInOrder before answer := fun answers =>
    .of_none (answers _ _ _ committed)
  cases task with
  -- what a lookup answers was found just now
  | webhookReceived paymentId providerCode webhook =>
    exact followUps_of_lookup (.webhookFound · webhook) (fun _ => rfl)
      (commits_get_bind.mp committed)
  | expireOverdue paymentId =>
    exact followUps_of_lookup .expireChecking (fun _ => rfl)
      (commits_get_bind.mp committed)
  | reconcileScheduled paymentId =>
    exact followUps_of_lookup .scheduledQuerying (fun _ => rfl)
      (commits_get_bind.mp committed)
  | reconcileOnRead paymentId =>
    exact followUps_of_lookup .onReadClaiming (fun _ => rfl)
      (commits_get_bind.mp committed)
  | manualReconcile paymentId =>
    obtain ⟨payment, found, chosen⟩ :=
      commits_requireSome_bind.mp (commits_get_bind.mp committed)
    have answers : Answers
        (fun tasks => ∀ next ∈ tasks, next.payment? = some payment ∨
          next.payment? = none) (if payment.method = .paymentCode then
        (pure [.findActiveAttempt paymentId .querying] :
          DrizzleTransaction (List PaymentTask))
      else if payment.status ∈ reconcilablePaymentStatuses then
        pure [.manualQuerying payment]
      else pure []) := by
      split
      · exact Answers.pure (by simp [PaymentTask.payment?])
      · split
        · exact Answers.pure (by simp [PaymentTask.payment?])
        · exact Answers.pure (by simp)
    intro next member other held
    rcases answers _ _ _ chosen next member with isIt | isNone
    · rw [isIt] at held
      cases held
      exact Db.names_of_find? found
    · rw [isNone] at held
      cases held
  -- a payment in hand goes on to the next step
  | expireChecking payment =>
    apply same payment rfl
    apply Answers.bind
    intro db
    split
    · apply Answers.bind
      intro _
      exact Answers.pure (by simp)
    · exact Answers.pure (by simp [PaymentTask.payment?])
  | expireQuerying payment =>
    exact same payment rfl
      (Answers.pure (afterExpiryQuery_payment? payment input))
  | expireCanceling payment =>
    exact same payment rfl
      (Answers.pure (afterExpiryCancel_payment? payment input))
  | scheduledQuerying payment =>
    apply same payment rfl
    dsimp only [PaymentTask.perform]
    split
    · split
      · exact Answers.pure (by simp)
      · exact Answers.pure (by simp [PaymentTask.payment?])
    · exact Answers.pure (by simp)
  | onReadClaiming payment =>
    apply same payment rfl
    apply Answers.bind
    intro claim
    exact Answers.pure (by cases claim <;> simp [PaymentTask.payment?])
  | onReadQuerying payment claim =>
    apply same payment rfl
    dsimp only [PaymentTask.perform]
    split
    · exact Answers.pure (by simp [PaymentTask.payment?])
    · exact Answers.pure (by simp [PaymentTask.payment?])
  | manualQuerying payment =>
    apply same payment rfl
    dsimp only [PaymentTask.perform]
    split
    · exact Answers.pure (by simp [PaymentTask.payment?])
    · exact Answers.pure (by simp)
  -- the last step of a task
  | webhookFound payment webhook =>
    exact nothing (handlePaymentWebhook_answers _ _ _)
  | expireSucceeded payment result =>
    exact nothing (finishTransition_answers _ _)
  | scheduledAnswered payment result =>
    exact nothing (finishTransition_answers _ _)
  | onReadAnswered payment claim result =>
    exact nothing (settleOnRead_answers _ _ _ _)
  | manualAnswered payment result =>
    exact nothing (settleManually_answers _ _ _)
  | expireLocally payment | onReadReleasing payment claim
  | canceling row | closing row expired | parkingUnknown row message
  | takingOver row reason | requestRecovery attemptId status
  | paymentCodePending draft | intentPersisting draft claim intent
  | intentUncertain draft claim message
  | intentFailing draft claim reason | attempt statement
  | mockSucceed paymentId | mockFail paymentId reason =>
    exact nothing (Answers.bind fun _ => Answers.pure rfl)
  -- the other tasks hold no payment
  | cancelOrder orderId =>
    apply without
    apply Answers.bind
    intro db
    apply Answers.bind
    intro row
    split
    · exact Answers.pure (by simp)
    · exact Answers.throw _
    · exact Answers.pure (by simp [PaymentTask.payment?])
  | cancelingAtProvider row =>
    apply without
    apply Answers.pure
    split
    · simp [PaymentTask.payment?]
    · simp
  | closeOrReverse paymentId =>
    apply without
    apply Answers.bind
    intro db
    apply Answers.bind
    intro row
    split
    · exact Answers.pure (by simp)
    · split
      · exact Answers.pure (by simp [PaymentTask.payment?])
      · exact Answers.pure (by simp [PaymentTask.payment?])
  | closingAtProvider row =>
    exact without (Answers.pure (afterClose_payment? row _))
  | manualHandling paymentId reason =>
    apply without
    apply Answers.bind
    intro db
    apply Answers.bind
    intro row
    split
    · exact Answers.pure (by simp [PaymentTask.payment?])
    · exact Answers.pure (by simp [PaymentTask.payment?])
  | findActiveAttempt paymentId status =>
    apply without
    apply Answers.bind
    intro db
    apply Answers.pure
    simp [PaymentTask.payment?]
  | createOrder order machineId paymentExpiresAt =>
    apply without
    apply Answers.bind
    intro draft
    apply Answers.pure
    unfold LocalPaymentDraft.afterCreation
    split
    · simp [PaymentTask.payment?]
    · simp [PaymentTask.payment?]
  | restoreCreation orderId =>
    apply without
    apply Answers.bind
    intro db
    apply Answers.bind
    intro row
    exact Answers.pure (afterRestore_payment? db row _)
  | retryClaiming draft =>
    apply without
    apply Answers.bind
    intro claimed
    apply Answers.pure
    split
    · simp [PaymentTask.payment?]
    · simp
  | intentClaiming draft =>
    apply without
    apply Answers.bind
    intro claim
    apply Answers.pure
    simp [PaymentTask.payment?]
  | intentCreating draft claim =>
    apply without
    dsimp only [PaymentTask.perform]
    split
    · apply Answers.bind
      intro _
      exact Answers.pure (by simp [PaymentTask.payment?])
    · exact Answers.pure (afterIntent_payment? draft claim _)
  | intentDatabaseFailed draft claim =>
    apply without
    apply Answers.bind
    intro db
    apply Answers.pure
    split
    · simp [PaymentTask.payment?]
    · simp
  | intentCancelingAtProvider draft claim =>
    exact without (Answers.pure (by simp [PaymentTask.payment?]))

namespace OrdersKept

variable {answer : List PaymentTask} {input : PaymentInput}
  {dispensed : Option OrderId} {result : ProviderQueryResult}
  {Later Answer : Type}

theorem finishTransition
    {transition : PaymentTerminalTransitionInput}
    (ordered : ∀ payment,
      before.payments.find? transition.paymentId = some payment →
        payment.orderId = transition.orderId)
    (committed :
      Commits (finishTransition transition input) before answer after) :
    OrdersKept none before after := by
  obtain ⟨_, _, transitioned, returned⟩ := commits_bind.mp committed
  obtain ⟨_, rfl⟩ := commits_pure.mp returned
  exact transitionProviderPaymentTerminal ordered transitioned

theorem insertPaymentEvent
    (payment : Payment)
    (providerEventId : PaymentEventName) :
    Within (OrdersKept dispensed)
      (insertPaymentEvent payment providerEventId) := by
  apply Within.bind
  · exact Within.modify fun later => addPaymentEvent later _ _ _
  intro _
  exact Within.pure _

theorem handlePaymentWebhook
    {webhook : ProviderPaymentWebhook}
    (names : before.Names payment)
    (committed :
      Commits (handlePaymentWebhook payment webhook input)
        before answer after) :
    OrdersKept none before after := by
  unfold Platform.handlePaymentWebhook at committed
  split at committed
  · exact insertPaymentEvent _ _ committed
  · split at committed
    · obtain ⟨_, _, woken, returned⟩ := commits_bind.mp committed
      obtain ⟨_, rfl⟩ := commits_pure.mp returned
      exact wakeActiveAttempts _ _ woken
    · split at committed
      · exact finishTransition names.ordered committed
      · exact finishTransition names.ordered committed
      · exact insertPaymentEvent _ _ committed

theorem settleOnRead
    {claim : LeaseClaim}
    (names : before.Names payment)
    (committed :
      Commits (settleOnRead payment claim result input)
        before answer after) :
    OrdersKept none before after := by
  unfold Platform.settleOnRead at committed
  split at committed
  · obtain ⟨_, _, persisted, returned⟩ := commits_bind.mp committed
    obtain ⟨_, rfl⟩ := commits_pure.mp returned
    refine writesPayments _ _ _ ?_ persisted
    exact fun _ => rfl
  · exact finishTransition names.ordered committed

theorem settleManually
    (names : before.Names payment)
    (committed :
      Commits (settleManually payment result input) before answer after) :
    OrdersKept none before after := by
  unfold Platform.settleManually at committed
  split at committed
  · exact finishTransition names.ordered committed
  · obtain ⟨_, _, persisted, returned⟩ := commits_bind.mp committed
    obtain ⟨_, rfl⟩ := commits_pure.mp returned
    refine writesPayments _ _ _ ?_ persisted
    exact fun _ => rfl

/-- The statements of the payment-code workers and endpoints. -/
theorem attemptStatement
    {statement : AttemptStatement}
    {answer : Unit}
    (linked : before.Linked)
    (committed : Commits (statement.perform input) before answer after) :
    OrdersKept none before after := by
  cases statement with
  | createOrReplay orderId idempotencyKey =>
    obtain ⟨_, _, created, returned⟩ := commits_bind.mp committed
    obtain ⟨_, rfl⟩ := commits_pure.mp returned
    exact createOrReplayAttempt created
  | manualHandling attemptId claim reason =>
    exact markAttemptManualHandling _ _ _ _ _ committed
  | terminal transition newStatus providerEventId providerTradeNo
      failedReason allowIncidentLockedResolution =>
      simp only [AttemptStatement.perform, commits_get_bind,
        commits_requireSome_bind] at committed
      obtain ⟨attempt, found, payment, foundPayment, committed⟩ := committed
      obtain ⟨_, _, transitioned, returned⟩ := commits_bind.mp committed
      obtain ⟨_, rfl⟩ := commits_pure.mp returned
      refine transitionProviderPaymentTerminal ?_ transitioned
      intro stored storedFound
      obtain ⟨ofAttempt, ofAttemptFound, same⟩ :=
        linked.attempts attempt (Table.mem_of_find? found)
      rw [foundPayment] at ofAttemptFound
      cases ofAttemptFound
      have isIt : before.payments.find? payment.id = some payment := by
        rw [Table.key_of_find? foundPayment]
        exact foundPayment
      have sameRow : some stored = some payment := storedFound.symm.trans isIt
      cases sameRow
      exact same
  | _ =>
    dsimp only [AttemptStatement.perform, Platform.claimSubmission,
      claimRecoveryAttempt, renewRecoveryClaim, Platform.beginReversal,
      releaseRecoveryClaim, failCreatedAttempt] at committed
    exact updateAttemptWhere _ _ _ _ _ _ committed

theorem thenPure
    {first : DrizzleTransaction Answer}
    {answer : Answer → Later}
    (within : Within (OrdersKept dispensed) first) :
    Within (OrdersKept dispensed)
      (first >>= fun value => pure (answer value)) := by
  apply Within.bind
  · exact within
  intro _
  exact Within.pure _

/-- A query whose answer alone is used afterwards. -/
theorem reads
    {later : Db → DrizzleTransaction Later}
    (within : ∀ db, Within (OrdersKept dispensed) (later db)) :
    Within (OrdersKept dispensed) (get >>= later) := by
  apply Within.bind Within.get
  exact within

theorem requires
    {lookup : Option Answer}
    {refusal : ServiceError}
    {later : Answer → DrizzleTransaction Later}
    (within : ∀ value, Within (OrdersKept dispensed) (later value)) :
    Within (OrdersKept dispensed)
      (Transaction.requireSome lookup refusal >>= later) := by
  apply Within.bind
  · exact Within.requireSome _ _
  exact within

theorem paymentTask
    {task : PaymentTask}
    (linked : before.Linked)
    (inOrder : task.InOrder before)
    (committed : Commits (task.perform input) before answer after) :
    OrdersKept none before after := by
  have ofWithin : Within (OrdersKept none) (task.perform input) →
      OrdersKept none before after := fun within => within committed
  cases task with
  -- a terminal result needs the payment that was read
  | webhookFound payment webhook =>
    exact handlePaymentWebhook (inOrder payment rfl) committed
  | expireSucceeded payment result =>
    exact finishTransition (inOrder payment rfl).ordered committed
  | scheduledAnswered payment result =>
    exact finishTransition (inOrder payment rfl).ordered committed
  | onReadAnswered payment claim result =>
    exact settleOnRead (inOrder payment rfl) committed
  | manualAnswered payment result =>
    exact settleManually (inOrder payment rfl) committed
  | attempt statement =>
    obtain ⟨_, _, performed, returned⟩ := commits_bind.mp committed
    obtain ⟨_, rfl⟩ := commits_pure.mp returned
    exact attemptStatement linked performed
  | mockSucceed paymentId =>
    obtain ⟨_, _, marked, returned⟩ := commits_bind.mp committed
    obtain ⟨_, rfl⟩ := commits_pure.mp returned
    exact markMockSucceeded marked
  -- one transaction that checks what it needs itself
  | expireLocally payment =>
    exact ofWithin (thenPure (expirePayment payment _ _))
  | canceling row =>
    exact ofWithin (thenPure (cancelMachineOrder row _ _))
  | closing row expired =>
    exact ofWithin (thenPure (markPaymentClosed row expired _ _))
  | parkingUnknown row message =>
    exact ofWithin (thenPure (markPaymentUnknown row message _))
  | takingOver row reason =>
    exact ofWithin (thenPure (markPaymentManualHandling row reason _))
  | createOrder order machineId paymentExpiresAt =>
    exact ofWithin (thenPure (createAcceptedOrder order machineId _))
  | intentFailing draft claim reason =>
    exact ofWithin (thenPure (cancelLocalCreatedPayment draft reason _ _ _))
  | mockFail paymentId reason =>
    exact ofWithin (thenPure (markMockFailed paymentId reason _))
  -- a statement about the payment or its attempts alone
  | onReadClaiming payment =>
    exact ofWithin (thenPure (claimPaymentLease _ _ _ _ _))
  | intentClaiming draft =>
    exact ofWithin (thenPure (claimPaymentLease _ _ _ _ _))
  | retryClaiming draft =>
    exact ofWithin (thenPure (claimReconciledPayment _ _))
  | requestRecovery attemptId status =>
    exact ofWithin (thenPure (updateAttemptWhere _ _ _ _ _ _))
  | onReadReleasing payment claim =>
    apply ofWithin
    apply thenPure
    apply Within.modify
    intro db
    exact updatePayments db _ _ _ fun _ => rfl
  | paymentCodePending draft =>
    apply ofWithin
    apply thenPure
    apply Within.modify
    intro db
    exact updatePayments db _ _ _ fun _ => rfl
  | intentPersisting draft claim intent =>
    apply ofWithin
    apply thenPure
    apply Within.modify
    intro db
    exact updatePayments db _ _ _ fun _ => rfl
  | intentUncertain draft claim message =>
    apply ofWithin
    apply thenPure
    apply Within.modify
    intro db
    exact updatePayments db _ _ _ fun _ => rfl
  | intentCreating draft claim =>
    apply ofWithin
    dsimp only [PaymentTask.perform]
    split
    · apply thenPure
      apply Within.modify
      intro db
      exact updatePayments db _ _ _ fun _ => rfl
    · exact Within.pure _
  | expireChecking payment =>
    apply ofWithin
    apply reads
    intro db
    split
    · exact thenPure (wakeActiveAttempts _ _)
    · exact Within.pure _
  -- queries and calls of the provider
  | webhookReceived paymentId providerCode webhook =>
    apply ofWithin
    apply reads
    intro db
    split
    · exact Within.pure _
    · exact Within.pure _
  | expireOverdue paymentId =>
    apply ofWithin
    apply reads
    intro db
    split
    · exact Within.pure _
    · exact Within.pure _
  | reconcileScheduled paymentId =>
    apply ofWithin
    apply reads
    intro db
    split
    · exact Within.pure _
    · exact Within.pure _
  | reconcileOnRead paymentId =>
    apply ofWithin
    apply reads
    intro db
    split
    · exact Within.pure _
    · exact Within.pure _
  | manualReconcile paymentId =>
    apply ofWithin
    apply reads
    intro db
    apply requires
    intro payment
    split
    · exact Within.pure _
    · split
      · exact Within.pure _
      · exact Within.pure _
  | cancelOrder orderId =>
    apply ofWithin
    apply reads
    intro db
    apply requires
    intro row
    split
    · exact Within.pure _
    · exact Within.throw _
    · exact Within.pure _
  | closeOrReverse paymentId =>
    apply ofWithin
    apply reads
    intro db
    apply requires
    intro row
    split
    · exact Within.pure _
    · split
      · exact Within.pure _
      · exact Within.pure _
  | manualHandling paymentId reason =>
    apply ofWithin
    apply reads
    intro db
    apply requires
    intro row
    split
    · exact Within.pure _
    · exact Within.pure _
  | restoreCreation orderId =>
    apply ofWithin
    apply reads
    intro db
    apply requires
    intro row
    exact Within.pure _
  | findActiveAttempt paymentId status =>
    apply ofWithin
    apply reads
    intro db
    exact Within.pure _
  | intentDatabaseFailed draft claim =>
    apply ofWithin
    apply reads
    intro db
    exact Within.pure _
  | scheduledQuerying payment =>
    apply ofWithin
    dsimp only [PaymentTask.perform]
    split
    · exact Within.pure _
    · exact Within.pure _
  | onReadQuerying payment claim =>
    apply ofWithin
    dsimp only [PaymentTask.perform]
    split
    · exact Within.pure _
    · exact Within.pure _
  | manualQuerying payment =>
    apply ofWithin
    dsimp only [PaymentTask.perform]
    split
    · exact Within.pure _
    · exact Within.pure _
  | expireQuerying payment | expireCanceling payment
  | cancelingAtProvider row | closingAtProvider row
  | intentCancelingAtProvider draft claim =>
    exact ofWithin (Within.pure _)

end OrdersKept

def MovementTask.dispensedOrder (db : Db) : MovementTask → Option OrderId
  | .accept _ (some context) =>
    db.unsettledOrder context.vendingCommandId context.orderId
  | _ => none

/-- The order of the command that a vending task settles. -/
def VendingTask.dispensedOrder (db : Db) : VendingTask → Option OrderId
  | .dispenseResult delivery =>
    (db.vendingCommands.find? delivery.payload.commandNo).bind
      fun command => db.unsettledOrder command.id command.orderId
  | .timingOut command _
  | .resolvingNotDispensed command _ _ =>
    db.unsettledOrder command.id command.orderId
  | _ => none

namespace OrdersKept

variable {dispensed : Option OrderId}

theorem repairAcceptedCommand
    (machineId : MachineId)
    (input : RawMachineStockMovement) :
    Within (OrdersKept dispensed)
      (repairAcceptedOrderBoundDispenseCommand machineId input) := by
  unfold repairAcceptedOrderBoundDispenseCommand
  split
  · exact Within.pure _
  · apply reads
    intro db
    split
    · exact Within.pure _
    · exact claimCommand _ _ _ _ _

theorem responseForExisting
    (upload : MovementUpload)
    (existing : StoredRawMachineStockMovement) :
    Within (OrdersKept dispensed) (responseForExisting upload existing) := by
  unfold Platform.responseForExisting
  dsimp only
  split
  · split
    · exact Within.pure _
    · split
      · exact thenPure (repairAcceptedCommand _ _)
      · exact Within.pure _
  · apply thenPure
    apply Within.modify
    intro db
    exact of_same rfl rfl rfl

/-- Only the confirmation of a dispense writes an order. -/
theorem movementTask
    {task : MovementTask}
    {now : Time}
    {answer : List MovementTask}
    (committed : Commits (receiveRawMovement task now) before answer after) :
    OrdersKept (task.dispensedOrder before) before after := by
  have ofWithin :
      Within (OrdersKept (task.dispensedOrder before))
        (receiveRawMovement task now) →
      OrdersKept (task.dispensedOrder before) before after :=
    fun within => within committed
  cases task with
  | accept upload context =>
    cases context with
    | none =>
      exact ofWithin (thenPure (stockSide
        (StockSideOnly.insertRaw _ _ _ _)))
    | some context =>
      obtain ⟨_, _, confirmed, returned⟩ := commits_bind.mp committed
      obtain ⟨_, rfl⟩ := commits_pure.mp returned
      obtain ⟨_, middle, inserted, confirmed⟩ :=
        commits_bind.mp confirmed
      have only := StockSideOnly.insertRaw _ _ _ _ inserted
      have same : MovementTask.dispensedOrder before
          (.accept upload (some context)) =
            middle.unsettledOrder context.vendingCommandId context.orderId := by
        unfold MovementTask.dispensedOrder Db.unsettledOrder
        rw [only.commands]
      rw [same]
      exact (of_stockSideOnly only).trans
        (confirmOrderBoundDispenseSucceeded confirmed)
  | respondForExisting upload existing =>
    exact ofWithin (thenPure (responseForExisting _ _))
  | review upload reconciliation =>
    exact ofWithin (thenPure (stockSide
      (StockSideOnly.insertRaw _ _ _ _)))
  | apply upload =>
    exact ofWithin (thenPure (stockSide (StockSideOnly.applyTrusted _ _)))
  | markUnapplied upload =>
    apply ofWithin
    apply thenPure
    apply Within.modify
    intro db
    exact of_same rfl rfl rfl
  | restoreSlot upload =>
    apply ofWithin
    apply thenPure
    apply Within.modify
    intro db
    exact of_same rfl rfl rfl
  | lookUp upload =>
    apply ofWithin
    apply reads
    intro db
    split
    · exact Within.pure _
    · exact Within.pure _
  | lookUpAgain upload =>
    apply ofWithin
    apply reads
    intro db
    split
    · exact Within.pure _
    · exact Within.throw _
  | findContext upload =>
    apply ofWithin
    apply reads
    intro db
    exact Within.pure _
  | checkPlanogram upload =>
    apply ofWithin
    apply reads
    intro db
    split
    · exact Within.pure _
    · exact Within.pure _
  | checkField upload context =>
    apply ofWithin
    apply reads
    intro db
    split
    · exact Within.pure _
    · exact Within.pure _
  | dispatchRefunds upload | answered upload response
  | refused upload refusal =>
    exact ofWithin (Within.pure _)

theorem refundTask
    (task : RefundTask)
    (input : RefundInput) :
    Within (OrdersKept none) (task.perform input) := by
  cases task with
  -- what writes the order as well
  | requestFull orderId reason =>
    exact thenPure (requestFullRefund orderId reason _)
  | requestPartial orderId orderItemIds amountCents =>
    exact thenPure (requestPartialRefund orderId orderItemIds _ _)
  | settling refund outcome =>
    exact thenPure (applyTerminalState refund outcome _)
  -- what writes the refund alone
  | recordCreated refund =>
    exact thenPure (stockSide (StockSideOnly.addRefundEvent _ _))
  | claiming refundId =>
    apply thenPure
    apply reads
    intro db
    split
    · apply thenPure
      apply Within.modify
      intro later
      exact of_same rfl rfl rfl
    · exact Within.pure _
  | recordingProcessing refund =>
    apply thenPure
    apply Within.bind
    · exact stockSide (StockSideOnly.updateRefundStatus _ _ _)
    intro _
    exact stockSide (StockSideOnly.addRefundEvent _ _)
  | recordingUncertain refundId =>
    apply thenPure
    apply Within.bind
    · exact stockSide (StockSideOnly.updateRefundStatus _ _ _)
    intro _
    exact stockSide (StockSideOnly.addRefundEvent _ _)
  | markingProcessing refundId =>
    exact thenPure (stockSide (StockSideOnly.updateRefundStatus _ _ _))
  | webhookFound refund webhook =>
    dsimp only [RefundTask.perform]
    split
    · exact Within.pure _
    · split
      · exact Within.pure _
      · exact thenPure (stockSide (StockSideOnly.addRefundEvent _ _))
  -- queries and calls of the provider
  | dispatchPending =>
    apply reads
    intro db
    exact Within.pure _
  | dispatchClaimed refundId =>
    apply reads
    intro db
    exact Within.pure _
  | reconcile refundId =>
    apply reads
    intro db
    split
    · exact Within.pure _
    · exact Within.pure _
  | query refundId =>
    apply reads
    intro db
    apply requires
    intro refund
    split
    · exact Within.pure _
    · exact Within.pure _
  | webhookReceived webhook =>
    apply reads
    intro db
    exact Within.pure _
  | refunding refund => exact Within.pure _
  | querying refund manual => exact Within.pure _

theorem createCompensationDispenseCommand
    (input : CompensationInput)
    (now : Time) :
    Within (OrdersKept dispensed)
      (createCompensationDispenseCommand input now) := by
  intro first last answer committed
  obtain ⟨_, _, _, _, _, _, _, rfl⟩ :=
    commits_createCompensationDispenseCommand committed
  exact of_same rfl rfl rfl

/-- Only a command that settles is written to its order. -/
theorem vendingTask
    {task : VendingTask}
    {input : VendingInput}
    {answer : List VendingTask}
    (committed : Commits (task.perform input) before answer after) :
    OrdersKept (task.dispensedOrder before) before after := by
  have ofWithin :
      Within (OrdersKept (task.dispensedOrder before)) (task.perform input) →
      OrdersKept (task.dispensedOrder before) before after :=
    fun within => within committed
  cases task with
  -- a command that settles
  | dispenseResult delivery =>
    obtain ⟨_, _, received, returned⟩ := commits_bind.mp committed
    obtain ⟨_, rfl⟩ := commits_pure.mp returned
    exact receiveDispenseResult received
  | timingOut command now =>
    obtain ⟨_, _, marked, returned⟩ := commits_bind.mp committed
    obtain ⟨_, rfl⟩ := commits_pure.mp returned
    exact markDispenseResultUnknown (by decide) marked
  | resolvingNotDispensed command note requestRefund =>
    obtain ⟨_, _, resolved, returned⟩ := commits_bind.mp committed
    obtain ⟨_, rfl⟩ := commits_pure.mp returned
    exact resolveCommandAsNotDispensed resolved
  -- what writes commands, stock or the inbox
  | compensate compensation =>
    exact ofWithin (thenPure (createCompensationDispenseCommand _ _))
  | markingSent commandId =>
    apply ofWithin
    apply thenPure
    apply reads
    intro db
    split
    · exact Within.pure _
    · apply Within.bind
      · exact lockMachine _
      intro _
      apply Within.bind
      · exact lockOrder _
      intro _
      apply Within.modify
      intro later
      exact of_same rfl rfl rfl
  | recordingFailure commandId error =>
    apply ofWithin
    apply thenPure
    apply reads
    intro db
    split
    · exact Within.pure _
    · apply Within.bind
      · exact lockMachine _
      intro _
      apply Within.bind
      · exact lockOrder _
      intro _
      apply Within.modify
      intro later
      exact of_same rfl rfl rfl
  | commandAck machineId commandId =>
    apply ofWithin
    apply thenPure
    apply reads
    intro db
    split
    · exact Within.pure _
    · apply Within.bind
      · exact lockOrder _
      intro _
      apply Within.modify
      intro later
      exact of_same rfl rfl rfl
  | storingReceipt delivery =>
    apply ofWithin
    apply thenPure
    apply Within.modify
    intro db
    exact of_same rfl rfl rfl
  -- queries and publications
  | dispatchPendingCommands =>
    apply ofWithin
    apply reads
    intro db
    exact Within.pure _
  | dispatchPendingCommandsForOrder orderId =>
    apply ofWithin
    apply reads
    intro db
    exact Within.pure _
  | markTimedOutCommands =>
    apply ofWithin
    apply reads
    intro db
    exact Within.pure _
  | publishing command =>
    apply ofWithin
    dsimp only [VendingTask.perform]
    split
    · exact Within.pure _
    · exact Within.pure _
  | resolveNotDispensed commandId note requestRefund =>
    apply ofWithin
    apply reads
    intro db
    apply requires
    intro command
    exact Within.pure _

end OrdersKept

end VendingSystem.Platform
