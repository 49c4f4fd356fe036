import VendingSystem.Machine
import VendingSystem.PlatformPaymentTasks

namespace VendingSystem.Platform

/-!
# Notifications about one payment

A provider repeats its notifications, sends them in any order, and sends some
that fail the business validation until a configuration is back.  The handler
stores the identifier of each one that it takes, under one unique key, and
answers a known identifier as a duplicate.
-/

/-- The terminal status that a valid notification reports. -/
def ProviderPaymentWebhook.decision (webhook : ProviderPaymentWebhook) :
    Option ProviderTerminalStatus :=
  if webhook.businessValid then
    match webhook.paymentStatus with
    | .succeeded => some .succeeded
    | .failed => some .failed
    | _ => none
  else none

def ProviderTerminalStatus.paymentStatus :
    ProviderTerminalStatus → PaymentStatus
  | .succeeded => .succeeded
  | .failed => .failed

/-- The reason that the handler gives with a terminal status. -/
def ProviderTerminalStatus.webhookReason :
    ProviderTerminalStatus → Option String
  | .succeeded => none
  | .failed => some "webhook_failed"

/-- The transition that a notification asks for. -/
def Payment.webhookTransition?
    (payment : Payment)
    (webhook : ProviderPaymentWebhook) :
    Option PaymentTerminalTransitionInput :=
  if payment.method = .paymentCode then none
  else webhook.decision.map fun status =>
    payment.terminalTransition status webhook.providerEventId
      webhook.providerTradeNo status.webhookReason

/-- The key under which a notification's event is stored. -/
def Payment.eventKey
    (payment : Payment)
    (webhook : ProviderPaymentWebhook) :
    PaymentProviderCode × PaymentEventName :=
  (payment.providerCode, webhook.providerEventId)

/-- The payment is open for a transition. -/
def Db.takesTransition
    (db : Db)
    (transition : PaymentTerminalTransitionInput)
    (now : Time) : Bool :=
  (db.paymentRow transition.paymentId).any fun row =>
    db.admitsTransition transition row now

/-- The transition is written. -/
def Db.appliesTransition
    (db : Db)
    (transition : PaymentTerminalTransitionInput)
    (input : PaymentInput) : Bool :=
  match
    ((transitionProviderPaymentTerminal transition input.preferred
      input.now).execute db).1
  with
  | .ok .applied => true
  | _ => false

/-- The database, with what the payment's notifications have brought. -/
structure PaymentHistory where
  db : Db
  /-- What the valid terminal notifications reported, in order. -/
  decisions : List ProviderTerminalStatus
  /-- The events whose transition was written. -/
  applied : List (PaymentProviderCode × PaymentEventName)

/-- Any other operation of the service; none deletes an event. -/
structure OtherOperation where
  apply : Db → Db
  keepsEvents : ∀ (db : Db) key,
    (db.paymentEvents.find? key).isSome = true →
      ((apply db).paymentEvents.find? key).isSome = true

inductive PaymentHistoryEvent where
  | notification (webhook : ProviderPaymentWebhook) (input : PaymentInput)
  | other (operation : OtherOperation)

namespace PaymentHistory

def start (db : Db) : PaymentHistory where
  db := db
  decisions := []
  applied := []

/-- The events written after a notification was handled. -/
def appliedAfter
    (history : PaymentHistory)
    (payment : Payment)
    (webhook : ProviderPaymentWebhook)
    (input : PaymentInput) :
    List (PaymentProviderCode × PaymentEventName) :=
  match payment.webhookTransition? webhook with
  | none => history.applied
  | some transition =>
    if history.db.appliesTransition transition input then
      payment.eventKey webhook :: history.applied
    else history.applied

/-- The history after a notification about the payment was handled. -/
def notified
    (history : PaymentHistory)
    (payment : Payment)
    (webhook : ProviderPaymentWebhook)
    (input : PaymentInput) : PaymentHistory where
  db := ((handlePaymentWebhook payment webhook input).execute history.db).2
  decisions := history.decisions ++ webhook.decision.toList
  applied := history.appliedAfter payment webhook input

def step
    (paymentId : PaymentId)
    (history : PaymentHistory) :
    PaymentHistoryEvent → Option PaymentHistory
  | .notification webhook input =>
    match history.db.payments.find? paymentId with
    | none => some history
    | some payment => some (history.notified payment webhook input)
  | .other operation =>
    some { history with db := operation.apply history.db }

end PaymentHistory

/-- The payment's notifications among the other operations. -/
def paymentHistory (paymentId : PaymentId) :
    Machine PaymentHistory PaymentHistoryEvent where
  step := PaymentHistory.step paymentId

/-- All but the stored events and the queue of the code worker is the same. -/
def SameBusiness (before after : Db) : Prop :=
  after =
    { before with
      paymentEvents := after.paymentEvents
      paymentCodeAttempts := after.paymentCodeAttempts }

/-- Handling a notification is idempotent and not order-sensitive. -/
structure HandlesNotification
    (paymentId : PaymentId)
    (history : PaymentHistory)
    (webhook : ProviderPaymentWebhook)
    (input : PaymentInput)
    (next : PaymentHistory) : Prop where
  /-- One notification changes the business, as the first terminal one says. -/
  first : ¬ SameBusiness history.db next.db →
    history.applied = [] ∧ next.applied ≠ [] ∧
      ∃ status, webhook.decision = some status ∧
        next.decisions.head? = some status
  repeated : ∀ payment ∈ history.db.payments.find? paymentId,
    payment.eventKey webhook ∈ history.applied →
      payment.method ≠ .paymentCode → next.db = history.db
  /-- A valid event that the payment is open for is applied. -/
  taken : ∀ payment ∈ history.db.payments.find? paymentId,
    ∀ transition ∈ payment.webhookTransition? webhook,
      history.db.takesTransition transition input.now = true →
        payment.eventKey webhook ∉ history.applied →
          (∃ tasks after, (handlePaymentWebhook payment webhook input).Commits
            history.db tasks after) →
            ∃ final, next.db.payments.find? paymentId = some final ∧
              final.status = transition.newStatus.paymentStatus

/-- The step handles its notification, if it has one. -/
def HandlesEvent
    (paymentId : PaymentId)
    (history : PaymentHistory) : PaymentHistoryEvent → Prop
  | .notification webhook input =>
    ∀ next, history.step paymentId (.notification webhook input) =
        some next →
      HandlesNotification paymentId history webhook input next
  | .other _ => True

/-- The payment is not open for a result. -/
def Db.settled (db : Db) (paymentId : PaymentId) : Bool :=
  (db.payments.find? paymentId).all fun payment =>
    !canApplyProviderTerminalStatus payment.status

/--
An event that the payment is open for is stored only when it was applied, and
the first one applied agrees with the first terminal notification.  No other
operation opens a payment again that a notification settled.
-/
def UndisturbedEvent
    (paymentId : PaymentId)
    (history : PaymentHistory) : PaymentHistoryEvent → Prop
  | .notification webhook input =>
    ∀ payment ∈ history.db.payments.find? paymentId,
      ∀ transition ∈ payment.webhookTransition? webhook,
        history.db.takesTransition transition input.now = true →
          (history.db.hasPaymentEvent payment.providerCode
              webhook.providerEventId = true →
            payment.eventKey webhook ∈ history.applied) ∧
          (history.applied = [] →
            (history.decisions ++ webhook.decision.toList).head? =
              some transition.newStatus)
  | .other operation =>
    history.applied ≠ [] → history.db.settled paymentId = true →
      (operation.apply history.db).settled paymentId = true

instance (paymentId : PaymentId) (history : PaymentHistory) :
    ∀ event, Decidable (UndisturbedEvent paymentId history event)
  | .notification _ _ =>
    inferInstanceAs (Decidable (∀ payment ∈ _, ∀ transition ∈ _, _ → _))
  | .other _ => inferInstanceAs (Decidable (_ → _ → _))

open Transaction

/-- Payments and stored events are the same. -/
def PaymentsKept (before after : Db) : Prop :=
  after.payments = before.payments ∧
    after.paymentEvents = before.paymentEvents

instance : IsPreorder Db PaymentsKept where
  refl _ := ⟨rfl, rfl⟩
  trans _ _ _ leading trailing :=
    ⟨trailing.1.trans leading.1, trailing.2.trans leading.2⟩

namespace PaymentsKept

theorem createPendingDispatchCommands (orderId : OrderId) :
    Within PaymentsKept (createPendingDispatchCommands orderId) :=
  createPendingDispatchCommands_within (fun _ _ => ⟨rfl, rfl⟩) orderId

theorem releaseActiveReservations
    (orderId : OrderId)
    (reason : ReservationReleaseReason)
    (preferred : InventoryReservation → Nat) :
    Within PaymentsKept
      (releaseActiveReservationsForOrder orderId reason preferred) := by
  apply Within.bind Within.get
  intro db
  apply Within.forM
  intro reservation first last done committed
  rcases commits_releaseReservation committed with
    rfl | ⟨_, _, _, _, _, _, rfl⟩
  · exact ⟨rfl, rfl⟩
  · exact ⟨rfl, rfl⟩

theorem cancelUnpaidOrder
    (db : Db)
    (orderId : OrderId)
    (orderStatus : OrderStatus) :
    PaymentsKept db (db.cancelUnpaidOrder orderId orderStatus) := by
  unfold Db.cancelUnpaidOrder
  split
  · exact ⟨rfl, rfl⟩
  · exact ⟨rfl, rfl⟩

theorem finishPaymentCodeAttempt
    (transition : Option PaymentCodeAttemptTerminalTransition) :
    Within PaymentsKept (finishPaymentCodeAttempt transition) := by
  cases transition with
  | none => exact Within.pure _
  | some transition =>
    apply Within.modify
    intro db
    exact ⟨rfl, rfl⟩

end PaymentsKept

theorem SameBusiness.refl (db : Db) : SameBusiness db db := rfl

theorem SameBusiness.addPaymentEvent
    (db : Db)
    (providerCode : PaymentProviderCode)
    (providerEventId : PaymentEventName)
    (paymentId : PaymentId) :
    SameBusiness db
      (db.addPaymentEvent providerCode providerEventId paymentId) := rfl

variable {db after before : Db} {now : Time} {row : PaymentRow}
  {payment : Payment} {transition : PaymentTerminalTransitionInput}
  {preferred : InventoryReservation → Nat} {webhook : ProviderPaymentWebhook}
  {tasks : List PaymentTask} {input : PaymentInput}
  {history next : PaymentHistory} {paymentId : PaymentId}

theorem Db.addPaymentEvent_of_has
    {providerCode : PaymentProviderCode}
    {providerEventId : PaymentEventName}
    (known : db.hasPaymentEvent providerCode providerEventId = true)
    (paymentId : PaymentId) :
    db.addPaymentEvent providerCode providerEventId paymentId = db := by
  unfold Db.addPaymentEvent Table.insertOrIgnore
  rw [dif_neg]
  intro absent
  rw [Db.hasPaymentEvent, absent] at known
  cases known

theorem Db.addPaymentEvent_keeps
    {key : PaymentProviderCode × PaymentEventName}
    (stored : (db.paymentEvents.find? key).isSome = true)
    (providerCode : PaymentProviderCode)
    (providerEventId : PaymentEventName)
    (paymentId : PaymentId) :
    ((db.addPaymentEvent providerCode providerEventId
      paymentId).paymentEvents.find? key).isSome = true := by
  simp only [Db.addPaymentEvent, Table.find?_insertOrIgnore]
  split
  · rfl
  · exact stored

theorem Db.addPaymentEvent_stores
    (db : Db)
    (providerCode : PaymentProviderCode)
    (providerEventId : PaymentEventName)
    (paymentId : PaymentId) :
    ((db.addPaymentEvent providerCode providerEventId
      paymentId).paymentEvents.find? (providerCode, providerEventId)).isSome =
        true := by
  simp [Db.addPaymentEvent, Table.find?_insertOrIgnore]

/-- What a transition about a stored payment did. -/
inductive TransitionEffect
    (transition : PaymentTerminalTransitionInput)
    (now : Time)
    (before : Db) :
    PaymentTerminalTransitionResult → Db → Prop where
  /-- The event was known, or the payment was not open for it. -/
  | kept {answer : PaymentTerminalTransitionResult} :
      answer ≠ .applied →
      before.hasPaymentEvent transition.providerCode
          transition.providerEventId = true ∨
        before.takesTransition transition now = false →
      TransitionEffect transition now before answer before
  | applied {after : Db} {final : Payment} :
      before.hasPaymentEvent transition.providerCode
        transition.providerEventId = false →
      before.takesTransition transition now = true →
      after.payments.find? transition.paymentId = some final →
      final.status = transition.newStatus.paymentStatus →
      after.paymentEvents = (before.addPaymentEvent transition.providerCode
        transition.providerEventId transition.paymentId).paymentEvents →
      TransitionEffect transition now before .applied after

/-- An admitted transition finds the condition that its write repeats. -/
theorem mutablePaymentWhere_of_admits
    {input : PaymentTerminalTransitionInput}
    (admits : db.admitsTransition input row now = true)
    (named : row.payment.id = input.paymentId) :
    input.mutablePaymentWhere row.payment = true := by
  simp only [Db.admitsTransition, Bool.and_eq_true] at admits
  obtain ⟨⟨⟨_, canApply⟩, _⟩, guarded⟩ := admits
  simp only [PaymentTerminalTransitionInput.mutablePaymentWhere,
    Bool.and_eq_true, decide_eq_true_eq]
  refine ⟨⟨named, canApply⟩, ?_⟩
  cases leaseGuard : input.leaseGuard with
  | none => rfl
  | some claim =>
    rw [leaseGuard] at guarded
    simp only [Option.all_some, PaymentTerminalLeaseGuard.admits,
      Lease.heldBy, Bool.and_eq_true, decide_eq_true_eq] at guarded ⊢
    exact guarded.1

theorem updatePayment_stored
    {payments : Table Payment Payment.id}
    (found : payments.find? payment.id = some payment)
    {test : Payment → Bool}
    (matched : test payment = true)
    (change : Payment → Payment)
    (keepsId : ∀ row, (change row).id = row.id) :
    (payments.updateWhere test change keepsId).find? payment.id =
      some (change payment) := by
  rw [Table.find?_updateWhere, found]
  simp [matched]

/-- A status that is written is the reported one, and no event goes. -/
theorem applyProviderStatus_writes
    {answer : Unit}
    (named : row.payment.id = transition.paymentId)
    (found : before.payments.find? row.payment.id = some row.payment)
    (matched : transition.mutablePaymentWhere row.payment = true)
    (committed :
      Commits (applyProviderStatus transition row preferred)
        before answer after) :
    after.paymentEvents = before.paymentEvents ∧
      ∃ final, after.payments.find? transition.paymentId = some final ∧
        final.status = transition.newStatus.paymentStatus := by
  unfold applyProviderStatus at committed
  cases status : transition.newStatus with
  | succeeded =>
    simp only [status, applyProviderSuccess, commits_modify_bind] at committed
    obtain ⟨created, dispatched, dispatch, ended⟩ :=
      commits_bind.mp committed
    obtain ⟨_, rfl⟩ := commits_pure.mp ended
    have kept := PaymentsKept.createPendingDispatchCommands _ dispatch
    refine ⟨kept.2, row.payment.succeeded transition, ?_, rfl⟩
    rw [kept.1, ← named]
    exact updatePayment_stored found matched
      (fun payment => payment.succeeded transition) (fun _ => rfl)
  | failed =>
    simp only [status, applyProviderFailure, commits_modify_bind] at committed
    have canceled := PaymentsKept.cancelUnpaidOrder
      (before.failPayment transition) transition.orderId row.order.status
    have kept := PaymentsKept.releaseActiveReservations _ _ _ committed
    refine ⟨kept.2.trans canceled.2, row.payment.failed transition, ?_, rfl⟩
    rw [kept.1, canceled.1, ← named]
    exact updatePayment_stored found matched
      (fun payment => payment.failed transition) (fun _ => rfl)

/-- A transition that names its payment's provider keeps or applies. -/
theorem transitionProviderPaymentTerminal_cases
    {answer : PaymentTerminalTransitionResult}
    (provider : ∀ payment,
      before.payments.find? transition.paymentId = some payment →
        payment.providerCode = transition.providerCode)
    (committed :
      Commits (transitionProviderPaymentTerminal transition preferred now)
        before answer after) :
    TransitionEffect transition now before answer after := by
  rw [transitionProviderPaymentTerminal, commits_get_bind] at committed
  split at committed
  next known =>
    obtain ⟨rfl, rfl⟩ := commits_pure.mp committed
    exact .kept (by decide) (.inl known)
  next fresh =>
  simp only [Bool.not_eq_true] at fresh
  cases admitted : (before.paymentRow transition.paymentId).filter
      (fun row => before.admitsTransition transition row now) with
  | none =>
    rw [admitted] at committed
    obtain ⟨rfl, rfl⟩ := commits_pure.mp committed
    refine .kept (by decide) (.inr ?_)
    rw [Option.filter_eq_none_iff] at admitted
    unfold Db.takesTransition
    cases joined : after.paymentRow transition.paymentId with
    | none => rfl
    | some row => simpa using admitted row joined
  | some row =>
    rw [admitted] at committed
    obtain ⟨joined, admits⟩ := Option.filter_eq_some_iff.mp admitted
    obtain ⟨found, _⟩ := Db.paymentRow_eq_some_iff.mp joined
    have named : row.payment.id = transition.paymentId :=
      Table.key_of_find? found
    have sameProvider := provider row.payment found
    have takes : before.takesTransition transition now = true := by
      simp [Db.takesTransition, joined, admits]
    simp only [applyProviderTerminal, commits_get_bind, sameProvider, fresh,
      Bool.false_eq_true, ↓reduceIte, commits_modify_bind] at committed
    obtain ⟨_, written, apply, rest⟩ := commits_bind.mp committed
    obtain ⟨_, finished, finish, done⟩ := commits_bind.mp rest
    obtain ⟨rfl, rfl⟩ := commits_pure.mp done
    rw [← named] at found
    obtain ⟨events, final, stored, status⟩ := applyProviderStatus_writes
      named
      (show (before.addPaymentEvent _ _ _).payments.find? _ = _ from found)
      (mutablePaymentWhere_of_admits admits named) apply
    have kept := PaymentsKept.finishPaymentCodeAttempt _ finish
    exact .applied fresh takes (kept.1 ▸ stored) status (kept.2.trans events)

theorem handlePaymentWebhook_of_transition
    (asks : payment.webhookTransition? webhook = some transition)
    (input : PaymentInput) :
    handlePaymentWebhook payment webhook input =
      finishTransition transition input := by
  unfold Payment.webhookTransition? at asks
  split at asks
  · cases asks
  next notCode =>
  obtain ⟨status, decided, rfl⟩ := Option.map_eq_some_iff.mp asks
  unfold ProviderPaymentWebhook.decision at decided
  split at decided
  next valid =>
    simp only [handlePaymentWebhook, valid, Bool.not_true,
      Bool.false_eq_true, ↓reduceIte, notCode]
    split at decided
    next succeeded =>
      cases decided
      simp only [succeeded, ProviderTerminalStatus.webhookReason]
    next failed =>
      cases decided
      simp only [failed, ProviderTerminalStatus.webhookReason]
    · cases decided
  · cases decided

theorem decision_of_transition
    (asks : payment.webhookTransition? webhook = some transition) :
    payment.method ≠ .paymentCode ∧
      webhook.decision = some transition.newStatus ∧
      transition.paymentId = payment.id ∧
      transition.providerCode = payment.providerCode ∧
      transition.providerEventId = webhook.providerEventId := by
  unfold Payment.webhookTransition? at asks
  split at asks
  · cases asks
  next notCode =>
  obtain ⟨status, decided, rfl⟩ := Option.map_eq_some_iff.mp asks
  exact ⟨notCode, decided, rfl, rfl, rfl⟩

/-- What a notification without a transition may write. -/
structure QuietNotification
    (payment : Payment)
    (webhook : ProviderPaymentWebhook)
    (before after : Db) : Prop where
  business : SameBusiness before after
  keepsEvents : ∀ key, (before.paymentEvents.find? key).isSome = true →
    (after.paymentEvents.find? key).isSome = true
  known : before.hasPaymentEvent payment.providerCode
      webhook.providerEventId = true →
    payment.method ≠ .paymentCode → after = before

theorem QuietNotification.refl
    (payment : Payment)
    (webhook : ProviderPaymentWebhook)
    (db : Db) : QuietNotification payment webhook db db where
  business := rfl
  keepsEvents _ stored := stored
  known _ _ := rfl

theorem insertPaymentEvent_quiet
    (committed :
      Commits (insertPaymentEvent payment webhook.providerEventId)
        before tasks after) :
    QuietNotification payment webhook before after := by
  simp only [insertPaymentEvent, commits_modify_bind, commits_pure] at committed
  obtain ⟨_, rfl⟩ := committed
  exact {
    business := .addPaymentEvent before _ _ _
    keepsEvents := fun _ stored => Db.addPaymentEvent_keeps stored _ _ _
    known := fun known _ => Db.addPaymentEvent_of_has known _ }

theorem handlePaymentWebhook_quiet
    (asksNothing : payment.webhookTransition? webhook = none)
    (committed :
      Commits (handlePaymentWebhook payment webhook input)
        before tasks after) :
    QuietNotification payment webhook before after := by
  unfold handlePaymentWebhook at committed
  split at committed
  · exact insertPaymentEvent_quiet committed
  next valid =>
  simp only [Bool.not_eq_true', Bool.not_eq_false] at valid
  split at committed
  next isCode =>
    simp only [wakeActiveAttempts, commits_modify_bind, commits_pure]
      at committed
    obtain ⟨_, rfl⟩ := committed
    exact {
      business := rfl
      keepsEvents := fun _ stored => stored
      known := fun _ notCode => absurd isCode notCode }
  next notCode =>
  simp only [Payment.webhookTransition?, notCode, ↓reduceIte,
    Option.map_eq_none_iff, ProviderPaymentWebhook.decision, valid]
    at asksNothing
  split at committed
  next succeeded => simp [succeeded] at asksNothing
  next failed => simp [failed] at asksNothing
  · exact insertPaymentEvent_quiet committed

/-- What handling a notification made of the history. -/
inductive NotificationEffect
    (history : PaymentHistory)
    (payment : Payment)
    (webhook : ProviderPaymentWebhook)
    (input : PaymentInput) : PaymentHistory → Prop where
  | quiet {db : Db} :
      payment.webhookTransition? webhook = none →
      QuietNotification payment webhook history.db db →
      NotificationEffect history payment webhook input
        { history with
          db
          decisions := history.decisions ++ webhook.decision.toList }
  | failed {transition : PaymentTerminalTransitionInput} :
      payment.webhookTransition? webhook = some transition →
      (∀ tasks after, ¬ (handlePaymentWebhook payment webhook input).Commits
        history.db tasks after) →
      NotificationEffect history payment webhook input
        { history with
          decisions := history.decisions ++ webhook.decision.toList }
  | transition
      {transition : PaymentTerminalTransitionInput}
      {answer : PaymentTerminalTransitionResult}
      {db : Db} :
      payment.webhookTransition? webhook = some transition →
      TransitionEffect transition input.now history.db answer db →
      NotificationEffect history payment webhook input
        { db
          decisions := history.decisions ++ webhook.decision.toList
          applied :=
            if answer = .applied then
              payment.eventKey webhook :: history.applied
            else history.applied }

theorem PaymentHistory.notified_effect
    (found : history.db.payments.find? paymentId = some payment)
    (webhook : ProviderPaymentWebhook)
    (input : PaymentInput) :
    NotificationEffect history payment webhook input
      (history.notified payment webhook input) := by
  unfold PaymentHistory.notified PaymentHistory.appliedAfter
  cases asks : payment.webhookTransition? webhook with
  | none =>
    rcases execute_cases (handlePaymentWebhook payment webhook input)
        history.db with
      ⟨refusal, refused⟩ | ⟨tasks, after, committed, executed⟩
    · rw [refused]
      exact .quiet asks (.refl _ _ _)
    · rw [executed]
      exact .quiet asks (handlePaymentWebhook_quiet asks committed)
  | some transition =>
    obtain ⟨_, _, names, provider, _⟩ := decision_of_transition asks
    have sameProvider : ∀ stored,
        history.db.payments.find? transition.paymentId = some stored →
          stored.providerCode = transition.providerCode := by
      intro stored isStored
      have named : payment.id = paymentId := Table.key_of_find? found
      rw [names, named, found] at isStored
      cases isStored
      exact provider.symm
    rcases execute_cases (transitionProviderPaymentTerminal transition
        input.preferred input.now) history.db with
      ⟨refusal, refused⟩ | ⟨answer, after, committed, executed⟩
    · have noCommit : ∀ tasks after,
          ¬ (handlePaymentWebhook payment webhook input).Commits
            history.db tasks after := by
        intro tasks after committed
        rw [handlePaymentWebhook_of_transition asks, finishTransition]
          at committed
        obtain ⟨answer, middle, transitioned, _⟩ :=
          commits_bind.mp committed
        rw [execute_of_commits transitioned] at refused
        cases refused
      have notApplied :
          history.db.appliesTransition transition input = false := by
        simp [Db.appliesTransition, refused]
      simp only [notApplied, Bool.false_eq_true, ↓reduceIte]
      rcases execute_cases (handlePaymentWebhook payment webhook input)
          history.db with
        ⟨refusal, aborted⟩ | ⟨tasks, after, committed, _⟩
      · rw [aborted]
        exact .failed asks noCommit
      · exact absurd committed (noCommit tasks after)
    · have handled : (handlePaymentWebhook payment webhook input).Commits
          history.db [] after := by
        rw [handlePaymentWebhook_of_transition asks, finishTransition]
        exact commits_bind.mpr
          ⟨answer, after, committed, commits_pure.mpr ⟨rfl, rfl⟩⟩
      have applies : history.db.appliesTransition transition input = true ↔
          answer = .applied := by
        cases answer <;> simp [Db.appliesTransition, executed]
      rw [execute_of_commits handled]
      simp only [applies]
      exact .transition asks
        (transitionProviderPaymentTerminal_cases sameProvider committed)

/-- An applied event is stored, and settled the payment. -/
structure HistoryInvariant
    (paymentId : PaymentId)
    (history : PaymentHistory) : Prop where
  stored : ∀ key ∈ history.applied,
    (history.db.paymentEvents.find? key).isSome = true
  settled : history.applied ≠ [] → history.db.settled paymentId = true

theorem Db.not_settled_of_takes
    (takes : db.takesTransition transition now = true) :
    db.settled transition.paymentId = false := by
  obtain ⟨row, joined, admits⟩ := (Option.any_eq_true _ _).mp takes
  obtain ⟨found, _⟩ := Db.paymentRow_eq_some_iff.mp joined
  simp only [Db.admitsTransition, Bool.and_eq_true] at admits
  simp [Db.settled, found, admits.1.1.2]

theorem ProviderTerminalStatus.settles (status : ProviderTerminalStatus) :
    canApplyProviderTerminalStatus status.paymentStatus = false := by
  cases status with
  | succeeded => decide
  | failed => decide

theorem PaymentHistory.step_notification
    (step : history.step paymentId (.notification webhook input) =
      some next) :
    history.db.payments.find? paymentId = none ∧ next = history ∨
      ∃ payment, history.db.payments.find? paymentId = some payment ∧
        NotificationEffect history payment webhook input next := by
  simp only [PaymentHistory.step] at step
  cases found : history.db.payments.find? paymentId with
  | none =>
    rw [found] at step
    cases step
    exact .inl ⟨rfl, rfl⟩
  | some payment =>
    rw [found] at step
    cases step
    exact .inr ⟨payment, rfl, notified_effect found webhook input⟩

theorem NotificationEffect.keeps
    (found : history.db.payments.find? paymentId = some payment)
    (invariant : HistoryInvariant paymentId history)
    (effect : NotificationEffect history payment webhook input next) :
    HistoryInvariant paymentId next := by
  have named : payment.id = paymentId := Table.key_of_find? found
  cases effect with
  | quiet asks quiet =>
    refine ⟨fun key isApplied =>
      quiet.keepsEvents key (invariant.stored key isApplied), ?_⟩
    intro isApplied
    have settled := invariant.settled isApplied
    have same := congrArg Db.payments quiet.business
    simp only at same
    simpa [Db.settled, same] using settled
  | failed asks noCommit => exact ⟨invariant.stored, invariant.settled⟩
  | transition asks made =>
    obtain ⟨_, _, names, provider, event⟩ := decision_of_transition asks
    cases made with
    | kept notApplied reason =>
      rw [if_neg notApplied]
      exact ⟨invariant.stored, invariant.settled⟩
    | applied fresh takes isFinal status events =>
      rw [if_pos rfl]
      constructor
      · intro key isApplied
        rw [events]
        rcases List.mem_cons.mp isApplied with rfl | earlier
        · rw [provider, event]
          exact Db.addPaymentEvent_stores _ _ _ _
        · exact Db.addPaymentEvent_keeps (invariant.stored key earlier) _ _ _
      · intro _
        rw [names, named] at isFinal
        simp [Db.settled, isFinal, status,
          ProviderTerminalStatus.settles]

theorem HistoryInvariant.step
    {event : PaymentHistoryEvent}
    (invariant : HistoryInvariant paymentId history)
    (undisturbed : UndisturbedEvent paymentId history event)
    (step : (paymentHistory paymentId).step history event = some next) :
    HistoryInvariant paymentId next := by
  cases event with
  | notification webhook input =>
    rcases PaymentHistory.step_notification step with
      ⟨_, rfl⟩ | ⟨payment, found, effect⟩
    · exact invariant
    · exact effect.keeps found invariant
  | other operation =>
    cases step
    exact ⟨fun key isApplied =>
      operation.keepsEvents _ _ (invariant.stored key isApplied),
      fun isApplied =>
        undisturbed isApplied (invariant.settled isApplied)⟩

theorem NotificationEffect.handles
    (found : history.db.payments.find? paymentId = some payment)
    (invariant : HistoryInvariant paymentId history)
    (undisturbed :
      UndisturbedEvent paymentId history (.notification webhook input))
    (effect : NotificationEffect history payment webhook input next) :
    HandlesNotification paymentId history webhook input next := by
  have named : payment.id = paymentId := Table.key_of_find? found
  have isKnown (isApplied : payment.eventKey webhook ∈ history.applied) :
      history.db.hasPaymentEvent payment.providerCode
        webhook.providerEventId = true := invariant.stored _ isApplied
  cases effect with
  | quiet asks quiet =>
    refine ⟨fun changed => absurd quiet.business changed, ?_, ?_⟩
    · intro stored isStored isApplied notCode
      cases isStored.symm.trans found
      exact quiet.known (isKnown isApplied) notCode
    · intro stored isStored transition isAsked
      cases isStored.symm.trans found
      rw [asks] at isAsked
      cases isAsked
  | failed asks noCommit =>
    refine ⟨fun changed => absurd (SameBusiness.refl _) changed,
      fun _ _ _ _ => rfl, ?_⟩
    intro stored isStored transition _ _ _ ⟨tasks, after, committed⟩
    cases isStored.symm.trans found
    exact absurd committed (noCommit tasks after)
  | @transition transition answer db asks made =>
    obtain ⟨_, decided, names, provider, event⟩ :=
      decision_of_transition asks
    cases made with
    | kept notApplied reason =>
      refine ⟨fun changed => absurd (SameBusiness.refl _) changed,
        fun _ _ _ _ => rfl, ?_⟩
      intro stored isStored asked isAsked takes fresh _
      cases isStored.symm.trans found
      cases (Option.mem_def.mp isAsked).symm.trans asks
      rcases reason with known | closed
      · rw [provider, event] at known
        exact absurd
          ((undisturbed payment found transition asks takes).1 known)
          fresh
      · rw [closed] at takes
        cases takes
    | applied fresh takes isFinal status events =>
      rw [provider, event] at fresh
      have notYet : payment.eventKey webhook ∉ history.applied := by
        intro isApplied
        rw [isKnown isApplied] at fresh
        cases fresh
      have first : history.applied = [] := by
        by_contra isApplied
        have settled := invariant.settled isApplied
        rw [← named, ← names, Db.not_settled_of_takes takes] at settled
        cases settled
      refine ⟨fun _ => ⟨first, by simp, transition.newStatus, decided,
        (undisturbed payment found transition asks takes).2 first⟩,
        ?_, ?_⟩
      · intro stored isStored isApplied _
        cases isStored.symm.trans found
        exact absurd isApplied notYet
      · intro stored isStored asked isAsked _ _ _
        cases isStored.symm.trans found
        cases (Option.mem_def.mp isAsked).symm.trans asks
        rw [names, named] at isFinal
        exact ⟨_, isFinal, status⟩

/--
When the events that a payment waits for were not stored without being
applied, its notifications are idempotent and their order does not matter.
-/
theorem notifications_idempotent
    (paymentId : PaymentId)
    (db : Db)
    (events : List PaymentHistoryEvent)
    (undisturbed : (paymentHistory paymentId).RunMeets
      (UndisturbedEvent paymentId) (.start db) events) :
    (paymentHistory paymentId).RunMeets (HandlesEvent paymentId)
      (.start db) events := by
  have start : HistoryInvariant paymentId (.start db) :=
    ⟨fun _ isApplied => absurd isApplied List.not_mem_nil,
      fun isApplied => absurd rfl isApplied⟩
  refine Machine.runMeets_of_meets (fun invariant isUndisturbed step =>
    invariant.step isUndisturbed step) ?_ start undisturbed
  intro history event invariant isUndisturbed
  cases event with
  | other operation => trivial
  | notification webhook input =>
    intro next step
    rcases PaymentHistory.step_notification step with
      ⟨absent, rfl⟩ | ⟨payment, found, effect⟩
    · refine ⟨fun changed => absurd (SameBusiness.refl _) changed,
        fun _ _ _ _ => rfl, ?_⟩
      intro payment found
      rw [absent] at found
      cases found
    · exact effect.handles found invariant isUndisturbed

/-- An open payment by QR code, and its order. -/
def openPaymentDb : Db :=
  { Db.empty with
    orders := Table.empty.insertOrIgnore
      { id := 1
        machineId := 1
        status := .pendingPayment
        paymentState := .awaitingPayment
        fulfillmentState := .awaitingFulfillment
        totalAmountCents := 300
        paymentId := some 1 }
    payments := Table.empty.insertOrIgnore
      { id := 1
        orderId := 1
        providerCode := .alipay
        method := .qrCode
        status := .pending
        amountCents := 300
        providerTradeNo := none
        paymentUrl := none
        expiresAt := none
        failedReason := none
        intentCreationLease := .unclaimed } }

/-- A failure that the provider reports. -/
def failureNotice
    (event : String)
    (businessValid : Bool) : PaymentHistoryEvent :=
  .notification
    { providerEventId := .named event
      paymentStatus := .failed
      providerTradeNo := none
      businessValid }
    { now := 0
      token := 0
      pastTimeoutCompensation := false
      answer := .unsupported
      eventName := .named "unused"
      preferred := fun _ => 0
      preferredLine := fun _ => 0 }

/-- An invalid event, a valid one, and the valid one again. -/
theorem notifications_idempotent_valid :
    (paymentHistory 1).RunMeets (HandlesEvent 1) (.start openPaymentDb)
      [failureNotice "first" false, failureNotice "second" true,
        failureNotice "second" true] :=
  notifications_idempotent 1 openPaymentDb _ (by decide)

/-- The event that failed the validation is lost when it is valid. -/
theorem invalid_event_is_lost :
    ¬ ∀ paymentId db events,
      (paymentHistory paymentId).RunMeets (HandlesEvent paymentId)
        (.start db) events := by
  intro handled
  obtain ⟨_, later⟩ := handled 1 openPaymentDb
    [failureNotice "first" false, failureNotice "first" true]
  have last := (later _ rfl).1 _ rfl
  obtain ⟨final, stored, status⟩ := last.taken _ rfl _ rfl (by decide)
    (by decide) ⟨_, _, rfl⟩
  cases stored
  cases status

end VendingSystem.Platform
