import VendingSystem.DaemonScanSubmission

namespace VendingSystem.Daemon

/-!
# What is asked of the scanner and of the attempts

A code pays the order it was shown for, an arm and an order begin one attempt,
finishing changes no other attempt and no final status, and the scanner is
live exactly when the order would take a code.
-/

/-- The statuses that the backend does not leave. -/
def finalPaymentCodeStatuses : List String :=
  ["succeeded", "failed", "reversed", "canceled"]

def PaymentCodeAttempt.isFinal (attempt : PaymentCodeAttempt) : Bool :=
  (attempt.textAt "status").any fun status =>
    finalPaymentCodeStatuses.contains status

def Store.attemptOf (store : Store) (orderNo : OrderNo) :
    Option PaymentCodeAttempt :=
  (store.orderSessions.find? orderNo).bind OrderSession.paymentAttempt

/-- The attempt is begun for the order its code was shown for. -/
structure BeginsProperly (store : Store) (attempt : BegunAttempt) : Prop where
  ordered : attempt.scan.arm.orderNo = attempt.orderNo
  armed : ∀ received ∈ attempt.scan.received,
    received.arm = attempt.scan.arm
  framed : attempt.scan.raw.authCode.Sublist
    (attempt.scan.received.map ReceivedByte.byte)
  payable : ∃ session,
    store.orderSessions.find? attempt.orderNo = some session ∧
      store.awaitsPaymentCode session = true

/-- Only the begun attempt is finished, and no final status is taken back. -/
structure FinishesProperly
    (before after : Store)
    (attempt : BegunAttempt) : Prop where
  others : ∀ orderNo, orderNo ≠ attempt.orderNo →
    after.attemptOf orderNo = before.attemptOf orderNo
  own : ∀ stored ∈ before.attemptOf attempt.orderNo,
    after.attemptOf attempt.orderNo ≠ some stored →
      stored.textAt "idempotencyKey" = some attempt.idempotencyKey
  kept : ∀ stored ∈ before.attemptOf attempt.orderNo,
    stored.isFinal = true →
      ∀ written ∈ after.attemptOf attempt.orderNo,
        written.textAt "status" ≠ some "unknown" ∧
          (written.canRetry = true → stored.canRetry = true)

/-- The scanner is armed for the order exactly when it takes a new attempt. -/
def LiveFor
    (armer : PaymentCodeScanArmer)
    (store : Store) : Option CurrentTransaction → Prop
  | none => armer.arm = none
  | some current =>
    ∀ (scan : PaymentCodeScan) (now : Time),
      (∃ arm, armer.accepting? = some arm ∧
          arm.orderNo = current.orderNo) ↔
        (beginPaymentCodeAttempt store current.orderNo scan now).isOk = true

namespace ScanDaemon

/-- The codes whose arm was taken and that are not dealt with yet. -/
def underway (daemon : ScanDaemon) : List ArmedPaymentCode :=
  daemon.loop.sending.toList ++ daemon.queue ++
    (daemon.submission.map Submission.scan).toList

/-- What the steps so far have to satisfy. -/
structure Safe (daemon : ScanDaemon) : Prop where
  arms : (daemon.begun.map fun attempt => attempt.scan.arm).Nodup
  orders : (daemon.begun.map BegunAttempt.orderNo).Nodup
  sent : ∀ attempt ∈ daemon.sent, attempt ∈ daemon.begun

/-- What one step has to satisfy. -/
structure StepSafe
    (before : ScanDaemon)
    (event : ScanEvent)
    (after : ScanDaemon) : Prop where
  safe : after.Safe
  begins : after.begun = before.begun ∨
    ∃ attempt, after.begun = attempt :: before.begun ∧
      BeginsProperly before.store attempt
  finishes : ∀ input scan attempt snapshot response,
    event = .advance input →
      before.submission =
        some { scan, phase := .finishing attempt snapshot response } →
        FinishesProperly before.store after.store attempt
  syncs : ∀ current attemptId armedAtMs,
    event = .sync current attemptId armedAtMs →
      before.store.currentTransaction = .ok current →
        before.underway = [] →
          LiveFor after.armer after.store current

end ScanDaemon

/--
The row agrees with the backend's last word, a waiting order is open, and its
attempt is none that may be repeated.
-/
structure OrderSession.Agrees (session : OrderSession) : Prop where
  shown : ∀ current ∈ session.currentTransaction.toOption,
    current.paymentMethod = session.paymentMethod ∧
      current.nextAction = session.nextAction
  waiting : session.paymentMethod = "payment_code" →
    session.nextAction = "wait_payment" →
      session.status ∈ ["waiting_payment", "pending_payment"] ∧
        ∀ attempt ∈ session.paymentAttempt,
          attempt.isActive = true ∨ attempt.isSpent = true

/-- The answer does not take back what is stored. -/
structure AnswersAttempt
    (store : Store)
    (attempt : BegunAttempt)
    (response : PaymentCodeResponse) : Prop where
  own : ∀ stored ∈ store.attemptOf attempt.orderNo,
    stored.textAt "idempotencyKey" = some attempt.idempotencyKey
  kept : ∀ stored ∈ store.attemptOf attempt.orderNo,
    stored.isFinal = true →
      response.status ≠ "unknown" ∧
        (response.canRetry = true → stored.canRetry = true)

instance (session : OrderSession) : Decidable session.Agrees :=
  decidable_of_iff
    ((∀ current ∈ session.currentTransaction.toOption,
        current.paymentMethod = session.paymentMethod ∧
          current.nextAction = session.nextAction) ∧
      (session.paymentMethod = "payment_code" →
        session.nextAction = "wait_payment" →
          session.status ∈ ["waiting_payment", "pending_payment"] ∧
            ∀ attempt ∈ session.paymentAttempt,
              attempt.isActive = true ∨ attempt.isSpent = true))
    ⟨fun agrees => ⟨agrees.1, agrees.2⟩,
      fun agrees => ⟨agrees.shown, agrees.waiting⟩⟩

instance
    (store : Store)
    (attempt : BegunAttempt)
    (response : PaymentCodeResponse) :
    Decidable (AnswersAttempt store attempt response) :=
  decidable_of_iff
    ((∀ stored ∈ store.attemptOf attempt.orderNo,
        stored.textAt "idempotencyKey" = some attempt.idempotencyKey) ∧
      ∀ stored ∈ store.attemptOf attempt.orderNo,
        stored.isFinal = true →
          response.status ≠ "unknown" ∧
            (response.canRetry = true → stored.canRetry = true))
    ⟨fun answers => ⟨answers.1, answers.2⟩,
      fun answers => ⟨answers.own, answers.kept⟩⟩

/-- The attempt that the submission finishes next, with its answer. -/
def ScanDaemon.finishing? (daemon : ScanDaemon) :
    Option (BegunAttempt × PaymentCodeResponse) :=
  daemon.submission.bind fun submission =>
    match submission.phase with
    | .finishing attempt _ response =>
      some (attempt, response.getD .unreachable)
    | _ => none

/-- No step finds what the code does not look at. -/
def Regular (daemon : ScanDaemon) : ScanEvent → Prop
  | .advance _ =>
    ∀ finishing ∈ daemon.finishing?,
      AnswersAttempt daemon.store finishing.1 finishing.2
  | .sync current _ _ =>
    daemon.store.currentTransaction.toOption = some current →
      daemon.underway = [] →
        ∀ session ∈ daemon.store.latestOrderSession, session.Agrees
  | _ => True

instance (daemon : ScanDaemon) : ∀ event, Decidable (Regular daemon event)
  | .advance _ => inferInstanceAs (Decidable (∀ finishing ∈ _, _))
  | .sync _ _ _ => inferInstanceAs (Decidable (_ → _ → ∀ session ∈ _, _))
  | .reopen _
  | .receive _ _
  | .push
  | .consume _
  | .send
  | .watch
  | .fail
  | .arm _ _ _
  | .clear
  | .answered _ _ _
  | .upsert _ _
  | .elsewhere _ => inferInstanceAs (Decidable True)

variable {name other : String} {after before store : Store} {now : Time}
  {orderNo : OrderNo} {session : OrderSession}

theorem lookup_filter_ne
    (differs : name ≠ other)
    (fields : PaymentCodeAttempt) :
    (fields.filter fun field => field.1 != other).lookup name =
      fields.lookup name := by
  induction fields with
  | nil => rfl
  | cons field rest inductionHypothesis =>
    obtain ⟨key, value⟩ := field
    by_cases isOther : key = other
    · subst isOther
      have apart : (name == key) = false := by simpa using differs
      simp [List.lookup_cons, apart, inductionHypothesis]
    · by_cases isName : name = key
      · subst isName
        simp [isOther]
      · have apart : (name == key) = false := by simpa using isName
        simp [List.lookup_cons, isOther, apart, inductionHypothesis]

theorem lookup_filter_self
    (name : String)
    (fields : PaymentCodeAttempt) :
    (fields.filter fun field => field.1 != name).lookup name = none := by
  rw [List.lookup_eq_none_iff]
  intro field isField
  have kept := (List.mem_filter.mp isField).2
  simpa [bne_iff_ne, ne_comm] using kept

@[simp] theorem lookup_withField_self
    (attempt : PaymentCodeAttempt)
    (name : String)
    (value : AttemptValue) :
    (attempt.withField name value).lookup name = some value := by
  unfold PaymentCodeAttempt.withField
  rw [List.lookup_append, lookup_filter_self]
  simp

theorem lookup_withField_of_ne
    (differs : name ≠ other)
    (attempt : PaymentCodeAttempt)
    (value : AttemptValue) :
    (attempt.withField other value).lookup name = attempt.lookup name := by
  unfold PaymentCodeAttempt.withField
  rw [List.lookup_append, lookup_filter_ne differs]
  have apart : (name == other) = false := by simpa using differs
  simp [List.lookup_cons, apart]

theorem Store.attemptOf_setPaymentAttempt
    (store : Store)
    (orderNo other : OrderNo)
    (attempt : PaymentCodeAttempt)
    (now : Time) :
    (setPaymentAttempt store orderNo attempt now).attemptOf other =
      if other = orderNo then
        (store.orderSessions.find? other).map fun _ => attempt
      else store.attemptOf other := by
  unfold Store.attemptOf setPaymentAttempt
  simp only [Table.find?_modify]
  split
  · cases store.orderSessions.find? other with
    | none => rfl
    | some session => rfl
  · rfl

/-- No attempt that is stored before is gone after. -/
def Store.AttemptsKept (before after : Store) : Prop :=
  ∀ orderNo, (before.attemptOf orderNo).isSome = true →
    (after.attemptOf orderNo).isSome = true

theorem Store.AttemptsKept.refl (store : Store) : store.AttemptsKept store :=
  fun _ isStored => isStored

theorem Store.AttemptsKept.setPaymentAttempt
    (store : Store)
    (orderNo : OrderNo)
    (attempt : PaymentCodeAttempt)
    (now : Time) :
    store.AttemptsKept (setPaymentAttempt store orderNo attempt now) := by
  intro other isStored
  rw [Store.attemptOf_setPaymentAttempt]
  split
  · obtain ⟨stored, found⟩ := Option.isSome_iff_exists.mp isStored
    obtain ⟨session, isSession, _⟩ := Option.bind_eq_some_iff.mp found
    rw [isSession]
    rfl
  · exact isStored

theorem Store.AttemptsKept.finishPaymentCodeAttempt
    (store : Store)
    (orderNo : OrderNo)
    (response : PaymentCodeResponse)
    (now : Time) :
    store.AttemptsKept (finishPaymentCodeAttempt store orderNo response now) :=
  .setPaymentAttempt _ _ _ _

theorem Store.AttemptsKept.upsertOrderSession
    {input : OrderSessionUpsert}
    (upserted : upsertOrderSession before input now = .ok after) :
    before.AttemptsKept after := by
  unfold Daemon.upsertOrderSession at upserted
  obtain ⟨nextAction, _, stored⟩ := Transaction.bind_eq_ok_iff.mp upserted
  obtain ⟨status, _, rfl⟩ := Transaction.map_eq_ok_iff.mp stored
  intro orderNo isStored
  obtain ⟨attempt, found⟩ := Option.isSome_iff_exists.mp isStored
  obtain ⟨session, isSession, isAttempt⟩ := Option.bind_eq_some_iff.mp found
  simp only [Store.attemptOf, Table.find?_insertOrUpdate]
  split
  · rw [isSession]
    show ((input.row nextAction status now).paymentAttempt.or
      session.paymentAttempt).isSome = true
    rw [isAttempt, Option.isSome_or]
    exact Bool.or_true _
  · rw [isSession]
    show session.paymentAttempt.isSome = true
    rw [isAttempt]
    rfl

theorem Store.AttemptsKept.applyBackendOrderStatus
    {status : BackendStatus}
    (applied : applyBackendOrderStatus before orderNo status now = .ok after) :
    before.AttemptsKept after := by
  unfold Daemon.applyBackendOrderStatus at applied
  split at applied
  · cases applied
    exact .refl _
  · exact .upsertOrderSession applied

theorem Store.AttemptsKept.of_keepsAttempts
    (keeps : before.keepsAttempts after = true) :
    before.AttemptsKept after := by
  intro orderNo isStored
  obtain ⟨attempt, found⟩ := Option.isSome_iff_exists.mp isStored
  obtain ⟨session, isSession, isAttempt⟩ := Option.bind_eq_some_iff.mp found
  have row := List.all_eq_true.mp keeps session
    (Table.mem_def.mp (Table.mem_of_find? isSession))
  rw [isAttempt, Table.key_of_find? isSession] at row
  obtain ⟨stored, isFound, hasAttempt⟩ :=
    (Option.any_eq_true _ _).mp (by simpa using row)
  rw [Store.attemptOf, isFound]
  exact hasAttempt

theorem beginPaymentCodeAttempt_ok
    {scan : PaymentCodeScan}
    (begun : beginPaymentCodeAttempt before orderNo scan now = .ok after) :
    (∃ session, before.orderSessions.find? orderNo = some session ∧
        before.awaitsPaymentCode session = true) ∧
      before.AttemptsKept after ∧
        (after.attemptOf orderNo).isSome = true := by
  unfold beginPaymentCodeAttempt at begun
  split at begun
  · cases begun
  next session found =>
  split at begun
  · cases begun
  split at begun
  next awaits =>
    cases begun
    refine ⟨⟨session, found, awaits⟩, .setPaymentAttempt _ _ _ _, ?_⟩
    rw [Store.attemptOf_setPaymentAttempt, if_pos rfl, found]
    rfl
  · cases begun

theorem beginPaymentCodeAttempt_isOk
    (found : store.orderSessions.find? orderNo = some session)
    (scan : PaymentCodeScan)
    (now : Time) :
    (beginPaymentCodeAttempt store orderNo scan now).isOk = true ↔
      session.paymentAttempt.any (fun attempt =>
          attempt.isActive || attempt.isSpent) = false ∧
        store.awaitsPaymentCode session = true := by
  unfold beginPaymentCodeAttempt
  rw [found]
  simp only
  split
  next taken => simp [taken, Except.isOk, Except.toBool]
  next free =>
    split
    next awaits => simp [free, awaits, Except.isOk, Except.toBool]
    next closed => simp [closed, Except.isOk, Except.toBool]

theorem AnswersAttempt.finishes
    {attempt : BegunAttempt}
    {response : PaymentCodeResponse}
    (answers : AnswersAttempt store attempt response)
    (now : Time) :
    FinishesProperly store
      (finishPaymentCodeAttempt store attempt.orderNo response now)
      attempt where
  others orderNo other := by
    rw [finishPaymentCodeAttempt, Store.attemptOf_setPaymentAttempt,
      if_neg other]
  own stored isStored _ := answers.own stored isStored
  kept stored isStored isFinal written isWritten := by
    obtain ⟨notUnknown, retries⟩ := answers.kept stored isStored isFinal
    rw [finishPaymentCodeAttempt, Store.attemptOf_setPaymentAttempt,
      if_pos rfl, Option.mem_def, Option.map_eq_some_iff] at isWritten
    obtain ⟨_, _, rfl⟩ := isWritten
    constructor
    · simp only [PaymentCodeAttempt.textAt]
      rw [lookup_withField_of_ne (by decide),
        lookup_withField_of_ne (by decide),
        lookup_withField_of_ne (by decide), lookup_withField_self]
      simpa using notUnknown
    · intro canRetry
      apply retries
      simp only [PaymentCodeAttempt.canRetry] at canRetry
      rw [lookup_withField_of_ne (by decide),
        lookup_withField_of_ne (by decide), lookup_withField_self]
        at canRetry
      simpa using canRetry

theorem Store.latestOrderSession_stored
    (latest : store.latestOrderSession = some session) :
    store.orderSessions.find? session.orderNo = some session := by
  have fromRows : ∀ (rows : List OrderSession) (first : Option OrderSession)
      (later : Option OrderSession → OrderSession → Option OrderSession),
      (∀ latest row, later latest row = latest ∨
        later latest row = some row) →
      rows.foldl later first = some session →
        first = some session ∨ session ∈ rows := by
    intro rows first later picks same
    induction rows generalizing first with
    | nil => exact .inl same
    | cons row rest inductionHypothesis =>
      rcases inductionHypothesis _ same with isFirst | isLater
      · rcases picks first row with kept | taken
        · exact .inl (kept.symm.trans isFirst)
        · cases taken.symm.trans isFirst
          exact .inr List.mem_cons_self
      · exact .inr (List.mem_cons_of_mem _ isLater)
  unfold Store.latestOrderSession at latest
  have isStored := fromRows _ none _ (by
    intro latest row
    split
    · exact .inr rfl
    · split
      · exact .inr rfl
      · exact .inl rfl) latest
  rcases isStored with isNone | isRow
  · cases isNone
  · exact Table.find?_of_mem (Table.mem_def.mpr (List.mem_filter.mp isRow).1)

theorem Store.currentTransaction_some
    {current : CurrentTransaction}
    (shown : store.currentTransaction = .ok (some current)) :
    ∃ session, store.latestOrderSession = some session ∧
      store.orderSessions.find? current.orderNo = some session ∧
        session.currentTransaction = .ok current ∧
          session.orderNo = current.orderNo ∧
            current.paymentCodeAttempt = session.paymentAttempt := by
  unfold Store.currentTransaction at shown
  cases latest : store.latestOrderSession with
  | none =>
    rw [latest] at shown
    cases shown
  | some session =>
    rw [latest] at shown
    have isCurrent : session.currentTransaction = .ok current := by
      cases made : session.currentTransaction with
      | error refusal =>
        rw [Option.mapM_some, made] at shown
        cases shown
      | ok value =>
        rw [Option.mapM_some, made] at shown
        cases shown
        rfl
    have fields := isCurrent
    unfold OrderSession.currentTransaction at fields
    obtain ⟨_, _, rfl⟩ := Transaction.map_eq_ok_iff.mp fields
    exact ⟨session, rfl, Store.latestOrderSession_stored latest,
      isCurrent, rfl, rfl⟩

end VendingSystem.Daemon
