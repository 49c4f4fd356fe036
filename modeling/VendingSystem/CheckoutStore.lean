import Mathlib.Data.List.Basic

namespace VendingSystem.Checkout

/-!
# The checkout store of the machine's screen

The store keeps one transaction snapshot and the orders whose result the
customer has dismissed.  What is shown is projected from these two alone.
-/

abbrev OrderNo := Nat

inductive CheckoutFlowAction where
  | waitPayment
  | dispensing
  | success
  | paymentFailed
  | paymentExpired
  | dispenseFailed
  | refundPending
  | refunded
  | manualHandling
  | closed
  deriving Repr, DecidableEq

/-- A snapshot of the daemon's session, with its fields that the store reads. -/
structure TransactionSnapshot where
  orderId : Option Nat
  orderNo : Option OrderNo
  nextAction : Option CheckoutFlowAction
  /-- In milliseconds; a text that is no date counts as zero. -/
  updatedAtMs : Nat
  deriving Repr, DecidableEq

inductive Stage where
  | none
  | payment
  | dispensing
  | result
  deriving Repr, DecidableEq

structure CustomerCheckoutView where
  stage : Stage
  orderCredential : Option OrderNo
  deriving Repr, DecidableEq

def isTerminalResultAction : Option CheckoutFlowAction → Bool
  | none | some .waitPayment | some .dispensing => false
  | some _ => true

/-- The stage of an order whose next action is this one. -/
def stageOf : Option CheckoutFlowAction → Stage
  | some .waitPayment => .payment
  | some .dispensing => .dispensing
  | _ => .result

def projectCustomerCheckoutView
    (transaction : Option TransactionSnapshot)
    (dismissedTerminalOrderNos : List OrderNo) : CustomerCheckoutView :=
  match transaction with
  | none => ⟨.none, none⟩
  | some snapshot =>
    match snapshot.orderNo with
    | none => ⟨.none, none⟩
    | some orderNo =>
      if isTerminalResultAction snapshot.nextAction = true ∧
          orderNo ∈ dismissedTerminalOrderNos then ⟨.none, none⟩
      else ⟨stageOf snapshot.nextAction, some orderNo⟩

def checkoutProjectionRank : Stage → Nat
  | .none => 0
  | .payment => 1
  | .dispensing => 2
  | .result => 3

structure CheckoutStore where
  selectedItem : Bool
  transaction : Option TransactionSnapshot
  dismissedTerminalOrderNos : List OrderNo
  transactionRecoveryOrderNo : Option OrderNo
  transactionRefreshGeneration : Nat
  transactionRefreshLastAcceptedRequestNo : Nat
  /-- `running` of the store's refresh coordinator. -/
  refreshRunning : Bool
  deriving Repr, DecidableEq

namespace CheckoutStore

def customerCheckoutView (store : CheckoutStore) : CustomerCheckoutView :=
  projectCustomerCheckoutView store.transaction store.dismissedTerminalOrderNos

def selectItem (store : CheckoutStore) : CheckoutStore :=
  if store.customerCheckoutView.stage ≠ .none then store
  else
    { store with
      selectedItem := true
      transaction := none
      transactionRecoveryOrderNo := none }

def reset (store : CheckoutStore) : CheckoutStore :=
  if store.transactionRecoveryOrderNo.isSome then store
  else
    { store with
      selectedItem := false
      transaction := none
      transactionRecoveryOrderNo := none }

def shouldIgnoreTransaction
    (store : CheckoutStore)
    (snapshot : TransactionSnapshot) : Bool :=
  match snapshot.orderNo with
  | none => false
  | some orderNo =>
    decide (orderNo ∈ store.dismissedTerminalOrderNos) &&
      (projectCustomerCheckoutView (some snapshot)
        store.dismissedTerminalOrderNos).stage = .none

def dismissedTerminalOrderLimit : Nat :=
  50

def rememberDismissedTerminalOrderNo
    (current : List OrderNo)
    (orderNo : OrderNo) : List OrderNo :=
  let remembered := current.filter (· ≠ orderNo) ++ [orderNo]
  remembered.drop (remembered.length - dismissedTerminalOrderLimit)

def dismissCurrentTerminalTransaction (store : CheckoutStore) :
    CheckoutStore :=
  let view := store.customerCheckoutView
  match view.orderCredential with
  | none => store
  | some orderNo =>
    if view.stage ≠ .result then store
    else
      { store with
        dismissedTerminalOrderNos :=
          rememberDismissedTerminalOrderNo store.dismissedTerminalOrderNos
            orderNo
        transaction :=
          store.transaction.filter (·.orderNo ≠ some orderNo)
        transactionRecoveryOrderNo :=
          store.transactionRecoveryOrderNo.filter (· ≠ orderNo) }

def applyTransaction
    (store : CheckoutStore)
    (snapshot : TransactionSnapshot) : CheckoutStore :=
  if store.shouldIgnoreTransaction snapshot then
    { store with
      transaction :=
        store.transaction.filter (·.orderNo ≠ snapshot.orderNo) }
  else
    { store with
      transaction := some snapshot
      transactionRecoveryOrderNo := none }

def canAdvanceTransactionProjection
    (current : TransactionSnapshot)
    (currentStage : Stage)
    (incoming : TransactionSnapshot)
    (incomingStage : Stage)
    (requestNo lastAcceptedRequestNo : Nat) : Bool :=
  let currentRank := checkoutProjectionRank currentStage
  let incomingRank := checkoutProjectionRank incomingStage
  if incomingRank ≠ currentRank then currentRank < incomingRank
  else if incoming.updatedAtMs ≠ current.updatedAtMs then
    current.updatedAtMs < incoming.updatedAtMs
  else lastAcceptedRequestNo ≤ requestNo

def matchesActiveTransactionIdentity
    (current : Option TransactionSnapshot)
    (orderCredential : Option OrderNo)
    (incoming : TransactionSnapshot) : Bool :=
  orderCredential.isSome && incoming.orderNo = orderCredential &&
    match current.bind (·.orderId) with
    | none => true
    | some currentOrderId => incoming.orderId = some currentOrderId

/-- What becomes of the answer to the refresh of the current generation. -/
inductive RefreshVerdict where
  | identityMismatch
  | outdated
  | taken
  deriving Repr, DecidableEq

def refreshVerdict
    (store : CheckoutStore)
    (generation : Nat)
    (snapshot : TransactionSnapshot) : RefreshVerdict :=
  let currentView := store.customerCheckoutView
  let incomingView :=
    projectCustomerCheckoutView (some snapshot) store.dismissedTerminalOrderNos
  if currentView.stage ≠ .none ∧
      matchesActiveTransactionIdentity store.transaction
        currentView.orderCredential snapshot = false then .identityMismatch
  else if store.shouldIgnoreTransaction snapshot = true then .taken
  else if store.transaction.any (fun current =>
      !canAdvanceTransactionProjection current currentView.stage snapshot
        incomingView.stage generation
        store.transactionRefreshLastAcceptedRequestNo) then .outdated
  else .taken

def refreshAnswered
    (store : CheckoutStore)
    (generation : Nat)
    (snapshot : TransactionSnapshot) : CheckoutStore :=
  match store.refreshVerdict generation snapshot with
  | .identityMismatch =>
    { store with
      transactionRecoveryOrderNo :=
        store.customerCheckoutView.orderCredential }
  | .outdated => store
  | .taken =>
    { store.applyTransaction snapshot with
      transactionRefreshLastAcceptedRequestNo := generation }

/-- The refresh of the current generation fails. -/
def refreshFailed (store : CheckoutStore) : CheckoutStore :=
  let view := store.customerCheckoutView
  if view.stage ≠ .none then
    { store with transactionRecoveryOrderNo := view.orderCredential }
  else store

/-- What `cancelCurrentOrder` does with its answer. -/
def cancelAnswered
    (store : CheckoutStore)
    (preserveSelectedItem : Bool)
    (selectedItemBeforeCancel : Bool)
    (snapshot : TransactionSnapshot) : CheckoutStore :=
  let after :=
    ((store.applyTransaction snapshot).dismissCurrentTerminalTransaction).reset
  if preserveSelectedItem ∧ selectedItemBeforeCancel then
    { after with selectedItem := true }
  else after

end CheckoutStore

/-- The store shows the order at this stage. -/
def CheckoutStore.Shows
    (store : CheckoutStore)
    (orderNo : OrderNo)
    (stage : Stage) : Prop :=
  store.customerCheckoutView = ⟨stage, some orderNo⟩

instance (store : CheckoutStore) (orderNo : OrderNo) (stage : Stage) :
    Decidable (store.Shows orderNo stage) :=
  inferInstanceAs (Decidable (_ = _))

theorem stageOf_ne_none (action : Option CheckoutFlowAction) :
    stageOf action ≠ .none := by
  cases action with
  | none => decide
  | some action => cases action <;> decide

variable {action : Option CheckoutFlowAction} {stage : Stage}

theorem isTerminal_of_result
    (given : action.isSome)
    (result : stageOf action = .result) :
    isTerminalResultAction action = true := by
  cases action with
  | none => cases given
  | some action => cases action <;> first | rfl | cases result

theorem result_of_isTerminal
    (terminal : isTerminalResultAction action = true) :
    stageOf action = .result := by
  cases action with
  | none => rfl
  | some action => cases action <;> first | rfl | cases terminal

theorem eq_result_of_rank
    (rank : checkoutProjectionRank .result ≤ checkoutProjectionRank stage) :
    stage = .result := by
  cases stage <;> first | rfl | simp [checkoutProjectionRank] at rank

theorem eq_of_rank
    {other : Stage}
    (rank : checkoutProjectionRank stage = checkoutProjectionRank other) :
    stage = other := by
  cases stage <;> cases other <;>
    first | rfl | simp [checkoutProjectionRank] at rank

theorem CheckoutStore.shows_snapshot
    {store : CheckoutStore}
    {orderNo : OrderNo}
    (shows : store.Shows orderNo stage) :
    ∃ snapshot, store.transaction = some snapshot ∧
      snapshot.orderNo = some orderNo ∧
      stage = stageOf snapshot.nextAction := by
  simp only [Shows, customerCheckoutView, projectCustomerCheckoutView] at shows
  cases transaction : store.transaction with
  | none => simp [transaction] at shows
  | some snapshot =>
    simp only [transaction] at shows
    cases numbered : snapshot.orderNo with
    | none => simp [numbered] at shows
    | some number =>
      simp only [numbered] at shows
      split_ifs at shows
      · simp at shows
      · simp only [CustomerCheckoutView.mk.injEq, Option.some.injEq] at shows
        exact ⟨snapshot, rfl, by rw [numbered, shows.2], shows.1.symm⟩

theorem CheckoutStore.shows_of_stage
    {store : CheckoutStore}
    (stage : store.customerCheckoutView.stage ≠ .none) :
    ∃ orderNo, store.Shows orderNo store.customerCheckoutView.stage := by
  simp only [Shows, customerCheckoutView, projectCustomerCheckoutView]
    at stage ⊢
  cases transaction : store.transaction with
  | none => simp [transaction] at stage
  | some snapshot =>
    simp only [transaction] at stage ⊢
    cases numbered : snapshot.orderNo with
    | none => simp [numbered] at stage
    | some number =>
      simp only [numbered] at stage ⊢
      split_ifs at stage ⊢
      · simp at stage
      · exact ⟨number, rfl⟩

/--
The snapshot in the store is of the stage that is known of its order, and an
order is dismissed only after its result.
-/
structure InStep (known : OrderNo → Stage) (store : CheckoutStore) :
    Prop where
  kept : ∀ snapshot ∈ store.transaction, ∀ orderNo ∈ snapshot.orderNo,
    stageOf snapshot.nextAction = known orderNo ∧
      orderNo ∉ store.dismissedTerminalOrderNos
  dismissed : ∀ orderNo ∈ store.dismissedTerminalOrderNos,
    known orderNo = .result

/-- More is known of one order, and not less of any. -/
structure Learns
    (known : OrderNo → Stage)
    (orderNo : OrderNo)
    (later : OrderNo → Stage) : Prop where
  others : ∀ other, other ≠ orderNo → later other = known other
  advances : checkoutProjectionRank (known orderNo) ≤
    checkoutProjectionRank (later orderNo)

section Store

variable {store : CheckoutStore} {known later : OrderNo → Stage}
  {snapshot : TransactionSnapshot} {orderNo other : OrderNo} {generation : Nat}

theorem InStep.shows
    (inStep : InStep known store)
    (shows : store.Shows orderNo stage) :
    stage = known orderNo ∧
      orderNo ∉ store.dismissedTerminalOrderNos := by
  obtain ⟨snapshot, transaction, numbered, rfl⟩ := store.shows_snapshot shows
  exact inStep.kept snapshot transaction orderNo numbered

theorem Learns.dismissed
    (learns : Learns known orderNo later)
    (inStep : InStep known store)
    (other : OrderNo)
    (member : other ∈ store.dismissedTerminalOrderNos) :
    later other = .result := by
  have ended := inStep.dismissed other member
  by_cases same : other = orderNo
  · subst same
    have advances := learns.advances
    rw [ended] at advances
    exact eq_result_of_rank advances
  · rw [learns.others other same, ended]

theorem InStep.of_none
    (inStep : ∀ orderNo ∈ store.dismissedTerminalOrderNos,
      known orderNo = .result)
    (empty : store.transaction = none) :
    InStep known store where
  kept := by
    intro snapshot kept
    rw [empty] at kept
    cases kept
  dismissed := inStep

theorem InStep.selectItem
    (inStep : InStep known store) :
    InStep known store.selectItem := by
  simp only [CheckoutStore.selectItem]
  split_ifs
  · exact inStep
  · exact .of_none inStep.dismissed rfl

theorem InStep.reset
    (inStep : InStep known store) :
    InStep known store.reset := by
  simp only [CheckoutStore.reset]
  split_ifs
  · exact inStep
  · exact .of_none inStep.dismissed rfl

theorem mem_rememberDismissed
    {current : List OrderNo}
    (member : other ∈
      CheckoutStore.rememberDismissedTerminalOrderNo current orderNo) :
    other ∈ current ∨ other = orderNo := by
  have remembered := List.mem_of_mem_drop member
  simp only [List.mem_append, List.mem_filter, List.mem_singleton] at remembered
  rcases remembered with ⟨former, -⟩ | same
  · exact .inl former
  · exact .inr same

theorem InStep.dismissCurrentTerminalTransaction
    (inStep : InStep known store) :
    InStep known store.dismissCurrentTerminalTransaction := by
  simp only [CheckoutStore.dismissCurrentTerminalTransaction]
  cases credential : store.customerCheckoutView.orderCredential with
  | none => exact inStep
  | some orderNo =>
    by_cases result : store.customerCheckoutView.stage = .result
    · simp only [result, ne_eq, not_true_eq_false, if_false]
      have shows : store.Shows orderNo .result := by
        simp [CheckoutStore.Shows, ← credential, ← result]
      obtain ⟨snapshot, transaction, numbered, stage⟩ :=
        store.shows_snapshot shows
      refine .of_none (fun other member => ?_) ?_
      · rcases mem_rememberDismissed member with former | rfl
        · exact inStep.dismissed other former
        · exact (inStep.shows shows).1.symm
      · simp [transaction, numbered]
    · simp only [result, ne_eq, not_false_eq_true, if_true]
      exact inStep

theorem shouldIgnore_of_ended
    (numbered : snapshot.orderNo = some orderNo)
    (terminal : isTerminalResultAction snapshot.nextAction = true)
    (dismissed : orderNo ∈ store.dismissedTerminalOrderNos) :
    store.shouldIgnoreTransaction snapshot = true := by
  simp [CheckoutStore.shouldIgnoreTransaction, projectCustomerCheckoutView,
    numbered, terminal, dismissed]

theorem ended_of_shouldIgnore
    (ignored : store.shouldIgnoreTransaction snapshot = true) :
    ∃ orderNo, snapshot.orderNo = some orderNo ∧
      orderNo ∈ store.dismissedTerminalOrderNos ∧
      stageOf snapshot.nextAction = .result := by
  simp only [CheckoutStore.shouldIgnoreTransaction,
    projectCustomerCheckoutView] at ignored
  cases numbered : snapshot.orderNo with
  | none => simp [numbered] at ignored
  | some orderNo =>
    simp only [numbered, Bool.and_eq_true, decide_eq_true_eq] at ignored
    obtain ⟨dismissed, stage⟩ := ignored
    refine ⟨orderNo, rfl, dismissed, ?_⟩
    by_cases terminal : isTerminalResultAction snapshot.nextAction = true
    · exact result_of_isTerminal terminal
    · rw [if_neg (fun both => terminal both.1)] at stage
      exact absurd stage (stageOf_ne_none _)

theorem InStep.applyTransaction
    (inStep : InStep known store)
    (learns : Learns known orderNo later)
    (numbered : snapshot.orderNo = some orderNo)
    (given : snapshot.nextAction.isSome)
    (stage : stageOf snapshot.nextAction = later orderNo) :
    InStep later (store.applyTransaction snapshot) := by
  simp only [CheckoutStore.applyTransaction]
  split_ifs with ignored
  · refine ⟨fun kept member other ofOther => ?_,
      fun other member => learns.dismissed inStep other member⟩
    simp only [Option.mem_def, Option.filter_eq_some_iff,
      decide_eq_true_eq] at member
    have different : other ≠ orderNo := by
      rintro rfl
      exact member.2 (ofOther.trans numbered.symm)
    rw [learns.others other different]
    exact inStep.kept kept member.1 other ofOther
  · refine ⟨fun kept member other ofOther => ?_,
      fun other member => learns.dismissed inStep other member⟩
    cases member
    obtain rfl : orderNo = other := by
      simpa [numbered] using ofOther
    refine ⟨stage, fun dismissed => ignored ?_⟩
    have ended := learns.dismissed inStep orderNo dismissed
    exact shouldIgnore_of_ended numbered
      (isTerminal_of_result given (stage.trans ended)) dismissed

theorem InStep.applyTransaction_unnumbered
    (inStep : InStep known store)
    (unnumbered : snapshot.orderNo = none) :
    InStep known (store.applyTransaction snapshot) := by
  have heeded : store.shouldIgnoreTransaction snapshot = false := by
    simp [CheckoutStore.shouldIgnoreTransaction, unnumbered]
  simp only [CheckoutStore.applyTransaction, heeded, Bool.false_eq_true,
    if_false]
  refine ⟨fun kept member other ofOther => ?_, inStep.dismissed⟩
  cases member
  rw [unnumbered] at ofOther
  cases ofOther

theorem mem_dismissed_of_dismiss
    (member : other ∈
      (store.dismissCurrentTerminalTransaction).dismissedTerminalOrderNos) :
    other ∈ store.dismissedTerminalOrderNos ∨
      store.Shows other .result := by
  simp only [CheckoutStore.dismissCurrentTerminalTransaction] at member
  cases credential : store.customerCheckoutView.orderCredential with
  | none =>
    simp only [credential] at member
    exact .inl member
  | some orderNo =>
    simp only [credential] at member
    split_ifs at member with running
    · exact .inl member
    · rcases mem_rememberDismissed member with former | rfl
      · exact .inl former
      · right
        simp [CheckoutStore.Shows, ← credential, ← not_not.mp running]

/-- What a cancellation took up is reset. -/
theorem InStep.cancelHeeded
    (inStep : InStep known store)
    (learns : Learns known orderNo later)
    (numbered : snapshot.orderNo = some orderNo)
    (stage : checkoutProjectionRank (stageOf snapshot.nextAction) ≤
      checkoutProjectionRank (later orderNo)) :
    InStep later
      ({ store with
        transaction := some snapshot
        transactionRecoveryOrderNo := none
        } : CheckoutStore).dismissCurrentTerminalTransaction.reset := by
  generalize taken : ({ store with
    transaction := some snapshot
    transactionRecoveryOrderNo := none } : CheckoutStore) = next
  have transaction : next.transaction = some snapshot := by rw [← taken]
  have dismissed : next.dismissedTerminalOrderNos =
      store.dismissedTerminalOrderNos := by rw [← taken]
  have recovered : next.transactionRecoveryOrderNo = none := by rw [← taken]
  have resets :
      (next.dismissCurrentTerminalTransaction).transactionRecoveryOrderNo =
        none := by
    simp only [CheckoutStore.dismissCurrentTerminalTransaction]
    split
    · simp [recovered]
    · split_ifs <;> simp [recovered]
  simp only [CheckoutStore.reset, resets, Option.isSome_none,
    Bool.false_eq_true, if_false]
  refine .of_none (fun other member => ?_) rfl
  rcases mem_dismissed_of_dismiss member with former | shows
  · rw [dismissed] at former
    exact learns.dismissed inStep other former
  · obtain ⟨kept, keptTransaction, keptNumber, result⟩ :=
      next.shows_snapshot shows
    rw [transaction] at keptTransaction
    cases keptTransaction
    obtain rfl : orderNo = other := by
      simpa [numbered] using keptNumber
    rw [← result] at stage
    exact eq_result_of_rank stage

theorem InStep.cancelAnswered
    (inStep : InStep known store)
    (learns : Learns known orderNo later)
    (numbered : snapshot.orderNo = some orderNo)
    (given : snapshot.nextAction.isSome)
    (stage : checkoutProjectionRank (stageOf snapshot.nextAction) ≤
      checkoutProjectionRank (later orderNo))
    (preserveSelectedItem selectedItemBeforeCancel : Bool) :
    InStep later (store.cancelAnswered preserveSelectedItem
      selectedItemBeforeCancel snapshot) := by
  have after : InStep later
      (store.applyTransaction
        snapshot).dismissCurrentTerminalTransaction.reset := by
    by_cases ignored : store.shouldIgnoreTransaction snapshot = true
    · obtain ⟨-, -, -, ended⟩ := ended_of_shouldIgnore ignored
      rw [ended] at stage
      have taken := inStep.applyTransaction learns numbered given
        (ended.trans (eq_result_of_rank stage).symm)
      exact taken.dismissCurrentTerminalTransaction.reset
    · simp only [CheckoutStore.applyTransaction, ignored,
        Bool.false_eq_true, if_false]
      exact inStep.cancelHeeded learns numbered stage
  simp only [CheckoutStore.cancelAnswered]
  split_ifs
  · exact ⟨after.kept, after.dismissed⟩
  · exact after

/-- A refresh over an order on the screen takes up no other order, and no
earlier stage. -/
theorem taken_over_shown
    (shows : store.Shows orderNo stage)
    (taken : store.refreshVerdict generation snapshot = .taken) :
    snapshot.orderNo = some orderNo ∧
      (store.shouldIgnoreTransaction snapshot = false →
        orderNo ∉ store.dismissedTerminalOrderNos →
        checkoutProjectionRank stage ≤
          checkoutProjectionRank (stageOf snapshot.nextAction)) := by
  obtain ⟨current, transaction, numbered, rfl⟩ := store.shows_snapshot shows
  have view : store.customerCheckoutView =
      ⟨stageOf current.nextAction, some orderNo⟩ := shows
  simp only [CheckoutStore.refreshVerdict, view, transaction] at taken
  split_ifs at taken with mismatch ignored refused
  all_goals
    have same : CheckoutStore.matchesActiveTransactionIdentity (some current)
        (some orderNo) snapshot = true := by
      by_contra differs
      exact mismatch ⟨stageOf_ne_none _, by simpa using differs⟩
    simp only [CheckoutStore.matchesActiveTransactionIdentity,
      Option.isSome_some, Bool.true_and, Bool.and_eq_true,
      decide_eq_true_eq] at same
    refine ⟨same.1, fun heeded fresh => ?_⟩
  · simp [ignored] at heeded
  · simp only [Option.any_some, Bool.not_eq_true', Bool.not_eq_false,
      CheckoutStore.canAdvanceTransactionProjection,
      projectCustomerCheckoutView, same.1, fresh, and_false, if_false]
      at refused
    split_ifs at refused with moved
    · exact Nat.le_of_lt (by simpa using refused)
    · exact Nat.le_of_eq (not_not.mp moved).symm
    · exact Nat.le_of_eq (not_not.mp moved).symm

theorem refreshAnswered_keeps_order
    (shows : store.Shows orderNo stage) :
    ∀ kept ∈ (store.refreshAnswered generation snapshot).transaction,
      kept.orderNo = some orderNo := by
  obtain ⟨current, transaction, numbered, -⟩ := store.shows_snapshot shows
  intro kept member
  simp only [CheckoutStore.refreshAnswered] at member
  cases verdict : store.refreshVerdict generation snapshot with
  | identityMismatch | outdated =>
    simp only [verdict, transaction] at member
    cases member
    exact numbered
  | taken =>
    have same := (taken_over_shown shows verdict).1
    simp only [verdict, CheckoutStore.applyTransaction] at member
    split_ifs at member
    · simp only [transaction, Option.mem_def, Option.filter_eq_some_iff,
        Option.some.injEq] at member
      rw [← member.1]
      exact numbered
    · cases member
      exact same

theorem InStep.refreshAnswered_untaken
    (inStep : InStep known store)
    (untaken : store.refreshVerdict generation snapshot ≠ .taken) :
    InStep known (store.refreshAnswered generation snapshot) := by
  simp only [CheckoutStore.refreshAnswered]
  cases verdict : store.refreshVerdict generation snapshot with
  | identityMismatch => exact ⟨inStep.kept, inStep.dismissed⟩
  | outdated => exact inStep
  | taken => exact absurd verdict untaken

theorem InStep.refreshAnswered_taken
    (inStep : InStep known (store.applyTransaction snapshot))
    (taken : store.refreshVerdict generation snapshot = .taken) :
    InStep known (store.refreshAnswered generation snapshot) := by
  simp only [CheckoutStore.refreshAnswered, taken]
  exact ⟨inStep.kept, inStep.dismissed⟩

theorem InStep.refreshFailed
    (inStep : InStep known store) :
    InStep known store.refreshFailed := by
  simp only [CheckoutStore.refreshFailed]
  split_ifs
  · exact ⟨inStep.kept, inStep.dismissed⟩
  · exact inStep

end Store

end VendingSystem.Checkout
