import VendingSystem.CheckoutStore
import VendingSystem.Machine

namespace VendingSystem.Checkout

/-!
# The checkout store between its requests

The store's actions run up to their next request and go on with its answer,
in any order with one another.  An answer shows the daemon's session of an
order at some moment since the request.
-/

/-- The sessions of the daemon at every moment. -/
structure Daemon where
  session : OrderNo → Nat → TransactionSnapshot
  /-- The order of the current transaction. -/
  current : Nat → Option OrderNo
  numbered : ∀ orderNo moment, (session orderNo moment).orderNo = some orderNo
  given : ∀ orderNo moment, (session orderNo moment).nextAction.isSome
  advances : ∀ orderNo {moment later}, moment ≤ later →
    checkoutProjectionRank (stageOf (session orderNo moment).nextAction) ≤
      checkoutProjectionRank (stageOf (session orderNo later).nextAction)

/-- The answer to a read of the current transaction. -/
def Daemon.getCurrentTransaction
    (daemon : Daemon)
    (moment : Nat) : TransactionSnapshot :=
  match daemon.current moment with
  | some orderNo => daemon.session orderNo moment
  | none =>
    { orderId := none, orderNo := none, nextAction := none
      updatedAtMs := moment }

def Daemon.stageAt
    (daemon : Daemon)
    (orderNo : OrderNo)
    (moment : Nat) : Stage :=
  stageOf (daemon.session orderNo moment).nextAction

/-- A `cancelOrder` request in flight. -/
structure CancelRequest where
  orderNo : OrderNo
  preserveSelectedItem : Bool
  selectedItemBeforeCancel : Bool
  since : Nat
  deriving Repr, DecidableEq

/-- A `getCurrentTransaction` request in flight. -/
structure RefreshRequest where
  generation : Nat
  since : Nat
  /-- A newer refresh or a new order was asked for since. -/
  invalidated : Bool
  deriving Repr, DecidableEq

structure System where
  store : CheckoutStore
  now : Nat
  /-- The `createOrder` calls that wait for the catalog. -/
  preparing : Nat
  /-- The `createOrder` requests in flight, each with its moment. -/
  creating : List Nat
  cancelling : List CancelRequest
  refreshing : List RefreshRequest
  /-- The latest moment of an answer about the order that was applied. -/
  applied : OrderNo → Nat

inductive Event where
  | pass
  | selectItem
  | reset
  | createOrder
  /-- The catalog was read, and the checks before the request passed or not. -/
  | catalogRefreshed (ready : Bool)
  | createAnswered (position : Nat) (orderNo : OrderNo) (moment : Nat)
  | createFailed (position : Nat)
  | invalidateCurrentTransaction
  | refreshAnswered (position : Nat) (moment : Nat)
  | refreshFailed (position : Nat)
  /-- The promise of the coordinator settles. -/
  | refreshSettled
  | cancelCurrentOrder (preserveSelectedItem : Bool)
  | cancelAnswered (position : Nat) (moment : Nat)
  | cancelFailed (position : Nat)
  | dismissCurrentTerminalTransaction
  deriving Repr, DecidableEq

namespace System

/-- An answer about the order was applied. -/
def withApplied
    (system : System)
    (orderNo : OrderNo)
    (moment : Nat) : System :=
  { system with
    applied := fun other =>
      if other = orderNo then max (system.applied orderNo) moment
      else system.applied other }

/-- `transactionRefreshGeneration += 1`. -/
def nextGeneration (system : System) : System :=
  { system with
    store :=
      { system.store with
        transactionRefreshGeneration :=
          system.store.transactionRefreshGeneration + 1 }
    refreshing := system.refreshing.map ({ · with invalidated := true }) }

/-- `getCurrentTransaction` is asked under the current generation. -/
def askRefresh (system : System) : System :=
  { system with
    store := { system.store with refreshRunning := true }
    refreshing := system.refreshing ++
      [{ generation := system.store.transactionRefreshGeneration
         since := system.now, invalidated := false }] }

def createOrder (system : System) : System :=
  if system.store.transactionRecoveryOrderNo.isSome ∨
      system.store.selectedItem = false then system
  else { system.nextGeneration with preparing := system.preparing + 1 }

def invalidateCurrentTransaction (system : System) : System :=
  let next := system.nextGeneration
  if next.store.refreshRunning then next else next.askRefresh

def cancelCurrentOrder
    (system : System)
    (preserveSelectedItem : Bool) : System :=
  if system.store.transactionRecoveryOrderNo.isSome then system
  else
    match system.store.customerCheckoutView.orderCredential.or
        (system.store.transaction.bind (·.orderNo)) with
    | none => { system with store := system.store.reset }
    | some orderNo =>
      { system with
        cancelling := system.cancelling ++
          [{ orderNo, preserveSelectedItem
             selectedItemBeforeCancel := system.store.selectedItem
             since := system.now }] }

def refreshAnswered
    (daemon : Daemon)
    (system : System)
    (request : RefreshRequest)
    (moment : Nat) : System :=
  if request.generation ≠ system.store.transactionRefreshGeneration then
    system.askRefresh
  else
    let snapshot := daemon.getCurrentTransaction moment
    let verdict := system.store.refreshVerdict request.generation snapshot
    let answered :=
      { system with
        store := system.store.refreshAnswered request.generation snapshot }
    match verdict, snapshot.orderNo with
    | .taken, some orderNo => answered.withApplied orderNo moment
    | _, _ => answered

def refreshFailed (system : System) (request : RefreshRequest) : System :=
  if request.generation ≠ system.store.transactionRefreshGeneration then
    system.askRefresh
  else
    { system with store := system.store.refreshFailed }

/-- The answer to `createOrder` shows the session of the order it made. -/
def createAnswered
    (daemon : Daemon)
    (system : System)
    (orderNo : OrderNo)
    (moment : Nat) : System :=
  let snapshot := daemon.session orderNo moment
  { system with store := system.store.applyTransaction snapshot
    }.withApplied orderNo moment

def cancelAnswered
    (daemon : Daemon)
    (system : System)
    (request : CancelRequest)
    (moment : Nat) : System :=
  let snapshot := daemon.session request.orderNo moment
  { system with
    store := system.store.cancelAnswered request.preserveSelectedItem
      request.selectedItemBeforeCancel snapshot
    }.withApplied request.orderNo moment

end System

/-- The moment lies between a request and its answer. -/
def within (system : System) (since moment : Nat) : Bool :=
  since ≤ moment && moment ≤ system.now

def checkout (daemon : Daemon) : Machine System Event where
  step system
    | .pass => some { system with now := system.now + 1 }
    | .selectItem => some { system with store := system.store.selectItem }
    | .reset => some { system with store := system.store.reset }
    | .createOrder => some system.createOrder
    | .catalogRefreshed ready =>
      if system.preparing = 0 then none
      else
        some
          { system with
            preparing := system.preparing - 1
            creating :=
              if ready && system.store.selectedItem then
                system.creating ++ [system.now]
              else system.creating }
    | .createAnswered position orderNo moment =>
      system.creating[position]?.bind fun since =>
        if within system since moment then
          some ({ system with
            creating := system.creating.eraseIdx position
            }.createAnswered daemon orderNo moment)
        else none
    | .createFailed position =>
      system.creating[position]?.map fun _ =>
        { system with creating := system.creating.eraseIdx position }
    | .invalidateCurrentTransaction =>
      some system.invalidateCurrentTransaction
    | .refreshAnswered position moment =>
      system.refreshing[position]?.bind fun request =>
        if within system request.since moment then
          some ({ system with
            refreshing := system.refreshing.eraseIdx position
            }.refreshAnswered daemon request moment)
        else none
    | .refreshFailed position =>
      system.refreshing[position]?.map fun request =>
        { system with
          refreshing := system.refreshing.eraseIdx position
          }.refreshFailed request
    | .refreshSettled =>
      if system.refreshing = [] then
        some
          { system with
            store := { system.store with refreshRunning := false } }
      else none
    | .cancelCurrentOrder preserveSelectedItem =>
      some (system.cancelCurrentOrder preserveSelectedItem)
    | .cancelAnswered position moment =>
      system.cancelling[position]?.bind fun request =>
        if within system request.since moment then
          some ({ system with
            cancelling := system.cancelling.eraseIdx position
            }.cancelAnswered daemon request moment)
        else none
    | .cancelFailed position =>
      system.cancelling[position]?.map fun _ =>
        { system with cancelling := system.cancelling.eraseIdx position }
    | .dismissCurrentTerminalTransaction =>
      some
        { system with
          store := system.store.dismissCurrentTerminalTransaction }

/-- The screen starts with the dismissed orders that it stored. -/
structure Start (daemon : Daemon) where
  dismissedTerminalOrderNos : List OrderNo
  ended : ∀ orderNo ∈ dismissedTerminalOrderNos,
    daemon.stageAt orderNo 0 = .result

def Start.system {daemon : Daemon} (start : Start daemon) : System where
  store :=
    { selectedItem := false
      transaction := none
      dismissedTerminalOrderNos := start.dismissedTerminalOrderNos
      transactionRecoveryOrderNo := none
      transactionRefreshGeneration := 0
      transactionRefreshLastAcceptedRequestNo := 0
      refreshRunning := false }
  now := 0
  preparing := 0
  creating := []
  cancelling := []
  refreshing := []
  applied _ := 0

/--
An answer that is taken up without a comparison was not read before one about
the same order that has been applied already.
-/
def AppliesInOrder (daemon : Daemon) (system : System) : Event → Prop
  | .createAnswered _ orderNo moment => system.applied orderNo ≤ moment
  | .refreshAnswered position moment =>
    ∀ request ∈ system.refreshing[position]?,
      request.generation = system.store.transactionRefreshGeneration →
      system.store.customerCheckoutView.stage = .none →
      ∀ orderNo ∈ daemon.current moment, system.applied orderNo ≤ moment
  | _ => True

instance (daemon : Daemon) (system : System) :
    ∀ event, Decidable (AppliesInOrder daemon system event)
  | .createAnswered _ orderNo moment =>
    inferInstanceAs (Decidable (system.applied orderNo ≤ moment))
  | .refreshAnswered position moment =>
    inferInstanceAs (Decidable
      (∀ request ∈ system.refreshing[position]?,
        request.generation = system.store.transactionRefreshGeneration →
        system.store.customerCheckoutView.stage = .none →
        ∀ orderNo ∈ daemon.current moment,
          system.applied orderNo ≤ moment))
  | .pass | .selectItem | .reset | .createOrder | .catalogRefreshed _
  | .createFailed _ | .invalidateCurrentTransaction | .refreshFailed _
  | .refreshSettled | .cancelCurrentOrder _ | .cancelAnswered _ _
  | .cancelFailed _ | .dismissCurrentTerminalTransaction => isTrue trivial

/-- What holds of two states of a run, the second one later. -/
structure NeverStepsBack (daemon : Daemon) (middle last : System) : Prop where
  /-- The stage of an order does not decrease. -/
  stages : ∀ orderNo stage later,
    middle.store.Shows orderNo stage → last.store.Shows orderNo later →
      checkoutProjectionRank stage ≤ checkoutProjectionRank later
  /-- A dismissed order is not shown. -/
  hidden : ∀ orderNo ∈ last.store.dismissedTerminalOrderNos,
    ∀ stage, ¬ last.store.Shows orderNo stage
  /-- One read of the current transaction is in flight at most. -/
  single : last.refreshing.length ≤ 1
  /-- The answer to an invalidated refresh changes nothing that is shown. -/
  dropped : ∀ position moment next,
    ∀ request ∈ last.refreshing[position]?, request.invalidated = true →
      (checkout daemon).step last (.refreshAnswered position moment) =
        some next →
      next.store.transaction = last.store.transaction
  /-- The answer to a refresh does not replace the order that is shown. -/
  kept : ∀ position moment next,
    (checkout daemon).step last (.refreshAnswered position moment) =
        some next →
      ∀ orderNo stage, last.store.Shows orderNo stage →
        ∀ snapshot ∈ next.store.transaction,
          snapshot.orderNo = some orderNo

/-- The view never steps back between any two states of the run. -/
def ViewNeverStepsBack
    (daemon : Daemon)
    (start : Start daemon)
    (events : List Event) : Prop :=
  ∀ leading trailing middle last, leading ++ trailing = events →
    (checkout daemon).run start.system leading = some middle →
    (checkout daemon).run middle trailing = some last →
    NeverStepsBack daemon middle last

/-- The stage of the order's session at the last answer that was applied. -/
def System.known
    (daemon : Daemon)
    (system : System)
    (orderNo : OrderNo) : Stage :=
  daemon.stageAt orderNo (system.applied orderNo)

structure Coherent (daemon : Daemon) (system : System) : Prop where
  inStep : InStep (system.known daemon) system.store
  single : system.refreshing.length ≤ 1
  running : system.refreshing ≠ [] → system.store.refreshRunning = true
  generations : ∀ request ∈ system.refreshing,
    request.generation ≤ system.store.transactionRefreshGeneration ∧
      (request.invalidated = true →
        request.generation < system.store.transactionRefreshGeneration)

theorem start_coherent {daemon : Daemon} (start : Start daemon) :
    Coherent daemon start.system where
  inStep :=
    { kept := by
        intro snapshot member
        cases member
      dismissed := start.ended }
  single := Nat.zero_le 1
  running := fun asked => absurd rfl asked
  generations := by
    intro request member
    cases member

/-- The refresh bookkeeping that only a refresh changes. -/
def SameRefresh (store other : CheckoutStore) : Prop :=
  other.transactionRefreshGeneration = store.transactionRefreshGeneration ∧
    other.refreshRunning = store.refreshRunning

theorem SameRefresh.trans
    {store middle last : CheckoutStore}
    (first : SameRefresh store middle)
    (second : SameRefresh middle last) :
    SameRefresh store last :=
  ⟨second.1.trans first.1, second.2.trans first.2⟩

theorem selectItem_sameRefresh (store : CheckoutStore) :
    SameRefresh store store.selectItem := by
  simp only [CheckoutStore.selectItem]
  split_ifs <;> exact ⟨rfl, rfl⟩

theorem reset_sameRefresh (store : CheckoutStore) :
    SameRefresh store store.reset := by
  simp only [CheckoutStore.reset]
  split_ifs <;> exact ⟨rfl, rfl⟩

theorem dismiss_sameRefresh (store : CheckoutStore) :
    SameRefresh store store.dismissCurrentTerminalTransaction := by
  simp only [CheckoutStore.dismissCurrentTerminalTransaction]
  split
  · exact ⟨rfl, rfl⟩
  · split_ifs <;> exact ⟨rfl, rfl⟩

theorem apply_sameRefresh
    (store : CheckoutStore)
    (snapshot : TransactionSnapshot) :
    SameRefresh store (store.applyTransaction snapshot) := by
  simp only [CheckoutStore.applyTransaction]
  split_ifs <;> exact ⟨rfl, rfl⟩

theorem cancelAnswered_sameRefresh
    (store : CheckoutStore)
    (preserveSelectedItem selectedItemBeforeCancel : Bool)
    (snapshot : TransactionSnapshot) :
    SameRefresh store (store.cancelAnswered preserveSelectedItem
      selectedItemBeforeCancel snapshot) := by
  have after :=
    ((apply_sameRefresh store snapshot).trans (dismiss_sameRefresh _)).trans
      (reset_sameRefresh _)
  simp only [CheckoutStore.cancelAnswered]
  split_ifs
  · exact ⟨after.1, after.2⟩
  · exact after

theorem refreshAnswered_sameRefresh
    (store : CheckoutStore)
    (generation : Nat)
    (snapshot : TransactionSnapshot) :
    SameRefresh store (store.refreshAnswered generation snapshot) := by
  simp only [CheckoutStore.refreshAnswered]
  split
  · exact ⟨rfl, rfl⟩
  · exact ⟨rfl, rfl⟩
  · exact apply_sameRefresh store snapshot

theorem refreshFailed_sameRefresh (store : CheckoutStore) :
    SameRefresh store store.refreshFailed := by
  simp only [CheckoutStore.refreshFailed]
  split_ifs <;> exact ⟨rfl, rfl⟩

section Step

variable {daemon : Daemon} {system next : System} {store : CheckoutStore}
  {request : RefreshRequest} {position moment : Nat} {orderNo : OrderNo}
  {event : Event}

section

variable (coherent : Coherent daemon system)

include coherent

theorem Coherent.withStore
    (inStep : InStep (system.known daemon) store)
    (same : SameRefresh system.store store) :
    Coherent daemon { system with store } where
  inStep := inStep
  single := coherent.single
  running := by
    intro asked
    exact same.2.trans (coherent.running asked)
  generations := by
    intro request member
    have kept := coherent.generations request member
    rwa [← same.1] at kept

theorem Coherent.elsewhere
    {change : System}
    (store : change.store = system.store)
    (refreshing : change.refreshing = system.refreshing)
    (applied : change.applied = system.applied) :
    Coherent daemon change := by
  have known : change.known daemon = system.known daemon := by
    funext orderNo
    simp only [System.known, applied]
  constructor
  · simpa only [known, store] using coherent.inStep
  · simpa only [refreshing] using coherent.single
  · simpa only [refreshing, store] using coherent.running
  · simpa only [refreshing, store] using coherent.generations

theorem Coherent.eraseRefresh
    (position : Nat) :
    Coherent daemon
      { system with refreshing := system.refreshing.eraseIdx position } where
  inStep := coherent.inStep
  single := Nat.le_trans (List.length_eraseIdx_le _ _) coherent.single
  running := by
    intro asked
    refine coherent.running fun none => asked ?_
    simp [none]
  generations := by
    intro request member
    exact coherent.generations request (List.mem_of_mem_eraseIdx member)

theorem Coherent.nextGeneration :
    Coherent daemon system.nextGeneration where
  inStep := ⟨coherent.inStep.kept, coherent.inStep.dismissed⟩
  single := by
    simpa [System.nextGeneration] using coherent.single
  running := by
    intro asked
    exact coherent.running (by simpa [System.nextGeneration] using asked)
  generations := by
    intro request member
    obtain ⟨former, asked, rfl⟩ := List.mem_map.mp member
    have older := (coherent.generations former asked).1
    exact ⟨Nat.le_succ_of_le older, fun _ => Nat.lt_succ_of_le older⟩

theorem Coherent.askRefresh
    (idle : system.refreshing = []) :
    Coherent daemon system.askRefresh where
  inStep := ⟨coherent.inStep.kept, coherent.inStep.dismissed⟩
  single := by
    simp [System.askRefresh, idle]
  running := fun _ => rfl
  generations := by
    intro request member
    simp only [System.askRefresh, idle, List.nil_append, List.mem_singleton]
      at member
    subst member
    exact ⟨Nat.le_refl _, fun invalidated => nomatch invalidated⟩

/-- The one refresh in flight leaves none behind. -/
theorem Coherent.erase_eq_nil
    (found : system.refreshing[position]? = some request) :
    system.refreshing.eraseIdx position = [] := by
  obtain ⟨bound, -⟩ := List.getElem?_eq_some_iff.mp found
  have single := coherent.single
  have first : position = 0 := by omega
  subst first
  cases refreshing : system.refreshing with
  | nil => rfl
  | cons head rest =>
    rw [refreshing] at single
    simpa using single

end

/-- An answer tells the stage of its order, and no earlier one. -/
theorem System.withApplied_learns (orderNo : OrderNo) (moment : Nat) :
    Learns (system.known daemon) orderNo
      ((system.withApplied orderNo moment).known daemon) where
  others := by
    intro other different
    simp [System.known, System.withApplied, different]
  advances := by
    simp only [System.known, System.withApplied, if_true]
    exact daemon.advances orderNo (Nat.le_max_left _ _)

theorem System.withApplied_known
    (inOrder : system.applied orderNo ≤ moment) :
    stageOf (daemon.session orderNo moment).nextAction =
      (system.withApplied orderNo moment).known daemon orderNo := by
  simp [System.known, System.withApplied, Daemon.stageAt,
    Nat.max_eq_right inOrder]

theorem System.withApplied_rank (orderNo : OrderNo) (moment : Nat) :
    checkoutProjectionRank
        (stageOf (daemon.session orderNo moment).nextAction) ≤
      checkoutProjectionRank
        ((system.withApplied orderNo moment).known daemon orderNo) := by
  simp only [System.known, System.withApplied, if_true]
  exact daemon.advances orderNo (Nat.le_max_right _ _)

section

variable (coherent : Coherent daemon system)

include coherent

theorem Coherent.withApplied
    (inStep : InStep ((system.withApplied orderNo moment).known daemon) store)
    (same : SameRefresh system.store store) :
    Coherent daemon
      ({ system with store }.withApplied orderNo moment) where
  inStep := inStep
  single := coherent.single
  running := by
    intro asked
    exact same.2.trans (coherent.running asked)
  generations := by
    intro request member
    have kept := coherent.generations request member
    rwa [← same.1] at kept

theorem Coherent.createAnswered
    (inOrder : system.applied orderNo ≤ moment) :
    Coherent daemon (system.createAnswered daemon orderNo moment) := by
  refine coherent.withApplied ?_ (apply_sameRefresh _ _)
  exact coherent.inStep.applyTransaction
    (System.withApplied_learns orderNo moment)
    (daemon.numbered orderNo moment) (daemon.given orderNo moment)
    (System.withApplied_known inOrder)

theorem Coherent.cancelAnswered
    (request : CancelRequest)
    (moment : Nat) :
    Coherent daemon (system.cancelAnswered daemon request moment) := by
  refine coherent.withApplied ?_ (cancelAnswered_sameRefresh _ _ _ _)
  exact coherent.inStep.cancelAnswered
    (System.withApplied_learns request.orderNo moment)
    (daemon.numbered request.orderNo moment)
    (daemon.given request.orderNo moment)
    (System.withApplied_rank request.orderNo moment) _ _

/-- An answer to a refresh that is taken up is of the latest known stage. -/
theorem Coherent.taken_known
    {generation : Nat}
    (inOrder : system.store.customerCheckoutView.stage = .none →
      system.applied orderNo ≤ moment)
    (taken : system.store.refreshVerdict generation
      (daemon.session orderNo moment) = .taken) :
    stageOf (daemon.session orderNo moment).nextAction =
      (system.withApplied orderNo moment).known daemon orderNo := by
  by_cases recent : system.applied orderNo ≤ moment
  · exact System.withApplied_known recent
  · obtain ⟨shown, shows⟩ :=
      system.store.shows_of_stage fun hidden => recent (inOrder hidden)
    obtain ⟨numbered, compared⟩ := taken_over_shown shows taken
    obtain rfl : orderNo = shown := by
      simpa [daemon.numbered] using numbered
    obtain ⟨stage, fresh⟩ := coherent.inStep.shows shows
    have heeded : system.store.shouldIgnoreTransaction
        (daemon.session orderNo moment) = false := by
      by_contra ignored
      obtain ⟨ended, endedNumber, dismissed, -⟩ :=
        ended_of_shouldIgnore (by simpa using ignored)
      rw [daemon.numbered] at endedNumber
      cases endedNumber
      exact fresh dismissed
    have forward := compared heeded fresh
    have backward := daemon.advances orderNo (Nat.le_of_not_le recent)
    rw [stage] at forward
    have same : (system.withApplied orderNo moment).known daemon orderNo =
        system.known daemon orderNo := by
      simp [System.known, System.withApplied,
        Nat.max_eq_left (Nat.le_of_not_le recent)]
    rw [same]
    exact eq_of_rank (Nat.le_antisymm backward forward)

/-- The answer to a refresh that was not invalidated. -/
theorem Coherent.refreshCurrent
    (current : request.generation =
      system.store.transactionRefreshGeneration)
    (inOrder : system.store.customerCheckoutView.stage = .none →
      ∀ orderNo ∈ daemon.current moment, system.applied orderNo ≤ moment) :
    Coherent daemon (system.refreshAnswered daemon request moment) := by
  have same := refreshAnswered_sameRefresh system.store request.generation
    (daemon.getCurrentTransaction moment)
  simp only [System.refreshAnswered, current, ne_eq, not_true_eq_false,
    if_false] at same ⊢
  cases reads : daemon.current moment with
  | none =>
    have unnumbered :
        (daemon.getCurrentTransaction moment).orderNo = none := by
      simp [Daemon.getCurrentTransaction, reads]
    split
    · rename_i numbered
      rw [unnumbered] at numbered
      cases numbered
    · refine coherent.withStore ?_ same
      by_cases taken : system.store.refreshVerdict
          system.store.transactionRefreshGeneration
          (daemon.getCurrentTransaction moment) = .taken
      · exact .refreshAnswered_taken
          (coherent.inStep.applyTransaction_unnumbered unnumbered) taken
      · exact coherent.inStep.refreshAnswered_untaken taken
  | some orderNo =>
    have snapshot : daemon.getCurrentTransaction moment =
        daemon.session orderNo moment := by
      simp [Daemon.getCurrentTransaction, reads]
    rw [snapshot] at same ⊢
    simp only [daemon.numbered]
    split
    · rename_i taken numbered
      cases numbered
      refine coherent.withApplied ?_ same
      refine .refreshAnswered_taken
        (coherent.inStep.applyTransaction
          (System.withApplied_learns orderNo moment)
          (daemon.numbered orderNo moment) (daemon.given orderNo moment)
          (coherent.taken_known ?_ taken)) taken
      intro hidden
      exact inOrder hidden orderNo reads
    · rename_i untaken
      refine coherent.withStore ?_ same
      exact coherent.inStep.refreshAnswered_untaken fun taken =>
        untaken orderNo taken rfl

theorem Coherent.refreshAnswered
    (idle : system.refreshing = [])
    (inOrder : request.generation =
        system.store.transactionRefreshGeneration →
      system.store.customerCheckoutView.stage = .none →
      ∀ orderNo ∈ daemon.current moment, system.applied orderNo ≤ moment) :
    Coherent daemon (system.refreshAnswered daemon request moment) := by
  by_cases current :
      request.generation = system.store.transactionRefreshGeneration
  · exact coherent.refreshCurrent current (inOrder current)
  · simp only [System.refreshAnswered, ne_eq, current, not_false_eq_true,
      if_true]
    exact coherent.askRefresh idle

theorem Coherent.refreshFailed
    (idle : system.refreshing = [])
    (request : RefreshRequest) :
    Coherent daemon (system.refreshFailed request) := by
  simp only [System.refreshFailed]
  split_ifs
  · exact coherent.askRefresh idle
  · exact coherent.withStore coherent.inStep.refreshFailed
      (refreshFailed_sameRefresh _)

end

theorem Coherent.createOrder (coherent : Coherent daemon system) :
    Coherent daemon system.createOrder := by
  simp only [System.createOrder]
  split_ifs
  · exact coherent
  · have next := coherent.nextGeneration
    exact ⟨next.inStep, next.single, next.running, next.generations⟩

theorem Coherent.invalidateCurrentTransaction
    (coherent : Coherent daemon system) :
    Coherent daemon system.invalidateCurrentTransaction := by
  simp only [System.invalidateCurrentTransaction]
  split_ifs with running
  · exact coherent.nextGeneration
  · refine coherent.nextGeneration.askRefresh ?_
    by_contra asked
    exact running (coherent.nextGeneration.running asked)

theorem Coherent.cancelCurrentOrder
    (coherent : Coherent daemon system)
    (preserveSelectedItem : Bool) :
    Coherent daemon (system.cancelCurrentOrder preserveSelectedItem) := by
  simp only [System.cancelCurrentOrder]
  split_ifs
  · exact coherent
  · split
    · exact coherent.withStore coherent.inStep.reset (reset_sameRefresh _)
    · exact ⟨coherent.inStep, coherent.single, coherent.running,
        coherent.generations⟩

/-- Every step in order keeps the store in step. -/
theorem step_coherent
    (coherent : Coherent daemon system)
    (inOrder : AppliesInOrder daemon system event)
    (step : (checkout daemon).step system event = some next) :
    Coherent daemon next := by
  cases event with
  | pass =>
    cases step
    exact coherent.elsewhere rfl rfl rfl
  | selectItem =>
    cases step
    exact coherent.withStore coherent.inStep.selectItem
      (selectItem_sameRefresh _)
  | reset =>
    cases step
    exact coherent.withStore coherent.inStep.reset (reset_sameRefresh _)
  | createOrder =>
    cases step
    exact coherent.createOrder
  | catalogRefreshed ready =>
    simp only [checkout] at step
    split_ifs at step <;> cases step <;> exact coherent.elsewhere rfl rfl rfl
  | createAnswered position orderNo moment =>
    obtain ⟨since, -, step⟩ := Option.bind_eq_some_iff.mp step
    split_ifs at step
    cases step
    refine Coherent.createAnswered ?_ inOrder
    exact coherent.elsewhere rfl rfl rfl
  | createFailed position =>
    obtain ⟨since, -, rfl⟩ := Option.map_eq_some_iff.mp step
    exact coherent.elsewhere rfl rfl rfl
  | invalidateCurrentTransaction =>
    cases step
    exact coherent.invalidateCurrentTransaction
  | refreshAnswered position moment =>
    obtain ⟨request, found, step⟩ := Option.bind_eq_some_iff.mp step
    split_ifs at step
    cases step
    exact (coherent.eraseRefresh position).refreshAnswered
      (coherent.erase_eq_nil found) (inOrder request found)
  | refreshFailed position =>
    obtain ⟨request, found, rfl⟩ := Option.map_eq_some_iff.mp step
    exact (coherent.eraseRefresh position).refreshFailed
      (coherent.erase_eq_nil found) request
  | refreshSettled =>
    simp only [checkout] at step
    split_ifs at step with idle
    cases step
    exact ⟨⟨coherent.inStep.kept, coherent.inStep.dismissed⟩,
      coherent.single, fun asked => absurd idle asked,
      coherent.generations⟩
  | cancelCurrentOrder preserveSelectedItem =>
    cases step
    exact coherent.cancelCurrentOrder preserveSelectedItem
  | cancelAnswered position moment =>
    obtain ⟨request, found, step⟩ := Option.bind_eq_some_iff.mp step
    split_ifs at step
    cases step
    refine Coherent.cancelAnswered ?_ request moment
    exact coherent.elsewhere rfl rfl rfl
  | cancelFailed position =>
    obtain ⟨request, found, rfl⟩ := Option.map_eq_some_iff.mp step
    exact coherent.elsewhere rfl rfl rfl
  | dismissCurrentTerminalTransaction =>
    cases step
    exact coherent.withStore
      coherent.inStep.dismissCurrentTerminalTransaction
      (dismiss_sameRefresh _)

/-- The latest answer about an order does not become an earlier one. -/
theorem step_applied
    (step : (checkout daemon).step system event = some next)
    (orderNo : OrderNo) :
    system.applied orderNo ≤ next.applied orderNo := by
  have withApplied (answered : System) (order moment : Nat) :
      answered.applied orderNo ≤
        (answered.withApplied order moment).applied orderNo := by
    by_cases same : orderNo = order
    · subst same
      simpa [System.withApplied] using Nat.le_max_left _ moment
    · simp [System.withApplied, same]
  cases event with
  | pass
  | selectItem
  | reset
  | dismissCurrentTerminalTransaction =>
    cases step
    exact Nat.le_refl _
  | createOrder =>
    cases step
    simp only [System.createOrder, System.nextGeneration]
    split_ifs <;> exact Nat.le_refl _
  | catalogRefreshed ready =>
    simp only [checkout] at step
    split_ifs at step <;> cases step <;> exact Nat.le_refl _
  | createAnswered position order moment =>
    obtain ⟨since, -, step⟩ := Option.bind_eq_some_iff.mp step
    split_ifs at step
    cases step
    exact withApplied _ order moment
  | createFailed position
  | cancelFailed position =>
    obtain ⟨request, -, rfl⟩ := Option.map_eq_some_iff.mp step
    exact Nat.le_refl _
  | invalidateCurrentTransaction =>
    cases step
    simp only [System.invalidateCurrentTransaction]
    split_ifs <;> exact Nat.le_refl _
  | refreshAnswered position moment =>
    obtain ⟨request, -, step⟩ := Option.bind_eq_some_iff.mp step
    split_ifs at step
    cases step
    simp only [System.refreshAnswered]
    split_ifs
    · exact Nat.le_refl _
    · split
      · exact withApplied _ _ moment
      · exact Nat.le_refl _
  | refreshFailed position =>
    obtain ⟨request, -, rfl⟩ := Option.map_eq_some_iff.mp step
    simp only [System.refreshFailed, System.askRefresh]
    split_ifs <;> exact Nat.le_refl _
  | refreshSettled =>
    simp only [checkout] at step
    split_ifs at step
    cases step
    exact Nat.le_refl _
  | cancelCurrentOrder preserveSelectedItem =>
    cases step
    simp only [System.cancelCurrentOrder]
    split_ifs
    · exact Nat.le_refl _
    · split <;> exact Nat.le_refl _
  | cancelAnswered position moment =>
    obtain ⟨request, -, step⟩ := Option.bind_eq_some_iff.mp step
    split_ifs at step
    cases step
    exact withApplied _ request.orderNo moment

theorem run_applied
    {events : List Event}
    (run : (checkout daemon).run system events = some next)
    (orderNo : OrderNo) :
    system.applied orderNo ≤ next.applied orderNo :=
  Machine.run_keeps
    (fun before step => Nat.le_trans before (step_applied step orderNo))
    (Nat.le_refl _) run

theorem refreshAnswered_step
    (step : (checkout daemon).step system (.refreshAnswered position moment) =
      some next) :
    ∃ request, system.refreshing[position]? = some request ∧
      next.store.transaction =
        if request.generation ≠ system.store.transactionRefreshGeneration then
          system.store.transaction
        else
          (system.store.refreshAnswered request.generation
            (daemon.getCurrentTransaction moment)).transaction := by
  obtain ⟨request, found, step⟩ := Option.bind_eq_some_iff.mp step
  split_ifs at step
  cases step
  refine ⟨request, found, ?_⟩
  simp only [System.refreshAnswered]
  split_ifs
  · rfl
  · split <;> rfl

end Step

/-- Two states of a run whose answers are applied in order. -/
theorem coherent_neverStepsBack
    {daemon : Daemon}
    {middle last : System}
    {events : List Event}
    (middleCoherent : Coherent daemon middle)
    (lastCoherent : Coherent daemon last)
    (run : (checkout daemon).run middle events = some last) :
    NeverStepsBack daemon middle last where
  stages := by
    intro orderNo stage later showsFirst showsLast
    rw [(middleCoherent.inStep.shows showsFirst).1,
      (lastCoherent.inStep.shows showsLast).1]
    exact daemon.advances orderNo (run_applied run orderNo)
  hidden := by
    intro orderNo dismissed stage shows
    exact (lastCoherent.inStep.shows shows).2 dismissed
  single := lastCoherent.single
  dropped := by
    intro position moment next request found invalidated step
    obtain ⟨answered, foundAnswered, transaction⟩ :=
      refreshAnswered_step step
    obtain rfl : request = answered :=
      Option.some.inj ((Option.mem_def.mp found).symm.trans foundAnswered)
    have older := (lastCoherent.generations request
      (List.mem_of_getElem? foundAnswered)).2 invalidated
    rw [transaction, if_pos (Nat.ne_of_lt older)]
  kept := by
    intro position moment next step orderNo stage shows snapshot member
    obtain ⟨request, -, transaction⟩ := refreshAnswered_step step
    rw [transaction] at member
    split_ifs at member
    · obtain ⟨current, kept, numbered, -⟩ := last.store.shows_snapshot shows
      rw [kept] at member
      cases member
      exact numbered
    · exact refreshAnswered_keeps_order shows snapshot member

/--
The customer's view never steps back in a run in which what is taken up
without a comparison was not read before what has been applied.
-/
theorem view_never_steps_back
    {daemon : Daemon}
    (start : Start daemon)
    {events : List Event}
    (inOrder : (checkout daemon).RunMeets (AppliesInOrder daemon)
      start.system events) :
    ViewNeverStepsBack daemon start events := by
  rintro leading trailing middle last rfl first second
  obtain ⟨inOrderFirst, inOrderLater⟩ := inOrder.split
  have middleCoherent := Machine.run_keeps_of_meets step_coherent
    (start_coherent start) inOrderFirst first
  exact coherent_neverStepsBack middleCoherent
    (Machine.run_keeps_of_meets step_coherent middleCoherent
      (inOrderLater middle first) second) second

/-- Orders wait for their payment and are closed from moment two on. -/
def closedAtTwo : Daemon where
  session orderNo moment :=
    { orderId := some orderNo, orderNo := some orderNo
      nextAction := some (if moment < 2 then .waitPayment else .closed)
      updatedAtMs := moment }
  current _ := some 7
  numbered _ _ := rfl
  given _ _ := rfl
  advances := by
    intro orderNo moment later before
    by_cases waiting : later < 2
    · have earlier : moment < 2 := Nat.lt_of_le_of_lt before waiting
      simp [waiting, earlier]
    · simp only [waiting, if_false]
      split_ifs <;> decide

def noDismissals (daemon : Daemon) : Start daemon where
  dismissedTerminalOrderNos := []
  ended := by
    intro orderNo member
    cases member

/-- An order is made and its payment page is shown. -/
def orderMade : List Event :=
  [.selectItem, .createOrder, .catalogRefreshed true, .createAnswered 0 7 0]

/--
The page asks for the current transaction.  The customer cancels while the
answer is on its way.
-/
def cancelledMeanwhile : List Event :=
  orderMade ++
    [.pass, .invalidateCurrentTransaction, .cancelCurrentOrder false, .pass,
      .cancelAnswered 0 2, .refreshAnswered 0 1]

/-- The payment page of the cancelled order comes back. -/
theorem cancelled_order_comes_back :
    ¬ ViewNeverStepsBack closedAtTwo (noDismissals closedAtTwo)
      cancelledMeanwhile := by
  intro never
  have shown : ∃ last,
      (checkout closedAtTwo).run (noDismissals closedAtTwo).system
        cancelledMeanwhile = some last ∧
      7 ∈ last.store.dismissedTerminalOrderNos ∧
      last.store.Shows 7 .payment :=
    ⟨_, rfl, by decide, by decide⟩
  obtain ⟨last, run, dismissed, shows⟩ := shown
  have kept := never cancelledMeanwhile [] last last (List.append_nil _) run rfl
  exact kept.hidden 7 dismissed .payment shows

/-- The customer cancels after the answer has arrived. -/
def cancelledAfterwards : List Event :=
  orderMade ++
    [.pass, .invalidateCurrentTransaction, .refreshAnswered 0 1,
      .refreshSettled, .cancelCurrentOrder false, .pass, .cancelAnswered 0 2]

theorem cancelled_order_stays_away :
    ViewNeverStepsBack closedAtTwo (noDismissals closedAtTwo)
      cancelledAfterwards :=
  view_never_steps_back _ (by decide)

end VendingSystem.Checkout
