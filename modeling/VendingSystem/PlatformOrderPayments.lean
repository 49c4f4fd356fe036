import VendingSystem.PlatformConservation
import VendingSystem.PlatformOrderWrites

namespace VendingSystem.Platform

/-!
# Every payment writer of an order's states

The transactions of the payment service and of order creation, each with what
it keeps of the orders.  They close an order with its fulfillment canceled, pay
it with the fulfillment that it has, or park it; none of them dispenses.
-/

open Transaction

variable {before after : Db}

namespace OrdersKept

variable (db : Db) (row : PaymentRow) (paymentId : PaymentId) (attemptId : Nat)
  (orderId : OrderId) (preferred : InventoryReservation → Nat)

theorem cancelUnpaidOrder
    (orderStatus : OrderStatus) :
    OrdersKept none db (db.cancelUnpaidOrder orderId orderStatus) := by
  unfold Db.cancelUnpaidOrder
  split
  · exact refl db
  · exact closeOrder db orderId rfl (Option.some_ne_none orderId).symm

theorem expireOrder
    (orderStatus : OrderStatus) :
    OrdersKept none db (db.expireOrder orderId orderStatus) := by
  unfold Db.expireOrder
  split
  · exact refl db
  · exact closeOrder db orderId rfl (Option.some_ne_none orderId).symm

variable {dispensed : Option OrderId} {input : PaymentTerminalTransitionInput}
  {now : Time}

theorem releaseActive
    (reason : ReservationReleaseReason)
    (preferred : InventoryReservation → Nat) :
    Within (OrdersKept dispensed)
      (releaseActiveReservationsForOrder orderId reason preferred) :=
  stockSide (StockSideOnly.releaseActiveReservations _ _ _)

theorem createPendingDispatchCommands :
    Within (OrdersKept dispensed)
      (createPendingDispatchCommands orderId) :=
  createPendingDispatchCommands_within (fun _ _ => of_same rfl rfl rfl) orderId

theorem succeedPayment
    (input : PaymentTerminalTransitionInput) :
    OrdersKept dispensed db (db.succeedPayment input) :=
  updatePayments db _ _ _ (fun _ => rfl)

theorem failPayment
    (input : PaymentTerminalTransitionInput) :
    OrdersKept dispensed db (db.failPayment input) :=
  updatePayments db _ _ _ (fun _ => rfl)

theorem finishAttempt
    (transition : Option PaymentCodeAttemptTerminalTransition) :
    Within (OrdersKept dispensed)
      (finishPaymentCodeAttempt transition) := by
  cases transition with
  | none => exact Within.pure _
  | some transition =>
    apply Within.modify
    intro db
    exact updateAttemptsWhere db _ _ _ (fun _ => rfl) (fun _ => rfl)

theorem applyProviderSuccess
    {row : PaymentRow}
    {answer : Unit}
    (current : before.orders.find? input.orderId = some row.order)
    (committed :
      Commits (applyProviderSuccess input row) before answer after) :
    OrdersKept none before after := by
  simp only [Platform.applyProviderSuccess, commits_bind, commits_modify,
    commits_pure] at committed
  obtain ⟨_, _, rfl, _, _, rfl, _, _, created, _, rfl⟩ := committed
  have paid : OrdersKept none (before.succeedPayment input)
      ((before.succeedPayment input).payOrder input.orderId
        row.order.fulfillmentState) := by
    apply payOrder
    intro order found
    change before.orders.find? input.orderId = some order at found
    rw [current] at found
    cases found
    rfl
  exact ((succeedPayment before input).trans paid).trans
    (createPendingDispatchCommands _ created)

theorem applyProviderFailure
    (input : PaymentTerminalTransitionInput)
    (row : PaymentRow)
    (preferred : InventoryReservation → Nat) :
    Within (OrdersKept none) (applyProviderFailure input row preferred) := by
  apply Within.bind
  · apply Within.modify
    intro db
    exact failPayment db input
  intro _
  apply Within.bind
  · apply Within.modify
    intro db
    exact cancelUnpaidOrder db _ _
  intro _
  exact releaseActive _ _ _

/-- The transition keeps the orders, when it names the payment's own. -/
theorem transitionProviderPaymentTerminal
    {preferred : InventoryReservation → Nat}
    {answer : PaymentTerminalTransitionResult}
    (ordered : ∀ payment,
      before.payments.find? input.paymentId = some payment →
        payment.orderId = input.orderId)
    (committed :
      Commits (transitionProviderPaymentTerminal input preferred now)
        before answer after) :
    OrdersKept none before after := by
  rw [Platform.transitionProviderPaymentTerminal, commits_get_bind] at committed
  split at committed
  · obtain ⟨_, rfl⟩ := commits_pure.mp committed
    exact refl _
  cases admittedRow : (before.paymentRow input.paymentId).filter
      (fun row => before.admitsTransition input row now) with
  | none =>
    rw [admittedRow] at committed
    obtain ⟨_, rfl⟩ := commits_pure.mp committed
    exact refl _
  | some row =>
    rw [admittedRow] at committed
    obtain ⟨joined, _⟩ := Option.filter_eq_some_iff.mp admittedRow
    obtain ⟨found, orderFound⟩ := Db.paymentRow_eq_some_iff.mp joined
    rw [ordered row.payment found] at orderFound
    simp only [applyProviderTerminal, commits_get_bind] at committed
    split at committed
    · obtain ⟨_, rfl⟩ := commits_pure.mp committed
      exact refl _
    · simp only [commits_bind, commits_modify, commits_pure] at committed
      obtain ⟨_, _, rfl, _, wrote, applied, _, _, finish, _, rfl⟩ :=
        committed
      have recorded : OrdersKept none before
          (before.addPaymentEvent row.payment.providerCode
            input.providerEventId input.paymentId) :=
        addPaymentEvent _ _ _ _
      have written : OrdersKept none
          (before.addPaymentEvent row.payment.providerCode
            input.providerEventId input.paymentId) wrote := by
        unfold applyProviderStatus at applied
        cases status : input.newStatus with
        | succeeded =>
          rw [status] at applied
          exact applyProviderSuccess orderFound applied
        | failed =>
          rw [status] at applied
          exact applyProviderFailure _ _ _ applied
      exact (recorded.trans written).trans (finishAttempt _ finish)

theorem markMockSucceeded
    {paymentId : PaymentId}
    {known : Bool}
    (committed : Commits (markMockSucceeded paymentId) before known after) :
    OrdersKept none before after := by
  simp only [Platform.markMockSucceeded, requireMockPayment, commits_bind,
    commits_get, commits_requireSome, commits_require, commits_pure]
    at committed
  obtain ⟨row, _, ⟨_, _, ⟨rfl, rfl⟩, _, _, ⟨joined, rfl⟩, _, _, ⟨_, rfl⟩,
    rfl, rfl⟩, _, before, ⟨rfl, rfl⟩, committed⟩ := committed
  obtain ⟨_, orderFound⟩ := Db.paymentRow_eq_some_iff.mp joined
  split at committed
  · obtain ⟨_, rfl⟩ := commits_pure.mp committed
    exact refl _
  · simp only [commits_bind, commits_modify, commits_pure] at committed
    obtain ⟨_, _, rfl, _, _, rfl, _, _, rfl, _, _, created, _, rfl⟩ :=
      committed
    let recorded : Db :=
      before.addPaymentEvent .mock (.mockSucceed paymentId) paymentId
    have ofEvent : OrdersKept none before recorded :=
      addPaymentEvent _ _ _ _
    by_cases already : row.payment.status = .succeeded
    · simp only [already, ↓reduceIte] at created
      exact ofEvent.trans (createPendingDispatchCommands _ created)
    · simp only [already, ↓reduceIte] at created
      let succeeded : Db :=
        { recorded with
          payments := recorded.payments.modify paymentId fun payment =>
            { payment with status := .succeeded, failedReason := none } }
      have ofPayment : OrdersKept none recorded succeeded :=
        updatePayments recorded _ _ _ (fun _ => rfl)
      have ofOrder : OrdersKept none succeeded
          (succeeded.payOrder row.order.id row.order.fulfillmentState) := by
        apply payOrder
        intro order found
        change before.orders.find? row.order.id = some order at found
        rw [Table.key_of_find? orderFound, orderFound] at found
        cases found
        rfl
      exact ((ofEvent.trans ofPayment).trans ofOrder).trans
        (createPendingDispatchCommands _ created)

theorem markMockFailed
    (reason : String)
    (preferred : InventoryReservation → Nat) :
    Within (OrdersKept none) (markMockFailed paymentId reason preferred) := by
  apply Within.bind
  · apply Within.bind Within.get
    intro db
    apply Within.bind
    · exact Within.requireSome _ _
    intro row
    apply Within.bind
    · exact Within.require _ _
    intro _
    exact Within.pure _
  intro row
  apply Within.bind Within.get
  intro db
  split
  · exact Within.pure _
  · apply Within.bind
    · exact Within.modify fun later => addPaymentEvent later _ _ _
    intro _
    apply Within.bind
    · apply Within.modify
      intro later
      exact updatePayments later _ _ _ (fun _ => rfl)
    intro _
    apply Within.bind
    · exact Within.modify fun later => cancelUnpaidOrder later _ _
    intro _
    apply Within.bind
    · exact releaseActive _ _ _
    intro _
    exact Within.pure _

theorem cancelAttempt :
    OrdersKept dispensed db (db.cancelAttempt attemptId) :=
  updateAttemptsWhere db _ _ _ (fun _ => rfl) (fun _ => rfl)

theorem expireAdmittedPayment
    (payment : Payment)
    (order : Order)
    (preferred : InventoryReservation → Nat) :
    Within (OrdersKept none)
      (expireAdmittedPayment payment order preferred) := by
  apply Within.bind Within.get
  intro db
  split
  · exact Within.pure _
  · apply Within.bind
    · apply Within.modify
      intro later
      exact updatePayments later _ _ _ (fun _ => rfl)
    intro _
    apply Within.bind
    · exact Within.modify fun later => addPaymentEvent later _ _ _
    intro _
    apply Within.bind
    · exact Within.modify fun later => expireOrder later _ _
    intro _
    apply Within.bind
    · exact releaseActive _ _ _
    intro _
    exact Within.pure _

theorem expirePayment
    (payment : Payment)
    (preferred : InventoryReservation → Nat)
    (now : Time) :
    Within (OrdersKept none) (expirePayment payment preferred now) := by
  apply Within.bind Within.get
  intro db
  split
  · exact Within.pure _
  · split
    · exact expireAdmittedPayment _ _ _
    · split
      · apply Within.bind
        · exact Within.modify fun later => cancelAttempt later _
        intro _
        exact expireAdmittedPayment _ _ _
      · exact Within.pure _

theorem cancelCheckedOrder :
    Within (OrdersKept none) (cancelCheckedOrder row preferred) := by
  apply Within.bind
  · exact Within.modify fun later => addPaymentEvent later _ _ _
  intro _
  apply Within.bind Within.get
  intro db
  apply Within.bind
  · exact Within.require _ _
  intro _
  apply Within.bind
  · apply Within.modify
    intro later
    exact updatePayments later _ _ _ (fun _ => rfl)
  intro _
  apply Within.bind Within.get
  intro later
  apply Within.bind
  · exact Within.require _ _
  intro _
  apply Within.bind
  · apply Within.modify
    intro last
    exact closeOrder last _ rfl (Option.some_ne_none _).symm
  intro _
  apply Within.bind
  · exact releaseActive _ _ _
  intro _
  exact Within.pure _

theorem scheduleAttemptRecovery
    (paymentId : PaymentId)
    (now : Time) :
    OrdersKept dispensed db
      (db.scheduleAttemptRecovery attemptId paymentId now) := by
  let woken : Db :=
    { db with
      paymentCodeAttempts := db.paymentCodeAttempts.updateWhere
        (fun attempt => attempt.id = attemptId && attempt.isActive)
        (fun attempt => { attempt with recoveryNextAt := some now }) }
  have wakes : OrdersKept dispensed db woken :=
    updateAttemptsWhere db _ _ _ (fun _ => rfl) (fun _ => rfl)
  have makesOverdue : OrdersKept dispensed woken
      (db.scheduleAttemptRecovery attemptId paymentId now) :=
    updatePayments woken _ _ _ (fun _ => rfl)
  exact wakes.trans makesOverdue

theorem cancelMachineOrder
    (now : Time) :
    Within (OrdersKept none) (cancelMachineOrder row preferred now) := by
  apply Within.bind Within.get
  intro db
  apply Within.bind
  · exact Within.requireSome _ _
  intro current
  split
  · exact Within.pure _
  · exact Within.throw _
  · apply Within.bind Within.get
    intro later
    split
    · exact cancelCheckedOrder _ _
    · split
      · apply Within.bind
        · exact Within.modify fun last => cancelAttempt last _
        intro _
        exact cancelCheckedOrder _ _
      · apply Within.bind
        · exact Within.modify fun last => scheduleAttemptRecovery last _ _ _
        intro _
        exact Within.pure _

theorem markPaymentClosed
    (expired : Bool)
    (eventName : PaymentEventName)
    (preferred : InventoryReservation → Nat) :
    Within (OrdersKept none)
      (markPaymentClosedAfterProviderAction row expired eventName
        preferred) := by
  apply Within.bind
  · apply Within.modify
    intro db
    exact updatePayments db _ _ _ (fun _ => rfl)
  intro _
  apply Within.bind
  · apply Within.modify
    intro db
    refine closeOrder db _ ?_ (Option.some_ne_none _).symm
    cases expired <;> rfl
  intro _
  apply Within.bind
  · exact Within.modify fun db => addPaymentEvent db _ _ _
  intro _
  exact releaseActive _ _ _

theorem parkPayment
    (status : PaymentStatus)
    {paymentState : OrderPaymentState}
    (failedReason : PaymentFailedReason)
    (parks : paymentState = .paymentUnknown ∨
      paymentState = .manualHandling) :
    OrdersKept dispensed db
      (db.parkPayment paymentId orderId status paymentState
        failedReason) := by
  let parked : Db :=
    { db with
      payments := db.payments.modify paymentId fun payment =>
        { payment with status, failedReason := some failedReason } }
  have ofPayment : OrdersKept dispensed db parked :=
    updatePayments db _ _ _ (fun _ => rfl)
  have ofOrder : OrdersKept dispensed parked
      (parked.setOrderStates orderId .manualHandling paymentState
        .manualHandling) := by
    apply setOrderStates
    · rcases parks with rfl | rfl <;> rfl
    · rcases parks with rfl | rfl <;> decide
  exact ofPayment.trans ofOrder

theorem markPaymentUnknown
    (message : String)
    (eventName : PaymentEventName) :
    Within (OrdersKept none)
      (markPaymentUnknownAfterProviderAction row message eventName) := by
  apply Within.bind
  · exact Within.modify fun db => parkPayment db _ _ _ _ (Or.inl rfl)
  intro _
  exact Within.modify fun db => addPaymentEvent db _ _ _

theorem markPaymentManualHandling
    (reason : String)
    (eventName : PaymentEventName) :
    Within (OrdersKept none)
      (markPaymentManualHandling row reason eventName) := by
  apply Within.bind
  · exact Within.modify fun db => parkPayment db _ _ _ _ (Or.inr rfl)
  intro _
  exact Within.modify fun db => addPaymentEvent db _ _ _

theorem addOrder
    (machineId : MachineId)
    (totalAmountCents : Nat) :
    OrdersKept dispensed db
      { db with
        orders := db.orders.insertNext fun id =>
          { id, machineId, totalAmountCents
            status := .pendingPayment
            paymentState := .awaitingPayment
            fulfillmentState := .awaitingFulfillment
            paymentId := none } } where
  projected order stored := by
    rcases (Table.mem_insertNext db.orders rfl order).mp stored with
      old | rfl
    · exact Or.inr ⟨order, old, rfl, rfl, rfl⟩
    · exact Or.inl rfl
  closed order stored isClosed := by
    rcases (Table.mem_insertNext db.orders rfl order).mp stored with
      old | rfl
    · exact Or.inr ⟨order, old, rfl, isClosed, Or.inr rfl⟩
    · exact absurd (of_decide_eq_true isClosed)
        (show OrderPaymentState.awaitingPayment ∉ closedPaymentStates by
          decide)
  payments found := ⟨_, found, rfl⟩
  linked linked := by
    refine ⟨fun order stored paymentId named => ?_, linked.attempts⟩
    rcases (Table.mem_insertNext db.orders rfl order).mp stored with
      old | rfl
    · exact linked.orders order old paymentId named
    · cases named

/-- A new payment is named by the order that it is for. -/
theorem addPayment
    (make : PaymentId → Payment)
    (numbered : ∀ id, (make id).id = id)
    (ordered : ∀ id, (make id).orderId = orderId) :
    OrdersKept dispensed db
      { db with
        payments := db.payments.insertNext make
        orders := db.orders.modify orderId fun order =>
          { order with paymentId := some db.payments.nextId } } := by
  have kept : ∀ {id payment}, db.payments.find? id = some payment →
      (db.payments.insertNext make).find? id = some payment := by
    intro id payment found
    rw [Table.find?_insertNext _ (numbered _), if_neg, found]
    rintro rfl
    rw [Table.find?_nextId] at found
    cases found
  have added : (db.payments.insertNext make).find? db.payments.nextId =
      some (make db.payments.nextId) := by
    rw [Table.find?_insertNext _ (numbered _), if_pos rfl]
  have rows : ∀ order ∈ db.orders.modify orderId (fun order =>
        { order with paymentId := some db.payments.nextId }),
      ∃ old ∈ db.orders,
        (old.id = orderId ∧
          order = { old with paymentId := some db.payments.nextId }) ∨
        order = old := by
    intro order stored
    obtain ⟨old, oldStored, changed⟩ := Table.mem_modify.mp stored
    refine ⟨old, oldStored, ?_⟩
    by_cases named : old.id = orderId
    · rw [if_pos named] at changed
      exact Or.inl ⟨named, changed.symm⟩
    · rw [if_neg named] at changed
      exact Or.inr changed.symm
  constructor
  · intro order stored
    obtain ⟨old, oldStored, ⟨_, rfl⟩ | rfl⟩ := rows order stored
    · exact Or.inr ⟨old, oldStored, rfl, rfl, rfl⟩
    · exact Or.inr ⟨order, oldStored, rfl, rfl, rfl⟩
  · intro order stored isClosed
    obtain ⟨old, oldStored, ⟨_, rfl⟩ | rfl⟩ := rows order stored
    · exact Or.inr ⟨old, oldStored, rfl, isClosed, Or.inr rfl⟩
    · exact Or.inr ⟨order, oldStored, rfl, isClosed, Or.inr rfl⟩
  · exact fun found => ⟨_, kept found, rfl⟩
  · intro linked
    constructor
    · intro order stored paymentId named
      obtain ⟨old, oldStored, ⟨ofOrder, rfl⟩ | rfl⟩ := rows order stored
      · cases named
        exact ⟨_, added, (ordered _).trans ofOrder.symm⟩
      · obtain ⟨payment, found, same⟩ :=
          linked.orders order oldStored paymentId named
        exact ⟨payment, kept found, same⟩
    · intro attempt stored
      obtain ⟨payment, found, same⟩ := linked.attempts attempt stored
      exact ⟨payment, kept found, same⟩

theorem createLocalMachineOrderDraft
    (input : CreateMachineOrderInput)
    (machineId : MachineId)
    (paymentExpiresAt : Time)
    (paymentSelection : MachinePaymentSelection) :
    Within (OrdersKept dispensed)
      (createLocalMachineOrderDraft input machineId paymentExpiresAt
        paymentSelection) := by
  apply Within.bind
  · exact lockMachine _
  intro _
  apply Within.bind
  · apply Within.bind Within.get
    intro db
    exact Within.require _ _
  intro _
  apply Within.bind
  · exact Within.mapM (itemDetail_unchanged machineId) _
  intro itemDetails
  apply Within.bind
  · apply Within.forM
    intro item
    apply Within.bind Within.get
    intro db
    exact Within.require _ _
  intro _
  apply Within.bind Within.get
  intro db
  apply Within.bind
  · apply Within.modify
    intro later
    exact addOrder later _ _
  intro _
  apply Within.bind
  · apply Within.forM
    intro item
    exact stockSide (StockSideOnly.createOrderLine _ _ _)
  -- The payment is inserted and named by its order in two statements.
  intro _ before after draft committed
  simp only [commits_bind, commits_get, commits_requireSome,
    commits_modify, commits_pure] at committed
  obtain ⟨_, _, ⟨rfl, rfl⟩, provider, before, ⟨_, rfl⟩, _, _, rfl, _, _, rfl,
    _, rfl⟩ := committed
  exact addPayment before db.orders.nextId
    (fun id =>
      { id
        orderId := db.orders.nextId
        providerCode := provider.code
        method := paymentSelection.method
        status := .created
        amountCents :=
          (itemDetails.map fun item =>
            item.unitPriceCents * item.quantity).sum
        providerTradeNo := none
        paymentUrl := none
        expiresAt := some paymentExpiresAt
        failedReason := none
        intentCreationLease := .unclaimed })
    (fun _ => rfl) (fun _ => rfl)

theorem createAcceptedOrder
    (input : CreateMachineOrderInput)
    (machineId : MachineId)
    (paymentExpiresAt : Time) :
    Within (OrdersKept dispensed)
      (createAcceptedOrder input machineId paymentExpiresAt) := by
  apply Within.bind
  · exact Within.require _ _
  intro _
  apply Within.bind
  · unfold resolvePaymentSelection
    split <;> first | exact Within.pure _ | exact Within.throw _
  intro selection
  exact createLocalMachineOrderDraft _ _ _ _

theorem cancelLocalCreatedPayment
    (draft : LocalPaymentDraft)
    (reason : String)
    (claim : LeaseClaim)
    (preferred : InventoryId × Nat → Nat)
    (now : Time) :
    Within (OrdersKept none)
      (cancelLocalCreatedPayment draft reason claim preferred now) := by
  apply Within.bind Within.get
  intro db
  split
  · apply Within.bind
    · apply Within.modify
      intro later
      exact updatePayments later _ _ _ (fun _ => rfl)
    intro _
    apply Within.bind
    · apply Within.modify
      intro later
      exact closeOrder later _ rfl (Option.some_ne_none _).symm
    intro _
    apply Within.bind
    · exact Within.modify fun later => addPaymentEvent later _ _ _
    intro _
    apply Within.forM
    intro reservation
    exact stockSide (StockSideOnly.releaseReservation _ _ _)
  · exact Within.pure _

theorem claimPaymentLease
    (qualifies : Payment → Bool)
    (ownerToken : Nat)
    (now expiresAt : Time) :
    Within (OrdersKept dispensed)
      (claimPaymentLease paymentId qualifies ownerToken now expiresAt) := by
  apply Within.bind Within.get
  intro db
  split
  · exact Within.pure _
  · apply Within.bind
    · apply Within.modify
      intro later
      exact updatePayments later _ _ _ (fun _ => rfl)
    intro _
    exact Within.pure _

theorem claimReconciledPayment
    (now : Time) :
    Within (OrdersKept dispensed)
      (claimReconciledPaymentForIntentCreation paymentId now) := by
  apply Within.bind Within.get
  intro db
  split
  · apply Within.bind
    · apply Within.modify
      intro later
      exact updatePayments later _ _ _ (fun _ => rfl)
    intro _
    exact Within.pure _
  · exact Within.pure _

theorem writesPayments
    (test : Payment → Bool)
    (change : Payment → Payment)
    (keepsId : ∀ payment, (change payment).id = payment.id)
    (sameOrder : ∀ payment, (change payment).orderId = payment.orderId) :
    Within (OrdersKept dispensed)
      (modify fun db : Db =>
        { db with
          payments := db.payments.updateWhere test change keepsId } :
        DrizzleTransaction PUnit) :=
  Within.modify fun db => updatePayments db test change keepsId sameOrder

theorem updateAttemptWhere
    (qualifies : Db → PaymentCodeAttempt → Bool)
    (status : PaymentCodeAttempt → PaymentCodeAttemptStatus)
    (isActive : PaymentCodeAttempt → Bool)
    (recoveryLease : Lease → Lease)
    (recoveryNextAt : PaymentCodeAttempt → Option Time) :
    Within (OrdersKept dispensed)
      (updateAttemptWhere attemptId qualifies status isActive recoveryLease
        recoveryNextAt) := by
  apply Within.modify
  intro db
  exact updateAttemptsWhere db _ _ _ (fun _ => rfl) (fun _ => rfl)

theorem wakeActiveAttempts
    (now : Time) :
    Within (OrdersKept dispensed) (wakeActiveAttempts paymentId now) := by
  apply Within.modify
  intro db
  exact updateAttemptsWhere db _ _ _ (fun _ => rfl) (fun _ => rfl)

theorem createOrReplayAttempt
    {orderId : OrderId}
    {idempotencyKey attemptId : Nat}
    (committed :
      Commits (createOrReplayAttempt orderId idempotencyKey now)
        before attemptId after) :
    OrdersKept dispensed before after := by
  simp only [Platform.createOrReplayAttempt, commits_get_bind,
    commits_requireSome_bind, commits_require_bind] at committed
  obtain ⟨row, joined, _, committed⟩ := committed
  split at committed
  · obtain ⟨_, rfl⟩ := commits_pure.mp committed
    exact refl _
  · simp only [commits_require_bind, commits_modify_bind,
      commits_pure] at committed
    obtain ⟨_, _, _, _, _, rfl⟩ := committed
    obtain ⟨ordered, paymentId, named, found⟩ :=
      Db.orderPaymentRow_eq_some joined
    apply updateAttempts
    intro attempt stored
    rcases (Table.mem_insertNext before.paymentCodeAttempts rfl
        attempt).mp stored with old | rfl
    · exact Or.inl ⟨attempt, old, rfl, rfl⟩
    · right
      intro linked
      obtain ⟨payment, ofOrder, same⟩ :=
        linked.orders row.order (Table.mem_of_find? ordered) paymentId named
      obtain rfl : row.payment.id = paymentId := Table.key_of_find? found
      exact ⟨payment, ofOrder, same⟩

theorem markAttemptManualHandling
    (claim : LeaseClaim)
    (reason : String)
    (eventName : PaymentEventName)
    (now : Time) :
    Within (OrdersKept none)
      (markPaymentCodeAttemptManualHandling attemptId claim reason eventName
        now) := by
  apply Within.bind Within.get
  intro db
  split
  · exact Within.pure _
  · apply Within.bind
    · exact Within.modify fun later =>
        parkPayment later _ _ _ _ (Or.inl rfl)
    intro _
    apply Within.bind
    · exact Within.modify fun later => addPaymentEvent later _ _ _
    intro _
    exact updateAttemptWhere _ _ _ _ _ _

end OrdersKept

end VendingSystem.Platform
