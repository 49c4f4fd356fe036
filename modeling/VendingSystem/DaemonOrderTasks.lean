import VendingSystem.Machine
import VendingSystem.DaemonOrderSessions

namespace VendingSystem.Daemon

/-!
# The daemon's work on order sessions

A refresh, a cancellation, the payment poller, a payment-code submission and
the dispense commit, cut where they await the backend or the store.  What a
task read stays in its hands with the moment at which it was read.
-/

/-- Who applies a backend answer. -/
inductive Caller where
  | refresh
  | cancel
  | poll
  | submit (snapshot : CurrentTransaction) (asOf : Nat)
  deriving Repr, DecidableEq

/-- A submission applies the answer without the mutation lock. -/
def Caller.locks : Caller → Bool
  | .refresh
  | .cancel
  | .poll => true
  | .submit _ _ => false

/-- The next thing that a piece of work does. -/
inductive OrderTask where
  | refresh
  | request (caller : Caller) (orderNo : OrderNo)
  | answered
      (caller : Caller)
      (orderNo : OrderNo)
      (status : BackendStatus)
      (asOf : Nat)
  | upserting (caller : Caller) (input : OrderSessionUpsert) (asOf : Nat)
  | scanned (scan : PaymentCodeScan)
  | beginning
      (scan : PaymentCodeScan)
      (snapshot : CurrentTransaction)
      (asOf : Nat)
  | submitting
      (scan : PaymentCodeScan)
      (snapshot : CurrentTransaction)
      (asOf : Nat)
      (retries : Nat)
  | finishing
      (snapshot : CurrentTransaction)
      (asOf : Nat)
      (response : Option PaymentCodeResponse)
  | restoring (snapshot : CurrentTransaction) (asOf : Nat) (error : String)
  | committing
      (command : DispenseCommandPayload)
      (result : DispenseResultPayload)
  deriving Repr, DecidableEq

/-- The work that can begin at any time. -/
def OrderTask.starts : OrderTask → Bool
  | .refresh
  | .request .cancel _
  | .request .poll _
  | .scanned _
  | .committing _ _ => true
  | _ => false

/-- The work that is inside the mutation lock. -/
def OrderTask.holdsLock : OrderTask → Bool
  | .upserting caller _ _ => caller.locks
  | .beginning _ _ _ => true
  | _ => false

/-- A session's action was overwritten. -/
structure SessionWrite where
  orderNo : OrderNo
  informedAt : Nat
  writtenAt : Nat
  before : Option String
  after : String
  deriving Repr, DecidableEq

/-- The store, the mutation lock, the work in hand and the writes so far. -/
structure OrderDaemon where
  store : Store
  clock : Nat
  mutationLocked : Bool
  tasks : List OrderTask
  writes : List SessionWrite
  deriving DecidableEq

def OrderDaemon.initial (store : Store) : OrderDaemon where
  store := store
  clock := 0
  mutationLocked := false
  tasks := []
  writes := []

/-- What a step takes from outside the store. -/
structure OrderInput where
  now : Time
  preferred : PlanogramVersion × SlotId
  answer : Except String BackendStatus
  response : Option PaymentCodeResponse

/-- Leave the mutation lock, if it was taken. -/
def OrderDaemon.unlock (daemon : OrderDaemon) (held : Bool) : OrderDaemon :=
  { daemon with mutationLocked := daemon.mutationLocked && !held }

/-- Store what a write made of the sessions, and remember the write. -/
def OrderDaemon.afterWrite
    (daemon : OrderDaemon)
    (store : Store)
    (orderNo : OrderNo)
    (informedAt : Nat)
    (after : String) : OrderDaemon :=
  { daemon with
    store := store
    writes := daemon.writes ++
      [{ orderNo := orderNo
         informedAt := informedAt
         writtenAt := daemon.clock
         before := daemon.store.nextActionOf orderNo
         after := after }] }

/-- Polling goes on while the provider works on the shown attempt. -/
def Caller.followUps
    (caller : Caller)
    (store : Store)
    (orderNo : OrderNo) : List OrderTask :=
  let follows :=
    match store.currentTransaction with
    | .ok (some current) => shouldFollowPaymentCodeAttempt current
    | _ => false
  match caller with
  | .refresh
  | .cancel => []
  | .poll
  | .submit _ _ =>
    if follows then [.request .poll orderNo] else []

def DispenseResultPayload.nextAction (result : DispenseResultPayload) :
    String :=
  if result.success then "success" else "dispense_failed"

/-- The next step of a piece of work, unless it has to wait for the lock. -/
def OrderDaemon.perform
    (daemon : OrderDaemon)
    (input : OrderInput) :
    OrderTask → Option (OrderDaemon × List OrderTask)
  | .refresh =>
    match daemon.store.currentTransaction with
    | .ok (some current) =>
      some (daemon,
        if isTerminalTransaction current then []
        else [.request .refresh current.orderNo])
    | _ => some (daemon, [])
  | .request caller orderNo =>
    match input.answer, caller with
    | .ok status, _ =>
      some (daemon, [.answered caller orderNo status daemon.clock])
    | .error error, .submit snapshot asOf =>
      some (daemon, [.restoring snapshot asOf error])
    | .error _, _ => some (daemon, [])
  | .answered caller orderNo status asOf =>
    if caller.locks && daemon.mutationLocked then none
    else
      match daemon.store.orderSessions.find? orderNo with
      | none => some (daemon, [])
      | some record =>
        some
          ({ daemon with
             mutationLocked := daemon.mutationLocked || caller.locks },
            [.upserting caller (record.mergedWith status)
              (if status.nextAction.isSome then asOf
                else daemon.clock)])
  | .upserting caller upsert asOf =>
    match upsertOrderSession daemon.store upsert input.now with
    | .error _ => some (daemon.unlock caller.locks, [])
    | .ok next =>
      some
        ((daemon.afterWrite next upsert.orderNo asOf
            upsert.nextAction).unlock caller.locks,
          caller.followUps next upsert.orderNo)
  | .scanned scan =>
    if daemon.mutationLocked then none
    else
      match daemon.store.currentTransaction with
      | .ok (some snapshot) =>
        if snapshot.awaitsPaymentCode then
          some ({ daemon with mutationLocked := true },
            [.beginning scan snapshot daemon.clock])
        else some (daemon, [])
      | _ => some (daemon, [])
  | .beginning scan snapshot asOf =>
    match beginPaymentCodeAttempt
        daemon.store snapshot.orderNo scan input.now with
    | .error _ => some (daemon.unlock true, [])
    | .ok next =>
      some ({ daemon.unlock true with store := next },
        [.submitting scan snapshot asOf 2])
  | .submitting scan snapshot asOf retries =>
    if paymentCodeAttemptIsCurrent
        daemon.store snapshot.orderNo scan.idempotencyKey then
      match input.response, retries with
      | none, retries + 1 =>
        some (daemon, [.submitting scan snapshot asOf retries])
      | response, _ =>
        some (daemon, [.finishing snapshot asOf response])
    else some (daemon, [])
  | .finishing snapshot asOf response =>
    some
      ({ daemon with
         store := finishPaymentCodeAttempt daemon.store snapshot.orderNo
           (response.getD .unreachable) input.now },
        if response.isSome then
          [.request (.submit snapshot asOf) snapshot.orderNo]
        else [])
  | .restoring snapshot asOf error =>
    let attempt :=
      (daemon.store.orderSessions.find? snapshot.orderNo).bind
        OrderSession.paymentAttempt
    match upsertOrderSession daemon.store
        (snapshot.restored attempt error) input.now with
    | .error _ => some (daemon, [])
    | .ok next =>
      some
        (daemon.afterWrite next snapshot.orderNo asOf
            snapshot.nextAction,
          (Caller.submit snapshot asOf).followUps next
            snapshot.orderNo)
  | .committing command result =>
    match commitJournaledDispenseSideEffects
        daemon.store command result input.preferred input.now with
    | .error _ => some (daemon, [])
    | .ok (next, _) =>
      some
        (if (daemon.store.nextActionOf command.orderNo).isSome then
          daemon.afterWrite next command.orderNo daemon.clock
            result.nextAction
        else { daemon with store := next }, [])

/-- The sessions that were there keep their status and action. -/
def Store.keepsSessions (before after : Store) : Bool :=
  decide ((before.orderSessions.rows.map fun session =>
      (session.orderNo, session.status, session.nextAction)) <+:
    (after.orderSessions.rows.map fun session =>
      (session.orderNo, session.status, session.nextAction)))

inductive OrderEvent where
  | begin (task : OrderTask)
  | advance (position : Nat) (input : OrderInput)
  | fail (position : Nat)
  | elsewhere (after : Store)
  | crash

/-- The step function; every step takes one tick of the clock. -/
def OrderDaemon.step (daemon : OrderDaemon) :
    OrderEvent → Option OrderDaemon
  | .begin task =>
    if task.starts then
      some { daemon with
        clock := daemon.clock + 1
        tasks := daemon.tasks ++ [task] }
    else none
  | .advance position input =>
    daemon.tasks[position]?.bind fun task =>
      (daemon.perform input task).map fun performed =>
        { performed.1 with
          clock := daemon.clock + 1
          tasks := daemon.tasks.eraseIdx position ++ performed.2 }
  | .fail position =>
    daemon.tasks[position]?.map fun task =>
      { daemon.unlock task.holdsLock with
        clock := daemon.clock + 1
        tasks := daemon.tasks.eraseIdx position }
  | .elsewhere after =>
    if daemon.store.keepsSessions after then
      some { daemon with
        clock := daemon.clock + 1
        store := after }
    else none
  | .crash =>
    some { daemon with
      clock := daemon.clock + 1
      mutationLocked := false
      tasks := [] }

/-- The daemon's work on order sessions, in any order. -/
def orderMachine : Machine OrderDaemon OrderEvent where
  step := OrderDaemon.step

end VendingSystem.Daemon
