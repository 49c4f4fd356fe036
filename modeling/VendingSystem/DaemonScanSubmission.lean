import VendingSystem.DaemonOrderSessions
import VendingSystem.DaemonScanFrames
import VendingSystem.Machine

namespace VendingSystem.Daemon

/-!
# From the scanner's bytes to the submitted payment code

The serial loop, the one watcher that submits, and everything else that arms
the scanner or writes an order session run beside each other.  What is read
before an await is in the hands of the one who read it.
-/

/-- A byte, and the arm that was in force when the loop received it. -/
structure ReceivedByte where
  byte : UInt8
  arm : PaymentCodeScanArm
  deriving Repr, DecidableEq

/-- Bytes that the loop has checked and not framed yet. -/
structure CheckedBytes where
  bytes : List UInt8
  nowMs : Nat
  arm : PaymentCodeScanArm
  epoch : Nat
  deriving Repr, DecidableEq

/-- A framed code with the epoch of its last byte. -/
structure CompletedFrame where
  raw : RawPaymentCode
  epoch : Nat
  /-- The bytes fed to the framer since it was reset. -/
  received : List ReceivedByte
  deriving Repr, DecidableEq

structure ArmedPaymentCode where
  raw : RawPaymentCode
  arm : PaymentCodeScanArm
  scannerEventId : String
  received : List ReceivedByte
  deriving Repr, DecidableEq

structure ScannerLoop where
  framer : ScannerFramer
  observedArmEpoch : Option Nat
  fed : List ReceivedByte
  checked : Option CheckedBytes
  completed : List CompletedFrame
  sending : Option ArmedPaymentCode
  deriving Repr, DecidableEq

namespace ScannerLoop

/-- A loop over a port that was just opened. -/
def opened (suffix : ScannerFrameSuffix) : ScannerLoop where
  framer := .new suffix
  observedArmEpoch := none
  fed := []
  checked := none
  completed := []
  sending := none

/-- The loop waits for the port. -/
def isReading (loop : ScannerLoop) : Bool :=
  loop.checked.isNone && loop.completed = [] && loop.sending.isNone

/-- A suffix is looked for byte by byte, else a read is a frame. -/
def takes (loop : ScannerLoop) (bytes : List UInt8) : Bool :=
  if loop.framer.suffix = .none then bytes != [] else bytes.length == 1

/-- The framer starts anew when the arm has changed. -/
def observe (loop : ScannerLoop) (epoch : Nat) : ScannerLoop :=
  if loop.observedArmEpoch = some epoch then loop
  else
    { loop with
      framer := loop.framer.reset
      observedArmEpoch := some epoch
      fed := [] }

/-- Look at the arm before bytes are framed; without one they are dropped. -/
def receive
    (loop : ScannerLoop)
    (armer : PaymentCodeScanArmer)
    (bytes : List UInt8)
    (nowMs : Nat) : ScannerLoop :=
  { loop.observe armer.epoch with
    checked := armer.accepting?.map fun arm =>
      { bytes
        nowMs
        arm
        epoch := armer.epoch } }

/-- Frame the bytes that were checked. -/
def push (loop : ScannerLoop) (checked : CheckedBytes) : ScannerLoop :=
  let pushed := loop.framer.pushBytes checked.bytes checked.nowMs
  let fed := loop.fed ++ checked.bytes.map fun byte =>
    { byte
      arm := checked.arm }
  { loop with
    framer := pushed.1
    fed
    checked := none
    completed := pushed.2.map fun raw =>
      { raw
        epoch := checked.epoch
        received := fed } }

end ScannerLoop

/-- An attempt that was begun for a scanned code. -/
structure BegunAttempt where
  orderNo : OrderNo
  idempotencyKey : String
  scan : ArmedPaymentCode
  deriving Repr, DecidableEq

/-- Where the watcher is in the submission of a code. -/
inductive SubmissionPhase where
  | received
  | guarding
  | locking
  /-- The mutation lock is held. -/
  | beginning (snapshot : CurrentTransaction)
  | checking (attempt : BegunAttempt) (snapshot : CurrentTransaction)
  | submitting
      (attempt : BegunAttempt)
      (snapshot : CurrentTransaction)
      (retries : Nat)
  | finishing
      (attempt : BegunAttempt)
      (snapshot : CurrentTransaction)
      (response : Option PaymentCodeResponse)
  | refreshing (snapshot : CurrentTransaction)
  | ending
  deriving Repr, DecidableEq

structure Submission where
  scan : ArmedPaymentCode
  phase : SubmissionPhase
  deriving Repr, DecidableEq

/-- What a step of the submission takes from outside. -/
structure SubmissionInput where
  now : Time
  idempotencyKey : String
  guardPasses : Bool
  response : Option PaymentCodeResponse
  answer : Except String BackendStatus

structure ScanDaemon where
  store : Store
  armer : PaymentCodeScanArmer
  loop : ScannerLoop
  queue : List ArmedPaymentCode
  submission : Option Submission
  /-- The attempts begun and the ones sent to the backend, last first. -/
  begun : List BegunAttempt
  sent : List BegunAttempt

/-- The scan as it is stored with its attempt. -/
def ArmedPaymentCode.scan
    (scan : ArmedPaymentCode)
    (idempotencyKey : String) : PaymentCodeScan where
  maskedAuthCode := scan.raw.maskedCode
  source := "serial_text"
  scannedAtMs := scan.raw.scannedAtMs
  scannerEventId := some scan.scannerEventId
  idempotencyKey := idempotencyKey

namespace ScanDaemon

def initial (store : Store) (suffix : ScannerFrameSuffix) : ScanDaemon where
  store := store
  armer := .initial
  loop := .opened suffix
  queue := []
  submission := none
  begun := []
  sent := []

/-- The daemon with its submission in another phase. -/
def inPhase
    (daemon : ScanDaemon)
    (scan : ArmedPaymentCode)
    (phase : SubmissionPhase) : ScanDaemon :=
  { daemon with submission := some { scan, phase } }

/-- The mutation lock is taken by the submission. -/
def locked (daemon : ScanDaemon) : Bool :=
  daemon.submission.any fun submission =>
    match submission.phase with
    | .beginning _ => true
    | _ => false

/-- Read the current order again, and the arm that the code was taken with. -/
def lock (daemon : ScanDaemon) (scan : ArmedPaymentCode) : ScanDaemon :=
  match daemon.store.currentTransaction with
  | .ok (some snapshot) =>
    if scan.arm.orderNo = snapshot.orderNo ∧
        daemon.armer.isConsumed scan.arm = true ∧
        snapshot.awaitsPaymentCode = true then
      daemon.inPhase scan (.beginning snapshot)
    else daemon.inPhase scan .ending
  | _ => daemon.inPhase scan .ending

/-- Store the attempt, unless the order takes none. -/
def begin
    (daemon : ScanDaemon)
    (scan : ArmedPaymentCode)
    (snapshot : CurrentTransaction)
    (input : SubmissionInput) : ScanDaemon :=
  match beginPaymentCodeAttempt daemon.store snapshot.orderNo
      (scan.scan input.idempotencyKey) input.now with
  | .error _ => daemon.inPhase scan .ending
  | .ok store =>
    let attempt :=
      { orderNo := snapshot.orderNo
        idempotencyKey := input.idempotencyKey
        scan }
    { daemon.inPhase scan (.checking attempt snapshot) with
      store
      armer := daemon.armer.clearMatching scan.arm
      begun := attempt :: daemon.begun }

/-- Send the code while its attempt is the current one, three times at most. -/
def submit
    (daemon : ScanDaemon)
    (scan : ArmedPaymentCode)
    (attempt : BegunAttempt)
    (snapshot : CurrentTransaction)
    (retries : Nat)
    (input : SubmissionInput) : ScanDaemon :=
  if paymentCodeAttemptIsCurrent daemon.store attempt.orderNo
      attempt.idempotencyKey then
    let daemon := { daemon with sent := attempt :: daemon.sent }
    match input.response, retries with
    | none, retries + 1 =>
      daemon.inPhase scan (.submitting attempt snapshot retries)
    | response, _ =>
      daemon.inPhase scan (.finishing attempt snapshot response)
  else daemon.inPhase scan .ending

/-- Record how the submission ended. -/
def finish
    (daemon : ScanDaemon)
    (scan : ArmedPaymentCode)
    (attempt : BegunAttempt)
    (snapshot : CurrentTransaction)
    (response : Option PaymentCodeResponse)
    (input : SubmissionInput) : ScanDaemon :=
  let daemon :=
    { daemon with
      store := finishPaymentCodeAttempt daemon.store attempt.orderNo
        (response.getD .unreachable) input.now }
  if response.isSome then daemon.inPhase scan (.refreshing snapshot)
  else daemon.inPhase scan .ending

/-- Ask the backend about the order, and store what it answered. -/
def refresh
    (daemon : ScanDaemon)
    (scan : ArmedPaymentCode)
    (snapshot : CurrentTransaction)
    (input : SubmissionInput) : ScanDaemon :=
  let stored :=
    match input.answer with
    | .ok status =>
      applyBackendOrderStatus daemon.store snapshot.orderNo status input.now
    | .error error =>
      upsertOrderSession daemon.store
        (snapshot.restored
          ((daemon.store.orderSessions.find? snapshot.orderNo).bind
            OrderSession.paymentAttempt) error) input.now
  match stored with
  | .ok store => { daemon.inPhase scan .ending with store }
  | .error _ => daemon.inPhase scan .ending

/-- The next step of the submission. -/
def advance
    (daemon : ScanDaemon)
    (scan : ArmedPaymentCode)
    (input : SubmissionInput) : SubmissionPhase → ScanDaemon
  | .received =>
    if daemon.armer.isConsumed scan.arm then daemon.inPhase scan .guarding
    else { daemon with submission := none }
  | .guarding =>
    daemon.inPhase scan (if input.guardPasses then .locking else .ending)
  | .locking => daemon.lock scan
  | .beginning snapshot => daemon.begin scan snapshot input
  | .checking attempt snapshot =>
    daemon.inPhase scan
      (if paymentCodeAttemptIsCurrent daemon.store attempt.orderNo
          attempt.idempotencyKey then .submitting attempt snapshot 2
        else .ending)
  | .submitting attempt snapshot retries =>
    daemon.submit scan attempt snapshot retries input
  | .finishing attempt snapshot response =>
    daemon.finish scan attempt snapshot response input
  | .refreshing snapshot => daemon.refresh scan snapshot input
  | .ending =>
    { daemon with
      armer := daemon.armer.clearMatching scan.arm
      submission := none }

/-- Arm for the order that waits for a code, or clear the arm. -/
def sync
    (daemon : ScanDaemon)
    (current : Option CurrentTransaction)
    (attemptId armedAtMs : Nat) : ScanDaemon :=
  { daemon with
    armer :=
      match current.filter CurrentTransaction.awaitsPaymentCode with
      | none => daemon.armer.clear
      | some waiting =>
        daemon.armer.armAt waiting.orderNo attemptId armedAtMs }

/-- Take the arm for the next framed code; without it the code is dropped. -/
def consume
    (daemon : ScanDaemon)
    (frame : CompletedFrame)
    (rest : List CompletedFrame)
    (scannerEventId : String) : ScanDaemon :=
  match daemon.armer.consumeAtEpoch frame.epoch frame.raw.scannedAtMs with
  | none => { daemon with loop := { daemon.loop with completed := rest } }
  | some (arm, armer) =>
    { daemon with
      armer
      loop :=
        { daemon.loop with
          completed := rest
          sending := some
            { raw := frame.raw
              arm
              scannerEventId
              received := frame.received } } }

end ScanDaemon

/-- No session that has an attempt loses it. -/
def Store.keepsAttempts (before after : Store) : Bool :=
  before.orderSessions.rows.all fun session =>
    session.paymentAttempt.isNone ||
      (after.orderSessions.find? session.orderNo).any fun stored =>
        stored.paymentAttempt.isSome

inductive ScanEvent where
  -- the serial loop
  | reopen (suffix : ScannerFrameSuffix)
  | receive (bytes : List UInt8) (nowMs : Nat)
  | push
  | consume (scannerEventId : String)
  | send
  -- the watcher
  | watch
  | advance (input : SubmissionInput)
  | fail
  -- the armer
  | arm (orderNo : OrderNo) (attemptId armedAtMs : Nat)
  | clear
  | sync
      (current : Option CurrentTransaction)
      (attemptId armedAtMs : Nat)
  -- a poll or a cancellation, the creation of an order, any other write
  | answered (orderNo : OrderNo) (status : BackendStatus) (now : Time)
  | upsert (input : OrderSessionUpsert) (now : Time)
  | elsewhere (after : Store)

def ScanDaemon.step (daemon : ScanDaemon) : ScanEvent → Option ScanDaemon
  | .reopen suffix =>
    if daemon.loop.isReading then
      some { daemon with loop := .opened suffix }
    else none
  | .receive bytes nowMs =>
    if daemon.loop.isReading && daemon.loop.takes bytes then
      some { daemon with
        loop := daemon.loop.receive daemon.armer bytes nowMs }
    else none
  | .push =>
    daemon.loop.checked.map fun checked =>
      { daemon with loop := daemon.loop.push checked }
  | .consume scannerEventId =>
    match daemon.loop.sending, daemon.loop.completed with
    | none, frame :: rest =>
      some (daemon.consume frame rest scannerEventId)
    | _, _ => none
  | .send =>
    daemon.loop.sending.map fun scan =>
      { daemon with
        loop := { daemon.loop with sending := none }
        queue := daemon.queue ++ [scan] }
  | .watch =>
    match daemon.submission, daemon.queue with
    | none, scan :: rest =>
      some { daemon.inPhase scan .received with queue := rest }
    | _, _ => none
  | .advance input =>
    daemon.submission.map fun submission =>
      daemon.advance submission.scan input submission.phase
  | .fail =>
    daemon.submission.bind fun submission =>
      if submission.phase = .received then none
      else some (daemon.inPhase submission.scan .ending)
  | .arm orderNo attemptId armedAtMs =>
    some { daemon with
      armer := daemon.armer.armAt orderNo attemptId armedAtMs }
  | .clear =>
    if daemon.locked then none
    else some { daemon with armer := daemon.armer.clear }
  | .sync current attemptId armedAtMs =>
    if daemon.locked then none
    else some (daemon.sync current attemptId armedAtMs)
  | .answered orderNo status now =>
    match applyBackendOrderStatus daemon.store orderNo status now with
    | .ok store => some { daemon with store }
    | .error _ => none
  | .upsert input now =>
    match upsertOrderSession daemon.store input now with
    | .ok store => some { daemon with store }
    | .error _ => none
  | .elsewhere after =>
    if daemon.store.keepsAttempts after then
      some { daemon with store := after }
    else none

/-- The scanner, the watcher and the rest of the daemon, in any order. -/
def scanMachine : Machine ScanDaemon ScanEvent where
  step := ScanDaemon.step

end VendingSystem.Daemon
