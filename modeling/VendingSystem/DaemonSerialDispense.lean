import VendingSystem.DaemonSerialFrames

namespace VendingSystem.Daemon

/-!
# The host's side of a dispense

`dispense_inner` from its first write on.  At each waiting point either the
next frame is read or the time of the wait runs out.  The texts of the
protocol log are left out, and so are write errors.
-/

def commandAttempts : Nat := 3

/-- The local variables of `wait_for_completion`. -/
structure CompletionWait where
  probeFailures : Nat
  outletOpenedReported : Bool
  pickupWaitingReported : Bool
  pickupCompleted : Bool
  pickupTimeoutWarnings : Nat
  deriving Repr, DecidableEq

/-- `wait_for_completion` before its first read. -/
def CompletionWait.start : CompletionWait where
  probeFailures := 0
  outletOpenedReported := false
  pickupWaitingReported := false
  pickupCompleted := false
  pickupTimeoutWarnings := 0

/-- What `dispense_inner` waits for. -/
inductive HostPoint where
  /-- `wait_for_ack` of an attempt. -/
  | awaitingAck (attempt : Nat)
  /-- `query_status_after_missing_ack` of an attempt, or after the last one. -/
  | queryingStatus (ofAttempt : Option Nat) (query : Nat)
  /-- The delay before a busy controller is asked again. -/
  | backingOff (attempt : Nat)
  | awaitingCompletion (wait : CompletionWait)
  /-- `probe_handshake`, after the heartbeats stopped. -/
  | probing (wait : CompletionWait)
  | returned (failure : Option DispenseFailure)
  deriving Repr, DecidableEq

/-- One dispense that the host was asked for. -/
structure DispenseRequest where
  command : DispenseCommandPayload
  /-- The frame that every attempt writes. -/
  frame : List UInt8
  /-- `debug_inject_next_dispense_fault`. -/
  debugInjectFault : Bool
  deriving Repr, DecidableEq

/-- What `dispense_inner` checks before it opens the port. -/
def prepareDispense
    (command : DispenseCommandPayload)
    (debugInjectFault : Bool) : Except DispenseFailure DispenseRequest :=
  if command.quantity ≠ 1 then
    .error (.unknown
      "lower controller protocol v1 supports only single-item dispense commands")
  else
    match buildDispenseFrame command.slot.rowNo command.slot.cellNo with
    | .error message => .error (.unknown message)
    | .ok frame => .ok { command, frame, debugInjectFault }

/-- What the host does between two waits. -/
structure HostMove where
  point : HostPoint
  written : List (List UInt8)
  reported : List DispenseProgressEvent

/-- A move that writes and reports nothing. -/
def HostMove.to (point : HostPoint) : HostMove where
  point := point
  written := []
  reported := []

namespace DispenseRequest

variable (request : DispenseRequest)

def emitDispenseProgress
    (stage : DispenseProgressStage)
    (warningNo : Option Nat)
    (message : String) : DispenseProgressEvent where
  commandNo := request.command.commandNo
  orderNo := request.command.orderNo
  stage := stage
  warningNo := warningNo
  message := message

/-- A status query is written and its answer awaited. -/
def queryStatus (ofAttempt : Option Nat) (query : Nat) : HostMove where
  point := .queryingStatus ofAttempt query
  written := [buildStatusQueryFrame]
  reported := []

/-- The head of the attempt loop, and what follows its last round. -/
def beginAttempt (attempt : Nat) : HostMove :=
  if attempt ≤ commandAttempts then
    { point := .awaitingAck attempt
      written := [request.frame]
      reported := [] }
  else queryStatus none 1

/-- The command is known to be under way. -/
def acknowledge : HostMove where
  point := .awaitingCompletion .start
  written :=
    if request.debugInjectFault then [debugDispenseFaultFrame] else []
  reported := []

/-- What `wait_for_ack` makes of a frame. -/
def readAck (attempt : Nat) : LowerFrame → HostMove
  | .ack => request.acknowledge
  | .crcError => request.beginAttempt (attempt + 1)
  | .busy => .to (.backingOff attempt)
  | frame =>
    if frame.isHeartbeat then .to (.awaitingAck attempt)
    else
      let description := frame.describe
      .to (.returned (some (frame.toFailure.getD (.unknown
        s!"unexpected frame while waiting for command ack: {description}"))))

/-- What follows a status query that was answered. -/
def statusAnswered (ofAttempt : Option Nat) (frame : LowerFrame) : HostMove :=
  if frame.indicatesCommandInProgress then request.acknowledge
  else
    match ofAttempt with
    | some attempt => request.beginAttempt (attempt + 1)
    | none =>
      let description := frame.describe
      .to (.returned (some (frame.toFailure.getD (.timeout
        s!"lower controller did not acknowledge command after {commandAttempts} attempts; status query returned {description}"))))

/-- What follows a read that did not answer the status query. -/
def statusMissed
    (ofAttempt : Option Nat)
    (query : Nat)
    (error : String) : HostMove :=
  if query < commandAttempts then queryStatus ofAttempt (query + 1)
  else
    match ofAttempt with
    | some attempt => request.beginAttempt (attempt + 1)
    | none =>
      .to (.returned (some (.timeout
        s!"lower controller did not acknowledge command after {commandAttempts} attempts; status query failed: {error}")))

/-- What `query_status_after_missing_ack` makes of a frame. -/
def readStatus
    (ofAttempt : Option Nat)
    (query : Nat)
    (frame : LowerFrame) : HostMove :=
  if frame.isLowerControllerStatus then request.statusAnswered ofAttempt frame
  else
    let description := frame.describe
    request.statusMissed ofAttempt query s!"unexpected frame {description}"

/-- The wait goes on after a progress report. -/
def report
    (wait : CompletionWait)
    (events : List DispenseProgressEvent) : HostMove where
  point := .awaitingCompletion wait
  written := []
  reported := events

/-- The dispense is complete. -/
def complete : HostMove where
  point := .returned none
  written := []
  reported :=
    [request.emitDispenseProgress .resetCompleted none "设备已复位完成"]

/-- What `wait_for_completion` makes of a pickup timeout warning. -/
def warnPickupTimeout (wait : CompletionWait) : HostMove :=
  if 2 ≤ wait.pickupTimeoutWarnings then report wait []
  else
    let warnings := wait.pickupTimeoutWarnings + 1
    report { wait with pickupTimeoutWarnings := warnings }
      [request.emitDispenseProgress .pickupTimeoutWarning (some warnings)
        (if 2 ≤ warnings then "请立即取走商品，设备即将自动关闭取货口"
        else "请尽快取走商品")]

/-- What `wait_for_completion` makes of a frame. -/
def readCompletion (wait : CompletionWait) : LowerFrame → HostMove
  | .resetCompletedFrame => request.complete
  | .pickupCompleted =>
    report { wait with pickupCompleted := true }
      [request.emitDispenseProgress .pickupCompleted none
        "用户已完成取货，设备正在复位"]
  | .arrivalAtOutlet =>
    report { wait with outletOpenedReported := true }
      (if wait.outletOpenedReported then []
      else
        [request.emitDispenseProgress .outletOpened none
          "取货口已打开，请取走商品"])
  | .pickupHeartbeat =>
    report { wait with pickupWaitingReported := true }
      (if wait.pickupWaitingReported then []
      else
        [request.emitDispenseProgress .pickupWaiting none
          "下位机正在等待用户取货"])
  | .pickupTimeout => request.warnPickupTimeout wait
  | .idleHeartbeat =>
    if wait.pickupCompleted then request.complete else report wait []
  | .ack | .dispensingHeartbeat | .resetHeartbeat => report wait []
  | frame =>
    let description := frame.describe
    .to (.returned (some (frame.toFailure.getD (.unknown
      s!"unexpected frame while waiting for dispense completion: {description}"))))

/-- What follows a probe that found no status. -/
def probeFailed (wait : CompletionWait) : HostMove :=
  let failures := wait.probeFailures + 1
  if commandAttempts ≤ failures then
    .to (.returned (some (.timeout
      "lower controller heartbeat missing: no response after handshake probes")))
  else report { wait with probeFailures := failures } []

/-- The move on the next frame of the line, at a point that reads. -/
def read (point : HostPoint) (frame : LowerFrame) : Option HostMove :=
  match point with
  | .awaitingAck attempt => some (request.readAck attempt frame)
  | .queryingStatus ofAttempt query =>
    some (request.readStatus ofAttempt query frame)
  | .backingOff _ => none
  | .awaitingCompletion wait =>
    some (request.readCompletion { wait with probeFailures := 0 } frame)
  | .probing wait =>
    some (if frame.isLowerControllerStatus then
      report { wait with probeFailures := 0 } []
    else probeFailed wait)
  | .returned _ => none

/-- The move when the time of the wait is over and nothing was read. -/
def waitEnds : HostPoint → Option HostMove
  | .awaitingAck attempt => some (queryStatus (some attempt) 1)
  | .queryingStatus ofAttempt query =>
    some (request.statusMissed ofAttempt query "serial read timeout")
  | .backingOff attempt => some (request.beginAttempt (attempt + 1))
  | .awaitingCompletion wait =>
    some
      { point := .probing wait
        written := [buildStatusQueryFrame]
        reported := [] }
  | .probing wait => some (probeFailed wait)
  | .returned _ => none

/-- The move when the command deadline has passed. -/
def deadlinePasses : HostPoint → Option HostMove
  | .awaitingCompletion _ =>
    some (.to (.returned (some (.timeout
      "dispense command timed out before completion frame"))))
  | _ => none

end DispenseRequest

end VendingSystem.Daemon
