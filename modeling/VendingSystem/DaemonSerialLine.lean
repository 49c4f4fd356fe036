import VendingSystem.DaemonSerialDispense
import VendingSystem.Executions

namespace VendingSystem.Daemon

/-!
# The lower controller and the serial line

The controller as its protocol document describes it, without faults.  Both
directions of the line deliver whole frames in order; how long a frame takes
is up to the schedule.
-/

/-- How often an event frame is repeated. -/
def announcements : Nat := 3

/-- What the controller is doing, with the event frames sent so far. -/
inductive ControllerPhase where
  | idle
  | dispensing (announced : Nat)
  | pickup (announced : Nat)
  | resetting (announced : Nat)
  deriving Repr, DecidableEq

/-- The controller, with the dispenses it has started. -/
structure Controller where
  phase : ControllerPhase
  started : Nat
  deriving Repr, DecidableEq

/-- The status that heartbeats and status answers carry. -/
def ControllerPhase.status : ControllerPhase → LowerFrame
  | .idle => .idleHeartbeat
  | .dispensing _ => .dispensingHeartbeat
  | .pickup _ => .pickupHeartbeat
  | .resetting _ => .resetHeartbeat

/-- The slots of the machine, row by row. -/
def slotExists (row cell : UInt8) : Bool :=
  let cells :=
    if 1 ≤ row.toNat ∧ row.toNat ≤ 6 then 5
    else if 7 ≤ row.toNat ∧ row.toNat ≤ 8 then 4
    else if row.toNat = 9 then 3
    else 0
  1 ≤ cell.toNat && cell.toNat ≤ cells

variable {rowNo cellNo : Nat}

theorem maxCellNoForLayer_cases
    {maxCell : Nat}
    (layer : maxCellNoForLayer rowNo = some maxCell) :
    (1 ≤ rowNo ∧ rowNo ≤ 6 ∧ maxCell = 5) ∨
      (7 ≤ rowNo ∧ rowNo ≤ 8 ∧ maxCell = 4) ∨
      (rowNo = 9 ∧ maxCell = 3) := by
  simp only [maxCellNoForLayer, slotMinRowNo, slotLayerBands, slotMaxRowNo,
    List.find?_cons, List.find?_nil] at layer
  by_cases under : rowNo < 1
  · simp [under] at layer
  · by_cases lower : rowNo ≤ 6
    · simp [under, lower] at layer
      omega
    · by_cases upper : rowNo ≤ 8
      · simp [under, lower, upper] at layer
        omega
      · by_cases top : rowNo ≤ 9
        · simp [under, lower, upper, top] at layer
          omega
        · simp [under, lower, upper, top] at layer

theorem validateSlotBounds_ok
    (valid : validateSlotBounds rowNo cellNo = .ok ()) :
    ∃ maxCell, maxCellNoForLayer rowNo = some maxCell ∧
      1 ≤ cellNo ∧ cellNo ≤ maxCell := by
  simp only [validateSlotBounds] at valid
  split at valid
  · cases valid
  · next maxCell layer =>
      split at valid
      · next inside => exact ⟨maxCell, layer, inside⟩
      · cases valid

theorem slotExists_of_validateSlotBounds
    (row : rowNo < 256)
    (cell : cellNo < 256)
    (valid : validateSlotBounds rowNo cellNo = .ok ()) :
    slotExists (UInt8.ofNat rowNo) (UInt8.ofNat cellNo) = true := by
  have rowByte : (UInt8.ofNat rowNo).toNat = rowNo := by
    simpa using Nat.mod_eq_of_lt row
  have cellByte : (UInt8.ofNat cellNo).toNat = cellNo := by
    simpa using Nat.mod_eq_of_lt cell
  obtain ⟨maxCell, layer, inside⟩ := validateSlotBounds_ok valid
  simp only [slotExists, rowByte, cellByte, Bool.and_eq_true,
    decide_eq_true_eq]
  rcases maxCellNoForLayer_cases layer with
    ⟨low, high, rfl⟩ | ⟨low, high, rfl⟩ | ⟨rfl, rfl⟩
  · simpa [low, high] using inside
  · have upper : ¬ rowNo ≤ 6 := by omega
    simpa [low, high, upper] using inside
  · simpa using inside

namespace Controller

/-- The answer to the dispense frame of a slot. -/
def receiveDispense
    (controller : Controller)
    (row cell crc : UInt8) : Controller × LowerFrame :=
  if controller.phase ≠ .idle then (controller, .busy)
  else if crc8 [row, cell] ≠ crc then (controller, .crcError)
  else if slotExists row cell then
    ({ phase := .dispensing 0, started := controller.started + 1 }, .ack)
  else (controller, .boundaryError)

/-- The answer to a frame of the host; an unknown one is out of bounds. -/
def receive
    (controller : Controller) : List UInt8 → Controller × LowerFrame
  | [head, code] =>
    if head = frameHead ∧ code = 0xA0 then
      (controller, controller.phase.status)
    else (controller, .boundaryError)
  | [head, row, cell, crc] =>
    if head = frameHead then controller.receiveDispense row cell crc
    else (controller, .boundaryError)
  | _ => (controller, .boundaryError)

/-- The next thing that a dispense under way does. -/
def advance (controller : Controller) : Option (Controller × Option LowerFrame) :=
  match controller.phase with
  | .idle => none
  | .dispensing announced => some
      (if announced < announcements then
        ({ controller with phase := .dispensing (announced + 1) },
          some .arrivalAtOutlet)
      else ({ controller with phase := .pickup 0 }, none))
  | .pickup announced => some
      (if announced < announcements then
        ({ controller with phase := .pickup (announced + 1) },
          some .pickupCompleted)
      else ({ controller with phase := .resetting 0 }, none))
  | .resetting announced => some
      (if announced < announcements then
        ({ controller with phase := .resetting (announced + 1) },
          some .resetCompletedFrame)
      else ({ controller with phase := .idle }, none))

end Controller

theorem advance_started
    {before after : Controller}
    {sent : Option LowerFrame}
    (step : before.advance = some (after, sent)) :
    after.started = before.started := by
  obtain ⟨phase, started⟩ := before
  cases phase <;>
    simp only [Controller.advance, reduceCtorEq, Option.some.injEq] at step
  all_goals
    split at step <;> simp only [Prod.mk.injEq] at step <;>
      exact step.1 ▸ rfl

/-- The two parties and what is on the line between them. -/
structure Exchange where
  host : HostPoint
  reported : List DispenseProgressEvent
  toController : List (List UInt8)
  toHost : List LowerFrame
  controller : Controller
  deriving Repr, DecidableEq

/-- What the schedule lets happen next. -/
inductive LineEvent where
  | hostReads
  | hostWaitEnds
  | commandDeadlinePasses
  | controllerReceives
  | controllerBeats
  | controllerAdvances
  deriving Repr, DecidableEq

def Exchange.moveHost (exchange : Exchange) (move : HostMove) : Exchange :=
  { exchange with
    host := move.point
    reported := exchange.reported ++ move.reported
    toController := exchange.toController ++ move.written }

theorem buildDispenseFrame_ok
    {frame : List UInt8}
    (built : buildDispenseFrame rowNo cellNo = .ok frame) :
    ∃ row cell, frame = [frameHead, row, cell, crc8 [row, cell]] ∧
      slotExists row cell = true := by
  simp only [buildDispenseFrame] at built
  split at built
  · cases built
  · split at built
    · cases built
    · next row cell =>
        cases valid : validateSlotBounds rowNo cellNo with
        | error message =>
          rw [valid] at built
          cases built
        | ok =>
          rw [valid] at built
          cases built
          exact ⟨_, _, rfl, slotExists_of_validateSlotBounds
            (Nat.lt_of_not_le row) (Nat.lt_of_not_le cell) valid⟩

theorem prepareDispense_ok
    {command : DispenseCommandPayload}
    {debugInjectFault : Bool}
    {request : DispenseRequest}
    (prepared : prepareDispense command debugInjectFault = .ok request) :
    request.debugInjectFault = debugInjectFault ∧
      ∃ row cell, request.frame = [frameHead, row, cell, crc8 [row, cell]] ∧
        slotExists row cell = true := by
  simp only [prepareDispense] at prepared
  split at prepared
  · cases prepared
  · split at prepared
    · cases prepared
    · next frame built =>
        cases prepared
        exact ⟨rfl, buildDispenseFrame_ok built⟩

namespace DispenseRequest

/-- One step of the exchange about a request. -/
def exchangeStep
    (request : DispenseRequest)
    (exchange : Exchange) : LineEvent → Option Exchange
  | .hostReads =>
    match exchange.toHost with
    | [] => none
    | frame :: rest =>
      (request.read exchange.host frame).map
        { exchange with toHost := rest }.moveHost
  | .hostWaitEnds => (request.waitEnds exchange.host).map exchange.moveHost
  | .commandDeadlinePasses =>
    (deadlinePasses exchange.host).map exchange.moveHost
  | .controllerReceives =>
    match exchange.toController with
    | [] => none
    | frame :: rest =>
      let answer := exchange.controller.receive frame
      some
        { exchange with
          toController := rest
          controller := answer.1
          toHost := exchange.toHost ++ [answer.2] }
  | .controllerBeats =>
    some
      { exchange with
        toHost := exchange.toHost ++ [exchange.controller.phase.status] }
  | .controllerAdvances =>
    exchange.controller.advance.map fun advanced =>
      { exchange with
        controller := advanced.1
        toHost := exchange.toHost ++ advanced.2.toList }

def exchange (request : DispenseRequest) : Machine Exchange LineEvent where
  step := request.exchangeStep

/--
The exchange when the first attempt was written: the controller is idle, and
heartbeats of the time before may still be on their way.
-/
def opened (request : DispenseRequest) (heartbeats : Nat) : Exchange where
  host := .awaitingAck 1
  reported := []
  toController := [request.frame]
  toHost := List.replicate heartbeats .idleHeartbeat
  controller := { phase := .idle, started := 0 }

end DispenseRequest

end VendingSystem.Daemon
