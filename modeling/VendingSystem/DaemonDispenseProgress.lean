import VendingSystem.DaemonOrderSessions
import VendingSystem.DaemonSerialFrames
import VendingSystem.JsonDocuments
import VendingSystem.Machine

namespace VendingSystem.Daemon

/-!
# The progress of a dispense in an order session

Two writers patch the backend status that is stored with a session.  A
progress event is recorded in one transaction; an answer of the backend is
merged with a row that was read before, and overwrites what is stored by then.
-/

/-- A number of a document; only those of `u64` are looked at. -/
inductive DocumentNumber where
  | unsigned (value : Nat)
  | other (text : String)
  deriving Repr, DecidableEq

abbrev Document := Json DocumentNumber

namespace Document

def textAt (document : Document) (path : List String) : Option String :=
  (document.pointer path).bind Json.asString

def unsignedAt (document : Document) (path : List String) : Option Nat :=
  (document.pointer path).bind fun value =>
    match value with
    | .number (.unsigned value) => some value
    | _ => none

end Document

abbrev DocumentMembers := List (String × Document)

namespace DocumentMembers

/-- The member is set when there is a value for it. -/
def insertSome
    (key : String)
    (value : Option Document)
    (members : DocumentMembers) : DocumentMembers :=
  match value with
  | none => members
  | some value => Json.insertMember key value members

/-- The object of that name; anything else counts as an empty one. -/
def objectAt (members : DocumentMembers) (key : String) : DocumentMembers :=
  ((members.lookup key).bind Json.members).getD []

end DocumentMembers

/-- A progress event of the order, with the time of its report. -/
structure ObservedProgress where
  commandNo : String
  stage : DispenseProgressStage
  warningNo : Option UInt8
  message : String
  reportedAt : String
  deriving Repr, DecidableEq

def dispenseProgressRank : DispenseProgressStage → Nat
  | .outletOpened => 1
  | .pickupWaiting => 2
  | .pickupTimeoutWarning => 3
  | .pickupCompleted => 4
  | .resetCompleted => 5

def dispenseProgressStageName : DispenseProgressStage → String
  | .outletOpened => "outlet_opened"
  | .pickupWaiting => "pickup_waiting"
  | .pickupTimeoutWarning => "pickup_timeout_warning"
  | .pickupCompleted => "pickup_completed"
  | .resetCompleted => "reset_completed"

def dispenseProgressNameRank (name : String) : Nat :=
  if name = "outlet_opened" then 1
  else if name = "pickup_waiting" then 2
  else if name = "pickup_timeout_warning" then 3
  else if name = "pickup_completed" then 4
  else if name = "reset_completed" then 5
  else 0

/-- The level and the stage of the reminder that goes with the event. -/
def pickupReminderContract (event : ObservedProgress) :
    Option (String × String) :=
  match event.stage with
  | .outletOpened => some ("info", "outlet_opened")
  | .pickupWaiting => some ("info", "pickup_waiting")
  | .pickupCompleted => some ("info", "pickup_completed")
  | .pickupTimeoutWarning =>
    if 2 ≤ event.warningNo.getD 1 then
      some ("urgent", "pickup_timeout_warning")
    else some ("warning", "pickup_timeout_warning")
  | .resetCompleted => none

namespace Document

variable (status : Document)

def commandNo : Option String :=
  status.textAt ["vending", "commandNo"]

def progressStage : Option String :=
  status.textAt ["vending", "fulfillmentProgressStage"]

def progressRank : Nat :=
  status.progressStage.elim 0 dispenseProgressNameRank

def warningNo : Nat :=
  (status.unsignedAt ["vending", "pickupReminder", "warningNo"]).getD 0

/-- The reminder, when it is an object. -/
def pickupReminder : Option Document :=
  (status.pointer ["vending", "pickupReminder"]).filter Json.isObject

end Document

def reminderDocument
    (event : ObservedProgress)
    (level stage : String) : Document :=
  .object
    [("level", .string level),
      ("message", .string event.message),
      ("reportedAt", .string event.reportedAt),
      ("stage", .string stage),
      ("warningNo",
        event.warningNo.elim .null fun number =>
          .number (.unsigned number.toNat))]

/-- The vending part after the event. -/
def patchVending
    (event : ObservedProgress)
    (vending : DocumentMembers) : DocumentMembers :=
  let named := Json.insertMember "commandNo" (.string event.commandNo)
    (Json.insertMember "fulfillmentProgressStage"
      (.string (dispenseProgressStageName event.stage)) vending)
  if event.stage = .resetCompleted then
    Json.insertMember "pickupReminder" .null named
  else
    Json.insertMember "pickupReminder"
      (match pickupReminderContract event with
        | none => .null
        | some (level, stage) => reminderDocument event level stage)
      (Json.insertMember "status" (.string "dispensing") named)

/-- The event comes too late, or tells what is known. -/
def isStaleProgress (status : Document) (event : ObservedProgress) : Bool :=
  let incomingRank := dispenseProgressRank event.stage
  let currentRank := status.progressRank
  incomingRank < currentRank ||
    (incomingRank = currentRank && currentRank ≠ 0 &&
      (event.stage ≠ .pickupTimeoutWarning ||
        (event.warningNo.getD 1).toNat ≤ status.warningNo))

def patchBackendStatusForDispenseProgress
    (status : Document)
    (event : ObservedProgress) : Document :=
  if isStaleProgress status event then status
  else
    let members := status.members.getD []
    let members :=
      if event.stage = .resetCompleted then members
      else Json.insertMember "nextAction" (.string "dispensing") members
    .object (Json.insertMember "vending"
      (.object (patchVending event
        (DocumentMembers.objectAt members "vending"))) members)

/-- The columns of a session that tell of its progress. -/
structure ProgressRow where
  /-- The stored document; none when there is no readable one. -/
  lastBackendStatus : Option Document
  nextAction : String

/-- The row after the event, and whether the event was recorded. -/
def recordDispenseProgress
    (row : Option ProgressRow)
    (event : ObservedProgress) : Option ProgressRow × Bool :=
  match row with
  | none => (none, false)
  | some row =>
    let status := row.lastBackendStatus.getD (.object [])
    if row.nextAction ≠ "dispensing" then (some row, false)
    else if status.commandNo ≠ some event.commandNo then (some row, false)
    else
      let patched := patchBackendStatusForDispenseProgress status event
      if patched.isSame status then (some row, false)
      else (some { row with lastBackendStatus := some patched }, true)

/-- The answer keeps the local progress of the command that it is about. -/
def mergeDispenseProgress
    (localStatus : Option Document)
    (status : Document) : Document :=
  if status.textAt ["nextAction"] ≠ some "dispensing" then status
  else
    let localCommandNo := localStatus.bind Document.commandNo
    let localStage := localStatus.bind Document.progressStage
    let localReminder := localStatus.bind Document.pickupReminder
    if localCommandNo.isNone && localStage.isNone && localReminder.isNone then
      status
    else
      match status.members with
      | none => status
      | some members =>
        let vending := DocumentMembers.objectAt members "vending"
        let commandNo := (vending.lookup "commandNo").bind Json.asString
        let merged :=
          if commandNo.isNone || commandNo = localCommandNo then
            DocumentMembers.insertSome "pickupReminder" localReminder
              (DocumentMembers.insertSome "fulfillmentProgressStage"
                (localStage.map .string)
                (DocumentMembers.insertSome "commandNo"
                  (localCommandNo.map .string) vending))
          else vending
        .object (Json.insertMember "vending" (.object merged) members)

/-- A status may omit its action, but not misspell it. -/
def validateStatusDocument (status : Document) :
    Except StoreError Document :=
  match status.members, status.textAt ["nextAction"] with
  | some members, some action =>
    (parseCheckoutFlowAction action).map fun parsed =>
      .object (Json.insertMember "nextAction" (.string parsed) members)
  | _, _ => .ok status

/-- An answer that is merged with a row read before. -/
structure StatusApplication where
  read : ProgressRow
  status : Document

def StatusApplication.row (application : StatusApplication) :
    Except StoreError ProgressRow := do
  let nextAction ← parseCheckoutFlowAction
    ((application.status.textAt ["nextAction"]).getD
      application.read.nextAction)
  let status ← validateStatusDocument
    (mergeDispenseProgress application.read.lastBackendStatus
      application.status)
  return { lastBackendStatus := some status, nextAction }

structure ProgressStore where
  row : Option ProgressRow
  /-- The applications that have read the row and not yet written it. -/
  applying : List StatusApplication

inductive ProgressEvent where
  | record (event : ObservedProgress)
  | readRow (status : Document)
  | write (index : Nat)
  /-- An application ends with an error before it writes. -/
  | abandon (index : Nat)

namespace ProgressStore

def step (store : ProgressStore) : ProgressEvent → Option ProgressStore
  | .record event =>
    some { store with row := (recordDispenseProgress store.row event).1 }
  | .readRow status =>
    store.row.map fun read =>
      { store with applying := { read, status } :: store.applying }
  | .write index =>
    store.applying[index]?.map fun application =>
      { row :=
          match application.row with
          | .ok row => some row
          | .error _ => store.row
        applying := store.applying.eraseIdx index }
  | .abandon index =>
    some { store with applying := store.applying.eraseIdx index }

end ProgressStore

def progressMachine : Machine ProgressStore ProgressEvent where
  step := ProgressStore.step

end VendingSystem.Daemon
