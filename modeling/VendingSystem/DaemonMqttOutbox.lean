import VendingSystem.Machine
import VendingSystem.Table
import VendingSystem.Text
import Mathlib.Data.List.Sort

namespace VendingSystem.Daemon

/-!
# The MQTT outbox

A flush publishes the due rows of the durable outbox; the event loop deletes a
row when its publish is acknowledged.  The flush, the event loop, the client
and the other writers of the outbox take their steps in any order.
-/

abbrev MqttTime := Nat
abbrev OutboxEventId := String
abbrev PacketId := Nat

inductive OutboxKind where
  | commandAck
  | dispenseResult
  | heartbeat
  | remoteOpResult
  | logExport
  | stockMovementUpload
  deriving Repr, DecidableEq

inductive OutboxTransport where
  | mqtt
  | http
  deriving Repr, DecidableEq

/-- The payload is its text, none for the JSON value null. -/
structure OutboxRecord where
  id : OutboxEventId
  kind : OutboxKind
  transport : OutboxTransport
  topic : Option String
  targetUrl : Option String
  payloadJson : Option String
  priority : Int
  createdAt : MqttTime
  nextAttemptAt : MqttTime
  attemptCount : Nat
  lastError : Option String
  expiresAt : MqttTime
  deriving Repr, DecidableEq

abbrev OutboxRecords : Type := Table OutboxRecord OutboxRecord.id

def outboxMaxEvents : Nat := 500

def secureDecommissionResultSuffix : String :=
  "/events/secure-decommission-result"

/-- LIKE compares the ASCII letters without their case. -/
def isSecureDecommissionResult (topic : String) : Bool :=
  secureDecommissionResultSuffix.toList.isSuffixOf (toAsciiLowercase topic)

/-- Uploads and decommission results are never dropped for room or age. -/
def OutboxRecord.droppable (record : OutboxRecord) : Bool :=
  record.kind != .stockMovementUpload &&
    !record.topic.any isSecureDecommissionResult

def OutboxRecord.dueBefore (first second : OutboxRecord) : Prop :=
  first.priority < second.priority ∨
    (first.priority = second.priority ∧ first.createdAt ≤ second.createdAt)

instance : DecidableRel OutboxRecord.dueBefore := fun first second => by
  unfold OutboxRecord.dueBefore
  infer_instance

/-- The least urgent of the droppable rows first, the oldest of them first. -/
def OutboxRecord.worseThan (first second : OutboxRecord) : Prop :=
  second.priority < first.priority ∨
    (first.priority = second.priority ∧ first.createdAt ≤ second.createdAt)

instance : DecidableRel OutboxRecord.worseThan := fun first second => by
  unfold OutboxRecord.worseThan
  infer_instance

/-- Rows beyond the limit are dropped from this end of the order. -/
def OutboxRecord.keptBefore (first second : OutboxRecord) : Prop :=
  first.priority < second.priority ∨
    (first.priority = second.priority ∧ second.createdAt ≤ first.createdAt)

instance : DecidableRel OutboxRecord.keptBefore := fun first second => by
  unfold OutboxRecord.keptBefore
  infer_instance

namespace OutboxRecords

def listDueOutbox
    (records : OutboxRecords)
    (now : MqttTime) : List OutboxRecord :=
  (records.rows.filter fun record =>
    decide (record.nextAttemptAt ≤ now)).insertionSort OutboxRecord.dueBefore

/-- A row under the same id is rewritten, but for its attempts and expiry. -/
def insertOutbox
    (records : OutboxRecords)
    (input : OutboxRecord) : OutboxRecords :=
  records.insertOrUpdate
    { input with attemptCount := 0, lastError := none }
    fun stored =>
      { stored with
        kind := input.kind
        transport := input.transport
        topic := input.topic
        targetUrl := input.targetUrl
        payloadJson := input.payloadJson
        priority := input.priority
        createdAt := input.createdAt
        nextAttemptAt := input.nextAttemptAt }

def removeOutboxEvent
    (records : OutboxRecords)
    (id : OutboxEventId) : OutboxRecords :=
  records.deleteWhere fun record => decide (record.id = id)

/-- A full outbox makes room only for a more urgent row. -/
def enqueueOutbox
    (records : OutboxRecords)
    (input : OutboxRecord) : OutboxRecords :=
  match records.find? input.id with
  | some _ => records
  | none =>
    if records.rows.length < outboxMaxEvents then
      records.insertOutbox input
    else
      match ((records.rows.filter OutboxRecord.droppable).insertionSort
          OutboxRecord.worseThan).head? with
      | none => records
      | some worst =>
        if input.priority < worst.priority then
          (records.removeOutboxEvent worst.id).insertOutbox input
        else records

def replaceOutboxEvent
    (records : OutboxRecords)
    (input : OutboxRecord) : OutboxRecords :=
  (records.removeOutboxEvent input.id).insertOutbox input

def pruneExpired
    (records : OutboxRecords)
    (now : MqttTime) : OutboxRecords :=
  records.deleteWhere fun record =>
    decide (record.expiresAt < now) && record.droppable

def pruneOversize (records : OutboxRecords) : OutboxRecords :=
  let dropped := ((records.rows.filter OutboxRecord.droppable).insertionSort
    OutboxRecord.keptBefore).drop outboxMaxEvents
  records.deleteWhere fun record => dropped.any fun row =>
    decide (row.id = record.id)

/-- Five seconds, doubled for every attempt before. -/
def backoffDelay (attemptCount : Nat) (now : MqttTime) : MqttTime :=
  now + 2 ^ attemptCount * 5000

/-- None when the row is gone. -/
def markOutboxFailed
    (records : OutboxRecords)
    (id : OutboxEventId)
    (error : String)
    (now : MqttTime) : Option OutboxRecords :=
  (records.find? id).map fun failed =>
    records.modify id fun record =>
      { record with
        attemptCount := record.attemptCount + 1
        lastError := some error
        nextAttemptAt := backoffDelay failed.attemptCount now }

end OutboxRecords

/-- A publish of the client, with the id of the row that it carries. -/
structure Publication where
  eventId : OutboxEventId
  topic : String
  payloadJson : Option String
  deriving Repr, DecidableEq

/-- A publish on the wire, in the numbering of the connections. -/
structure SentPublication where
  publication : Publication
  packetId : PacketId
  connection : Nat
  deriving Repr, DecidableEq

/--
The queue of the client, and what it has sent in the present connection and
not seen acknowledged.
-/
structure MqttClient where
  queue : List Publication
  sent : List SentPublication
  connected : Bool
  connection : Nat
  deriving Repr, DecidableEq

namespace MqttClient

/-- Every publication that the client still has to get acknowledged. -/
def held (client : MqttClient) : List Publication :=
  client.sent.map SentPublication.publication ++ client.queue

def publish
    (client : MqttClient)
    (publication : Publication) : MqttClient :=
  { client with queue := client.queue ++ [publication] }

/-- A packet id is used again once it is acknowledged or the link is lost. -/
def write
    (client : MqttClient)
    (packetId : PacketId) : Option MqttClient :=
  match client.queue with
  | [] => none
  | publication :: rest =>
    if client.connected = true ∧
        ∀ sent ∈ client.sent, sent.packetId ≠ packetId then
      some
        { client with
          queue := rest
          sent := client.sent ++ [⟨publication, packetId, client.connection⟩] }
    else none

/-- What is not acknowledged is sent again before the rest of the queue. -/
def loseConnection (client : MqttClient) : MqttClient :=
  { client with queue := client.held, sent := [], connected := false }

def connect (client : MqttClient) : MqttClient :=
  { client with connected := true, connection := client.connection + 1 }

/-- An acknowledgement names a packet of the present connection. -/
def acknowledged
    (client : MqttClient)
    (packetId : PacketId) : Option SentPublication :=
  if client.connected then
    client.sent.find? fun sent => decide (sent.packetId = packetId)
  else none

def settle (client : MqttClient) (sent : SentPublication) : MqttClient :=
  { client with sent := client.sent.erase sent }

/-- A new process has a client without a connection or a queue. -/
def restart (client : MqttClient) : MqttClient where
  queue := []
  sent := []
  connected := false
  connection := client.connection

end MqttClient

structure PendingMqttOutbox where
  inflight : Option OutboxEventId
  packetId : Option PacketId
  outgoingObserved : Bool
  deriving Repr, DecidableEq

namespace PendingMqttOutbox

def empty : PendingMqttOutbox where
  inflight := none
  packetId := none
  outgoingObserved := false

/-- None when another row is in flight. -/
def claimMqttOutboxEvent
    (pending : PendingMqttOutbox)
    (eventId : OutboxEventId) : Option PendingMqttOutbox :=
  match pending.inflight with
  | some _ => none
  | none => some ⟨some eventId, none, false⟩

def releaseMqttOutboxEvent
    (pending : PendingMqttOutbox)
    (eventId : OutboxEventId) : PendingMqttOutbox :=
  if pending.inflight = some eventId then empty else pending

def recordMqttOutboxPublish
    (pending : PendingMqttOutbox)
    (packetId : PacketId) : PendingMqttOutbox :=
  if pending.inflight.isSome && !pending.outgoingObserved then
    { pending with packetId := some packetId, outgoingObserved := true }
  else pending

/-- The row to delete, for the packet that was observed. -/
def acknowledgeMqttOutboxPublish
    (pending : PendingMqttOutbox)
    (packetId : PacketId) : Option OutboxEventId × PendingMqttOutbox :=
  if pending.outgoingObserved = true ∧ pending.packetId = some packetId then
    (pending.inflight, empty)
  else (none, pending)

/-- The same owner is sent again after a reconnect. -/
def beginMqttGeneration (pending : PendingMqttOutbox) : PendingMqttOutbox :=
  { pending with packetId := none, outgoingObserved := false }

def retryInflightMqttOutbox
    (pending : PendingMqttOutbox) : PendingMqttOutbox :=
  { pending with packetId := none, outgoingObserved := false }

end PendingMqttOutbox

structure OutboxFlushResult where
  sent : Nat
  failed : Nat
  deriving Repr, DecidableEq

/-- What a flush has left to do, and what it will return. -/
structure OutboxFlushProgress where
  due : List OutboxRecord
  result : OutboxFlushResult
  deriving Repr, DecidableEq

def OutboxFlushProgress.countSent
    (progress : OutboxFlushProgress) : OutboxFlushProgress :=
  { progress with
    result := { progress.result with sent := progress.result.sent + 1 } }

def OutboxFlushProgress.countFailed
    (progress : OutboxFlushProgress) : OutboxFlushProgress :=
  { progress with
    result := { progress.result with failed := progress.result.failed + 1 } }

/-- The one flush that holds the flush lock, or what the last one returned. -/
inductive OutboxFlush where
  | idle (last : Option OutboxFlushResult)
  | next (progress : OutboxFlushProgress)
  | publishing (event : OutboxRecord) (progress : OutboxFlushProgress)
  | releasing
      (event : OutboxRecord)
      (error : String)
      (progress : OutboxFlushProgress)
  | removingHttp (event : OutboxRecord) (progress : OutboxFlushProgress)
  | markingFailed
      (event : OutboxRecord)
      (error : String)
      (progress : OutboxFlushProgress)
  deriving Repr, DecidableEq

/--
The event that the loop handles.  Of an acknowledgement it reads the packet id
alone; which publication the broker acknowledged stands beside it.
-/
inductive OutboxEventLoop where
  | polling
  | outgoing (packetId : PacketId)
  | pubAck (acknowledgement : SentPublication)
  | removing (eventId : OutboxEventId) (acknowledgement : SentPublication)
  | connAck
  | connectionError
  deriving Repr, DecidableEq

/-- With every publication that a broker has acknowledged so far. -/
structure MqttOutbox where
  records : OutboxRecords
  hasClient : Bool
  client : MqttClient
  pending : PendingMqttOutbox
  flush : OutboxFlush
  eventLoop : OutboxEventLoop
  acknowledgements : List SentPublication
  deriving DecidableEq

/-- How the client took a publish. -/
inductive PublishAnswer where
  | queued
  | refused (error : String)
  deriving Repr, DecidableEq

/--
What happens next.  The first five are writes of the outbox by the rest of the
daemon, and a flag says whether a store call of the runtime succeeded.
-/
inductive MqttOutboxEvent where
  | enqueue (input : OutboxRecord)
  | insert (input : OutboxRecord)
  | replace (input : OutboxRecord)
  | prune (now : MqttTime)
  | delete (id : OutboxEventId)
  | beginFlush (now : MqttTime) (listed : Bool)
  | flushNext
  | publish (answer : PublishAnswer)
  | release
  | removeHttp (removed : Bool)
  | markFailed (now : MqttTime) (marked : Bool)
  | dropFlush
  | write (packetId : PacketId)
  | outgoing (packetId : PacketId)
  | pubAck (packetId : PacketId)
  | connectionError
  | connAck
  | handle (stored : Bool)
  | restart
  deriving Repr, DecidableEq

namespace MqttOutbox

def publishHttp (event : OutboxRecord) : Except String Unit :=
  match event.targetUrl with
  | none => .error "outbox event missing target_url"
  | some _ =>
    match event.payloadJson with
    | none => .error "outbox payload is null"
    | some _ => .ok ()

/-- The next due row of the flush. -/
def flushNext
    (outbox : MqttOutbox)
    (progress : OutboxFlushProgress) : MqttOutbox :=
  match progress.due with
  | [] => { outbox with flush := .idle (some progress.result) }
  | event :: rest =>
    let progress := { progress with due := rest }
    if event.kind = .stockMovementUpload then
      { outbox with flush := .next progress }
    else
      match event.transport with
      | .mqtt =>
        match outbox.pending.claimMqttOutboxEvent event.id with
        | none => { outbox with flush := .idle (some progress.result) }
        | some pending =>
          { outbox with
            pending := pending
            flush := .publishing event progress }
      | .http =>
        match publishHttp event with
        | .ok () =>
          { outbox with flush := .removingHttp event progress }
        | .error error =>
          { outbox with flush := .markingFailed event error progress }

/-- Without a client a publish succeeds and nothing is sent. -/
def publishJson
    (outbox : MqttOutbox)
    (event : OutboxRecord)
    (progress : OutboxFlushProgress)
    (answer : PublishAnswer) : MqttOutbox :=
  if outbox.hasClient then
    match event.topic with
    | none =>
      { outbox with
        flush := .releasing event "outbox event missing topic" progress }
    | some topic =>
      match answer with
      | .queued =>
        { outbox with
          client := outbox.client.publish
            ⟨event.id, topic, event.payloadJson⟩
          flush := .next progress.countSent }
      | .refused error =>
        { outbox with flush := .releasing event error progress }
  else { outbox with flush := .next progress.countSent }

def markFailed
    (outbox : MqttOutbox)
    (event : OutboxRecord)
    (error : String)
    (progress : OutboxFlushProgress)
    (now : MqttTime) : MqttOutbox :=
  match outbox.records.markOutboxFailed event.id error now with
  | none => { outbox with flush := .idle none }
  | some records =>
    { outbox with records := records, flush := .next progress.countFailed }

/-- The broker acknowledges a packet of the present connection. -/
def receivePubAck
    (outbox : MqttOutbox)
    (packetId : PacketId) : Option MqttOutbox :=
  (outbox.client.acknowledged packetId).map fun sent =>
    { outbox with
      client := outbox.client.settle sent
      eventLoop := .pubAck sent
      acknowledgements := outbox.acknowledgements ++ [sent] }

/-- The loop takes the owner of the packet first and deletes its row then. -/
def handle (outbox : MqttOutbox) (stored : Bool) : Option MqttOutbox :=
  match outbox.eventLoop with
  | .polling => none
  | .outgoing packetId =>
    some
      { outbox with
        pending := outbox.pending.recordMqttOutboxPublish packetId
        eventLoop := .polling }
  | .pubAck sent =>
    match outbox.pending.acknowledgeMqttOutboxPublish sent.packetId with
    | (none, pending) =>
      some { outbox with pending := pending, eventLoop := .polling }
    | (some eventId, pending) =>
      some
        { outbox with
          pending := pending
          eventLoop := .removing eventId sent }
  | .removing eventId _ =>
    some
      { outbox with
        records :=
          if stored then outbox.records.removeOutboxEvent eventId
          else outbox.records
        eventLoop := .polling }
  | .connAck =>
    some
      { outbox with
        pending := outbox.pending.beginMqttGeneration
        eventLoop := .polling }
  | .connectionError =>
    some
      { outbox with
        pending := outbox.pending.retryInflightMqttOutbox
        eventLoop := .polling }

/-- The client makes progress only while the loop polls it. -/
def poll
    (outbox : MqttOutbox)
    (progress : Option MqttOutbox) : Option MqttOutbox :=
  match outbox.eventLoop with
  | .polling => progress
  | _ => none

/-- A step of the flush, in the phase that it has reached. -/
def stepFlush
    (outbox : MqttOutbox)
    (event : MqttOutboxEvent) : Option MqttOutbox :=
  match event, outbox.flush with
  | .beginFlush now listed, .idle _ =>
    some
      { outbox with
        flush :=
          if listed then .next ⟨outbox.records.listDueOutbox now, ⟨0, 0⟩⟩
          else .idle none }
  | .flushNext, .next progress => some (outbox.flushNext progress)
  | .publish answer, .publishing event progress =>
    some (outbox.publishJson event progress answer)
  | .release, .releasing event error progress =>
    some
      { outbox with
        pending := outbox.pending.releaseMqttOutboxEvent event.id
        flush := .markingFailed event error progress }
  | .removeHttp removed, .removingHttp event progress =>
    some
      (if removed then
        { outbox with
          records := outbox.records.removeOutboxEvent event.id
          flush := .next progress.countSent }
      else { outbox with flush := .idle none })
  | .markFailed now marked, .markingFailed event error progress =>
    some
      (if marked then outbox.markFailed event error progress now
      else { outbox with flush := .idle none })
  | _, _ => none

/--
A flush can be dropped wherever it waits.  Which packet the client reports as
sent is not tied to what it wrote, so late reports are covered.
-/
def step
    (outbox : MqttOutbox)
    (event : MqttOutboxEvent) : Option MqttOutbox :=
  match event with
  | .enqueue input =>
    some { outbox with records := outbox.records.enqueueOutbox input }
  | .insert input =>
    some { outbox with records := outbox.records.insertOutbox input }
  | .replace input =>
    some { outbox with records := outbox.records.replaceOutboxEvent input }
  | .prune now =>
    some
      { outbox with
        records := (outbox.records.pruneExpired now).pruneOversize }
  | .delete id =>
    some { outbox with records := outbox.records.removeOutboxEvent id }
  | .dropFlush => some { outbox with flush := .idle none }
  | .write packetId =>
    outbox.poll
      ((outbox.client.write packetId).map fun client =>
        { outbox with client := client })
  | .outgoing packetId =>
    outbox.poll (some { outbox with eventLoop := .outgoing packetId })
  | .pubAck packetId => outbox.poll (outbox.receivePubAck packetId)
  | .connectionError =>
    outbox.poll
      (some
        { outbox with
          client := outbox.client.loseConnection
          eventLoop := .connectionError })
  | .connAck =>
    outbox.poll
      (if outbox.client.connected then none
      else
        some
          { outbox with
            client := outbox.client.connect
            eventLoop := .connAck })
  | .handle stored => outbox.handle stored
  | .restart =>
    some
      { outbox with
        client := outbox.client.restart
        pending := .empty
        flush := .idle none
        eventLoop := .polling }
  | _ => outbox.stepFlush event

/-- The runtime with its client as an event machine. -/
def machine : Machine MqttOutbox MqttOutboxEvent where
  step := step

/-- A process that has just started, over any stored rows. -/
def start (records : OutboxRecords) (hasClient : Bool) : MqttOutbox where
  records := records
  hasClient := hasClient
  client := ⟨[], [], false, 0⟩
  pending := .empty
  flush := .idle none
  eventLoop := .polling
  acknowledgements := []

end MqttOutbox

end VendingSystem.Daemon
