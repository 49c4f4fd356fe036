import VendingSystem.DaemonMqttOutbox

namespace VendingSystem.Daemon

/-!
# A row is deleted for its own acknowledged publish

A claimed row stays the owner of the publish until its acknowledgement is
handled, and nothing else is published meanwhile.  So whatever packet ids the
client reports and uses again, the acknowledgement that arrives is the owner's.
-/

/-- The row that the flush has claimed and not handed to the client. -/
def OutboxFlush.claimed : OutboxFlush → Option OutboxEventId
  | .publishing event _ => some event.id
  | .releasing event _ _ => some event.id
  | _ => none

/-- The row whose acknowledgement has arrived and is not yet handled. -/
def OutboxEventLoop.arrived : OutboxEventLoop → Option OutboxEventId
  | .pubAck sent => some sent.publication.eventId
  | _ => none

def OutboxEventLoop.acknowledgement :
    OutboxEventLoop → Option SentPublication
  | .pubAck sent => some sent
  | .removing _ sent => some sent
  | _ => none

namespace MqttOutbox

/-- From the claim until the acknowledgement is handled. -/
def rowsInFlight (outbox : MqttOutbox) : List OutboxEventId :=
  outbox.client.held.map Publication.eventId ++
    outbox.flush.claimed.toList ++ outbox.eventLoop.arrived.toList

end MqttOutbox

/-- There is at most one row, and it is the owner's. -/
structure OwnedBy
    (rows : List OutboxEventId)
    (owner : Option OutboxEventId) : Prop where
  single : rows.length ≤ 1
  owned : ∀ id ∈ rows, owner = some id

namespace OwnedBy

variable {rows fewer : List OutboxEventId} {owner : Option OutboxEventId}

theorem nothing (owner : Option OutboxEventId) :
    OwnedBy [] owner where
  single := Nat.zero_le 1
  owned := by simp

theorem of_subperm
    (ownedBy : OwnedBy rows owner)
    (subperm : fewer.Subperm rows) :
    OwnedBy fewer owner where
  single := Nat.le_trans subperm.length_le ownedBy.single
  owned := fun id member => ownedBy.owned id (subperm.subset member)

/-- Without an owner nothing is in flight. -/
theorem empty_of_unowned (ownedBy : OwnedBy rows none) : rows = [] := by
  cases rows with
  | nil => rfl
  | cons id rest => simpa using ownedBy.owned id List.mem_cons_self

theorem alone
    {id : OutboxEventId}
    {later : List OutboxEventId}
    (ownedBy : OwnedBy (rows ++ id :: later) owner) :
    rows = [] ∧ later = [] ∧ owner = some id := by
  have single := ownedBy.single
  simp only [List.length_append, List.length_cons] at single
  refine ⟨List.length_eq_zero_iff.mp (by omega),
    List.length_eq_zero_iff.mp (by omega), ownedBy.owned id (by simp)⟩

end OwnedBy

namespace MqttClient

variable {client next : MqttClient} {packetId : PacketId}
  {sent : SentPublication}

@[simp] theorem held_publish
    (client : MqttClient)
    (publication : Publication) :
    (client.publish publication).held = client.held ++ [publication] := by
  simp [held, publish]

/-- What counts as sent went out over the present connection. -/
structure InStep (client : MqttClient) : Prop where
  current : ∀ sent ∈ client.sent, sent.connection = client.connection
  disconnected : client.connected = false → client.sent = []

theorem InStep.write
    (inStep : client.InStep)
    (written : client.write packetId = some next) :
    next.InStep ∧ next.held = client.held := by
  unfold MqttClient.write at written
  split at written
  · cases written
  · next publication rest queued =>
    split at written
    · next ready =>
      cases written
      refine ⟨⟨fun sent member => ?_, fun lost => ?_⟩, by simp [held, queued]⟩
      · rcases List.mem_append.mp member with before | added
        · exact inStep.current sent before
        · rw [List.mem_singleton.mp added]
      · exact absurd (ready.1.symm.trans lost) (by decide)
    · cases written

theorem InStep.loseConnection : client.loseConnection.InStep where
  current := by simp [MqttClient.loseConnection]
  disconnected := fun _ => rfl

theorem InStep.connect
    (inStep : client.InStep)
    (lost : client.connected = false) :
    client.connect.InStep where
  current := by simp [MqttClient.connect, inStep.disconnected lost]
  disconnected := fun _ => inStep.disconnected lost

theorem InStep.settle
    (inStep : client.InStep)
    (sent : SentPublication) :
    (client.settle sent).InStep where
  current := fun other member =>
    inStep.current other (List.mem_of_mem_erase member)
  disconnected := fun lost => by
    simp [MqttClient.settle, inStep.disconnected lost]

theorem sent_of_acknowledged
    (acknowledged : client.acknowledged packetId = some sent) :
    sent ∈ client.sent := by
  unfold MqttClient.acknowledged at acknowledged
  split at acknowledged
  · exact List.mem_of_find?_eq_some acknowledged
  · cases acknowledged

theorem held_settle
    (member : sent ∈ client.sent) :
    (sent.publication :: (client.settle sent).held).Perm client.held := by
  have without := (List.perm_cons_erase member).map SentPublication.publication
  exact (without.append_right client.queue).symm

end MqttClient

/-- What is in flight, on the wire and in the hands of the event loop. -/
structure MqttOutbox.Accounted (outbox : MqttOutbox) : Prop where
  inFlight : OwnedBy outbox.rowsInFlight outbox.pending.inflight
  client : outbox.client.InStep
  acknowledged : ∀ sent ∈ outbox.eventLoop.acknowledgement,
    sent ∈ outbox.acknowledgements ∧
      sent.connection = outbox.client.connection
  removing : ∀ id sent, outbox.eventLoop = .removing id sent →
    sent.publication.eventId = id

namespace MqttOutbox.Accounted

open MqttOutbox

variable {outbox next : MqttOutbox} {progress : OutboxFlushProgress}
  {event : OutboxRecord} {pending : PendingMqttOutbox}

theorem start (records : OutboxRecords) (hasClient : Bool) :
    (MqttOutbox.start records hasClient).Accounted where
  inFlight := OwnedBy.nothing none
  client := ⟨by simp [MqttOutbox.start], fun _ => rfl⟩
  acknowledged := by
    simp [MqttOutbox.start, OutboxEventLoop.acknowledgement]
  removing := by simp [MqttOutbox.start]

section

variable (accounted : outbox.Accounted)

include accounted

/-- The stored rows have no part in it. -/
theorem withRecords
    (records : OutboxRecords) :
    { outbox with records := records }.Accounted where
  inFlight := accounted.inFlight
  client := accounted.client
  acknowledged := accounted.acknowledged
  removing := accounted.removing

theorem withFlush
    {flush : OutboxFlush}
    (claimed : flush.claimed = none ∨ flush.claimed = outbox.flush.claimed) :
    { outbox with flush := flush }.Accounted where
  inFlight := by
    apply accounted.inFlight.of_subperm
    rcases claimed with dropped | same
    · simp only [rowsInFlight, dropped, Option.toList_none, List.append_nil]
      exact ((List.sublist_append_left _ _).append_right _).subperm
    · simp only [rowsInFlight, same]
      exact List.Subperm.refl _
  client := accounted.client
  acknowledged := accounted.acknowledged
  removing := accounted.removing

theorem claim
    (unclaimed : outbox.flush.claimed = none)
    (claimed :
      outbox.pending.claimMqttOutboxEvent event.id = some pending) :
    { outbox with
      pending := pending
      flush := .publishing event progress }.Accounted where
  inFlight := by
    unfold PendingMqttOutbox.claimMqttOutboxEvent at claimed
    split at claimed
    · cases claimed
    · next unowned =>
      cases claimed
      have inFlight := accounted.inFlight
      rw [unowned] at inFlight
      have empty := inFlight.empty_of_unowned
      simp only [rowsInFlight, unclaimed, List.append_eq_nil_iff] at empty
      simp only [rowsInFlight, OutboxFlush.claimed, empty.1.1, empty.2]
      exact ⟨by simp, by simp⟩
  client := accounted.client
  acknowledged := accounted.acknowledged
  removing := accounted.removing

theorem flushNext
    (flush : outbox.flush = .next progress) :
    (outbox.flushNext progress).Accounted := by
  have unclaimed : outbox.flush.claimed = none := by rw [flush]; rfl
  unfold MqttOutbox.flushNext
  split
  · exact accounted.withFlush (.inl rfl)
  · dsimp only
    split
    · exact accounted.withFlush (.inl rfl)
    · split
      · split
        · exact accounted.withFlush (.inl rfl)
        · next claimed => exact accounted.claim unclaimed claimed
      · split
        · exact accounted.withFlush (.inl rfl)
        · exact accounted.withFlush (.inl rfl)

/-- The claimed row becomes the last publication of the queue. -/
theorem publish
    {counted : OutboxFlushProgress}
    (flush : outbox.flush = .publishing event progress)
    (topic : String) :
    { outbox with
      client := outbox.client.publish ⟨event.id, topic, event.payloadJson⟩
      flush := .next counted }.Accounted where
  inFlight := by
    have inFlight := accounted.inFlight
    simp only [rowsInFlight, flush, OutboxFlush.claimed] at inFlight
    simpa [rowsInFlight, OutboxFlush.claimed] using inFlight
  client := ⟨accounted.client.current, accounted.client.disconnected⟩
  acknowledged := accounted.acknowledged
  removing := accounted.removing

theorem publishJson
    (flush : outbox.flush = .publishing event progress)
    (answer : PublishAnswer) :
    (outbox.publishJson event progress answer).Accounted := by
  have claimed : outbox.flush.claimed = some event.id := by rw [flush]; rfl
  unfold MqttOutbox.publishJson
  split
  · split
    · exact accounted.withFlush (.inr claimed.symm)
    · next topic _ =>
      split
      · exact accounted.publish flush topic
      · exact accounted.withFlush (.inr claimed.symm)
  · exact accounted.withFlush (.inl rfl)

/-- A refused publish left nothing with the client. -/
theorem release
    {error : String}
    (flush : outbox.flush = .releasing event error progress) :
    { outbox with
      pending := outbox.pending.releaseMqttOutboxEvent event.id
      flush := .markingFailed event error progress }.Accounted where
  inFlight := by
    have inFlight := accounted.inFlight
    simp only [rowsInFlight, flush, OutboxFlush.claimed, Option.toList_some,
      List.append_assoc, List.singleton_append] at inFlight
    obtain ⟨held, arrived, _⟩ := inFlight.alone
    simp only [rowsInFlight, OutboxFlush.claimed, held, arrived]
    exact OwnedBy.nothing _
  client := accounted.client
  acknowledged := accounted.acknowledged
  removing := accounted.removing

theorem stepFlush
    {event : MqttOutboxEvent}
    (step : outbox.stepFlush event = some next) :
    next.Accounted := by
  unfold MqttOutbox.stepFlush at step
  split at step
  · cases step
    apply accounted.withFlush (.inl _)
    split
    · rfl
    · rfl
  · next flush =>
    cases step
    exact accounted.flushNext flush
  · next answer event progress flush =>
    cases step
    exact accounted.publishJson flush answer
  · next flush =>
    cases step
    exact accounted.release flush
  · cases step
    split
    · exact (accounted.withRecords _).withFlush (.inl rfl)
    · exact accounted.withFlush (.inl rfl)
  · cases step
    split
    · unfold MqttOutbox.markFailed
      split
      · exact accounted.withFlush (.inl rfl)
      · exact (accounted.withRecords _).withFlush (.inl rfl)
    · exact accounted.withFlush (.inl rfl)
  · cases step

/-- The loop is done with an event that leaves the owner as it is. -/
theorem polling
    (owner : pending.inflight = outbox.pending.inflight) :
    { outbox with pending := pending, eventLoop := .polling }.Accounted where
  inFlight := by
    rw [owner]
    apply accounted.inFlight.of_subperm
    simp only [rowsInFlight, OutboxEventLoop.arrived, Option.toList_none,
      List.append_nil]
    exact (List.sublist_append_left _ _).subperm
  client := accounted.client
  acknowledged := by simp [OutboxEventLoop.acknowledgement]
  removing := by simp

theorem acknowledge
    {sent : SentPublication}
    {eventId : OutboxEventId}
    (eventLoop : outbox.eventLoop = .pubAck sent)
    (acknowledged :
      outbox.pending.acknowledgeMqttOutboxPublish sent.packetId =
        (some eventId, pending)) :
    { outbox with
      pending := pending
      eventLoop := .removing eventId sent }.Accounted := by
  have inFlight := accounted.inFlight
  simp only [rowsInFlight, eventLoop, OutboxEventLoop.arrived,
    Option.toList_some] at inFlight
  obtain ⟨others, _, owner⟩ := inFlight.alone
  unfold PendingMqttOutbox.acknowledgeMqttOutboxPublish at acknowledged
  split at acknowledged
  · obtain ⟨taken, rfl⟩ := Prod.mk.inj acknowledged
    refine ⟨?_, accounted.client, ?_, fun id other removing => ?_⟩
    · simp only [rowsInFlight, others, OutboxEventLoop.arrived]
      exact OwnedBy.nothing _
    · exact fun other held =>
        accounted.acknowledged other (by rw [eventLoop]; exact held)
    · cases removing
      exact Option.some.inj (owner.symm.trans taken)
  · cases acknowledged

theorem handle
    {stored : Bool}
    (step : outbox.handle stored = some next) :
    next.Accounted := by
  unfold MqttOutbox.handle at step
  split at step
  · cases step
  · cases step
    apply accounted.polling
    unfold PendingMqttOutbox.recordMqttOutboxPublish
    split
    · rfl
    · rfl
  · next sent eventLoop =>
    split at step
    · next pending acknowledged =>
      cases step
      unfold PendingMqttOutbox.acknowledgeMqttOutboxPublish at acknowledged
      split at acknowledged
      · obtain ⟨unowned, rfl⟩ := Prod.mk.inj acknowledged
        exact accounted.polling unowned.symm
      · cases acknowledged
        exact accounted.polling rfl
    · next eventId pending acknowledged =>
      cases step
      exact accounted.acknowledge eventLoop acknowledged
  · cases step
    exact (accounted.withRecords _).polling rfl
  · cases step
    exact accounted.polling rfl
  · cases step
    exact accounted.polling rfl

theorem withClient
    {client : MqttClient}
    {eventLoop : OutboxEventLoop}
    (held : client.held = outbox.client.held)
    (inStep : client.InStep)
    (fresh : eventLoop.arrived = none)
    (unacknowledged : eventLoop.acknowledgement = none) :
    { outbox with client := client, eventLoop := eventLoop }.Accounted where
  inFlight := by
    apply accounted.inFlight.of_subperm
    simp only [rowsInFlight, held, fresh, Option.toList_none, List.append_nil]
    exact (List.sublist_append_left _ _).subperm
  client := inStep
  acknowledged := by simp [unacknowledged]
  removing := by
    rintro id other rfl
    cases unacknowledged

/-- The acknowledged row is in the hands of the loop instead. -/
theorem receivePubAck
    {packetId : PacketId}
    (polling : outbox.eventLoop = .polling)
    (step : outbox.receivePubAck packetId = some next) :
    next.Accounted := by
  unfold MqttOutbox.receivePubAck at step
  obtain ⟨sent, acknowledged, rfl⟩ := Option.map_eq_some_iff.mp step
  have member := MqttClient.sent_of_acknowledged acknowledged
  have settled := (MqttClient.held_settle member).map Publication.eventId
  refine ⟨?_, accounted.client.settle sent, ?_, by simp⟩
  · apply accounted.inFlight.of_subperm
    simp only [rowsInFlight, polling, OutboxEventLoop.arrived,
      Option.toList_none, Option.toList_some, List.append_nil]
    have moved := settled.append_right outbox.flush.claimed.toList
    exact ((List.perm_append_singleton _ _).trans moved).subperm
  · intro other handled
    cases handled
    exact ⟨by simp, accounted.client.current sent member⟩

end

theorem of_poll
    {progress : Option MqttOutbox}
    (step : outbox.poll progress = some next) :
    outbox.eventLoop = .polling ∧ progress = some next := by
  unfold MqttOutbox.poll at step
  split at step
  · next polling => exact ⟨polling, step⟩
  · cases step

theorem step
    {event : MqttOutboxEvent}
    (accounted : outbox.Accounted)
    (step : outbox.step event = some next) :
    next.Accounted := by
  cases event with
  | enqueue input | insert input | replace input | prune now | delete id =>
    cases step; exact accounted.withRecords _
  | dropFlush => cases step; exact accounted.withFlush (.inl rfl)
  | write packetId =>
    obtain ⟨polling, written⟩ := of_poll step
    obtain ⟨client, wrote, rfl⟩ := Option.map_eq_some_iff.mp written
    obtain ⟨inStep, held⟩ := accounted.client.write wrote
    exact accounted.withClient held inStep
      (by rw [polling]; rfl) (by rw [polling]; rfl)
  | outgoing packetId =>
    obtain ⟨_, reported⟩ := of_poll step
    cases reported
    exact accounted.withClient rfl accounted.client rfl rfl
  | pubAck packetId =>
    obtain ⟨polling, received⟩ := of_poll step
    exact accounted.receivePubAck polling received
  | connectionError =>
    obtain ⟨_, lost⟩ := of_poll step
    cases lost
    exact accounted.withClient rfl MqttClient.InStep.loseConnection rfl rfl
  | connAck =>
    obtain ⟨_, connected⟩ := of_poll step
    split at connected
    · cases connected
    · next lost =>
      cases connected
      exact accounted.withClient rfl
        (accounted.client.connect (Bool.eq_false_iff.mpr lost)) rfl rfl
  | handle stored => exact accounted.handle step
  | restart =>
    cases step
    refine ⟨OwnedBy.nothing _, ?_, ?_, by simp⟩
    · exact ⟨by simp [MqttClient.restart], fun _ => rfl⟩
    · simp [OutboxEventLoop.acknowledgement]
  | beginFlush now listed | flushNext | publish answer | release
  | removeHttp removed | markFailed now marked => exact accounted.stepFlush step

end MqttOutbox.Accounted

/-- Only a removal of the loop can delete rows when the loop handles. -/
theorem MqttOutbox.removed_by_handle
    {outbox next : MqttOutbox}
    {stored : Bool}
    (step : outbox.handle stored = some next)
    {record : OutboxRecord}
    (member : record ∈ outbox.records)
    (removed : record ∉ next.records) :
    ∃ sent, outbox.eventLoop = .removing record.id sent := by
  unfold MqttOutbox.handle at step
  split at step
  · cases step
  · cases step
    exact absurd member removed
  · split at step
    · cases step
      exact absurd member removed
    · cases step
      exact absurd member removed
  · next eventId sent eventLoop =>
    cases step
    refine ⟨sent, ?_⟩
    by_cases same : record.id = eventId
    · rw [eventLoop, same]
    · refine absurd ?_ removed
      split
      · exact List.mem_filter.mpr ⟨member, by simp [same]⟩
      · exact member
  · cases step
    exact absurd member removed
  · cases step
    exact absurd member removed

namespace MqttOutbox

/--
In every run at most one row is in flight, the client holds publications of
that row alone, and a row that the event loop deletes was carried by a publish
whose acknowledgement came over the present connection.
-/
theorem rows_are_deleted_for_their_own_publish
    {records : OutboxRecords}
    {hasClient : Bool}
    {events : List MqttOutboxEvent}
    {outbox : MqttOutbox}
    (run : machine.run (start records hasClient) events = some outbox) :
    outbox.rowsInFlight.length ≤ 1 ∧
      (∀ publication ∈ outbox.client.held,
        outbox.pending.inflight = some publication.eventId) ∧
      ∀ {stored : Bool} {next : MqttOutbox},
        machine.step outbox (.handle stored) = some next →
        ∀ record ∈ outbox.records, record ∉ next.records →
          ∃ acknowledgement ∈ outbox.acknowledgements,
            outbox.eventLoop = .removing record.id acknowledgement ∧
              acknowledgement.publication.eventId = record.id ∧
              acknowledgement.connection = outbox.client.connection := by
  have accounted : outbox.Accounted :=
    @Machine.run_keeps _ _ machine Accounted
      (fun holds step => Accounted.step holds step) _ _ _
      (Accounted.start records hasClient) run
  refine ⟨accounted.inFlight.single, fun publication held => ?_, ?_⟩
  · apply accounted.inFlight.owned
    simp only [rowsInFlight, List.append_assoc, List.mem_append]
    exact .inl (List.mem_map_of_mem held)
  · intro stored next step record member removed
    obtain ⟨sent, eventLoop⟩ := removed_by_handle step member removed
    obtain ⟨acknowledged, connection⟩ :=
      accounted.acknowledged sent (by rw [eventLoop]; rfl)
    exact ⟨sent, acknowledged, eventLoop,
      accounted.removing record.id sent eventLoop, connection⟩

/-- Two heartbeats that are due from the start. -/
def heartbeat (id : OutboxEventId) : OutboxRecord where
  id := id
  kind := .heartbeat
  transport := .mqtt
  topic := some "vem/machines/M-1/events/heartbeat"
  targetUrl := none
  payloadJson := some "\x7b\x7d"
  priority := 200
  createdAt := 0
  nextAttemptAt := 0
  attemptCount := 0
  lastError := none
  expiresAt := 1000

/-- The publish of the first row is lost with its connection and sent again. -/
def retransmission : List MqttOutboxEvent :=
  [ .enqueue (heartbeat "a"), .enqueue (heartbeat "b"), .connAck,
    .handle true, .beginFlush 5 true, .flushNext, .publish .queued,
    .flushNext, .write 1, .outgoing 1, .handle true, .connectionError,
    .handle true, .connAck, .handle true, .write 1, .outgoing 1,
    .handle true, .pubAck 1, .handle true ]

theorem retransmitted_row_is_deleted :
    ∃ outbox next,
      machine.run (start Table.empty true) retransmission = some outbox ∧
        machine.step outbox (.handle true) = some next ∧
        (∃ record ∈ outbox.records, record ∉ next.records) ∧
        ∀ record ∈ outbox.records, record ∉ next.records →
          ∃ acknowledgement ∈ outbox.acknowledgements,
            outbox.eventLoop = .removing record.id acknowledgement ∧
              acknowledgement.publication.eventId = record.id ∧
              acknowledgement.connection = outbox.client.connection := by
  have last : (machine.run (start Table.empty true) retransmission).isSome :=
    by decide +kernel
  obtain ⟨outbox, run⟩ := Option.isSome_iff_exists.mp last
  have removal : ((machine.run (start Table.empty true) retransmission).bind
      fun outbox => (machine.step outbox (.handle true)).map fun next =>
        decide (∃ record ∈ outbox.records.rows,
          record ∉ next.records.rows)) = some true := by
    decide +kernel
  rw [run, Option.bind_some, Option.map_eq_some_iff] at removal
  obtain ⟨next, step, removed⟩ := removal
  obtain ⟨_, _, deleted⟩ := rows_are_deleted_for_their_own_publish run
  exact ⟨outbox, next, run, step, of_decide_eq_true removed, deleted step⟩

end MqttOutbox

end VendingSystem.Daemon
