import VendingSystem.PlatformDecommission

namespace VendingSystem.Platform

/-!
# A decommission settles once

Two updates of the delivery loop, for a command that expired, name the command
by its id alone and can land on a success that was recorded meanwhile.  In a
run where they do not, a recorded success is final and its acknowledgement is
due until it was published.
-/

/-- An expiry is not written over a success. -/
def ExpirySparesSuccess
    (db : MachineDb)
    (task : DecommissionTask)
    (_input : DecommissionInput) : Prop :=
  match task with
  | .timingOut delivery
  | .resigning delivery _ =>
    ∀ command ∈ db.machineCommands.find? delivery.command.id,
      command.status ≠ .succeeded
  | _ => True

instance
    (db : MachineDb)
    (task : DecommissionTask)
    (input : DecommissionInput) :
    Decidable (ExpirySparesSuccess db task input) := by
  unfold ExpirySparesSuccess
  cases task
  all_goals infer_instance

/-- A published acknowledgement of the command. -/
def MachineCommand.IsAcknowledgedBy
    (command : MachineCommand)
    (message : PublishedMessage) : Prop :=
  message.topic = .secureDecommissionAck command.machineId ∧
    ∃ acknowledgedAt secret,
      message.payload = signSecureDecommissionAcknowledgement
        command.machineId command.id acknowledgedAt secret

/-- The delivery columns hold an acknowledgement, due until one went out. -/
structure CarriesAcknowledgement
    (db : MachineDb)
    (command : MachineCommand) : Prop where
  columns : ∃ message, command.IsAcknowledgedBy message ∧
    command.deliveryTopic = some message.topic ∧
    command.deliveryPayload = some message.payload
  due : command.nextDeliveryAttemptAt.isSome ∨
    ∃ message ∈ db.published, command.IsAcknowledgedBy message

/-- A command of the machine succeeds with this step. -/
def NewlySucceeded
    (before after : MachineDb)
    (machineId : MachineId) : Prop :=
  ∃ command ∈ after.machineCommands,
    command.machineId = machineId ∧ command.status = .succeeded ∧
      ∀ earlier ∈ before.machineCommands.find? command.id,
        earlier.status ≠ .succeeded

/-- The credential of a machine goes with the first success of a command. -/
def CredentialGoesWithSuccess (before after : MachineDb) : Prop :=
  ∀ machineId, ∀ machine ∈ before.machines.find? machineId,
    ∀ later ∈ after.machines.find? machineId,
      machine.mqttSigningSecret.isSome →
        (later.mqttSigningSecret = none ↔
          NewlySucceeded before after machineId)

/--
A success is accepted unless one is stored.  A failure after a success changes
nothing, but a result for a settled command makes its acknowledgement due.
-/
def DecommissionTask.HandlesResult
    (before after : MachineDb) : DecommissionTask → Prop
  | .reported _ => after = before
  | .redelivering commandId _ =>
    ∃ now, after =
      { before with
        machineCommands := before.machineCommands.modify commandId
          (fun command =>
            { command with nextDeliveryAttemptAt := some now })
          (fun command => Eq.refl command.id) }
  | .recording machineId _ result =>
    if result.success then
      (∀ event ∈
          before.machineEvents.find? (machineId, result.commandNo),
        event.payload.success = false) →
      ∃ command ∈ after.machineCommands.find? result.commandNo,
        command.status = .succeeded ∧
          command.result = some (.reported result)
    else
      ∀ command ∈ before.machineCommands.find? result.commandNo,
        command.status = .succeeded → after = before
  | _ => True

section Writes

open Transaction

variable {before after : MachineDb} {answer : List DecommissionTask}
  {delivery : Delivery} {machineId : MachineId} {now : Time}
  {toleranceSeconds : Nat}

theorem deliver_reads
    (commits : (deliverSecureDecommissionCommand commandId now).Commits
      before answer after) :
    after = before := by
  unfold deliverSecureDecommissionCommand at commits
  replace commits := commits_get_bind.mp commits
  split at commits
  · exact (commits_pure.mp commits).2
  · split at commits
    · dsimp only at commits
      repeat' split at commits
      all_goals exact (commits_pure.mp commits).2
    · exact (commits_pure.mp commits).2

theorem handle_reads
    (commits : (handleSecureDecommissionResult report toleranceSeconds
      now).Commits before answer after) :
    after = before := by
  unfold handleSecureDecommissionResult at commits
  replace commits := commits_get_bind.mp commits
  split at commits
  · exact (commits_pure.mp commits).2
  · split at commits
    · exact (commits_pure.mp commits).2
    · obtain ⟨secret, middle, verifies, rest⟩ := commits_bind.mp commits
      obtain ⟨_, rfl⟩ := commits_pure.mp rest
      simp only [verifySecureDecommissionResult, commits_require_bind,
        commits_requireSome_bind, commits_pure] at verifies
      obtain ⟨_, _, _, _, _, _, _, same⟩ := verifies
      exact same

def DecommissionTask.onlyReads : DecommissionTask → Bool
  | .deliverDue
  | .deliver _ _
  | .readingCredential _
  | .reported _ => true
  | _ => false

theorem perform_reads
    {task : DecommissionTask}
    {input : DecommissionInput}
    (onlyReads : task.onlyReads = true)
    (commits : (task.perform toleranceSeconds input).Commits
      before answer after) :
    after = before := by
  cases task with
  | deliverDue =>
    replace commits := commits_get_bind.mp commits
    exact (commits_pure.mp commits).2
  | deliver commandId now => exact deliver_reads commits
  | readingCredential delivery =>
    replace commits := commits_get_bind.mp commits
    split at commits
    · exact (commits_pure.mp commits).2
    · exact (commits_pure.mp commits).2
  | reported report => exact handle_reads commits
  | _ => cases onlyReads

theorem publishDelivery_writes
    {outcome : PublishOutcome}
    (commits : (publishDelivery delivery outcome).Commits
      before answer after) :
    ∃ sent, after = { before with published := before.published ++ sent } := by
  unfold publishDelivery at commits
  dsimp only at commits
  split at commits
  · replace commits := commits_modify_bind.mp commits
    exact ⟨_, (commits_pure.mp commits).2⟩
  · replace commits := commits_modify_bind.mp commits
    exact ⟨_, (commits_pure.mp commits).2⟩
  · exact ⟨[], by simp [(commits_pure.mp commits).2]⟩

/-- What an accepted result writes. -/
theorem recordSecureDecommissionResult_cases
    (commits : (Platform.recordSecureDecommissionResult machineId
      acknowledgement result now).Commits before answer after) :
    (before.refusesResult machineId result = true ∧ after = before) ∨
      (before.refusesResult machineId result = false ∧
        after.machineCommands = before.machineCommands.updateWhere
          (fun command => command.id = result.commandNo && true)
          (MachineCommand.settle machineId acknowledgement result now)
          (MachineCommand.id_settle machineId acknowledgement result now) ∧
        after.machineEvents = before.machineEvents.insertOrIgnore
          { machineId, commandNo := result.commandNo, payload := result } ∧
        after.published = before.published ∧
        after.machines =
          if result.success then
            before.machines.modify machineId fun machine =>
              { machine with
                mqttClientId := none
                mqttSigningSecret := none }
          else before.machines) := by
  unfold Platform.recordSecureDecommissionResult at commits
  replace commits := commits_get_bind.mp commits
  split at commits
  · next refuses => exact .inl ⟨refuses, (commits_pure.mp commits).2⟩
  · next accepts =>
    refine .inr ⟨Bool.eq_false_iff.mpr accepts, ?_⟩
    replace commits := commits_modify_bind.mp commits
    obtain ⟨_, middle, updates, rest⟩ := commits_bind.mp commits
    replace updates := commits_modify.mp updates
    split at rest
    · next success =>
      replace rest := commits_modify_bind.mp rest
      obtain ⟨_, rfl⟩ := commits_pure.mp rest
      simp only [updates, success, if_true, and_self]
    · next failure =>
      obtain ⟨_, rfl⟩ := commits_pure.mp rest
      simp only [updates, failure, and_self, Bool.false_eq_true, if_false]

end Writes

structure MachineCommand.Follows (before after : MachineCommand) : Prop where
  machine : after.machineId = before.machineId
  topic : before.deliveryTopic.isSome → after.deliveryTopic.isSome

theorem MachineCommand.follows_of_eq
    {before after : MachineCommand}
    (machine : after.machineId = before.machineId)
    (topic : after.deliveryTopic = before.deliveryTopic) :
    before.Follows after :=
  ⟨machine, fun some => by rw [topic]; exact some⟩

theorem MachineCommand.follows_settle
    (machineId : MachineId)
    (acknowledgement : SignedEnvelope)
    (result : SecureDecommissionResult)
    (now : Time)
    (command : MachineCommand) :
    command.Follows (command.settle machineId acknowledgement result now) := by
  unfold MachineCommand.settle
  split
  · exact ⟨rfl, fun _ => rfl⟩
  · exact follows_of_eq rfl rfl

theorem Delivery.follows_delivered
    (delivery : Delivery)
    (command : MachineCommand) :
    command.Follows (delivery.delivered command) := by
  unfold Delivery.delivered
  split
  · exact MachineCommand.follows_of_eq rfl rfl
  · exact MachineCommand.follows_of_eq rfl rfl

/-- No row is lost, and no credential comes back. -/
structure DecommissionKept (before after : MachineDb) : Prop where
  commands : ∀ id, ∀ command ∈ before.machineCommands.find? id,
    ∃ later ∈ after.machineCommands.find? id, command.Follows later
  events : ∀ key, ∀ event ∈ before.machineEvents.find? key,
    event ∈ after.machineEvents.find? key
  published : before.published ⊆ after.published
  machines : ∀ id, ∀ later ∈ after.machines.find? id,
    ∃ machine ∈ before.machines.find? id,
      machine.mqttSigningSecret = none → later.mqttSigningSecret = none

namespace DecommissionKept

theorem same (db : MachineDb) : DecommissionKept db db where
  commands := fun _ command found => ⟨command, found, rfl, id⟩
  events := fun _ _ found => found
  published := List.Subset.refl _
  machines := fun _ machine found => ⟨machine, found, fun gone => gone⟩

instance : IsPreorder MachineDb DecommissionKept where
  refl := same
  trans first middle last earlier later := by
    refine ⟨fun id command found => ?_, fun key event found => ?_,
      List.Subset.trans earlier.published later.published, fun id machine found => ?_⟩
    · obtain ⟨second, foundSecond, kept⟩ := earlier.commands id command found
      obtain ⟨third, foundThird, keptLater⟩ :=
        later.commands id second foundSecond
      exact ⟨third, foundThird, keptLater.machine.trans kept.machine,
        fun topic => keptLater.topic (kept.topic topic)⟩
    · exact later.events key event (earlier.events key event found)
    · obtain ⟨second, foundSecond, kept⟩ := later.machines id machine found
      obtain ⟨third, foundThird, keptEarlier⟩ :=
        earlier.machines id second foundSecond
      exact ⟨third, foundThird, fun gone => kept (keptEarlier gone)⟩

variable {change : MachineCommand → MachineCommand}

theorem updateCommands
    (db : MachineDb)
    {test : MachineCommand → Bool}
    {keepsId : ∀ command, (change command).id = command.id}
    (follows : ∀ command : MachineCommand,
      command.Follows (change command)) :
    DecommissionKept db
      { db with
        machineCommands :=
          db.machineCommands.updateWhere test change keepsId } := by
  refine ⟨fun id command found => ?_, (same db).events, (same db).published,
    (same db).machines⟩
  refine ⟨if test command then change command else command, ?_, ?_⟩
  · rw [Option.mem_def] at found ⊢
    simp only [Table.find?_updateWhere, found, Option.map_some]
  · split
    · exact follows command
    · exact ⟨rfl, fun topic => topic⟩

theorem updateMachine
    (db : MachineDb)
    (machineId : MachineId)
    {change : MachineAccount → MachineAccount}
    {keepsId : ∀ machine, (change machine).id = machine.id}
    (forgets : ∀ machine, machine.mqttSigningSecret = none →
      (change machine).mqttSigningSecret = none) :
    DecommissionKept db
      { db with
        machines := db.machines.modify machineId change keepsId } := by
  refine ⟨(same db).commands, (same db).events, (same db).published,
    fun id later found => ?_⟩
  rw [Option.mem_def, Table.find?_modify] at found
  split at found
  · obtain ⟨machine, stored, rfl⟩ := Option.map_eq_some_iff.mp found
    exact ⟨machine, stored, forgets machine⟩
  · exact ⟨later, found, fun gone => gone⟩

open Transaction

theorem ofUpdate
    {commandId : CommandId}
    {guarded : MachineCommand → Bool}
    {keepsId : ∀ command, (change command).id = command.id}
    {followUps answer : List DecommissionTask}
    {before after : MachineDb}
    (commits : Transaction.Commits
      (do
        Platform.updateCommand commandId guarded change keepsId
        pure followUps)
      before answer after)
    (follows : ∀ command : MachineCommand,
      command.Follows (change command)) :
    DecommissionKept before after := by
  obtain ⟨_, middle, updates, rest⟩ := commits_bind.mp commits
  obtain ⟨_, rfl⟩ := commits_pure.mp rest
  rw [commits_modify.mp updates]
  exact updateCommands before follows

theorem perform
    (toleranceSeconds : Nat)
    (task : DecommissionTask)
    (input : DecommissionInput) :
    Within DecommissionKept (task.perform toleranceSeconds input) := by
  intro before after answer commits
  have ofReads (onlyReads : task.onlyReads = true) :
      DecommissionKept before after := by
    rw [perform_reads onlyReads commits]
    exact same before
  cases task with
  | setStatus machineId status =>
    obtain ⟨_, middle, updates, rest⟩ := commits_bind.mp commits
    obtain ⟨_, rfl⟩ := commits_pure.mp rest
    rw [commits_modify.mp updates]
    exact updateMachine before machineId fun _ gone => gone
  | decommission machineId =>
    obtain ⟨_, middle, decommissions, rest⟩ := commits_bind.mp commits
    obtain ⟨_, rfl⟩ := commits_pure.mp rest
    rcases secureDecommissionMachine_cases decommissions with
      rfl | ⟨machine, _, deliveryPayload, _, rfl⟩
    · exact same _
    · refine ⟨fun id command found => ⟨command, ?_, rfl,
        fun topic => topic⟩, (same _).events, (same _).published,
        (updateMachine before machineId ?_).machines⟩
      · rw [Option.mem_def] at found ⊢
        rw [Table.find?_insertNext _ rfl, if_neg]
        · exact found
        · rintro rfl
          rw [Table.find?_nextId] at found
          cases found
      · intro machine gone
        dsimp only [MachineAccount.decommissioned]
        split
        · exact gone
        · rfl
  | deliverDue | deliver commandId now | readingCredential delivery =>
    exact ofReads rfl
  | timingOut delivery =>
    exact ofUpdate commits fun _ => MachineCommand.follows_of_eq rfl rfl
  | resigning delivery expiresAt =>
    exact ofUpdate commits fun _ => MachineCommand.follows_of_eq rfl rfl
  | publishing delivery =>
    obtain ⟨sent, rfl⟩ := publishDelivery_writes commits
    exact ⟨(same before).commands, (same before).events,
      List.subset_append_left _ _, (same before).machines⟩
  | delivered delivery => exact ofUpdate commits delivery.follows_delivered
  | notDelivered delivery error =>
    exact ofUpdate commits fun _ => MachineCommand.follows_of_eq rfl rfl
  | reported report => exact ofReads rfl
  | redelivering commandId result =>
    exact ofUpdate commits fun _ => MachineCommand.follows_of_eq rfl rfl
  | recording machineId acknowledgement result =>
    rcases recordSecureDecommissionResult_cases commits with
      ⟨_, rfl⟩ | ⟨_, commands, events, published, machines⟩
    · exact same _
    · refine ⟨?_, fun key event found => ?_,
        published ▸ List.Subset.refl _, ?_⟩
      · rw [commands]
        exact (@updateCommands _ before _
          (MachineCommand.id_settle _ _ _ _)
          (MachineCommand.follows_settle _ _ _ _)).commands
      · rw [Option.mem_def] at found ⊢
        rw [events, Table.find?_insertOrIgnore, found]
        split
        · rfl
        · rfl
      · rw [machines]
        split
        · exact (@updateMachine before machineId
            (fun machine =>
              { machine with
                mqttClientId := none
                mqttSigningSecret := none })
            (fun _ => rfl) fun _ _ => rfl).machines
        · exact (same before).machines

end DecommissionKept

def MachineCommand.CredentialGone
    (db : MachineDb)
    (command : MachineCommand) : Prop :=
  ∀ machine ∈ db.machines.find? command.machineId,
    machine.mqttSigningSecret = none

/-- What is true of a command that has succeeded. -/
structure MachineCommand.Settled
    (db : MachineDb)
    (command : MachineCommand) : Prop where
  credential : command.CredentialGone db
  delivery :
    (command.deliveryTopic = none ∧
      ∃ reportedAt, command.result = some (.deniedOnReconnect reportedAt)) ∨
    (CarriesAcknowledgement db command ∧
      (db.machineEvents.find? (command.machineId, command.id)).isSome)

structure MachineDb.Settled (db : MachineDb) : Prop where
  succeeded : ∀ command ∈ db.machineCommands,
    command.status = .succeeded → command.Settled db
  undelivered : ∀ command ∈ db.machineCommands,
    command.deliveryTopic = none → command.CredentialGone db

/-- What a task has read and published. -/
def DecommissionTask.InOrder (db : MachineDb) : DecommissionTask → Prop
  | .readingCredential delivery
  | .timingOut delivery
  | .resigning delivery _ =>
    delivery.command.isCleanupAcknowledgement = false
  | .publishing delivery =>
    delivery.command.isCleanupAcknowledgement = true →
      delivery.command.IsAcknowledgedBy ⟨delivery.topic, delivery.payload⟩
  | .delivered delivery =>
    delivery.command.isCleanupAcknowledgement = true →
      delivery.command.IsAcknowledgedBy
          ⟨delivery.topic, delivery.payload⟩ ∧
        ⟨delivery.topic, delivery.payload⟩ ∈ db.published
  | .recording machineId acknowledgement result =>
    (∃ acknowledgedAt secret,
      acknowledgement = signSecureDecommissionAcknowledgement machineId
        result.commandNo acknowledgedAt secret) ∧
    ∃ command ∈ db.machineCommands.find? result.commandNo,
      command.machineId = machineId ∧ command.deliveryTopic.isSome
  | _ => True

section Steps

open Transaction

variable {before after : MachineDb} {command : MachineCommand}
  {task : DecommissionTask} {change : MachineCommand → MachineCommand}
  {test guarded : MachineCommand → Bool} {commandId : CommandId}
  {answer followUps : List DecommissionTask} {delivery : Delivery}
  {machineId : MachineId} {result : SecureDecommissionResult}
  {acknowledgement : SignedEnvelope} {now : Time} {toleranceSeconds : Nat}
  {report : SecureDecommissionReport} {outcome : PublishOutcome}
  {input : DecommissionInput} {later machine : MachineAccount}

theorem CarriesAcknowledgement.kept
    (carries : CarriesAcknowledgement before command)
    (kept : DecommissionKept before after) :
    CarriesAcknowledgement after command where
  columns := carries.columns
  due := by
    rcases carries.due with due | ⟨message, published, acknowledges⟩
    · exact .inl due
    · exact .inr ⟨message, kept.published published, acknowledges⟩

theorem MachineCommand.CredentialGone.kept
    (gone : command.CredentialGone before)
    (kept : DecommissionKept before after) :
    command.CredentialGone after := by
  intro later found
  obtain ⟨machine, stored, stays⟩ := kept.machines _ later found
  exact stays (gone machine stored)

theorem MachineCommand.Settled.kept
    (settled : command.Settled before)
    (kept : DecommissionKept before after) :
    command.Settled after where
  credential := settled.credential.kept kept
  delivery := by
    rcases settled.delivery with denied | ⟨carries, recorded⟩
    · exact .inl denied
    · obtain ⟨event, found⟩ := Option.isSome_iff_exists.mp recorded
      have stays := kept.events _ event found
      exact .inr ⟨carries.kept kept, Option.isSome_iff_exists.mpr ⟨_, stays⟩⟩

theorem DecommissionTask.InOrder.kept
    (inOrder : task.InOrder before)
    (kept : DecommissionKept before after) :
    task.InOrder after := by
  cases task with
  | delivered delivery =>
    intro acknowledges
    obtain ⟨own, published⟩ := inOrder acknowledges
    exact ⟨own, kept.published published⟩
  | recording machineId acknowledgement result =>
    obtain ⟨signed, command, found, machine, topic⟩ := inOrder
    obtain ⟨later, foundLater, follows⟩ := kept.commands _ command found
    exact ⟨signed, later, foundLater, follows.machine.trans machine,
      follows.topic topic⟩
  | readingCredential delivery | timingOut delivery
  | resigning delivery expiresAt | publishing delivery => exact inOrder
  | setStatus machineId status | decommission machineId | deliverDue
  | deliver commandId now | notDelivered delivery error | reported report
  | redelivering commandId result => trivial

theorem MachineDb.Settled.kept
    (settled : before.Settled)
    (kept : DecommissionKept before after)
    (same : after.machineCommands = before.machineCommands) :
    after.Settled := by
  refine ⟨fun command member succeeded => ?_, fun command member none => ?_⟩
  · rw [same] at member
    exact (settled.succeeded command member succeeded).kept kept
  · rw [same] at member
    exact (settled.undelivered command member none).kept kept

theorem MachineDb.Settled.updateWhere
    (settled : before.Settled)
    (kept : DecommissionKept before after)
    {keepsId : ∀ command, (change command).id = command.id}
    (same : after.machineCommands =
      before.machineCommands.updateWhere test change keepsId)
    (follows : ∀ command : MachineCommand, command.Follows (change command))
    (changed : ∀ command ∈ before.machineCommands, test command = true →
      (change command).status = .succeeded →
        (change command).Settled after) :
    after.Settled := by
  refine ⟨fun command member succeeded => ?_, fun command member none => ?_⟩
  · rw [same, Table.mem_updateWhere] at member
    obtain ⟨old, oldMember, rfl⟩ := member
    split at succeeded
    · next guard =>
      rw [if_pos guard]
      exact changed old oldMember guard succeeded
    · next guard =>
      rw [if_neg guard]
      exact (settled.succeeded old oldMember succeeded).kept kept
  · rw [same, Table.mem_updateWhere] at member
    obtain ⟨old, oldMember, rfl⟩ := member
    have kept := fun none => (settled.undelivered old oldMember none).kept kept
    split at none
    · next guard =>
      rw [if_pos guard]
      have oldNone : old.deliveryTopic = .none := by
        rw [← Option.not_isSome_iff_eq_none] at none ⊢
        exact fun some => none ((follows old).topic some)
      unfold MachineCommand.CredentialGone
      rw [(follows old).machine]
      exact kept oldNone
    · next guard =>
      rw [if_neg guard]
      exact kept none

theorem MachineCommand.Settled.reschedule
    {later : MachineCommand}
    (settled : command.Settled before)
    (id : later.id = command.id)
    (machine : later.machineId = command.machineId)
    (topic : later.deliveryTopic = command.deliveryTopic)
    (payload : later.deliveryPayload = command.deliveryPayload)
    (result : later.result = command.result)
    (due : later.nextDeliveryAttemptAt.isSome ∨
      ∃ message ∈ before.published, command.IsAcknowledgedBy message) :
    later.Settled before where
  credential := by
    unfold MachineCommand.CredentialGone
    rw [machine]
    exact settled.credential
  delivery := by
    have acknowledges : ∀ message,
        later.IsAcknowledgedBy message ↔ command.IsAcknowledgedBy message := by
      intro message
      simp only [MachineCommand.IsAcknowledgedBy, id, machine]
    rcases settled.delivery with ⟨noTopic, denied⟩ | ⟨carries, recorded⟩
    · exact .inl ⟨topic.trans noTopic, by rw [result]; exact denied⟩
    · refine .inr ⟨⟨?_, ?_⟩, ?_⟩
      · obtain ⟨message, own, ownTopic, ownPayload⟩ := carries.columns
        exact ⟨message, (acknowledges message).mpr own,
          topic.trans ownTopic, payload.trans ownPayload⟩
      · simpa only [acknowledges] using due
      · rw [machine, id]
        exact recorded

theorem updateCommand_keepsSettled
    {keepsId : ∀ command, (change command).id = command.id}
    (settled : before.Settled)
    (kept : DecommissionKept before after)
    (commits : Transaction.Commits
      (do
        Platform.updateCommand commandId guarded change keepsId
        pure followUps)
      before answer after)
    (follows : ∀ command : MachineCommand, command.Follows (change command))
    (changed : ∀ command ∈ before.machineCommands,
      command.id = commandId → guarded command = true →
      (change command).status = .succeeded →
        (change command).Settled before)
    (ordered : ∀ followUp ∈ followUps, followUp.InOrder before) :
    after.Settled ∧ ∀ followUp ∈ answer, followUp.InOrder after := by
  obtain ⟨_, middle, updates, rest⟩ := commits_bind.mp commits
  obtain ⟨rfl, rfl⟩ := commits_pure.mp rest
  have same := commits_modify.mp updates
  refine ⟨settled.updateWhere kept (by rw [same]) follows ?_,
    fun followUp member => (ordered followUp member).kept kept⟩
  intro command member guard succeeded
  simp only [Bool.and_eq_true, decide_eq_true_eq] at guard
  exact (changed command member guard.1 guard.2 succeeded).kept kept

theorem reads_keepsSettled
    (settled : before.Settled)
    (commits : Transaction.Commits
      (pure followUps : DecommissionStep) before answer after)
    (ordered : ∀ followUp ∈ followUps, followUp.InOrder before) :
    after.Settled ∧ ∀ followUp ∈ answer, followUp.InOrder after := by
  obtain ⟨rfl, rfl⟩ := commits_pure.mp commits
  exact ⟨settled, ordered⟩

theorem delivered_settled
    (settled : before.Settled)
    (inOrder : (DecommissionTask.delivered delivery).InOrder before)
    (member : command ∈ before.machineCommands)
    (same : command.id = delivery.command.id)
    (settles : delivery.settles command = true)
    (succeeded : (delivery.delivered command).status = .succeeded) :
    (delivery.delivered command).Settled before := by
  unfold Delivery.delivered at succeeded ⊢
  unfold Delivery.settles at settles
  split at succeeded
  · next acknowledges =>
    rw [if_pos acknowledges] at settles ⊢
    simp only [Bool.and_eq_true, decide_eq_true_eq] at settles
    obtain ⟨own, published⟩ := inOrder acknowledges
    have commandSettled := settled.succeeded command member settles.1
    refine commandSettled.reschedule rfl rfl rfl rfl rfl
      (.inr ⟨_, published, ?_⟩)
    -- The topic that the update found names the machine of the command.
    rcases commandSettled.delivery with ⟨none, _⟩ | ⟨carries, _⟩
    · rw [none] at settles
      cases settles.2
    · obtain ⟨message, ownMessage, topic, _⟩ := carries.columns
      obtain ⟨ownTopic, acknowledgedAt, secret, payload⟩ := own
      have topics : some message.topic = some delivery.topic :=
        topic.symm.trans settles.2
      dsimp only at ownTopic payload
      rw [ownMessage.1, ownTopic, Option.some.injEq,
        CommandTopic.secureDecommissionAck.injEq] at topics
      exact ⟨by rw [ownTopic, topics], acknowledgedAt, secret,
        by rw [payload, topics, same]⟩
  · cases succeeded

theorem notDelivered_settled
    {error : String}
    (settled : before.Settled)
    (member : command ∈ before.machineCommands)
    (settles : delivery.settles command = true)
    (succeeded : (delivery.notDelivered error command).status = .succeeded) :
    (delivery.notDelivered error command).Settled before := by
  unfold Delivery.settles at settles
  unfold Delivery.notDelivered at succeeded ⊢
  split at settles
  · simp only [Bool.and_eq_true, decide_eq_true_eq] at settles
    exact (settled.succeeded command member settles.1).reschedule rfl rfl rfl rfl rfl
      (.inl rfl)
  · next ordinary =>
    rw [if_neg ordinary] at succeeded
    cases succeeded

theorem settle_settled
    (signed : ∃ acknowledgedAt secret,
      acknowledgement = signSecureDecommissionAcknowledgement machineId
        result.commandNo acknowledgedAt secret)
    (own : command.machineId = machineId)
    (same : command.id = result.commandNo)
    (success : result.success = true)
    (gone : ∀ machine ∈ after.machines.find? machineId,
      machine.mqttSigningSecret = none)
    (recorded :
      (after.machineEvents.find? (machineId, result.commandNo)).isSome) :
    (command.settle machineId acknowledgement result now).Settled after := by
  obtain ⟨acknowledgedAt, secret, rfl⟩ := signed
  subst own
  rw [← same] at recorded ⊢
  unfold MachineCommand.settle
  rw [if_pos success]
  refine ⟨gone, .inr ⟨⟨?_, .inl rfl⟩, recorded⟩⟩
  exact ⟨⟨_, _⟩, ⟨rfl, acknowledgedAt, secret, rfl⟩, rfl, rfl⟩

section

variable (settled : before.Settled)

include settled

theorem recording_settled
    (inOrder : (DecommissionTask.recording machineId acknowledgement
      result).InOrder before)
    (kept : DecommissionKept before after)
    (commits : (Platform.recordSecureDecommissionResult machineId
      acknowledgement result now).Commits before answer after) :
    after.Settled ∧ ∀ followUp ∈ answer, followUp.InOrder after := by
  obtain ⟨signed, named, found, own, _⟩ := inOrder
  have named := Table.find?_eq_some_iff.mp found
  unfold Platform.recordSecureDecommissionResult at commits
  replace commits := commits_get_bind.mp commits
  split at commits
  · exact reads_keepsSettled settled commits (by simp)
  · replace commits := commits_modify_bind.mp commits
    obtain ⟨_, middle, updates, rest⟩ := commits_bind.mp commits
    replace updates := commits_modify.mp updates
    split at rest
    · next success =>
      replace rest := commits_modify_bind.mp rest
      obtain ⟨rfl, rfl⟩ := commits_pure.mp rest
      refine ⟨settled.updateWhere kept (by rw [updates]) ?_ ?_, by
        simp [DecommissionTask.InOrder]⟩
      · exact MachineCommand.follows_settle machineId acknowledgement result now
      · intro command member guard _
        simp only [Bool.and_true, decide_eq_true_eq] at guard
        have same := Table.eq_of_key_eq member named.1
          (guard.trans named.2.symm)
        apply settle_settled signed (by rw [same, own]) guard success
        · intro machine stored
          simp only [updates, Option.mem_def, Table.find?_modify,
            ↓reduceIte, Option.map_eq_some_iff] at stored
          obtain ⟨earlier, _, rfl⟩ := stored
          rfl
        · simp [updates]
    · next failure =>
      obtain ⟨rfl, rfl⟩ := commits_pure.mp rest
      refine ⟨settled.updateWhere kept (by rw [updates]) ?_ ?_, by simp⟩
      · exact MachineCommand.follows_settle machineId acknowledgement result now
      · intro command _ _ succeeded
        unfold MachineCommand.settle at succeeded
        rw [if_neg failure] at succeeded
        cases succeeded

theorem decommission_settled
    {answer : Option MachineCommand × Bool}
    (kept : DecommissionKept before after)
    (commits : (Platform.secureDecommissionMachine machineId
      toleranceSeconds now).Commits before answer after) :
    after.Settled := by
  rcases secureDecommissionMachine_cases commits with
    rfl | ⟨machine, _, deliveryPayload, _, same⟩
  · exact settled
  · have cleared : deliveryPayload = none →
        ∀ machine ∈ after.machines.find? machineId,
          machine.mqttSigningSecret = none := by
      rintro rfl later stored
      rw [same, Option.mem_def, Table.find?_modify, if_pos rfl] at stored
      obtain ⟨earlier, _, rfl⟩ := Option.map_eq_some_iff.mp stored
      rfl
    have rows : ∀ command ∈ after.machineCommands,
        command ∈ before.machineCommands ∨
          command = newDecommissionCommand machineId deliveryPayload
            toleranceSeconds now before.machineCommands.nextId := by
      intro command member
      rw [same] at member
      exact (Table.mem_insertNext _ rfl _).mp member
    refine ⟨fun command member succeeded => ?_,
      fun command member none => ?_⟩
    · rcases rows command member with old | rfl
      · exact (settled.succeeded command old succeeded).kept kept
      · cases deliveryPayload with
        | some payload => cases succeeded
        | none => exact ⟨cleared rfl, .inl ⟨rfl, now, rfl⟩⟩
    · rcases rows command member with old | rfl
      · exact (settled.undelivered command old none).kept kept
      · cases deliveryPayload with
        | some payload => cases none
        | none => exact cleared rfl

theorem acknowledges_of_settled
    {topic : CommandTopic}
    {payload : SignedEnvelope}
    (member : command ∈ before.machineCommands)
    (hasTopic : command.deliveryTopic = some topic)
    (hasPayload : command.deliveryPayload = some payload)
    (acknowledges : command.isCleanupAcknowledgement = true) :
    command.IsAcknowledgedBy ⟨topic, payload⟩ := by
  simp only [MachineCommand.isCleanupAcknowledgement, Bool.and_eq_true,
    decide_eq_true_eq] at acknowledges
  rcases (settled.succeeded command member acknowledges.1).delivery with
    ⟨noTopic, _⟩ | ⟨carries, _⟩
  · rw [hasTopic] at noTopic
    cases noTopic
  · obtain ⟨message, own, ownTopic, ownPayload⟩ := carries.columns
    cases Option.some.inj (hasTopic.symm.trans ownTopic)
    cases Option.some.inj (hasPayload.symm.trans ownPayload)
    exact own

theorem deliver_settled
    (commits : (deliverSecureDecommissionCommand commandId now).Commits
      before answer after) :
    after.Settled ∧ ∀ followUp ∈ answer, followUp.InOrder after := by
  unfold deliverSecureDecommissionCommand at commits
  replace commits := commits_get_bind.mp commits
  split at commits
  · exact reads_keepsSettled settled commits (by simp)
  · next command found =>
    have member := (Table.find?_eq_some_iff.mp found).1
    split at commits
    · next topic payload hasTopic hasPayload =>
      have own := acknowledges_of_settled settled member hasTopic hasPayload
      dsimp only at commits
      split at commits
      · apply reads_keepsSettled settled commits
        simpa [DecommissionTask.InOrder] using own
      · next ordinary =>
        split at commits
        · exact reads_keepsSettled settled commits (by simp)
        · split at commits
          · apply reads_keepsSettled settled commits
            simpa [DecommissionTask.InOrder] using own
          · apply reads_keepsSettled settled commits
            simpa [DecommissionTask.InOrder] using ordinary
    · exact reads_keepsSettled settled commits (by simp)

/-- The only credential that a result is checked with is the stored one. -/
theorem reported_settled
    (commits : (handleSecureDecommissionResult report toleranceSeconds
      now).Commits before answer after) :
    after.Settled ∧ ∀ followUp ∈ answer, followUp.InOrder after := by
  unfold handleSecureDecommissionResult at commits
  replace commits := commits_get_bind.mp commits
  split at commits
  · obtain ⟨rfl, rfl⟩ := commits_pure.mp commits
    exact ⟨settled, by simp⟩
  · next command machine named =>
    split at commits
    · obtain ⟨rfl, rfl⟩ := commits_pure.mp commits
      refine ⟨settled, fun followUp member => ?_⟩
      split at member
      · rw [List.mem_singleton.mp member]
        trivial
      · cases member
    · next unsettled =>
      obtain ⟨secret, middle, verifies, rest⟩ := commits_bind.mp commits
      obtain ⟨rfl, rfl⟩ := commits_pure.mp rest
      simp only [verifySecureDecommissionResult, commits_require_bind,
        commits_requireSome_bind, commits_pure] at verifies
      obtain ⟨_, _, credential, held, _, _, _, rfl⟩ := verifies
      refine ⟨settled, fun followUp member => ?_⟩
      rw [List.mem_singleton.mp member]
      simp only [MachineDb.reportedCommand?, Option.bind_eq_bind,
        Option.bind_eq_some_iff, Option.ite_none_right_eq_some,
        Option.some.injEq, Prod.mk.injEq] at named
      obtain ⟨owner, foundOwner, stored, foundStored, own, rfl, rfl⟩ := named
      have topicMachine := Table.key_of_find? foundOwner
      refine ⟨⟨now, secret, by rw [topicMachine]⟩, stored, foundStored, own,
        ?_⟩
      -- A command that was never delivered left no credential behind.
      have commandMember := (Table.find?_eq_some_iff.mp foundStored).1
      rw [Option.isSome_iff_ne_none]
      intro noTopic
      have gone := settled.undelivered stored commandMember noTopic owner
        (by rw [own, topicMachine]; exact foundOwner)
      rw [gone] at held
      cases held

theorem publishing_settled
    (inOrder : (DecommissionTask.publishing delivery).InOrder before)
    (kept : DecommissionKept before after)
    (commits : (publishDelivery delivery outcome).Commits
      before answer after) :
    after.Settled ∧ ∀ followUp ∈ answer, followUp.InOrder after := by
  unfold publishDelivery at commits
  dsimp only at commits
  split at commits
  · replace commits := commits_modify_bind.mp commits
    obtain ⟨rfl, rfl⟩ := commits_pure.mp commits
    refine ⟨settled.kept kept rfl, fun followUp member => ?_⟩
    rw [List.mem_singleton.mp member]
    exact fun acknowledges => ⟨inOrder acknowledges, by simp⟩
  · replace commits := commits_modify_bind.mp commits
    obtain ⟨rfl, rfl⟩ := commits_pure.mp commits
    exact ⟨settled.kept kept rfl, by simp [DecommissionTask.InOrder]⟩
  · obtain ⟨rfl, rfl⟩ := commits_pure.mp commits
    exact ⟨settled, by simp [DecommissionTask.InOrder]⟩

theorem perform_settled
    (inOrder : task.InOrder before)
    (commits : (task.perform toleranceSeconds input).Commits
      before answer after) :
    after.Settled ∧ ∀ followUp ∈ answer, followUp.InOrder after := by
  have kept := DecommissionKept.perform toleranceSeconds task input commits
  cases task with
  | setStatus machineId status =>
    obtain ⟨_, middle, updates, rest⟩ := commits_bind.mp commits
    obtain ⟨rfl, rfl⟩ := commits_pure.mp rest
    have same := commits_modify.mp updates
    exact ⟨settled.kept kept (by rw [same]), by simp⟩
  | decommission machineId =>
    obtain ⟨_, middle, decommissions, rest⟩ := commits_bind.mp commits
    obtain ⟨rfl, rfl⟩ := commits_pure.mp rest
    refine ⟨decommission_settled settled kept decommissions,
      fun followUp member => ?_⟩
    obtain ⟨command, _, rfl⟩ := List.mem_map.mp member
    trivial
  | deliverDue =>
    replace commits := commits_get_bind.mp commits
    apply reads_keepsSettled settled commits
    intro followUp member
    obtain ⟨command, _, rfl⟩ := List.mem_map.mp member
    trivial
  | deliver commandId now => exact deliver_settled settled commits
  | readingCredential delivery =>
    replace commits := commits_get_bind.mp commits
    split at commits
    · apply reads_keepsSettled settled commits
      simpa [DecommissionTask.InOrder] using inOrder
    · apply reads_keepsSettled settled commits
      simpa [DecommissionTask.InOrder] using inOrder
  | timingOut delivery =>
    apply updateCommand_keepsSettled settled kept commits
    · exact fun _ => MachineCommand.follows_of_eq rfl rfl
    · rintro command _ _ _ ⟨⟩
    · simp
  | resigning delivery expiresAt =>
    apply updateCommand_keepsSettled settled kept commits
    · exact fun _ => MachineCommand.follows_of_eq rfl rfl
    · rintro command _ _ _ ⟨⟩
    · have ordinary : delivery.command.isCleanupAcknowledgement = false :=
        inOrder
      simp [DecommissionTask.InOrder, ordinary]
  | publishing delivery => exact publishing_settled settled inOrder kept commits
  | delivered delivery =>
    apply updateCommand_keepsSettled settled kept commits
    · exact delivery.follows_delivered
    · intro command member same settles succeeded
      exact delivered_settled settled inOrder member same settles succeeded
    · simp
  | notDelivered delivery error =>
    apply updateCommand_keepsSettled settled kept commits
    · exact fun _ => MachineCommand.follows_of_eq rfl rfl
    · intro command member _ settles succeeded
      exact notDelivered_settled settled member settles succeeded
    · simp
  | reported report => exact reported_settled settled commits
  | redelivering commandId result =>
    apply updateCommand_keepsSettled settled kept commits
    · exact fun _ => MachineCommand.follows_of_eq rfl rfl
    · intro command member _ _ succeeded
      exact (settled.succeeded command member succeeded).reschedule
        rfl rfl rfl rfl rfl (.inl rfl)
    · simp [DecommissionTask.InOrder]
  | recording machineId acknowledgement result =>
    exact recording_settled settled inOrder kept commits

end

/-- Every success of the commands is still there. -/
def KeepsSuccesses (before after : MachineDb) : Prop :=
  ∀ id, ∀ command ∈ before.machineCommands.find? id,
    command.status = .succeeded →
      ∃ later ∈ after.machineCommands.find? id, later.status = .succeeded

theorem KeepsSuccesses.of_eq
    (same : after.machineCommands = before.machineCommands) :
    KeepsSuccesses before after :=
  fun _ command found succeeded => ⟨command, by rw [same]; exact found,
    succeeded⟩

theorem KeepsSuccesses.of_updateWhere
    {keepsId : ∀ command, (change command).id = command.id}
    (same : after.machineCommands =
      before.machineCommands.updateWhere test change keepsId)
    (stays : ∀ command ∈ before.machineCommands, test command = true →
      command.status = .succeeded → (change command).status = .succeeded) :
    KeepsSuccesses before after := by
  intro id command found succeeded
  have member := (Table.find?_eq_some_iff.mp found).1
  refine ⟨if test command then change command else command, ?_, ?_⟩
  · rw [same, Option.mem_def, Table.find?_updateWhere,
      show before.machineCommands.find? id = some command from found]
    rfl
  · split
    · next guard => exact stays command member guard succeeded
    · exact succeeded

theorem updateCommand_keepsSuccesses
    {keepsId : ∀ command, (change command).id = command.id}
    (commits : Transaction.Commits
      (do
        Platform.updateCommand commandId guarded change keepsId
        pure followUps)
      before answer after)
    (stays : ∀ command ∈ before.machineCommands,
      command.id = commandId → guarded command = true →
      command.status = .succeeded → (change command).status = .succeeded) :
    KeepsSuccesses before after := by
  obtain ⟨_, middle, updates, rest⟩ := commits_bind.mp commits
  obtain ⟨rfl, rfl⟩ := commits_pure.mp rest
  have same := commits_modify.mp updates
  apply KeepsSuccesses.of_updateWhere (by rw [same])
  intro command member guard succeeded
  simp only [Bool.and_eq_true, decide_eq_true_eq] at guard
  exact stays command member guard.1 guard.2 succeeded

theorem refuses_of_succeeded
    (settled : before.Settled)
    (inOrder : (DecommissionTask.recording machineId acknowledgement
      result).InOrder before)
    (found : command ∈ before.machineCommands.find? result.commandNo)
    (succeeded : command.status = .succeeded)
    (failure : result.success = false) :
    before.refusesResult machineId result = true := by
  obtain ⟨_, named, foundNamed, own, topic⟩ := inOrder
  have sameCommand : named = command :=
    Option.some.inj (foundNamed.symm.trans found)
  subst sameCommand
  obtain ⟨member, same⟩ := Table.find?_eq_some_iff.mp foundNamed
  rcases (settled.succeeded named member succeeded).delivery with
    ⟨noTopic, _⟩ | ⟨_, recorded⟩
  · rw [noTopic] at topic
    cases topic
  · rw [own, same] at recorded
    obtain ⟨event, stored⟩ := Option.isSome_iff_exists.mp recorded
    simp [MachineDb.refusesResult, stored, failure]

theorem perform_keepsSuccesses
    (settled : before.Settled)
    (inOrder : task.InOrder before)
    (spares : ExpirySparesSuccess before task input)
    (commits : (task.perform toleranceSeconds input).Commits
      before answer after) :
    KeepsSuccesses before after := by
  have ofReads (onlyReads : task.onlyReads = true) :
      KeepsSuccesses before after :=
    .of_eq (by rw [perform_reads onlyReads commits])
  cases task with
  | setStatus machineId status =>
    obtain ⟨_, middle, updates, rest⟩ := commits_bind.mp commits
    obtain ⟨rfl, rfl⟩ := commits_pure.mp rest
    have same := commits_modify.mp updates
    exact .of_eq (by rw [same])
  | decommission machineId =>
    obtain ⟨_, middle, decommissions, rest⟩ := commits_bind.mp commits
    obtain ⟨rfl, rfl⟩ := commits_pure.mp rest
    rcases secureDecommissionMachine_cases decommissions with
      rfl | ⟨machine, _, deliveryPayload, _, same⟩
    · exact .of_eq rfl
    · intro id command found succeeded
      refine ⟨command, ?_, succeeded⟩
      rw [Option.mem_def] at found ⊢
      rw [same, Table.find?_insertNext _ rfl, if_neg]
      · exact found
      · rintro rfl
        rw [Table.find?_nextId] at found
        cases found
  | deliverDue | deliver commandId now | readingCredential delivery =>
    exact ofReads rfl
  | timingOut delivery =>
    apply updateCommand_keepsSuccesses commits
    intro command member same _ succeeded
    exact absurd succeeded (spares command
      (Table.find?_eq_some_iff.mpr ⟨member, same⟩))
  | resigning delivery expiresAt =>
    apply updateCommand_keepsSuccesses commits
    intro command member same _ succeeded
    exact absurd succeeded (spares command
      (Table.find?_eq_some_iff.mpr ⟨member, same⟩))
  | publishing delivery =>
    obtain ⟨sent, rfl⟩ := publishDelivery_writes commits
    exact .of_eq rfl
  | delivered delivery =>
    apply updateCommand_keepsSuccesses commits
    intro command _ _ settles succeeded
    unfold Delivery.settles at settles
    unfold Delivery.delivered
    split at settles
    · next acknowledges => exact (if_pos acknowledges) ▸ succeeded
    · rw [succeeded] at settles
      cases settles
  | notDelivered delivery error =>
    apply updateCommand_keepsSuccesses commits
    intro command _ _ settles succeeded
    unfold Delivery.settles at settles
    unfold Delivery.notDelivered
    split at settles
    · next acknowledges =>
      dsimp only
      rw [if_pos acknowledges]
      exact succeeded
    · rw [succeeded] at settles
      cases settles
  | reported report => exact ofReads rfl
  | redelivering commandId result =>
    apply updateCommand_keepsSuccesses commits
    exact fun _ _ _ _ succeeded => succeeded
  | recording machineId acknowledgement result =>
    rcases recordSecureDecommissionResult_cases commits with
      ⟨_, rfl⟩ | ⟨accepts, same, _⟩
    · exact .of_eq rfl
    · apply KeepsSuccesses.of_updateWhere same
      intro command member guard succeeded
      simp only [Bool.and_true, decide_eq_true_eq] at guard
      unfold MachineCommand.settle
      split
      · rfl
      · next failure =>
        have found : command ∈
            before.machineCommands.find? result.commandNo :=
          Table.find?_eq_some_iff.mpr ⟨member, guard⟩
        have refuses := refuses_of_succeeded settled inOrder found succeeded
          (Bool.eq_false_iff.mpr failure)
        rw [refuses] at accepts
        cases accepts

def DecommissionTask.takesCredentialOf :
    DecommissionTask → Option MachineId
  | .decommission machineId => some machineId
  | .recording machineId _ _ => some machineId
  | _ => none

/-- Other tasks leave every credential. -/
theorem perform_keepsCredential
    (commits : (task.perform toleranceSeconds input).Commits
      before answer after)
    (spares : task.takesCredentialOf ≠ some machineId)
    (found : machine ∈ before.machines.find? machineId)
    (foundLater : later ∈ after.machines.find? machineId) :
    later.mqttSigningSecret = machine.mqttSigningSecret := by
  have ofSame : after.machines.find? machineId =
      before.machines.find? machineId →
        later.mqttSigningSecret = machine.mqttSigningSecret := by
    intro same
    rw [same] at foundLater
    rw [Option.some.inj (foundLater.symm.trans found)]
  have ofReads (onlyReads : task.onlyReads = true) :=
    ofSame (by rw [perform_reads onlyReads commits])
  have updated : ∀ {commandId guarded change keepsId} {followUps},
      Transaction.Commits
        (do
          Platform.updateCommand commandId guarded change keepsId
          pure followUps : DecommissionStep) before answer after →
        after.machines = before.machines := by
    intro _ _ _ _ _ commits
    obtain ⟨_, middle, updates, rest⟩ := commits_bind.mp commits
    obtain ⟨_, rfl⟩ := commits_pure.mp rest
    rw [commits_modify.mp updates]
  cases task with
  | setStatus owner status =>
    obtain ⟨_, middle, updates, rest⟩ := commits_bind.mp commits
    obtain ⟨rfl, rfl⟩ := commits_pure.mp rest
    rw [commits_modify.mp updates, Option.mem_def,
      Table.find?_modify] at foundLater
    split at foundLater
    · rw [show before.machines.find? machineId = some machine from found]
        at foundLater
      cases foundLater
      rfl
    · rw [Option.some.inj (foundLater.symm.trans found)]
  | decommission owner =>
    have other : machineId ≠ owner := fun same => spares (by rw [same]; rfl)
    obtain ⟨_, middle, decommissions, rest⟩ := commits_bind.mp commits
    obtain ⟨rfl, rfl⟩ := commits_pure.mp rest
    rcases secureDecommissionMachine_cases decommissions with
      rfl | ⟨_, _, deliveryPayload, _, same⟩
    · exact ofSame rfl
    · exact ofSame (by rw [same, Table.find?_modify, if_neg other])
  | deliverDue | deliver commandId now | readingCredential delivery =>
    exact ofReads rfl
  | timingOut delivery => exact ofSame (by rw [updated commits])
  | resigning delivery expiresAt => exact ofSame (by rw [updated commits])
  | publishing delivery =>
    obtain ⟨sent, rfl⟩ := publishDelivery_writes commits
    exact ofSame rfl
  | delivered delivery => exact ofSame (by rw [updated commits])
  | notDelivered delivery error => exact ofSame (by rw [updated commits])
  | reported report => exact ofReads rfl
  | redelivering commandId result => exact ofSame (by rw [updated commits])
  | recording owner acknowledgement result =>
    have other : machineId ≠ owner := fun same => spares (by rw [same]; rfl)
    rcases recordSecureDecommissionResult_cases commits with
      ⟨_, rfl⟩ | ⟨_, _, _, _, machines⟩
    · exact ofSame rfl
    · apply ofSame
      rw [machines]
      split
      · rw [Table.find?_modify, if_neg other]
      · rfl

/-- A credential is taken with the first success of a command. -/
theorem newlySucceeded_of_taken
    (settled : before.Settled)
    (inOrder : task.InOrder before)
    (commits : (task.perform toleranceSeconds input).Commits
      before answer after)
    (found : machine ∈ before.machines.find? machineId)
    (foundLater : later ∈ after.machines.find? machineId)
    (held : machine.mqttSigningSecret.isSome)
    (taken : later.mqttSigningSecret = none) :
    NewlySucceeded before after machineId := by
  by_cases takes : task.takesCredentialOf = some machineId
  · have changed : after.machines ≠ before.machines := by
      intro same
      rw [same] at foundLater
      rw [Option.some.inj (foundLater.symm.trans found)] at taken
      rw [taken] at held
      cases held
    cases task with
    | decommission owner =>
      cases takes
      obtain ⟨_, middle, decommissions, rest⟩ := commits_bind.mp commits
      obtain ⟨rfl, rfl⟩ := commits_pure.mp rest
      rcases secureDecommissionMachine_cases decommissions with
        rfl | ⟨_, _, deliveryPayload, _, same⟩
      · exact absurd rfl changed
      · rw [same, Option.mem_def, Table.find?_modify, if_pos rfl,
          show before.machines.find? machineId = some machine from found]
          at foundLater
        cases foundLater
        cases deliveryPayload with
        | some payload =>
          have kept : machine.mqttSigningSecret = none := taken
          rw [kept] at held
          cases held
        | none =>
          refine ⟨newDecommissionCommand machineId none toleranceSeconds
            input.now before.machineCommands.nextId, ?_, rfl, rfl, ?_⟩
          · rw [same]
            exact (Table.mem_insertNext _ rfl _).mpr (.inr rfl)
          · intro earlier foundEarlier
            rw [Option.mem_def] at foundEarlier
            dsimp only [newDecommissionCommand] at foundEarlier
            rw [Table.find?_nextId] at foundEarlier
            cases foundEarlier
    | recording owner acknowledgement result =>
      cases takes
      obtain ⟨_, command, foundCommand, own, topic⟩ := inOrder
      obtain ⟨member, same⟩ := Table.find?_eq_some_iff.mp foundCommand
      rcases recordSecureDecommissionResult_cases commits with
        ⟨_, rfl⟩ | ⟨_, rows, _, _, machines⟩
      · exact absurd rfl changed
      · have success : result.success = true := by
          rw [← Bool.not_eq_false]
          exact fun failure => changed (by simp [machines, failure])
        refine ⟨command.settle machineId acknowledgement result input.now,
          ?_, ?_, ?_, ?_⟩
        · rw [rows, Table.mem_updateWhere]
          exact ⟨command, member, if_pos (by simp [same])⟩
        · exact (MachineCommand.follows_settle _ _ _ _ command).machine.trans
            own
        · simp [MachineCommand.settle, success]
        · intro earlier foundEarlier succeeded
          rw [MachineCommand.id_settle, same] at foundEarlier
          cases Option.some.inj (foundEarlier.symm.trans foundCommand)
          have gone := (settled.succeeded _ member succeeded).credential
            machine (by rw [own]; exact found)
          rw [gone] at held
          cases held
    | _ => cases takes
  · rw [perform_keepsCredential commits takes found foundLater] at taken
    rw [taken] at held
    cases held

theorem perform_handlesResult
    (settled : before.Settled)
    (inOrder : task.InOrder before)
    (commits : (task.perform toleranceSeconds input).Commits
      before answer after) :
    task.HandlesResult before after := by
  cases task with
  | reported report => exact handle_reads commits
  | redelivering commandId result =>
    obtain ⟨_, middle, updates, rest⟩ := commits_bind.mp commits
    obtain ⟨_, rfl⟩ := commits_pure.mp rest
    refine ⟨input.now, ?_⟩
    rw [commits_modify.mp updates]
    simp only [Bool.and_true, Table.modify]
  | recording machineId acknowledgement result =>
    obtain ⟨_, command, found, own, _⟩ := id inOrder
    dsimp only [DecommissionTask.HandlesResult]
    split
    · next success =>
      intro unrecorded
      have accepts : before.refusesResult machineId result = false := by
        unfold MachineDb.refusesResult
        split
        · rfl
        · next event stored => simp [unrecorded event stored, success]
      rcases recordSecureDecommissionResult_cases commits with
        ⟨refuses, _⟩ | ⟨_, same, _⟩
      · rw [accepts] at refuses
        cases refuses
      · have id := Table.key_of_find? found
        refine ⟨command.settle machineId acknowledgement result input.now,
          ?_, ?_, ?_⟩
        · rw [same, Option.mem_def, Table.find?_updateWhere,
            show before.machineCommands.find? result.commandNo =
              some command from found]
          simp [id]
        · simp [MachineCommand.settle, success]
        · simp [MachineCommand.settle, success]
    · next failure =>
      intro stored foundStored succeeded
      have refuses := refuses_of_succeeded settled inOrder foundStored
        succeeded (Bool.eq_false_iff.mpr failure)
      rcases recordSecureDecommissionResult_cases commits with
        ⟨_, same⟩ | ⟨accepts, _⟩
      · exact same
      · rw [refuses] at accepts
        cases accepts
  | _ => trivial

theorem handlesResult_of_refused
    {refusal : MachineError}
    (refused : (task.perform toleranceSeconds input).execute before =
      (.error refusal, before)) :
    task.HandlesResult before before := by
  cases task with
  | reported report => rfl
  | redelivering commandId result => cases refused
  | recording machineId acknowledgement result =>
    by_cases refuses : before.refusesResult machineId result = true
    · simp [DecommissionTask.perform, Transaction.execute,
        Platform.recordSecureDecommissionResult, refuses] at refused
      cases refused
    · by_cases success : result.success = true
      · simp [DecommissionTask.perform, Transaction.execute,
          Platform.recordSecureDecommissionResult, refuses, success,
          Platform.updateCommand] at refused
        cases refused
      · simp [DecommissionTask.perform, Transaction.execute,
          Platform.recordSecureDecommissionResult, refuses, success,
          Platform.updateCommand] at refused
        cases refused
  | _ => trivial

end Steps

theorem decommissionService_keeps (toleranceSeconds : Nat) :
    (decommissionService toleranceSeconds).Keeps (fun _ _ _ => True)
      MachineDb.Settled (fun db task => task.InOrder db) where
  starts := by
    intro db task starts
    cases task with
    | setStatus machineId status | decommission machineId | deliverDue
    | reported report => trivial
    | _ => cases starts
  recovers := by
    intro db task refusal followUp _ member
    cases task with
    | publishing delivery =>
      rw [List.mem_singleton.mp member]
      trivial
    | delivered delivery =>
      rw [List.mem_singleton.mp member]
      trivial
    | _ => cases member
  performs := fun settled inOrder _ commits =>
    perform_settled settled inOrder commits
  others := fun _ _ _ commits inOrder =>
    inOrder.kept (DecommissionKept.perform _ _ _ commits)

abbrev DecommissionRuntime : Type :=
  Service.Runtime MachineDb DecommissionTask

abbrev DecommissionRunEvent : Type :=
  Service.Event MachineError DecommissionTask DecommissionInput

theorem settled_of_empty
    {db : MachineDb}
    (noCommands : db.machineCommands = .empty) :
    db.Settled where
  succeeded := by simp [noCommands]
  undelivered := by simp [noCommands]

variable {event : DecommissionRunEvent} {next runtime : DecommissionRuntime}
  {toleranceSeconds : Nat}

theorem step_holds
    (holds : Service.Holds MachineDb.Settled
      (fun db task => task.InOrder db) runtime)
    (step : (decommissionService toleranceSeconds).machine.step runtime
      event = some next) :
    Service.Holds MachineDb.Settled
      (fun db task => task.InOrder db) next := by
  apply holds.step (decommissionService_keeps toleranceSeconds) _ step
  cases event with
  | advance position input => exact fun _ _ => trivial
  | submit task | fail position refusal | crash => trivial

theorem holds_of_run
    {first last : DecommissionRuntime}
    {events : List DecommissionRunEvent}
    (noCommands : first.db.machineCommands = .empty)
    (idle : first.tasks = [])
    (run : (decommissionService toleranceSeconds).machine.run first events =
      some last) :
    Service.Holds MachineDb.Settled
      (fun db task => task.InOrder db) last := by
  have start : Service.Holds MachineDb.Settled
      (fun db task => task.InOrder db) first :=
    ⟨settled_of_empty noCommands, by simp [idle]⟩
  exact Machine.run_keeps (fun holds step => step_holds holds step) start run

theorem step_keepsSuccesses
    (holds : Service.Holds MachineDb.Settled
      (fun db task => task.InOrder db) runtime)
    (spares : Service.Meets ExpirySparesSuccess runtime event)
    (step : (decommissionService toleranceSeconds).machine.step runtime
      event = some next) :
    KeepsSuccesses runtime.db next.db := by
  rcases Service.step_db_cases step with
    same | ⟨position, input, task, answer, rfl, found, commits⟩
  · exact .of_eq (by rw [same])
  · exact perform_keepsSuccesses holds.db
      (holds.tasks task (List.mem_of_getElem? found))
      (spares task found) commits

theorem step_credential
    (holds : Service.Holds MachineDb.Settled
      (fun db task => task.InOrder db) runtime)
    (step : (decommissionService toleranceSeconds).machine.step runtime
      event = some next) :
    CredentialGoesWithSuccess runtime.db next.db := by
  have nextHolds := step_holds holds step
  intro machineId machine found later foundLater held
  constructor
  · intro taken
    rcases Service.step_db_cases step with
      same | ⟨position, input, task, answer, rfl, foundTask, commits⟩
    · rw [same] at foundLater
      cases Option.some.inj (foundLater.symm.trans found)
      rw [taken] at held
      cases held
    · exact newlySucceeded_of_taken holds.db
        (holds.tasks task (List.mem_of_getElem? foundTask)) commits
        found foundLater held taken
  · rintro ⟨command, member, rfl, succeeded, _⟩
    exact (nextHolds.db.succeeded command member succeeded).credential
      later foundLater

/--
In every run that starts without commands: the credential of a machine goes
with the first success of a command, a success that the machine reported
carries its acknowledgement until one was published, and results are handled
as they should.  As long as no expiry is written over a success, every success
is final.
-/
theorem decommission_settles_once
    {toleranceSeconds : Nat}
    {first middle last : DecommissionRuntime}
    {events laterEvents : List DecommissionRunEvent}
    (noCommands : first.db.machineCommands = .empty)
    (idle : first.tasks = [])
    (run : (decommissionService toleranceSeconds).machine.run first events =
      some middle)
    (laterRun : (decommissionService toleranceSeconds).machine.run middle
      laterEvents = some last)
    (spares : (decommissionService toleranceSeconds).machine.RunMeets
      (Service.Meets ExpirySparesSuccess) middle laterEvents) :
    KeepsSuccesses middle.db last.db ∧
      (∀ command ∈ middle.db.machineCommands, command.status = .succeeded →
        (∃ reportedAt,
          command.result = some (.deniedOnReconnect reportedAt)) ∨
        CarriesAcknowledgement middle.db command) ∧
      ∀ {event next},
        (decommissionService toleranceSeconds).machine.step middle event =
          some next →
        CredentialGoesWithSuccess middle.db next.db ∧
          ∀ position input task, event = .advance position input →
            middle.tasks[position]? = some task →
              task.HandlesResult middle.db next.db := by
  have holds := holds_of_run noCommands idle run
  refine ⟨?_, fun command member succeeded => ?_, fun step => ⟨?_, ?_⟩⟩
  · -- Along the later run, with the invariant beside what is shown.
    have both := @Machine.run_keeps_of_meets _ _ _
      (fun runtime => Service.Holds MachineDb.Settled
        (fun db task => task.InOrder db) runtime ∧
          KeepsSuccesses middle.db runtime.db)
      _
      (fun holds meets step => ⟨step_holds holds.1 step,
        fun id command found succeeded => by
          obtain ⟨later, foundLater, stays⟩ :=
            holds.2 id command found succeeded
          exact step_keepsSuccesses holds.1 meets step id later foundLater
            stays⟩)
      _ _ _ ⟨holds, .of_eq rfl⟩ spares laterRun
    exact both.2
  · rcases (holds.db.succeeded command member succeeded).delivery with
      ⟨_, denied⟩ | ⟨carries, _⟩
    · exact .inl denied
    · exact .inr carries
  · exact step_credential holds step
  · rintro position input task rfl found
    have inOrder := holds.tasks task (List.mem_of_getElem? found)
    cases Service.takes_of_step step with
    | committed foundTask commits =>
      cases Option.some.inj (foundTask.symm.trans found)
      exact perform_handlesResult holds.db inOrder commits
    | aborted foundTask refused =>
      cases Option.some.inj (foundTask.symm.trans found)
      exact handlesResult_of_refused refused

def onlineMachine : MachineDb where
  machines := Table.empty.insertOrIgnore
    { id := 1, status := .online, secretHash := some 5, secretVersion := 2
      secretRotatedAt := some 0, credentialRevokedAt := none
      mqttClientId := some 1, mqttSigningSecret := some 7
      deletedAt := none }
  machineClaimCodes := .empty
  machineCommands := .empty
  machineEvents := .empty
  published := []

def advanceAt (position : Nat) (now : Time) : DecommissionRunEvent :=
  .advance position { now, publish := .accepted }

/-- The report of the machine on its first command. -/
def cleanupReport (success : Bool) : SecureDecommissionReport where
  topicMachineId := 1
  machineId := 1
  messageCommandNo := 1
  issuedAt := 400000
  signedWith := 7
  result :=
    { commandNo := 1, success, reportedAt := 400000, error := none }

/-- The command goes out; much later a delivery finds it expired. -/
def untilExpiry : List DecommissionRunEvent :=
  [.submit (.decommission 1), advanceAt 0 0, advanceAt 0 0, advanceAt 0 0,
    advanceAt 0 0, .submit .deliverDue, advanceAt 0 400000,
    advanceAt 0 400000]

/-- The success is recorded while the task at the position waits. -/
def reportSuccess (position : Nat) : List DecommissionRunEvent :=
  [.submit (.reported (cleanupReport true)), advanceAt position 400000,
    advanceAt position 400000]

/-- The acknowledgement is read, published and marked as delivered. -/
def deliverAcknowledgement : List DecommissionRunEvent :=
  [advanceAt 0 400001, advanceAt 0 400001, advanceAt 0 400001]

/-- Without the late delivery the success stays and is acknowledged. -/
theorem decommission_settles_once_acknowledged :
    ∃ middle last,
      (decommissionService 300).machine.run
          { db := onlineMachine, tasks := [] }
          (untilExpiry.take 5 ++ reportSuccess 0) = some middle ∧
        (decommissionService 300).machine.run middle
          deliverAcknowledgement = some last ∧
        (∃ command ∈ middle.db.machineCommands.rows,
          command.status = .succeeded) ∧
        KeepsSuccesses middle.db last.db :=
  ⟨_, _, rfl, rfl, by decide +kernel,
    (@decommission_settles_once 300 { db := onlineMachine, tasks := [] } _ _
      (untilExpiry.take 5 ++ reportSuccess 0) deliverAcknowledgement
      rfl rfl rfl rfl (by decide +kernel)).1⟩

/--
A delivery that found the command expired reads the credential after the
success took it, and writes its timeout over the success.  And a failure that
is reported after the success makes the acknowledgement due again.
-/
theorem decommission_does_not_settle_once :
    (¬ ∀ (events laterEvents : List DecommissionRunEvent)
        (middle last : DecommissionRuntime),
      (decommissionService 300).machine.run
          { db := onlineMachine, tasks := [] } events = some middle →
        (decommissionService 300).machine.run middle laterEvents = some last →
        KeepsSuccesses middle.db last.db) ∧
      ¬ ∀ (events : List DecommissionRunEvent) (event : DecommissionRunEvent)
        (middle next : DecommissionRuntime)
        (result : SecureDecommissionResult),
      (decommissionService 300).machine.run
          { db := onlineMachine, tasks := [] } events = some middle →
        (decommissionService 300).machine.step middle event = some next →
        (∃ command ∈ middle.db.machineCommands.rows,
          command.status = .succeeded) →
        middle.tasks = [.redelivering 1 result] →
        result.success = false →
        next.db = middle.db := by
  constructor
  · intro always
    have kept := always (untilExpiry ++ reportSuccess 1)
      [advanceAt 0 400000, advanceAt 1 400000] _ _ rfl rfl 1 _ rfl rfl
    obtain ⟨later, found, succeeded⟩ := kept
    cases found
    cases succeeded
  · intro always
    have same := always
      (untilExpiry.take 5 ++ reportSuccess 0 ++ deliverAcknowledgement ++
        [.submit (.reported (cleanupReport false)), advanceAt 0 400002])
      (advanceAt 0 400003) _ _ (cleanupReport false).result rfl rfl
      (by decide +kernel) rfl rfl
    have rows := congrArg (fun db : MachineDb => db.machineCommands.rows.map
      MachineCommand.nextDeliveryAttemptAt) same
    revert rows
    decide +kernel

end VendingSystem.Platform
