import VendingSystem.PlatformMachineClaims

namespace VendingSystem.Platform

/-!
# A claim code yields one credential set

A code that has left its pending state never comes back to it, so it is
consumed at most once.  Only the recorder of failed claims and the expiry of
old codes can replace a final state by another that is not a revocation.
-/

namespace ClaimDb

/-- The first answer to a claim of the code. -/
def answer? (db : ClaimDb) (claimCodeId : ClaimCodeId) :
    Option MachineProvisioningProfile :=
  db.answers.find? fun answer => decide (answer.claimCodeId = claimCodeId)

/-- How often the code gave its machine new credentials. -/
def rotationsFor (db : ClaimDb) (claimCodeId : ClaimCodeId) : Nat :=
  db.rotations.countP fun rotation =>
    decide (rotation.claimCodeId = some claimCodeId)

def rotationsOf (db : ClaimDb) (machineId : MachineId) : Nat :=
  db.rotations.countP fun rotation => decide (rotation.machineId = machineId)

/-- At most one code of a machine is pending or locked. -/
def OneOpenCode (db : ClaimDb) : Prop :=
  ∀ code ∈ db.store.machineClaimCodes,
    ∀ other ∈ db.store.machineClaimCodes,
      code.machineId = other.machineId → code.state.isOpen →
        other.state.isOpen → code.id = other.id

/-- Every successful claim of a code answers the one rotation for it. -/
def OneCredentialSet (db : ClaimDb) : Prop :=
  (∀ claimCodeId, db.rotationsFor claimCodeId ≤ 1) ∧
    ∀ answer ∈ db.answers,
      db.rotationsFor answer.claimCodeId = 1 ∧
        ∀ other ∈ db.answers,
          other.claimCodeId = answer.claimCodeId → other = answer

/-- The secret versions count the rotations, and nothing else sets secrets. -/
def VersionsCount (before after : ClaimDb) : Prop :=
  ∀ machineId, ∀ machine ∈ before.store.machines.find? machineId,
    ∃ later ∈ after.store.machines.find? machineId,
      later.secretVersion + before.rotationsOf machineId =
          machine.secretVersion + after.rotationsOf machineId ∧
        before.rotationsOf machineId ≤ after.rotationsOf machineId ∧
        (machine.secretHash = none →
          after.rotationsOf machineId = before.rotationsOf machineId →
            later.secretHash = none)

/-- A code that is not pending stays so and gives no new credentials. -/
def ClosedForGood (before after : ClaimDb) : Prop :=
  ∀ claimCodeId,
    ∀ code ∈ before.store.machineClaimCodes.find? claimCodeId,
      code.state ≠ .pending →
        (∃ later ∈ after.store.machineClaimCodes.find? claimCodeId,
          later.state ≠ .pending) ∧
        after.rotationsFor claimCodeId = before.rotationsFor claimCodeId

end ClaimDb

/-- The two writes that can land on a code whose state has changed. -/
def ClaimTask.overwritesState : ClaimTask → Bool
  | .recordingFailure _ _ => true
  | .expiring _ _ _ _ => true
  | _ => false

/-- Other tasks leave a closed code, but for a decommission that revokes. -/
def ClaimTask.KeepsClosed
    (task : ClaimTask)
    (before after : ClaimDb) : Prop :=
  task.overwritesState = false →
    ∀ claimCodeId,
      ∀ code ∈ before.store.machineClaimCodes.find? claimCodeId,
        ∀ later ∈ after.store.machineClaimCodes.find? claimCodeId,
          code.state ≠ .pending →
            later.state = code.state ∨
              (task = .decommission code.machineId ∧
                code.state = .locked ∧ later.state = .revoked)

/-- The codes that a revocation or an effective decommission closes. -/
def ClaimTask.Closes
    (before after : ClaimDb)
    (code : MachineClaimCode) : ClaimTask → Prop
  | .revoking claimCodeId _ => code.id = claimCodeId
  | .decommission machineId => after ≠ before ∧ code.machineId = machineId
  | _ => False

/-- The answers agree with the codes and the rotations. -/
structure ClaimDb.Consistent (db : ClaimDb) : Prop where
  oneOpen : db.OneOpenCode
  answered : ∀ answer ∈ db.answers,
    db.answer? answer.claimCodeId = some answer
  known : ∀ answer ∈ db.answers,
    (db.store.machineClaimCodes.find? answer.claimCodeId).isSome
  pending : ∀ code ∈ db.store.machineClaimCodes,
    code.state = .pending → db.answer? code.id = none
  stored : ∀ code ∈ db.store.machineClaimCodes,
    ∀ profile ∈ code.claimResponse, db.answer? code.id = some profile
  rotated : ∀ claimCodeId, db.rotationsFor claimCodeId =
    if (db.answer? claimCodeId).isSome then 1 else 0

/-- What a replay is about to answer was answered before. -/
def ClaimTask.InOrder (db : ClaimDb) : ClaimTask → Prop
  | .replaying profile => profile ∈ db.answers
  | _ => True

def ClaimDb.withCodes
    (db : ClaimDb)
    (codes : Table MachineClaimCode MachineClaimCode.id) : ClaimDb :=
  { db with store := { db.store with machineClaimCodes := codes } }

def ClaimDb.withMachines
    (db : ClaimDb)
    (machines : Table MachineAccount MachineAccount.id) : ClaimDb :=
  { db with store := { db.store with machines := machines } }

/-- The database that the transaction of a task leaves. -/
inductive ClaimTask.Writes (before : ClaimDb) : ClaimTask → ClaimDb → Prop
  | nothing
      {task : ClaimTask}
      (other : ∀ claimCodeId now, task ≠ .revoking claimCodeId now) :
      Writes before task before
  | status {machineId : MachineId} {status : MachineStatus} :
      Writes before (.setStatus machineId status)
        (before.withMachines (before.store.machines.modify machineId
          (fun machine => { machine with status }) fun _ => rfl))
  | expired
      {machineId : MachineId}
      {purpose : MachineClaimCodePurpose}
      {expired : List ClaimCodeId}
      {now : Time} :
      Writes before (.expiring machineId purpose expired now)
        (before.withCodes (before.store.machineClaimCodes.updateWhere
          (fun code => expired.contains code.id)
          MachineClaimCode.expire MachineClaimCode.id_expire))
  | inserted
      {machineId : MachineId}
      {purpose : MachineClaimCodePurpose}
      {now expiresAt : Time}
      {generated : MachineClaimRequest}
      (alone : before.store.otherOpenCode machineId
        before.store.machineClaimCodes.nextId = false) :
      Writes before (.inserting machineId purpose now)
        (before.withCodes (before.store.machineClaimCodes.insertNext
          (newClaimCode machineId purpose generated expiresAt)))
  | failed
      {read stored : MachineClaimCode}
      {now : Time}
      (found : before.store.machineClaimCodes.find? read.id = some stored)
      (alone : (read.failedState now stored).isOpen = true →
        before.store.otherOpenCode stored.machineId stored.id = false) :
      Writes before (.recordingFailure read now)
        (before.withCodes (before.store.machineClaimCodes.updateWhere
          (fun code => decide (code.id = read.id))
          (MachineClaimCode.recordFailure read now)
          (MachineClaimCode.id_recordFailure read now)))
  | replayed {profile : MachineProvisioningProfile} :
      Writes before (.replaying profile)
        { before with answers := before.answers ++ [profile] }
  | repeated
      {read stored : MachineClaimCode}
      {machine : MachineAccount}
      {bundle : CredentialBundle}
      {now : Time}
      {profile : MachineProvisioningProfile}
      (member : stored ∈ before.store.machineClaimCodes)
      (response : stored.claimResponse = some profile) :
      Writes before (.consuming read machine bundle now)
        { before with answers := before.answers ++ [profile] }
  | consumed
      {read stored : MachineClaimCode}
      {machine rotated : MachineAccount}
      {bundle : CredentialBundle}
      {now : Time}
      {profile : MachineProvisioningProfile}
      (found : before.store.machineClaimCodes.find? read.id = some stored)
      (pending : stored.state = .pending)
      (owner : before.store.machine? read.machineId = some rotated)
      (named : profile.claimCodeId = read.id) :
      Writes before (.consuming read machine bundle now)
        { store :=
            { before.store with
              machines := before.store.machines.modify read.machineId
                (MachineAccount.rotateCredentials bundle
                  (some (machine.mqttClientId.getD read.machineId)) now)
                (MachineAccount.id_rotateCredentials bundle
                  (some (machine.mqttClientId.getD read.machineId)) now)
              machineClaimCodes :=
                before.store.machineClaimCodes.updateWhere
                  (fun code => decide (code.id = read.id))
                  (MachineClaimCode.consume now profile)
                  (MachineClaimCode.id_consume now profile) }
          answers := before.answers ++ [profile]
          rotations := before.rotations ++ [⟨read.machineId, some read.id⟩] }
  | revoked {claimCodeId : ClaimCodeId} {now : Time} :
      Writes before (.revoking claimCodeId now)
        (before.withCodes (before.store.machineClaimCodes.updateWhere
          (fun code => code.id = claimCodeId && code.state = .pending)
          (MachineClaimCode.revoke now) (MachineClaimCode.id_revoke now)))
  | rotated
      {machineId : MachineId}
      {bundle : CredentialBundle}
      {now : Time} :
      Writes before (.rotating machineId)
        { before.withMachines (before.store.machines.modify machineId
            (fun machine =>
              machine.rotateCredentials bundle machine.mqttClientId now)
            fun _ => rfl) with
          rotations := before.rotations ++ [⟨machineId, none⟩] }
  | decommissioned
      {machineId : MachineId}
      {deliverable : Bool}
      {now : Time}
      {commands : Table MachineCommand MachineCommand.id} :
      Writes before (.decommission machineId)
        { before with
          store :=
            { before.store with
              machineCommands := commands
              machineClaimCodes :=
                before.store.machineClaimCodes.updateWhere
                  (fun code =>
                    code.machineId = machineId && code.state.isOpen)
                  (MachineClaimCode.revoke now)
                  (MachineClaimCode.id_revoke now)
              machines := before.store.machines.modify machineId
                (MachineAccount.decommissioned deliverable now)
                (MachineAccount.id_decommissioned deliverable now) } }

open Transaction

variable {before after : ClaimDb} {bundle : CredentialBundle}
  {answer : List ClaimTask} {now : Time} {machine : MachineAccount}
  {read code : MachineClaimCode}
  {payment : ProvisioningProfilePaymentProjection} {task : ClaimTask}
  {input : ClaimInput}

theorem commits_onStore
    {Answer : Type}
    {transaction : MachineTransaction Answer}
    {answer : Answer}
    (commits : (onStore transaction).Commits before answer after) :
    ∃ store, transaction.Commits before.store answer store ∧
      after = { before with store } := by
  obtain ⟨inner, ran, same⟩ := map_eq_ok_iff.mp commits
  cases same
  exact ⟨inner.2, ran, rfl⟩

theorem consumeClaimCode_writes
    (commits : (consumeClaimCode read machine bundle payment now).Commits
      before answer after) :
    (ClaimTask.consuming read machine bundle now).Writes before after := by
  unfold consumeClaimCode at commits
  replace commits := commits_get_bind.mp commits
  obtain ⟨stored, found, commits⟩ := commits_requireSome_bind.mp commits
  split at commits
  · next pending =>
    obtain ⟨rotated, owner, commits⟩ := commits_requireSome_bind.mp commits
    replace commits := commits_modify_bind.mp commits
    replace commits := commits_modify_bind.mp commits
    replace commits := commits_modify_bind.mp commits
    obtain ⟨_, rfl⟩ := commits_pure.mp commits
    exact .consumed found pending.1 owner rfl
  · split at commits
    · next profile _ response _ =>
      replace commits := commits_modify_bind.mp commits
      obtain ⟨_, rfl⟩ := commits_pure.mp commits
      exact .repeated (Table.find?_eq_some_iff.mp found).1 response
    · exact (commits_throw commits).elim

theorem ClaimTask.perform_writes
    {toleranceSeconds ttlSeconds : Nat}
    (commits : (task.perform toleranceSeconds ttlSeconds input).Commits
      before answer after) :
    task.Writes before after := by
  cases task with
  | setStatus machineId status =>
    obtain ⟨_, middle, sets, rest⟩ := commits_bind.mp commits
    obtain ⟨_, rfl⟩ := commits_pure.mp rest
    obtain ⟨store, wrote, rfl⟩ := commits_onStore sets
    obtain rfl := commits_modify.mp wrote
    exact .status
  | generate machineId purpose =>
    replace commits := commits_get_bind.mp commits
    obtain ⟨machine, _, commits⟩ := commits_requireSome_bind.mp commits
    obtain ⟨_, commits⟩ := commits_require_bind.mp commits
    obtain ⟨_, commits⟩ := commits_require_bind.mp commits
    obtain ⟨_, rfl⟩ := commits_pure.mp commits
    exact .nothing nofun
  | readingOpenCodes machineId purpose =>
    replace commits := commits_get_bind.mp commits
    obtain ⟨_, commits⟩ := commits_require_bind.mp commits
    obtain ⟨_, rfl⟩ := commits_pure.mp commits
    exact .nothing nofun
  | expiring machineId purpose expired now =>
    replace commits := commits_modify_bind.mp commits
    obtain ⟨_, rfl⟩ := commits_pure.mp commits
    exact .expired
  | inserting machineId purpose now =>
    replace commits := commits_get_bind.mp commits
    obtain ⟨_, commits⟩ := commits_require_bind.mp commits
    obtain ⟨alone, commits⟩ := commits_require_bind.mp commits
    replace commits := commits_modify_bind.mp commits
    obtain ⟨_, rfl⟩ := commits_pure.mp commits
    exact .inserted (by simpa using alone)
  | claim request =>
    replace commits := commits_get_bind.mp commits
    obtain ⟨⟨code, machine⟩, _, commits⟩ :=
      commits_requireSome_bind.mp commits
    dsimp only at commits
    split at commits
    · obtain ⟨_, rfl⟩ := commits_pure.mp commits
      exact .nothing nofun
    · split at commits
      all_goals
        obtain ⟨_, rfl⟩ := commits_pure.mp commits
        exact .nothing nofun
  | recordingFailure read now =>
    replace commits := commits_get_bind.mp commits
    split at commits
    · obtain ⟨_, rfl⟩ := commits_pure.mp commits
      exact .nothing nofun
    · next stored found =>
      obtain ⟨alone, commits⟩ := commits_require_bind.mp commits
      replace commits := commits_modify_bind.mp commits
      obtain ⟨_, rfl⟩ := commits_pure.mp commits
      refine .failed found fun isOpen => ?_
      simpa [isOpen] using alone
  | replaying profile =>
    replace commits := commits_modify_bind.mp commits
    obtain ⟨_, rfl⟩ := commits_pure.mp commits
    exact .replayed
  | consuming read machine bundle now => exact consumeClaimCode_writes commits
  | revoke machineId claimCodeId =>
    replace commits := commits_get_bind.mp commits
    obtain ⟨_, commits⟩ := commits_require_bind.mp commits
    obtain ⟨_, _, commits⟩ := commits_requireSome_bind.mp commits
    obtain ⟨_, commits⟩ := commits_require_bind.mp commits
    obtain ⟨_, rfl⟩ := commits_pure.mp commits
    exact .nothing nofun
  | revoking claimCodeId now =>
    replace commits := commits_modify_bind.mp commits
    obtain ⟨_, rfl⟩ := commits_pure.mp commits
    exact .revoked
  | rotate machineId =>
    replace commits := commits_get_bind.mp commits
    obtain ⟨_, commits⟩ := commits_require_bind.mp commits
    obtain ⟨_, rfl⟩ := commits_pure.mp commits
    exact .nothing nofun
  | rotating machineId =>
    replace commits := commits_modify_bind.mp commits
    obtain ⟨_, rfl⟩ := commits_pure.mp commits
    exact .rotated
  | decommission machineId =>
    obtain ⟨_, middle, decommissions, rest⟩ := commits_bind.mp commits
    obtain ⟨_, rfl⟩ := commits_pure.mp rest
    obtain ⟨store, wrote, rfl⟩ := commits_onStore decommissions
    rcases secureDecommissionMachine_cases wrote with
      rfl | ⟨_, _, _, _, rfl⟩
    · exact .nothing nofun
    · exact .decommissioned

namespace ClaimDb.Consistent

theorem oneCredentialSet (consistent : before.Consistent) :
    before.OneCredentialSet := by
  refine ⟨fun claimCodeId => ?_, fun answer member => ⟨?_, ?_⟩⟩
  · rw [consistent.rotated]
    split
    · exact Nat.le_refl 1
    · exact Nat.zero_le 1
  · rw [consistent.rotated, consistent.answered answer member]
    rfl
  · intro other otherMember same
    have first := consistent.answered other otherMember
    rw [same, consistent.answered answer member] at first
    exact (Option.some.inj first).symm

/-- A rewrite of codes that reopens none keeps the invariant. -/
theorem updateWhere
    (consistent : before.Consistent)
    {test : MachineClaimCode → Bool}
    {change : MachineClaimCode → MachineClaimCode}
    (keepsId : ∀ code, (change code).id = code.id)
    (codes : after.store.machineClaimCodes =
      before.store.machineClaimCodes.updateWhere test change keepsId)
    (answers : after.answers = before.answers)
    (rotations : ∀ claimCodeId,
      after.rotationsFor claimCodeId = before.rotationsFor claimCodeId)
    (machine : ∀ code, (change code).machineId = code.machineId)
    (response : ∀ code, ∀ profile ∈ (change code).claimResponse,
      profile ∈ code.claimResponse)
    (closed : ∀ code ∈ before.store.machineClaimCodes, test code = true →
      (change code).state = .pending → code.state = .pending)
    (opened : ∀ code ∈ before.store.machineClaimCodes, test code = true →
      (change code).state.isOpen →
        code.state.isOpen ∨
          ∀ other ∈ before.store.machineClaimCodes,
            other.machineId = code.machineId →
              other.state.isOpen ∨ test other → other.id = code.id) :
    after.Consistent := by
  have sameAnswer : ∀ claimCodeId,
      after.answer? claimCodeId = before.answer? claimCodeId := by
    intro claimCodeId
    unfold ClaimDb.answer?
    rw [answers]
  have rewritten : ∀ code ∈ after.store.machineClaimCodes,
      ∃ old ∈ before.store.machineClaimCodes,
        (if test old then change old else old) = code := by
    intro code member
    rw [codes, Table.mem_updateWhere] at member
    exact member
  -- An open code was open, or is alone among the open and rewritten ones.
  have openOrAlone : ∀ old ∈ before.store.machineClaimCodes,
      (if test old then change old else old).state.isOpen →
        (old.state.isOpen ∨ test old) ∧
          (old.state.isOpen ∨
            ∀ other ∈ before.store.machineClaimCodes,
              other.machineId = old.machineId →
                other.state.isOpen ∨ test other → other.id = old.id) := by
    intro old member isOpen
    split at isOpen
    · next tested => exact ⟨.inr tested, opened old member tested isOpen⟩
    · exact ⟨.inl isOpen, .inl isOpen⟩
  have kept : ∀ old : MachineClaimCode,
      (if test old then change old else old).id = old.id ∧
        (if test old then change old else old).machineId = old.machineId := by
    intro old
    split
    · exact ⟨keepsId old, machine old⟩
    · exact ⟨rfl, rfl⟩
  refine ⟨?_, ?_, ?_, ?_, ?_, ?_⟩
  · intro code member other otherMember sameMachine isOpen otherOpen
    obtain ⟨old, oldMember, rfl⟩ := rewritten code member
    obtain ⟨second, secondMember, rfl⟩ := rewritten other otherMember
    rw [(kept old).2, (kept second).2] at sameMachine
    rw [(kept old).1, (kept second).1]
    obtain ⟨wide, oldCase⟩ := openOrAlone old oldMember isOpen
    obtain ⟨secondWide, secondCase⟩ :=
      openOrAlone second secondMember otherOpen
    rcases oldCase with oldOpen | oldAlone
    · rcases secondCase with secondOpen | secondAlone
      · exact consistent.oneOpen old oldMember second secondMember
          sameMachine oldOpen secondOpen
      · exact secondAlone old oldMember sameMachine wide
    · exact (oldAlone second secondMember sameMachine.symm secondWide).symm
  · intro answer member
    rw [answers] at member
    rw [sameAnswer]
    exact consistent.answered answer member
  · intro answer member
    rw [answers] at member
    obtain ⟨code, found⟩ :=
      Option.isSome_iff_exists.mp (consistent.known answer member)
    rw [codes, Table.find?_updateWhere, found]
    rfl
  · intro code member isPending
    obtain ⟨old, oldMember, rfl⟩ := rewritten code member
    rw [sameAnswer, (kept old).1]
    apply consistent.pending old oldMember
    split at isPending
    · next tested => exact closed old oldMember tested isPending
    · exact isPending
  · intro code member profile held
    obtain ⟨old, oldMember, rfl⟩ := rewritten code member
    rw [sameAnswer, (kept old).1]
    apply consistent.stored old oldMember
    split at held
    · exact response old profile held
    · exact held
  · intro claimCodeId
    rw [rotations, sameAnswer, consistent.rotated]

/-- The same codes, answers and rotations. -/
theorem of_eq
    (consistent : before.Consistent)
    (codes : after.store.machineClaimCodes = before.store.machineClaimCodes)
    (answers : after.answers = before.answers)
    (rotations : ∀ claimCodeId,
      after.rotationsFor claimCodeId = before.rotationsFor claimCodeId) :
    after.Consistent := by
  have sameAnswer : ∀ claimCodeId,
      after.answer? claimCodeId = before.answer? claimCodeId := by
    intro claimCodeId
    unfold ClaimDb.answer?
    rw [answers]
  refine ⟨?_, ?_, ?_, ?_, ?_, fun claimCodeId => ?_⟩
  · unfold ClaimDb.OneOpenCode
    rw [codes]
    exact consistent.oneOpen
  · intro answer member
    rw [answers] at member
    rw [sameAnswer]
    exact consistent.answered answer member
  · intro answer member
    rw [answers] at member
    rw [codes]
    exact consistent.known answer member
  · intro code member
    rw [codes] at member
    rw [sameAnswer]
    exact consistent.pending code member
  · intro code member
    rw [codes] at member
    rw [sameAnswer]
    exact consistent.stored code member
  · rw [rotations, sameAnswer, consistent.rotated]

variable {profile : MachineProvisioningProfile}

/-- A replay repeats the answer that was given. -/
theorem replay
    (consistent : before.Consistent)
    (member : profile ∈ before.answers)
    (store : after.store = before.store)
    (answers : after.answers = before.answers ++ [profile])
    (rotations : after.rotations = before.rotations) :
    after.Consistent := by
  have answered := consistent.answered profile member
  have sameAnswer : ∀ claimCodeId,
      after.answer? claimCodeId = before.answer? claimCodeId := by
    intro claimCodeId
    unfold ClaimDb.answer? at answered ⊢
    rw [answers, List.find?_append]
    by_cases same : profile.claimCodeId = claimCodeId
    · subst same
      rw [answered]
      rfl
    · simp [same]
  refine ⟨?_, fun answer answerMember => ?_, fun answer answerMember => ?_,
    ?_, ?_, fun claimCodeId => ?_⟩
  · unfold ClaimDb.OneOpenCode
    rw [store]
    exact consistent.oneOpen
  · rw [sameAnswer]
    rw [answers] at answerMember
    rcases List.mem_append.mp answerMember with old | new
    · exact consistent.answered answer old
    · rw [List.mem_singleton.mp new]
      exact answered
  · rw [store]
    rw [answers] at answerMember
    rcases List.mem_append.mp answerMember with old | new
    · exact consistent.known answer old
    · rw [List.mem_singleton.mp new]
      exact consistent.known profile member
  · intro code codeMember
    rw [store] at codeMember
    rw [sameAnswer]
    exact consistent.pending code codeMember
  · intro code codeMember
    rw [store] at codeMember
    rw [sameAnswer]
    exact consistent.stored code codeMember
  · unfold ClaimDb.rotationsFor
    rw [rotations, sameAnswer]
    exact consistent.rotated claimCodeId

/-- A new code is the only open one of its machine, and has no answer yet. -/
theorem insertNext
    (consistent : before.Consistent)
    {make : ClaimCodeId → MachineClaimCode}
    (numbered : ∀ id, (make id).id = id)
    (unclaimed : ∀ id, (make id).claimResponse = none)
    (alone : ∀ code ∈ before.store.machineClaimCodes,
      code.machineId =
          (make before.store.machineClaimCodes.nextId).machineId →
        code.state.isOpen = false)
    (codes : after.store.machineClaimCodes =
      before.store.machineClaimCodes.insertNext make)
    (answers : after.answers = before.answers)
    (rotations : after.rotations = before.rotations) :
    after.Consistent := by
  have sameAnswer : ∀ claimCodeId,
      after.answer? claimCodeId = before.answer? claimCodeId := by
    intro claimCodeId
    unfold ClaimDb.answer?
    rw [answers]
  have rows : ∀ code, code ∈ after.store.machineClaimCodes ↔
      code ∈ before.store.machineClaimCodes ∨
        code = make before.store.machineClaimCodes.nextId := by
    intro code
    rw [codes]
    exact Table.mem_insertNext _ (numbered _) code
  refine ⟨?_, ?_, ?_, ?_, ?_, fun claimCodeId => ?_⟩
  · intro code member other otherMember same isOpen otherOpen
    rcases (rows code).mp member with old | rfl
    · rcases (rows other).mp otherMember with oldOther | rfl
      · exact consistent.oneOpen code old other oldOther same isOpen otherOpen
      · rw [alone code old same] at isOpen
        cases isOpen
    · rcases (rows other).mp otherMember with oldOther | rfl
      · rw [alone other oldOther same.symm] at otherOpen
        cases otherOpen
      · rfl
  · intro answer member
    rw [answers] at member
    rw [sameAnswer]
    exact consistent.answered answer member
  · intro answer member
    rw [answers] at member
    have known := consistent.known answer member
    rw [codes, Table.find?_insertNext _ (numbered _)]
    split
    · rfl
    · exact known
  · intro code member isPending
    rw [sameAnswer]
    rcases (rows code).mp member with old | rfl
    · exact consistent.pending code old isPending
    · rw [numbered, ClaimDb.answer?, List.find?_eq_none]
      intro answer answerMember same
      have known := consistent.known answer answerMember
      rw [of_decide_eq_true same, Table.find?_nextId] at known
      cases known
  · intro code member profile held
    rw [sameAnswer]
    rcases (rows code).mp member with old | rfl
    · exact consistent.stored code old profile held
    · rw [unclaimed] at held
      cases held
  · unfold ClaimDb.rotationsFor
    rw [rotations, sameAnswer]
    exact consistent.rotated claimCodeId

/-- A consumption answers its code for the first time. -/
theorem consume
    (consistent : before.Consistent)
    {claimCodeId : ClaimCodeId}
    {stored : MachineClaimCode}
    {machineId : MachineId}
    (found : before.store.machineClaimCodes.find? claimCodeId = some stored)
    (isPending : stored.state = .pending)
    (named : profile.claimCodeId = claimCodeId)
    (codes : after.store.machineClaimCodes =
      before.store.machineClaimCodes.updateWhere
        (fun code => decide (code.id = claimCodeId))
        (MachineClaimCode.consume now profile)
        (MachineClaimCode.id_consume now profile))
    (answers : after.answers = before.answers ++ [profile])
    (rotations :
      after.rotations = before.rotations ++ [⟨machineId, some claimCodeId⟩]) :
    after.Consistent := by
  obtain ⟨storedMember, storedId⟩ := Table.find?_eq_some_iff.mp found
  have unanswered : before.answer? claimCodeId = none := by
    rw [← storedId]
    exact consistent.pending stored storedMember isPending
  have newAnswer : after.answer? claimCodeId = some profile := by
    unfold ClaimDb.answer? at unanswered ⊢
    rw [answers, List.find?_append, unanswered]
    simp [named]
  have oldAnswer : ∀ other, other ≠ claimCodeId →
      after.answer? other = before.answer? other := by
    intro other differs
    unfold ClaimDb.answer?
    rw [answers, List.find?_append]
    simp [named, differs.symm]
  have rewritten : ∀ code ∈ after.store.machineClaimCodes,
      (code ∈ before.store.machineClaimCodes ∧ code.id ≠ claimCodeId) ∨
        (code.id = claimCodeId ∧ code.state = .consumed ∧
          code.claimResponse = some profile) := by
    intro code member
    rw [codes, Table.mem_updateWhere] at member
    obtain ⟨old, oldMember, rfl⟩ := member
    by_cases same : old.id = claimCodeId
    · right
      rw [if_pos (by simpa using same)]
      exact ⟨same, rfl, rfl⟩
    · left
      rw [if_neg (by simpa using same)]
      exact ⟨oldMember, same⟩
  refine ⟨?_, ?_, ?_, ?_, ?_, fun other => ?_⟩
  · intro code member other otherMember sameMachine isOpen otherOpen
    rcases rewritten code member with ⟨old, _⟩ | ⟨_, consumed, _⟩
    · rcases rewritten other otherMember with ⟨second, _⟩ | ⟨_, consumed, _⟩
      · exact consistent.oneOpen code old other second sameMachine isOpen
          otherOpen
      · rw [consumed] at otherOpen
        cases otherOpen
    · rw [consumed] at isOpen
      cases isOpen
  · intro answer member
    rw [answers] at member
    rcases List.mem_append.mp member with old | new
    · have answered := consistent.answered answer old
      by_cases same : answer.claimCodeId = claimCodeId
      · rw [same, unanswered] at answered
        cases answered
      · rw [oldAnswer _ same]
        exact answered
    · rw [List.mem_singleton.mp new, named]
      exact newAnswer
  · intro answer member
    have exists' : ∀ id, (before.store.machineClaimCodes.find? id).isSome →
        (after.store.machineClaimCodes.find? id).isSome := by
      intro id known
      rw [codes, Table.find?_updateWhere, Option.isSome_map]
      exact known
    rw [answers] at member
    apply exists'
    rcases List.mem_append.mp member with old | new
    · exact consistent.known answer old
    · rw [List.mem_singleton.mp new, named, found]
      rfl
  · intro code member isPending
    rcases rewritten code member with ⟨old, differs⟩ | ⟨_, consumed, _⟩
    · rw [oldAnswer _ differs]
      exact consistent.pending code old isPending
    · rw [consumed] at isPending
      cases isPending
  · intro code member held response
    rcases rewritten code member with ⟨old, differs⟩ | ⟨same, _, answer⟩
    · rw [oldAnswer _ differs]
      exact consistent.stored code old held response
    · rw [same, newAnswer]
      exact answer.symm.trans response
  · have before' := consistent.rotated other
    unfold ClaimDb.rotationsFor at before' ⊢
    rw [rotations, List.countP_append, before']
    by_cases same : other = claimCodeId
    · subst same
      rw [newAnswer, unanswered]
      simp
    · rw [oldAnswer _ same]
      simp [Ne.symm same]

/-- What a task writes leaves the answers in agreement. -/
theorem writes
    (consistent : before.Consistent)
    (inOrder : task.InOrder before)
    (writes : task.Writes before after) :
    after.Consistent := by
  cases writes with
  | nothing => exact consistent
  | status => exact consistent.of_eq (by rfl) (by rfl) fun _ => by rfl
  | expired =>
    refine consistent.updateWhere MachineClaimCode.id_expire
      (by rfl) (by rfl)
      (fun _ => by rfl) (fun _ => by rfl) ?_ ?_ ?_
    · exact fun _ _ held => held
    · exact fun _ _ _ pending => by cases pending
    · exact fun _ _ _ isOpen => by cases isOpen
  | @inserted machineId purpose now expiresAt generated alone =>
    refine consistent.insertNext (fun _ => rfl) (fun _ => rfl) ?_
      (by rfl) (by rfl) (by rfl)
    intro code member same
    have differs : code.id ≠ before.store.machineClaimCodes.nextId :=
      Nat.ne_of_lt (Table.key_lt_nextId member)
    have others := List.any_eq_false.mp alone code member
    rw [show code.machineId = machineId from same] at others
    simpa [differs] using others
  | @failed read stored now found alone =>
    have only : ∀ code ∈ before.store.machineClaimCodes,
        decide (code.id = read.id) = true → code = stored := by
      intro code member same
      obtain ⟨storedMember, storedId⟩ := Table.find?_eq_some_iff.mp found
      exact Table.eq_of_key_eq member storedMember
        ((of_decide_eq_true same).trans storedId.symm)
    refine consistent.updateWhere
      (MachineClaimCode.id_recordFailure read now) (by rfl) (by rfl)
      (fun _ => by rfl) (fun _ => by rfl) ?_ ?_ ?_
    · intro code profile held
      unfold MachineClaimCode.recordFailure at held
      dsimp only at held
      split at held
      · cases held
      · exact held
    · intro code _ _ pending
      dsimp only [MachineClaimCode.recordFailure,
        MachineClaimCode.failedState] at pending
      split at pending
      · split at pending
        · cases pending
        · split at pending
          · cases pending
          · exact pending
      · contradiction
    · intro code member tested isOpen
      refine .inr fun other otherMember sameMachine otherOpen => ?_
      obtain rfl := only code member tested
      rcases otherOpen with otherOpen | otherTested
      · have free := List.any_eq_false.mp (alone isOpen) other otherMember
        simpa [sameMachine, otherOpen] using free
      · rw [only other otherMember otherTested]
  | @replayed profile => exact consistent.replay inOrder (by rfl) (by rfl) (by rfl)
  | @repeated read stored machine bundle now profile member response =>
    have answered := consistent.stored stored member profile response
    exact consistent.replay (List.mem_of_find?_eq_some answered)
      (by rfl) (by rfl) (by rfl)
  | consumed found pending owner named =>
    exact consistent.consume found pending named (by rfl) (by rfl) (by rfl)
  | revoked =>
    refine consistent.updateWhere (MachineClaimCode.id_revoke _)
      (by rfl) (by rfl)
      (fun _ => by rfl) (fun _ => by rfl) ?_ ?_ ?_
    · exact fun _ _ held => held
    · exact fun _ _ _ pending => by cases pending
    · exact fun _ _ _ isOpen => by cases isOpen
  | rotated =>
    refine consistent.of_eq (by rfl) (by rfl) ?_
    intro claimCodeId
    simp [ClaimDb.rotationsFor]
  | decommissioned =>
    refine consistent.updateWhere (MachineClaimCode.id_revoke _)
      (by rfl) (by rfl)
      (fun _ => by rfl) (fun _ => by rfl) ?_ ?_ ?_
    · exact fun _ _ held => held
    · exact fun _ _ _ pending => by cases pending
    · exact fun _ _ _ isOpen => by cases isOpen

end ClaimDb.Consistent

namespace ClaimDb.VersionsCount

theorem refl (db : ClaimDb) : db.VersionsCount db :=
  fun _ machine found => ⟨machine, found, rfl, Nat.le_refl _,
    fun none _ => none⟩

theorem trans
    {middle : ClaimDb}
    (earlier : before.VersionsCount middle)
    (later : middle.VersionsCount after) :
    before.VersionsCount after := by
  intro machineId machine found
  obtain ⟨second, foundSecond, version, grows, kept⟩ :=
    earlier machineId machine found
  obtain ⟨third, foundThird, laterVersion, laterGrows, laterKept⟩ :=
    later machineId second foundSecond
  refine ⟨third, foundThird, by omega, Nat.le_trans grows laterGrows, ?_⟩
  intro none same
  exact laterKept (kept none (by omega)) (by omega)

theorem of_eq
    (machines : after.store.machines = before.store.machines)
    (rotations : after.rotations = before.rotations) :
    before.VersionsCount after := by
  intro machineId machine found
  refine ⟨machine, by rw [machines]; exact found, ?_⟩
  unfold ClaimDb.rotationsOf
  rw [rotations]
  exact ⟨rfl, Nat.le_refl _, fun none _ => none⟩

variable {machineId : MachineId}

theorem of_modify
    (change : MachineAccount → MachineAccount)
    (keepsId : ∀ machine, (change machine).id = machine.id)
    (machines : after.store.machines =
      before.store.machines.modify machineId change keepsId)
    (rotations : after.rotations = before.rotations)
    (version : ∀ machine,
      (change machine).secretVersion = machine.secretVersion)
    (secret : ∀ machine, machine.secretHash = none →
      (change machine).secretHash = none) :
    before.VersionsCount after := by
  intro other machine found
  rw [Option.mem_def] at found
  unfold ClaimDb.rotationsOf
  rw [machines, rotations, Table.find?_modify, found]
  split
  · exact ⟨change machine, rfl, by rw [version], Nat.le_refl _,
      fun none _ => secret machine none⟩
  · exact ⟨machine, rfl, rfl, Nat.le_refl _, fun none _ => none⟩

theorem of_rotation
    {claimCodeId : Option ClaimCodeId}
    (change : MachineAccount → MachineAccount)
    (keepsId : ∀ machine, (change machine).id = machine.id)
    (machines : after.store.machines =
      before.store.machines.modify machineId change keepsId)
    (rotations :
      after.rotations = before.rotations ++ [⟨machineId, claimCodeId⟩])
    (version : ∀ machine,
      (change machine).secretVersion = machine.secretVersion + 1) :
    before.VersionsCount after := by
  intro other machine found
  rw [Option.mem_def] at found
  unfold ClaimDb.rotationsOf
  rw [machines, rotations, Table.find?_modify, found, List.countP_append]
  split
  · next same =>
    subst same
    simp only [List.countP_singleton, decide_true, ↓reduceIte]
    refine ⟨change machine, rfl, ?_, by omega, fun _ same => by omega⟩
    rw [version]
    omega
  · next differs =>
    have unchanged :
        [CredentialRotation.mk machineId claimCodeId].countP
          (fun rotation => decide (rotation.machineId = other)) = 0 := by
      simp [Ne.symm differs]
    rw [unchanged]
    exact ⟨machine, rfl, rfl, Nat.le_refl _, fun none _ => none⟩

theorem writes
    (writes : task.Writes before after) :
    before.VersionsCount after := by
  cases writes with
  | nothing => exact refl before
  | @status machineId status =>
    exact of_modify (fun machine => { machine with status })
      (fun _ => rfl) (by rfl) (by rfl) (fun _ => rfl) (fun _ none => none)
  | expired | inserted | failed | replayed | repeated =>
    exact of_eq (by rfl) (by rfl)
  | consumed =>
    exact of_rotation (MachineAccount.rotateCredentials _ _ _)
      (MachineAccount.id_rotateCredentials _ _ _) (by rfl) (by rfl)
      (fun _ => rfl)
  | revoked => exact of_eq (by rfl) (by rfl)
  | @rotated machineId bundle now =>
    exact of_rotation
      (fun machine =>
        machine.rotateCredentials bundle machine.mqttClientId now)
      (fun _ => rfl) (by rfl) (by rfl) (fun _ => rfl)
  | decommissioned =>
    exact of_modify (MachineAccount.decommissioned _ _)
      (MachineAccount.id_decommissioned _ _) (by rfl) (by rfl)
      (fun _ => rfl) (fun _ _ => rfl)

end ClaimDb.VersionsCount

namespace ClaimDb.ClosedForGood

theorem trans
    {middle : ClaimDb}
    (earlier : before.ClosedForGood middle)
    (later : middle.ClosedForGood after) :
    before.ClosedForGood after := by
  intro claimCodeId code found closed
  obtain ⟨⟨second, foundSecond, secondClosed⟩, rotations⟩ :=
    earlier claimCodeId code found closed
  obtain ⟨third, laterRotations⟩ :=
    later claimCodeId second foundSecond secondClosed
  exact ⟨third, laterRotations.trans rotations⟩

theorem of_eq
    (codes : after.store.machineClaimCodes = before.store.machineClaimCodes)
    (rotations : ∀ claimCodeId,
      after.rotationsFor claimCodeId = before.rotationsFor claimCodeId) :
    before.ClosedForGood after := by
  intro claimCodeId code found closed
  rw [codes]
  exact ⟨⟨code, found, closed⟩, rotations claimCodeId⟩

theorem of_updateWhere
    {test : MachineClaimCode → Bool}
    {change : MachineClaimCode → MachineClaimCode}
    (keepsId : ∀ code, (change code).id = code.id)
    (codes : after.store.machineClaimCodes =
      before.store.machineClaimCodes.updateWhere test change keepsId)
    (rotations : ∀ claimCodeId, ∀ code ∈
      before.store.machineClaimCodes.find? claimCodeId,
        code.state ≠ .pending →
          after.rotationsFor claimCodeId = before.rotationsFor claimCodeId)
    (closed : ∀ code : MachineClaimCode, code.state ≠ .pending →
      (change code).state ≠ .pending) :
    before.ClosedForGood after := by
  intro claimCodeId code found codeClosed
  refine ⟨⟨if test code then change code else code, ?_, ?_⟩,
    rotations claimCodeId code found codeClosed⟩
  · rw [codes, Option.mem_def, Table.find?_updateWhere,
      show before.store.machineClaimCodes.find? claimCodeId =
        some code from found]
    rfl
  · split
    · exact closed code codeClosed
    · exact codeClosed

theorem writes
    (writes : task.Writes before after) :
    before.ClosedForGood after := by
  cases writes with
  | nothing => exact of_eq rfl fun _ => rfl
  | status => exact of_eq (by rfl) fun _ => by rfl
  | expired =>
    exact of_updateWhere MachineClaimCode.id_expire (by rfl)
      (fun _ _ _ _ => by rfl) (fun _ _ pending => by cases pending)
  | inserted =>
    intro claimCodeId code found closed
    refine ⟨⟨code, ?_, closed⟩, rfl⟩
    rw [Option.mem_def] at found ⊢
    dsimp only [ClaimDb.withCodes]
    rw [Table.find?_insertNext _ rfl, if_neg]
    · exact found
    · rintro rfl
      rw [Table.find?_nextId] at found
      cases found
  | failed =>
    refine of_updateWhere (MachineClaimCode.id_recordFailure _ _) (by rfl)
      (fun _ _ _ _ => by rfl) ?_
    intro code closed pending
    dsimp only [MachineClaimCode.recordFailure,
      MachineClaimCode.failedState] at pending
    split at pending
    · split at pending
      · cases pending
      · split at pending
        · cases pending
        · exact closed pending
    · contradiction
  | replayed => exact of_eq (by rfl) fun _ => by rfl
  | repeated => exact of_eq (by rfl) fun _ => by rfl
  | @consumed read stored machine rotated bundle now profile found pending =>
    refine of_updateWhere (MachineClaimCode.id_consume now profile) (by rfl)
      ?_ (fun _ _ consumed => by cases consumed)
    intro claimCodeId code foundCode closed
    have differs : read.id ≠ claimCodeId := by
      rintro rfl
      rw [Option.some.inj (foundCode.symm.trans found)] at closed
      exact closed pending
    simp [ClaimDb.rotationsFor, differs]
  | revoked =>
    exact of_updateWhere (MachineClaimCode.id_revoke _) (by rfl)
      (fun _ _ _ _ => by rfl) (fun _ _ pending => by cases pending)
  | rotated =>
    refine of_eq (by rfl) fun claimCodeId => ?_
    simp [ClaimDb.rotationsFor]
  | decommissioned =>
    exact of_updateWhere (MachineClaimCode.id_revoke _) (by rfl)
      (fun _ _ _ _ => by rfl) (fun _ _ pending => by cases pending)

end ClaimDb.ClosedForGood

theorem find?_updateWhere_cases
    {codes : Table MachineClaimCode MachineClaimCode.id}
    {test : MachineClaimCode → Bool}
    {change : MachineClaimCode → MachineClaimCode}
    (keepsId : ∀ code, (change code).id = code.id)
    {claimCodeId : ClaimCodeId}
    {later : MachineClaimCode}
    (found : code ∈ codes.find? claimCodeId)
    (foundLater :
      later ∈ (codes.updateWhere test change keepsId).find? claimCodeId) :
    (test code = true ∧ later = change code) ∨
      (test code = false ∧ later = code) := by
  rw [Option.mem_def, Table.find?_updateWhere,
    show codes.find? claimCodeId = some code from found] at foundLater
  obtain rfl := Option.some.inj foundLater
  by_cases tested : test code = true
  · exact .inl ⟨tested, if_pos tested⟩
  · exact .inr ⟨Bool.eq_false_iff.mpr tested, if_neg tested⟩

theorem ClaimTask.Writes.keepsClosed
    (writes : task.Writes before after) :
    task.KeepsClosed before after := by
  intro spares claimCodeId code found later foundLater closed
  have ofSame : after.store.machineClaimCodes =
      before.store.machineClaimCodes → later.state = code.state := by
    intro same
    rw [same] at foundLater
    rw [Option.some.inj (foundLater.symm.trans found)]
  cases writes with
  | nothing => exact .inl (ofSame rfl)
  | status => exact .inl (ofSame (by rfl))
  | expired => cases spares
  | inserted =>
    left
    rw [Option.mem_def] at found foundLater
    dsimp only [ClaimDb.withCodes] at foundLater
    rw [Table.find?_insertNext _ rfl] at foundLater
    split at foundLater
    · next fresh =>
      rw [fresh, Table.find?_nextId] at found
      cases found
    · rw [Option.some.inj (foundLater.symm.trans found)]
  | failed => cases spares
  | replayed => exact .inl (ofSame (by rfl))
  | repeated => exact .inl (ofSame (by rfl))
  | consumed foundStored pending =>
    rcases find?_updateWhere_cases (MachineClaimCode.id_consume _ _)
        found foundLater with
      ⟨same, _⟩ | ⟨_, rfl⟩
    · have stored := Table.key_of_find? found
      rw [show claimCodeId = _ from
        stored.symm.trans (of_decide_eq_true same)] at found
      rw [Option.some.inj (found.symm.trans foundStored)] at closed
      exact absurd pending closed
    · exact .inl rfl
  | revoked =>
    rcases find?_updateWhere_cases (MachineClaimCode.id_revoke _)
        found foundLater with
      ⟨same, _⟩ | ⟨_, rfl⟩
    · simp only [Bool.and_eq_true, decide_eq_true_eq] at same
      exact absurd same.2 closed
    · exact .inl rfl
  | rotated => exact .inl (ofSame (by rfl))
  | decommissioned =>
    rcases find?_updateWhere_cases (MachineClaimCode.id_revoke _)
        found foundLater with
      ⟨same, rfl⟩ | ⟨_, rfl⟩
    · simp only [Bool.and_eq_true, decide_eq_true_eq] at same
      obtain ⟨rfl, isOpen⟩ := same
      refine .inr ⟨rfl, ?_, rfl⟩
      cases state : code.state with
      | locked => rfl
      | pending => exact absurd state closed
      | consumed | expired | revoked => rw [state] at isOpen; cases isOpen
    · exact .inl rfl

/-- A revocation and an effective decommission leave no code pending. -/
theorem ClaimTask.Writes.closes
    (writes : task.Writes before after)
    (member : code ∈ after.store.machineClaimCodes)
    (closes : task.Closes before after code) :
    code.state ≠ .pending := by
  cases writes with
  | revoked =>
    intro pending
    have named : code.id = _ := closes
    dsimp only [ClaimDb.withCodes] at member
    rw [Table.mem_updateWhere] at member
    obtain ⟨old, _, rfl⟩ := member
    split at pending
    · cases pending
    · next other =>
      rw [if_neg other] at named
      simp [named, pending] at other
  | decommissioned =>
    intro pending
    have own : code.machineId = _ := closes.2
    dsimp only at member
    rw [Table.mem_updateWhere] at member
    obtain ⟨old, _, rfl⟩ := member
    split at pending
    · cases pending
    · next other =>
      rw [if_neg other] at own
      simp [own, pending, MachineClaimCodeState.isOpen] at other
  | nothing other =>
    cases task with
    | revoking claimCodeId now => exact absurd rfl (other claimCodeId now)
    | decommission machineId => exact absurd rfl closes.1
    | _ => cases closes
  | _ => cases closes

theorem ClaimTask.Writes.answers_subset
    (writes : task.Writes before after) :
    before.answers ⊆ after.answers := by
  cases writes with
  | replayed | repeated | consumed => exact List.subset_append_left _ _
  | _ => exact List.Subset.refl _

theorem claimMachine_inOrder
    {request : MachineClaimRequest}
    (consistent : before.Consistent)
    (commits : (claimMachine request bundle now).Commits
      before answer after) :
    ∀ followUp ∈ answer, followUp.InOrder after := by
  replace commits := commits_get_bind.mp commits
  obtain ⟨⟨code, machine⟩, candidate, commits⟩ :=
    commits_requireSome_bind.mp commits
  dsimp only at commits
  split at commits
  · obtain ⟨rfl, rfl⟩ := commits_pure.mp commits
    simp [ClaimTask.InOrder]
  · split at commits
    · next profile _ response _ =>
      obtain ⟨rfl, rfl⟩ := commits_pure.mp commits
      intro followUp member
      rw [List.mem_singleton.mp member]
      simp only [MachineDb.claimCandidate?, Option.bind_eq_bind,
        Option.bind_eq_some_iff] at candidate
      obtain ⟨found, search, owner, _, same⟩ := candidate
      cases same
      have stored := consistent.stored code
        (List.mem_of_find?_eq_some search) profile response
      exact List.mem_of_find?_eq_some stored
    · obtain ⟨rfl, rfl⟩ := commits_pure.mp commits
      simp [ClaimTask.InOrder]
    · obtain ⟨rfl, rfl⟩ := commits_pure.mp commits
      simp [ClaimTask.InOrder]

theorem consumeClaimCode_answers
    (commits : (consumeClaimCode read machine bundle payment now).Commits
      before answer after) :
    answer = [] := by
  unfold consumeClaimCode at commits
  replace commits := commits_get_bind.mp commits
  obtain ⟨stored, found, commits⟩ := commits_requireSome_bind.mp commits
  split at commits
  · obtain ⟨rotated, owner, commits⟩ := commits_requireSome_bind.mp commits
    replace commits := commits_modify_bind.mp commits
    replace commits := commits_modify_bind.mp commits
    replace commits := commits_modify_bind.mp commits
    exact (commits_pure.mp commits).1
  · split at commits
    · replace commits := commits_modify_bind.mp commits
      exact (commits_pure.mp commits).1
    · exact (commits_throw commits).elim

theorem ClaimTask.perform_inOrder
    {toleranceSeconds ttlSeconds : Nat}
    (consistent : before.Consistent)
    (commits : (task.perform toleranceSeconds ttlSeconds input).Commits
      before answer after) :
    ∀ followUp ∈ answer, followUp.InOrder after := by
  cases task with
  | claim request => exact claimMachine_inOrder consistent commits
  | consuming read machine bundle now =>
    rw [consumeClaimCode_answers commits]
    simp
  | setStatus machineId status =>
    obtain ⟨_, middle, _, rest⟩ := commits_bind.mp commits
    rw [(commits_pure.mp rest).1]
    simp
  | generate machineId purpose =>
    replace commits := commits_get_bind.mp commits
    obtain ⟨machine, _, commits⟩ := commits_requireSome_bind.mp commits
    obtain ⟨_, commits⟩ := commits_require_bind.mp commits
    obtain ⟨_, commits⟩ := commits_require_bind.mp commits
    rw [(commits_pure.mp commits).1]
    simp [ClaimTask.InOrder]
  | readingOpenCodes machineId purpose =>
    replace commits := commits_get_bind.mp commits
    obtain ⟨_, commits⟩ := commits_require_bind.mp commits
    rw [(commits_pure.mp commits).1]
    split
    · simp [ClaimTask.InOrder]
    · simp [ClaimTask.InOrder]
  | expiring machineId purpose expired now =>
    replace commits := commits_modify_bind.mp commits
    rw [(commits_pure.mp commits).1]
    simp [ClaimTask.InOrder]
  | inserting machineId purpose now =>
    replace commits := commits_get_bind.mp commits
    obtain ⟨_, commits⟩ := commits_require_bind.mp commits
    obtain ⟨_, commits⟩ := commits_require_bind.mp commits
    replace commits := commits_modify_bind.mp commits
    rw [(commits_pure.mp commits).1]
    simp
  | recordingFailure read now =>
    replace commits := commits_get_bind.mp commits
    split at commits
    · rw [(commits_pure.mp commits).1]
      simp
    · obtain ⟨_, commits⟩ := commits_require_bind.mp commits
      replace commits := commits_modify_bind.mp commits
      rw [(commits_pure.mp commits).1]
      simp
  | replaying profile =>
    replace commits := commits_modify_bind.mp commits
    rw [(commits_pure.mp commits).1]
    simp
  | revoke machineId claimCodeId =>
    replace commits := commits_get_bind.mp commits
    obtain ⟨_, commits⟩ := commits_require_bind.mp commits
    obtain ⟨_, _, commits⟩ := commits_requireSome_bind.mp commits
    obtain ⟨_, commits⟩ := commits_require_bind.mp commits
    rw [(commits_pure.mp commits).1]
    simp [ClaimTask.InOrder]
  | revoking claimCodeId now =>
    replace commits := commits_modify_bind.mp commits
    rw [(commits_pure.mp commits).1]
    simp
  | rotate machineId =>
    replace commits := commits_get_bind.mp commits
    obtain ⟨_, commits⟩ := commits_require_bind.mp commits
    rw [(commits_pure.mp commits).1]
    simp [ClaimTask.InOrder]
  | rotating machineId =>
    replace commits := commits_modify_bind.mp commits
    rw [(commits_pure.mp commits).1]
    simp
  | decommission machineId =>
    obtain ⟨_, middle, _, rest⟩ := commits_bind.mp commits
    rw [(commits_pure.mp rest).1]
    simp

theorem claimService_keeps (toleranceSeconds ttlSeconds : Nat) :
    (claimService toleranceSeconds ttlSeconds).Keeps (fun _ _ _ => True)
      ClaimDb.Consistent (fun db task => task.InOrder db) where
  starts := by
    intro db task starts
    cases task with
    | replaying profile => cases starts
    | _ => trivial
  recovers := fun _ member => by cases member
  performs := fun consistent inOrder _ commits =>
    ⟨consistent.writes inOrder (ClaimTask.perform_writes commits),
      ClaimTask.perform_inOrder consistent commits⟩
  others := by
    intro before after task input answer other _ _ _ commits inOrder
    cases other with
    | replaying profile =>
      exact (ClaimTask.perform_writes commits).answers_subset inOrder
    | _ => trivial

abbrev ClaimRuntime : Type := Service.Runtime ClaimDb ClaimTask

abbrev ClaimEvent : Type := Service.Event MachineError ClaimTask ClaimInput

section Runs

variable {toleranceSeconds ttlSeconds : Nat} {runtime later : ClaimRuntime}
  {event : ClaimEvent} {events : List ClaimEvent}

/-- The answers agree at every step of a run. -/
abbrev ClaimsHold (runtime : ClaimRuntime) : Prop :=
  Service.Holds ClaimDb.Consistent (fun db task => task.InOrder db) runtime

theorem ClaimsHold.step
    (holds : ClaimsHold runtime)
    (step : (claimService toleranceSeconds ttlSeconds).machine.step runtime
      event = some later) :
    ClaimsHold later := by
  apply Service.Holds.step
    (claimService_keeps toleranceSeconds ttlSeconds) holds _ step
  cases event with
  | advance position input => exact fun _ _ => trivial
  | submit task | fail position refusal | crash => trivial

theorem step_versionsCount
    (step : (claimService toleranceSeconds ttlSeconds).machine.step runtime
      event = some later) :
    runtime.db.VersionsCount later.db := by
  rcases Service.step_db_cases step with
    same | ⟨position, input, task, answer, rfl, found, commits⟩
  · rw [same]
    exact ClaimDb.VersionsCount.refl _
  · exact ClaimDb.VersionsCount.writes (ClaimTask.perform_writes commits)

theorem step_closedForGood
    (step : (claimService toleranceSeconds ttlSeconds).machine.step runtime
      event = some later) :
    runtime.db.ClosedForGood later.db := by
  rcases Service.step_db_cases step with
    same | ⟨position, input, task, answer, rfl, found, commits⟩
  · rw [same]
    exact ClaimDb.ClosedForGood.of_eq rfl fun _ => rfl
  · exact ClaimDb.ClosedForGood.writes (ClaimTask.perform_writes commits)

theorem run_versionsCount
    (run : (claimService toleranceSeconds ttlSeconds).machine.run runtime
      events = some later) :
    runtime.db.VersionsCount later.db :=
  @Machine.run_keeps _ _ _ (fun current =>
    runtime.db.VersionsCount current.db)
    (fun counts step => counts.trans (step_versionsCount step))
    _ _ _ (ClaimDb.VersionsCount.refl _) run

theorem run_closedForGood
    (run : (claimService toleranceSeconds ttlSeconds).machine.run runtime
      events = some later) :
    runtime.db.ClosedForGood later.db :=
  @Machine.run_keeps _ _ _ (fun current =>
    runtime.db.ClosedForGood current.db)
    (fun closed step => closed.trans (step_closedForGood step))
    _ _ _ (ClaimDb.ClosedForGood.of_eq rfl fun _ => rfl) run

end Runs

/--
In every run that starts without codes: one code of a machine is open at most,
all successful claims of a code repeat one rotation of the credentials, secret
versions count the rotations, and a code that is not pending gives no more.
Apart from the recorder of failed claims and the expiry of old codes, a step
leaves the state of such a code, but for a decommission that revokes it.
-/
theorem claim_code_yields_one_credential_set
    {toleranceSeconds ttlSeconds : Nat}
    {first middle next last : ClaimRuntime}
    {events laterEvents : List ClaimEvent}
    {event : ClaimEvent}
    (noCodes : first.db.store.machineClaimCodes = .empty)
    (noAnswers : first.db.answers = [])
    (noRotations : first.db.rotations = [])
    (idle : first.tasks = [])
    (run : (claimService toleranceSeconds ttlSeconds).machine.run first
      events = some middle)
    (step : (claimService toleranceSeconds ttlSeconds).machine.step middle
      event = some next)
    (laterRun : (claimService toleranceSeconds ttlSeconds).machine.run next
      laterEvents = some last) :
    middle.db.OneOpenCode ∧ middle.db.OneCredentialSet ∧
      first.db.VersionsCount middle.db ∧ next.db.VersionsCount last.db ∧
      next.db.ClosedForGood last.db ∧
      ∀ position input task, event = .advance position input →
        middle.tasks[position]? = some task →
          task.KeepsClosed middle.db next.db ∧
            ∀ code ∈ next.db.store.machineClaimCodes,
              task.Closes middle.db next.db code →
                last.db.rotationsFor code.id =
                  next.db.rotationsFor code.id := by
  have start : ClaimsHold first := by
    refine ⟨⟨?_, ?_, ?_, ?_, ?_, ?_⟩, by simp [idle]⟩
    · simp [ClaimDb.OneOpenCode, noCodes]
    · simp [noAnswers]
    · simp [noAnswers]
    · simp [noCodes]
    · simp [noCodes]
    · simp [ClaimDb.rotationsFor, ClaimDb.answer?, noAnswers, noRotations]
  have holds : ClaimsHold middle :=
    Machine.run_keeps (fun holds step => ClaimsHold.step holds step) start run
  have closed := run_closedForGood laterRun
  refine ⟨holds.db.oneOpen, holds.db.oneCredentialSet,
    run_versionsCount run, run_versionsCount laterRun, closed, ?_⟩
  rintro position input task rfl found
  have ofClosed : ∀ code ∈ next.db.store.machineClaimCodes,
      code.state ≠ .pending →
        last.db.rotationsFor code.id = next.db.rotationsFor code.id :=
    fun code member stays => (closed code.id code
      (Table.find?_eq_some_iff.mpr ⟨member, rfl⟩) stays).2
  cases Service.takes_of_step step with
  | committed foundTask commits =>
    cases Option.some.inj (foundTask.symm.trans found)
    have writes := ClaimTask.perform_writes commits
    exact ⟨writes.keepsClosed, fun code member closes =>
      ofClosed code member (writes.closes member closes)⟩
  | aborted foundTask refused =>
    cases Option.some.inj (foundTask.symm.trans found)
    refine ⟨?_, fun code member closes => ?_⟩
    · intro _ claimCodeId code foundCode later foundLater _
      exact .inl (by rw [Option.some.inj (foundLater.symm.trans foundCode)])
    · cases task with
      | revoking claimCodeId now => cases refused
      | decommission machineId => exact absurd rfl closes.1
      | _ => cases closes

/-- A machine that was never claimed. -/
def unclaimedMachine : ClaimDb where
  store :=
    { machines := Table.empty.insertOrIgnore
        { id := 1, status := .offline, secretHash := none, secretVersion := 1
          secretRotatedAt := none, credentialRevokedAt := none
          mqttClientId := none, mqttSigningSecret := none
          deletedAt := none }
      machineClaimCodes := .empty
      machineCommands := .empty
      machineEvents := .empty
      published := [] }
  answers := []
  rotations := []

def advanceClaim (position : Nat) (now : Time) : ClaimEvent :=
  .advance position
    { now
      generated := { lookupDigest := 11, verifier := 22 }
      bundle := { machineSecret := now, mqttSigningSecret := now }
      payment := { qrCodeEnabled := true, paymentCodeEnabled := false } }

def generateCode : List ClaimEvent :=
  [.submit (.generate 1 .firstClaim), advanceClaim 0 10, advanceClaim 0 10,
    advanceClaim 0 10]

/-- A claim with the right lookup, read by the task at the position. -/
def startClaim
    (verifier : Digest)
    (position : Nat)
    (now : Time) : List ClaimEvent :=
  [.submit (.claim { lookupDigest := 11, verifier }),
    advanceClaim position now]

/-- Four claims with a wrong verifier. -/
def fourFailures : List ClaimEvent :=
  [20, 21, 22, 23].flatMap fun now =>
    startClaim 33 0 now ++ [advanceClaim 0 now]

/-- Two claims that both read the pending code answer the same credentials. -/
theorem claim_code_yields_one_credential_set_replayed :
    ∃ middle next last,
      (claimService 300 600).machine.run { db := unclaimedMachine, tasks := [] }
          (generateCode ++ startClaim 22 0 20 ++ startClaim 22 1 21 ++
            [advanceClaim 1 22, advanceClaim 0 23]) = some middle ∧
        (claimService 300 600).machine.step middle
          (.submit (.decommission 1)) = some next ∧
        (claimService 300 600).machine.run next [advanceClaim 0 30] =
          some last ∧
        middle.db.answers.length = 2 ∧
        middle.db.OneCredentialSet ∧
        next.db.ClosedForGood last.db :=
  have settled := @claim_code_yields_one_credential_set 300 600
    { db := unclaimedMachine, tasks := [] } _ _ _
    (generateCode ++ startClaim 22 0 20 ++ startClaim 22 1 21 ++
      [advanceClaim 1 22, advanceClaim 0 23])
    [advanceClaim 0 30] (.submit (.decommission 1))
    rfl rfl rfl rfl rfl rfl rfl
  ⟨_, _, _, rfl, rfl, rfl, by decide +kernel, settled.2.1,
    settled.2.2.2.2.1⟩

def ClaimDb.codeStates (db : ClaimDb) : List MachineClaimCodeState :=
  db.store.machineClaimCodes.rows.map MachineClaimCode.state

/--
A decommission revokes a code that was locked.  And a failed claim that read
the code pending locks it after another claim consumed it.
-/
theorem closed_code_changes_state :
    (∃ middle next,
      (claimService 300 600).machine.run
          { db := unclaimedMachine, tasks := [] }
          (generateCode ++ fourFailures ++ startClaim 33 0 24 ++
            [advanceClaim 0 24, .submit (.decommission 1)]) = some middle ∧
        (claimService 300 600).machine.step middle (advanceClaim 0 30) =
          some next ∧
        middle.db.codeStates = [.locked] ∧
        next.db.codeStates = [.revoked]) ∧
      ∃ middle next,
        (claimService 300 600).machine.run
            { db := unclaimedMachine, tasks := [] }
            (generateCode ++ fourFailures ++ startClaim 33 0 24 ++
              startClaim 22 1 25 ++ [advanceClaim 1 26]) = some middle ∧
          (claimService 300 600).machine.step middle (advanceClaim 0 27) =
            some next ∧
          middle.db.codeStates = [.consumed] ∧
          next.db.codeStates = [.locked] :=
  ⟨⟨_, _, rfl, rfl, by decide +kernel, by decide +kernel⟩,
    ⟨_, _, rfl, rfl, by decide +kernel, by decide +kernel⟩⟩

end VendingSystem.Platform
