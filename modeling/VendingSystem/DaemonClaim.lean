import VendingSystem.CrashPrograms
import VendingSystem.Machine

namespace VendingSystem.Daemon

/-!
# Accepting a claim

A claim is accepted by replacing three credentials and one profile cache,
under a journal and with copies of the former credentials.  Each secret and
each file is written or removed by one durable step.
-/

inductive Account where
  | machineSecret
  | mqttSigningSecret
  | mqttPassword
  deriving Repr, DecidableEq

def accounts : List Account :=
  [.machineSecret, .mqttSigningSecret, .mqttPassword]

/-- The secrets of the accounts; a blank one counts as absent. -/
abbrev Secrets := Account → Option Nat

def absentSecrets : Secrets :=
  fun _ => none

/-- The credentials of a claim, of which the password may be left out. -/
structure ClaimCredentials where
  machineSecret : Nat
  mqttSigningSecret : Nat
  mqttPassword : Option Nat
  deriving Repr, DecidableEq

def ClaimCredentials.secrets (credentials : ClaimCredentials) : Secrets
  | .machineSecret => some credentials.machineSecret
  | .mqttSigningSecret => some credentials.mqttSigningSecret
  | .mqttPassword => credentials.mqttPassword

/-- The secrets of a claim, or of none. -/
def secretsOf : Option ClaimCredentials → Secrets
  | some credentials => credentials.secrets
  | none => absentSecrets

/-- The profile that the cache keeps; `content` stands for its other fields. -/
structure ProfileSnapshot where
  machineId : Nat
  machineCode : Nat
  profileRevision : Nat
  content : Nat
  deriving Repr, DecidableEq

structure ProfileCache where
  generation : Nat
  profile : ProfileSnapshot
  /-- The claim under which the profile was obtained; not in the file. -/
  claim : ClaimCredentials
  deriving Repr, DecidableEq

inductive JournalOperation where
  | accept
  | clear
  deriving Repr, DecidableEq

/-- The journal of a claim; its phase goes with its operation. -/
structure ClaimJournal where
  operation : JournalOperation
  generation : Nat
  deriving Repr, DecidableEq

structure ClaimStore where
  secrets : Secrets
  backups : Secrets
  /-- The marker that the copies are complete. -/
  backupsReady : Bool
  cache : Option ProfileCache
  journal : Option ClaimJournal
  /-- Held in memory. -/
  generation : Nat
  /-- The claim accepted last: its cache was written, and no clearing begun. -/
  accepted : Option ClaimCredentials

/-- Why a credential is written. -/
inductive Purpose where
  | replace
  | rollBack
  | recover
  | clear
  deriving Repr, DecidableEq

inductive ClaimAction where
  | writeSecret (purpose : Purpose) (account : Account) (value : Option Nat)
  | writeBackup (account : Account) (value : Option Nat)
  | writeReady (ready : Bool)
  | writeCache (cache : ProfileCache)
  | writeJournal (journal : ClaimJournal)
  | removeCache
  | removeJournal

def ClaimAction.apply : ClaimAction → ClaimStore → ClaimStore
  | writeSecret _ account value, store =>
    { store with
      secrets := fun other =>
        if other = account then value else store.secrets other }
  | writeBackup account value, store =>
    { store with
      backups := fun other =>
        if other = account then value else store.backups other }
  | writeReady ready, store => { store with backupsReady := ready }
  | writeCache cache, store =>
    { store with cache := some cache, accepted := some cache.claim }
  | writeJournal journal, store =>
    { store with
      journal := some journal
      accepted :=
        if journal.operation = .clear then none else store.accepted }
  | removeCache, store => { store with cache := none }
  | removeJournal, store => { store with journal := none }

/-- A file may have been renamed into place before its write fails. -/
def ClaimAction.report : ClaimAction → ClaimStore → ClaimStore
  | action@(writeCache _), store | action@(writeJournal _), store =>
    action.apply store
  | _, store => store

def claimMedium : Medium ClaimStore ClaimAction where
  apply := ClaimAction.apply
  report := ClaimAction.report

abbrev ClaimProgram := CrashProgram ClaimStore ClaimAction

def getStore : ClaimProgram ClaimStore :=
  .read .done

def storeGeneration (generation : Nat) : ClaimProgram Unit :=
  .assign (fun store => { store with generation }) (.done ())

def writeSecrets (purpose : Purpose) (secrets : Secrets) :
    ClaimProgram Bool :=
  .performAll (accounts.map fun account =>
    .writeSecret purpose account (secrets account))

/-- The copies are written one by one, and then their marker. -/
def writeCopies (secrets : Secrets) (ready : Bool) : ClaimProgram Bool :=
  .performAll
    (accounts.map (fun account => .writeBackup account (secrets account)) ++
      [.writeReady ready])

def writeCredentialBackups (previous : Secrets) : ClaimProgram Bool :=
  writeCopies previous true

def clearCredentialBackups : ClaimProgram Bool :=
  writeCopies absentSecrets false

/-- The new cache is in place, with its two secrets. -/
def ClaimStore.completes (store : ClaimStore) (journal : ClaimJournal) :
    Bool :=
  store.cache.any (·.generation = journal.generation) &&
    (store.secrets .machineSecret).isSome &&
    (store.secrets .mqttSigningSecret).isSome

/-- The copies are cleared and the journal removed. -/
def finishTransaction (generation : Nat) : ClaimProgram Bool := do
  let cleared ← clearCredentialBackups
  if ¬ cleared then return false
  let removed ← CrashProgram.performOne .removeJournal
  if ¬ removed then return false
  storeGeneration generation
  return true

/-- The cache and the credentials are removed. -/
def clearTransaction (generation : Nat) : ClaimProgram Bool := do
  let uncached ← CrashProgram.performOne .removeCache
  if ¬ uncached then return false
  let erased ← writeSecrets .clear absentSecrets
  if ¬ erased then return false
  finishTransaction generation

/-- Whether the recovery returns `Ok`. -/
def recoverClaimTransaction : ClaimProgram Bool := do
  let store ← getStore
  match store.journal with
  | none => return true
  | some journal =>
    match journal.operation with
    | .clear => clearTransaction journal.generation
    | .accept =>
      if store.completes journal then finishTransaction journal.generation
      else if ¬ store.backupsReady then
        let removed ← CrashProgram.performOne .removeJournal
        if ¬ removed then return false
        storeGeneration journal.generation
        return true
      else
        let restored ← writeSecrets .recover store.backups
        if ¬ restored then return false
        finishTransaction journal.generation

/-- The errors of a rollback are ignored. -/
def rollBack (previous : Secrets) : ClaimProgram Unit := do
  let _ ← writeSecrets .rollBack previous
  let _ ← clearCredentialBackups
  let _ ← CrashProgram.performOne .removeJournal

/-- A profile with the credentials of its claim. -/
structure ProvisioningProfile where
  snapshot : ProfileSnapshot
  credentials : ClaimCredentials
  deriving Repr, DecidableEq

/-- The next generation over the one in memory and the one in the cache. -/
def ClaimStore.nextGeneration (store : ClaimStore) : Nat :=
  max store.generation ((store.cache.map (·.generation)).getD 0) + 1

/--
`admitted` tells whether the contract and the bootstrap hardware admit the
profile.
-/
def acceptProfile (profile : ProvisioningProfile) (admitted : Bool) :
    ClaimProgram Bool := do
  let recovered ← recoverClaimTransaction
  if ¬ recovered then return false
  let store ← getStore
  let generation := store.nextGeneration
  if ¬ admitted then return false
  let previous := store.secrets
  let copied ← writeCredentialBackups previous
  if ¬ copied then
    let _ ← clearCredentialBackups
    return false
  let journalled ← CrashProgram.performOne
    (.writeJournal { operation := .accept, generation })
  if ¬ journalled then
    let _ ← clearCredentialBackups
    return false
  let replaced ← writeSecrets .replace profile.credentials.secrets
  if ¬ replaced then
    rollBack previous
    return false
  let cached ← CrashProgram.performOne
    (.writeCache
      { generation, profile := profile.snapshot, claim := profile.credentials })
  if ¬ cached then
    rollBack previous
    return false
  finishTransaction generation

/-- The refresh keeps the claim of the cache that it replaces. -/
def acceptRefreshedProfile (profile : ProfileSnapshot) (admitted : Bool) :
    ClaimProgram Bool := do
  let recovered ← recoverClaimTransaction
  if ¬ recovered then return false
  let store ← getStore
  match store.cache with
  | none => return false
  | some accepted =>
    if accepted.profile.machineId ≠ profile.machineId ∨
        accepted.profile.machineCode ≠ profile.machineCode then return false
    if profile.profileRevision = accepted.profile.profileRevision then
      return accepted.profile = profile
    if ¬ admitted then return false
    let generation := store.nextGeneration
    let cached ← CrashProgram.performOne
      (.writeCache { generation, profile, claim := accepted.claim })
    if ¬ cached then return false
    storeGeneration generation
    return true

def clearClaim : ClaimProgram Bool := do
  let store ← getStore
  let generation := store.generation + 1
  let journalled ← CrashProgram.performOne
    (.writeJournal { operation := .clear, generation })
  if ¬ journalled then return false
  clearTransaction generation

inductive ClaimOperation where
  /-- `recover_claim_transaction` of a process that has started. -/
  | recover
  | acceptProfile (profile : ProvisioningProfile) (admitted : Bool)
  | acceptRefreshedProfile (profile : ProfileSnapshot) (admitted : Bool)
  | clearClaim
  deriving Repr, DecidableEq

def ClaimOperation.program : ClaimOperation → ClaimProgram Bool
  | recover => recoverClaimTransaction
  | acceptProfile profile admitted =>
    Daemon.acceptProfile profile admitted
  | acceptRefreshedProfile profile admitted =>
    Daemon.acceptRefreshedProfile profile admitted
  | clearClaim => Daemon.clearClaim

structure ClaimDaemon where
  store : ClaimStore
  /-- The process has recovered. -/
  up : Bool

inductive ClaimEvent where
  | perform (operation : ClaimOperation) (outcomes : List Outcome)
  /-- The process dies between two operations. -/
  | die
  deriving Repr, DecidableEq

/-- A process that starts over the durable part of the store. -/
def ClaimDaemon.restarted (store : ClaimStore) : ClaimDaemon where
  store := { store with generation := 0 }
  up := false

def claimDaemon : Machine ClaimDaemon ClaimEvent where
  step daemon
    | .die => some (.restarted daemon.store)
    | .perform operation outcomes =>
      if daemon.up = decide (operation = .recover) then none
      else
        match operation.program.run claimMedium daemon.store outcomes with
        | (store, none) => some (.restarted store)
        | (store, some succeeded) =>
          some { store, up := daemon.up || succeeded }

/-- A machine that was never claimed. -/
def ClaimDaemon.unclaimed : ClaimDaemon where
  store :=
    { secrets := absentSecrets
      backups := absentSecrets
      backupsReady := false
      cache := none
      journal := none
      generation := 0
      accepted := none }
  up := false

end VendingSystem.Daemon
