import VendingSystem.DaemonMediaEntries
import VendingSystem.Machine

namespace VendingSystem.Daemon

/-!
# The published files of the media cache

Adoptions, readers, workers and cleanups share the entries and the files.
What changes a file, and most of what changes an entry, is done under the
reconcile gate, one file operation and one change of the state at a time.
-/

def isLowerHexDigit (char : Char) : Bool :=
  "0123456789abcdef".toList.contains char

def isHexDigit (char : Char) : Bool :=
  isLowerHexDigit char || "ABCDEF".toList.contains char

def digestScheme : List Char :=
  "sha256:".toList

/-- The name of the file of a digest, without its suffix. -/
def objectKey (digest : String) : List Char :=
  let value := digest.toList.drop digestScheme.length
  if digestScheme.isPrefixOf digest.toList && value.length = 64 &&
      value.all isHexDigit then
    value.map Char.toLower
  else "invalid".toList

/-- The digests that the snapshot contract takes. -/
def isContractDigest (digest : String) : Bool :=
  let value := digest.toList.drop digestScheme.length
  digestScheme.isPrefixOf digest.toList && value.length = 64 &&
    value.all isLowerHexDigit

structure WarmIdentity where
  generation : String
  media : MediaIdentity
  deriving Repr, DecidableEq

def WarmJob.identity (job : WarmJob) : WarmIdentity where
  generation := job.generation
  media := mediaIdentity job.descriptor

inductive WarmPhase (Content : Type) where
  | fetching
  /-- The content was fetched and verified. -/
  | staged (content : Content)
  /-- The worker holds the gate. -/
  | publishing
  /-- The worker is done with the job, whose identity is still in flight. -/
  | finishing
  deriving Repr, DecidableEq

structure RunningJob (Content : Type) where
  job : WarmJob
  phase : WarmPhase Content
  deriving Repr, DecidableEq

inductive LeasePhase where
  | verifying
  /-- The defensive read has failed. -/
  | failed
  | reading
  /-- The lease was dropped, and waits for the gate to be released. -/
  | dropped
  deriving Repr, DecidableEq

structure LeaseHolder where
  identity : MediaIdentity
  version : Nat
  phase : LeasePhase
  deriving Repr, DecidableEq

/-- What the holder of the reconcile gate does next. -/
inductive GateWork (Content : Type) where
  | free
  | sweeping (generation : String) (objects : List MediaObject)
  | verifying
      (generation : String)
      (objects remaining : List MediaObject)
      (published : List String)
  | removing (identity : MediaIdentity) (job : Option WarmJob)
  | requeueing (job : WarmJob)
  | publishing (job : WarmJob) (content : Content)
  | renamed (job : WarmJob) (renamed : Except String Unit)
  | tidying
  | cleaning (digests : List String)
  | reclaiming (digest : String) (digests : List String)

/-- The job that the holder of the gate is still to queue. -/
def GateWork.job {Content : Type} : GateWork Content → Option WarmJob
  | .removing _ job => job
  | .requeueing job => some job
  | _ => none

/-- What the code relies on, and what is true of the contents. -/
structure MediaSetup (Content : Type) where
  validate : MediaDescriptor → Option String
  /-- The content has these facts, as a verification without errors finds. -/
  verified : Content → MediaIdentity → Bool
  /-- The snapshot contract takes the descriptor, whatever its digest. -/
  converts : MediaDescriptor → Bool

/-- The descriptor has a place in the snapshot. -/
def MediaSetup.admits
    {Content : Type}
    (setup : MediaSetup Content)
    (descriptor : MediaDescriptor) : Bool :=
  isContractDigest descriptor.digest && setup.converts descriptor

structure MediaStore (Content : Type) where
  state : MediaCacheState
  /-- The digests that have had an entry. -/
  known : List String
  files : List Char → Option Content
  gate : GateWork Content
  holders : List LeaseHolder
  queue : List WarmJob
  inflight : List WarmIdentity
  running : List (RunningJob Content)
  /-- The jobs that the maintenance of an adoption has still to enqueue. -/
  maintenance : List WarmJob

inductive MediaStoreEvent (Content : Type) where
  | adopt (generation : String) (descriptors : List MediaDescriptor)
  | verifyObjects
  | verifyObject (answer : Bool)
  /-- The adoption is superseded, or its manifest is not persisted. -/
  | abandon
  | enterFatal (error : String)
  | commit
  /-- One file is removed that no entry protects. -/
  | sweepFile (key : List Char)
  | enqueue (job : WarmJob)
  | requeue
  | readReady (digest : String)
  | verifyRead (holder : LeaseHolder) (answer : Bool)
  | drop (holder : LeaseHolder)
  | rejectRead (holder : LeaseHolder)
  | release (holder : LeaseHolder)
  | removeFile (removed : Bool)
  | takeJob
  | stage (job : WarmJob) (content : Content)
  | failWarm (job : WarmJob) (error : String)
  | passFence (job : WarmJob) (content : Content)
  | exceedHighWater
  | rename (renamed : Except String Unit)
  | publish
  | finish (job : WarmJob)
  | beginCleanup
  | pickCandidates (digests : List String)
  | reclaim
  | endCleanup

namespace MediaStore

variable {Content : Type} [DecidableEq Content]

/-- The jobs of an accepted adoption, one for each entry that is warming. -/
def warmJobs
    (state : MediaCacheState)
    (generation : String)
    (objects : List MediaObject) : List WarmJob :=
  objects.filterMap fun object =>
    (state.entries object.descriptor.digest).bind fun entry =>
      if entry.active ∧ entry.readiness = .warming then
        some
          { generation
            descriptor := entry.descriptor
            candidates := entry.candidates }
      else none

def adopt
    (setup : MediaSetup Content)
    (store : MediaStore Content)
    (generation : String)
    (descriptors : List MediaDescriptor) : Option (MediaStore Content) :=
  match store.gate, normalizeInterestSet setup.validate descriptors with
  | .free, .ok interest =>
    if store.state.fatalError.isSome ∨
        store.state.conflicts interest.objects then none
    else
      some { store with gate := .sweeping generation interest.objects }
  | _, _ => none

def verifyObjects (store : MediaStore Content) :
    Option (MediaStore Content) :=
  match store.gate with
  | .sweeping generation objects =>
    some { store with gate := .verifying generation objects objects [] }
  | _ => none

/-- The file of the digest has the facts of the identity. -/
def holds
    (setup : MediaSetup Content)
    (store : MediaStore Content)
    (identity : MediaIdentity) : Bool :=
  (store.files (objectKey identity.digest)).any fun content =>
    setup.verified content identity

/-- A verification may fail for other reasons, but it never errs. -/
def verifyObject
    (setup : MediaSetup Content)
    (store : MediaStore Content)
    (answer : Bool) : Option (MediaStore Content) :=
  match store.gate with
  | .verifying generation objects (object :: remaining) published =>
    if answer && !store.holds setup (mediaIdentity object.descriptor) then
      none
    else
      some { store with
        gate :=
          .verifying generation objects remaining
            (if answer then object.descriptor.digest :: published
              else published) }
  | _ => none

def abandon (store : MediaStore Content) : Option (MediaStore Content) :=
  match store.gate with
  | .sweeping _ _ | .verifying _ _ _ _ => some { store with gate := .free }
  | _ => none

def enterFatal (store : MediaStore Content) (error : String) :
    Option (MediaStore Content) :=
  match store.gate with
  | .verifying _ _ [] _ =>
    some { store with state := store.state.enterFatal error, gate := .free }
  | _ => none

/-- Without a snapshot, the adoption returns an error after its change. -/
def commit
    (setup : MediaSetup Content)
    (store : MediaStore Content) : Option (MediaStore Content) :=
  match store.gate with
  | .verifying generation objects [] published =>
    let state := store.state.adopt generation objects published.contains
    let scheduled :=
      if objects.all fun object => setup.admits object.descriptor then
        warmJobs state generation objects
      else []
    some { store with
      state
      known := objects.map (·.descriptor.digest) ++ store.known
      gate := .free
      maintenance := store.maintenance ++ scheduled }
  | _ => none

/-- Some entry has the file. -/
def isTracked (store : MediaStore Content) (key : List Char) : Bool :=
  store.known.any fun digest =>
    objectKey digest = key && (store.state.entries digest).isSome

def setFile
    (store : MediaStore Content)
    (key : List Char)
    (content : Option Content) : MediaStore Content :=
  { store with files := Function.update store.files key content }

def sweepFile (store : MediaStore Content) (key : List Char) :
    Option (MediaStore Content) :=
  match store.gate with
  | .sweeping _ _ | .tidying =>
    if store.isTracked key then none else some (store.setFile key none)
  | _ => none

/-- A job whose identity is in flight is not queued again. -/
def enqueueJob (store : MediaStore Content) (job : WarmJob) :
    MediaStore Content :=
  if job.identity ∈ store.inflight then store
  else
    { store with
      inflight := job.identity :: store.inflight
      queue := store.queue ++ [job] }

def enqueue (store : MediaStore Content) (job : WarmJob) :
    Option (MediaStore Content) :=
  if job ∈ store.maintenance then
    some ({ store with
      maintenance := store.maintenance.erase job }.enqueueJob job)
  else none

def requeue (store : MediaStore Content) : Option (MediaStore Content) :=
  match store.gate with
  | .requeueing job => some ({ store with gate := .free }.enqueueJob job)
  | _ => none

def readReady (store : MediaStore Content) (digest : String) :
    Option (MediaStore Content) := do
  let entry ← store.state.entries digest
  let state ← store.state.reserve digest
  some { store with
    state
    holders :=
      { identity := mediaIdentity entry.descriptor
        version := entry.readVersion
        phase := .verifying } :: store.holders }

/-- The holder goes on to its next phase. -/
def moveHolder
    (store : MediaStore Content)
    (holder : LeaseHolder)
    (phase : LeasePhase) : Option (MediaStore Content) :=
  if holder ∈ store.holders then
    some { store with
      holders := { holder with phase } :: store.holders.erase holder }
  else none

def verifyRead
    (setup : MediaSetup Content)
    (store : MediaStore Content)
    (holder : LeaseHolder)
    (answer : Bool) : Option (MediaStore Content) :=
  if holder.phase = .verifying ∧
      (answer = true → store.holds setup holder.identity = true) then
    store.moveHolder holder (if answer then .reading else .failed)
  else none

def drop (store : MediaStore Content) (holder : LeaseHolder) :
    Option (MediaStore Content) :=
  if holder.phase = .reading then store.moveHolder holder .dropped else none

def rejectRead (store : MediaStore Content) (holder : LeaseHolder) :
    Option (MediaStore Content) :=
  match store.gate with
  | .free =>
    if holder.phase = .failed ∧ holder ∈ store.holders then
      let (state, quarantine) :=
        store.state.rejectRead holder.identity holder.version
      some { store with
        state
        holders := store.holders.erase holder
        gate := if quarantine then .removing holder.identity none else .free }
    else none
  | _ => none

def release (store : MediaStore Content) (holder : LeaseHolder) :
    Option (MediaStore Content) :=
  match store.gate with
  | .free =>
    if holder.phase = .dropped ∧ holder ∈ store.holders then
      let (state, quarantine, job) :=
        store.state.releaseLease holder.identity holder.version
      some { store with
        state
        holders := store.holders.erase holder
        gate := if quarantine then .removing holder.identity job else .free }
    else none
  | _ => none

/-- A removal that fails leaves the file. -/
def discardFile
    (store : MediaStore Content)
    (digest : String)
    (removed : Bool) : MediaStore Content :=
  if removed then store.setFile (objectKey digest) none else store

/-- The file of a quarantine or of a candidate of a cleanup is removed. -/
def removeFile (store : MediaStore Content) (removed : Bool) :
    Option (MediaStore Content) :=
  match store.gate with
  | .removing identity none =>
    some { store.discardFile identity.digest removed with gate := .free }
  | .removing identity (some job) =>
    some { store.discardFile identity.digest removed with
      gate := .requeueing job }
  | .cleaning (digest :: digests) =>
    some { store.discardFile digest removed with
      gate := .reclaiming digest digests }
  | _ => none

def takeJob (store : MediaStore Content) : Option (MediaStore Content) :=
  match store.queue with
  | [] => none
  | job :: queue =>
    some { store with
      queue, running := { job, phase := .fetching } :: store.running }

/-- The worker goes on to its next phase. -/
def moveJob
    (store : MediaStore Content)
    (job : WarmJob)
    (before after : WarmPhase Content) : Option (MediaStore Content) :=
  if { job, phase := before } ∈ store.running then
    some { store with
      running :=
        { job, phase := after } :: store.running.erase { job, phase := before } }
  else none

/-- A source was fetched and verified. -/
def stage
    (setup : MediaSetup Content)
    (store : MediaStore Content)
    (job : WarmJob)
    (content : Content) : Option (MediaStore Content) :=
  if setup.verified content (mediaIdentity job.descriptor) then
    store.moveJob job .fetching (.staged content)
  else none

def failWarm
    (store : MediaStore Content)
    (job : WarmJob)
    (error : String) : Option (MediaStore Content) :=
  { store with state := store.state.failWarm job error }.moveJob job
    .fetching .finishing

/-- The worker takes the gate, and looks whether its job is still current. -/
def passFence
    (store : MediaStore Content)
    (job : WarmJob)
    (content : Content) : Option (MediaStore Content) :=
  match store.gate with
  | .free =>
    if (store.state.currentEntry job).isSome then
      { store with gate := .publishing job content }.moveJob job
        (.staged content) .publishing
    else store.moveJob job (.staged content) .finishing
  | _ => none

def exceedHighWater (store : MediaStore Content) :
    Option (MediaStore Content) :=
  match store.gate with
  | .publishing job _ =>
    { store with
      state := store.state.exceedHighWater job
      gate := .free }.moveJob job .publishing .finishing
  | _ => none

def rename (store : MediaStore Content) (renamed : Except String Unit) :
    Option (MediaStore Content) :=
  match store.gate with
  | .publishing job content =>
    let key := objectKey job.descriptor.digest
    match renamed with
    | .ok () =>
      some { store.setFile key (some content) with
        gate := .renamed job renamed }
    | .error _ => some { store with gate := .renamed job renamed }
  | _ => none

def publish (store : MediaStore Content) : Option (MediaStore Content) :=
  match store.gate with
  | .renamed job renamed =>
    { store with
      state := store.state.publish job renamed
      gate := .free }.moveJob job .publishing .finishing
  | _ => none

/-- The identity of a job is free again once the worker has left it. -/
def finish (store : MediaStore Content) (job : WarmJob) :
    Option (MediaStore Content) :=
  if { job, phase := .finishing } ∈ store.running then
    some { store with
      running := store.running.erase { job, phase := .finishing }
      inflight := store.inflight.filter (· ≠ job.identity) }
  else none

def beginCleanup (store : MediaStore Content) : Option (MediaStore Content) :=
  match store.gate with
  | .free => some { store with gate := .tidying }
  | _ => none

/-- Some of the entries that are neither pinned nor leased. -/
def pickCandidates (store : MediaStore Content) (digests : List String) :
    Option (MediaStore Content) :=
  match store.gate with
  | .tidying =>
    if digests.all fun digest =>
        (store.state.entries digest).any MediaCacheState.isReclaimable then
      some { store with gate := .cleaning digests }
    else none
  | _ => none

def reclaim (store : MediaStore Content) : Option (MediaStore Content) :=
  match store.gate with
  | .reclaiming digest digests =>
    some { store with
      state := store.state.reclaim digest
      gate := .cleaning digests }
  | _ => none

/-- The cleanup ends with its candidates, or once enough room was made. -/
def endCleanup (store : MediaStore Content) : Option (MediaStore Content) :=
  match store.gate with
  | .cleaning _ => some { store with gate := .free }
  | _ => none

def step
    (setup : MediaSetup Content)
    (store : MediaStore Content) :
    MediaStoreEvent Content → Option (MediaStore Content)
  | .adopt generation descriptors => store.adopt setup generation descriptors
  | .verifyObjects => store.verifyObjects
  | .verifyObject answer => store.verifyObject setup answer
  | .abandon => store.abandon
  | .enterFatal error => store.enterFatal error
  | .commit => store.commit setup
  | .sweepFile key => store.sweepFile key
  | .enqueue job => store.enqueue job
  | .requeue => store.requeue
  | .readReady digest => store.readReady digest
  | .verifyRead holder answer => store.verifyRead setup holder answer
  | .drop holder => store.drop holder
  | .rejectRead holder => store.rejectRead holder
  | .release holder => store.release holder
  | .removeFile removed => store.removeFile removed
  | .takeJob => store.takeJob
  | .stage job content => store.stage setup job content
  | .failWarm job error => store.failWarm job error
  | .passFence job content => store.passFence job content
  | .exceedHighWater => store.exceedHighWater
  | .rename renamed => store.rename renamed
  | .publish => store.publish
  | .finish job => store.finish job
  | .beginCleanup => store.beginCleanup
  | .pickCandidates digests => store.pickCandidates digests
  | .reclaim => store.reclaim
  | .endCleanup => store.endCleanup

/-- A cache that has just started on its manifest and its files. -/
def start
    (generation : String)
    (objects : List MediaObject)
    (ready : String → Bool)
    (files : List Char → Option Content) : MediaStore Content where
  state := .recover generation objects ready
  known := objects.map (·.descriptor.digest)
  files
  gate := .free
  holders := []
  queue := []
  inflight := []
  running := []
  maintenance := []

/-- A job of the identity is queued or running, or is about to be queued. -/
inductive HasJob (store : MediaStore Content) (identity : WarmIdentity) : Prop
  | scheduled
      (job : WarmJob)
      (isScheduled : job ∈ store.maintenance)
      (same : job.identity = identity)
  | released
      (job : WarmJob)
      (isReleased : store.gate.job = some job)
      (same : job.identity = identity)
  | queued
      (job : WarmJob)
      (isQueued : job ∈ store.queue)
      (same : job.identity = identity)
  | running
      (worker : RunningJob Content)
      (isRunning : worker ∈ store.running)
      (unfinished : worker.phase ≠ .finishing)
      (same : worker.job.identity = identity)

/-- The publications are those that the entries, leases and jobs tell of. -/
structure Consistent
    (setup : MediaSetup Content)
    (store : MediaStore Content) : Prop where
  published : ∀ digest entry, store.state.entries digest = some entry →
    entry.active = true → entry.readiness = .ready →
    ∃ content, store.files (objectKey digest) = some content ∧
      setup.verified content (mediaIdentity entry.descriptor) = true
  leases : ∀ digest entry, store.state.entries digest = some entry →
    entry.leases = entry.leaseReservations.length ∧
      entry.leases =
        store.holders.countP fun holder => holder.identity.digest = digest
  awaited : ∀ digest entry, store.state.entries digest = some entry →
    entry.active = true → entry.readiness = .warming →
    ∃ generation, entry.warmingGeneration = some generation ∧
      store.HasJob ⟨generation, mediaIdentity entry.descriptor⟩

/-- What is removed has no reader of the publication that has put it there. -/
def SparesReaders (before after : MediaStore Content) : Prop :=
  ∀ key, before.files key ≠ none → after.files key = none →
    ∀ holder ∈ before.holders, objectKey holder.identity.digest = key →
      ∀ entry, before.state.entries holder.identity.digest = some entry →
        entry.readVersion ≠ holder.version

/-- No worker is still to leave a job that the entry now waits for anew. -/
def IsFreeFor (store : MediaStore Content) (job : WarmJob) : Prop :=
  (store.state.currentEntry job).any (·.readiness = .warming) = true →
    ∀ worker ∈ store.running, worker.job.identity = job.identity →
      worker.phase ≠ .finishing

/-- A lease that was dropped does not quarantine what is ready again. -/
def SparesReady (store : MediaStore Content) (holder : LeaseHolder) : Prop :=
  (store.state.entryOf holder.identity).all fun entry =>
    !(MediaCacheState.isQuarantinedBy entry holder.version && entry.active &&
      entry.readiness = .ready)

/-- The condition on a step under which the publications stay consistent. -/
def StaysConsistent
    (setup : MediaSetup Content)
    (store : MediaStore Content) :
    MediaStoreEvent Content → Prop
  | .adopt _ descriptors =>
    ∀ descriptor ∈ descriptors, setup.admits descriptor = true
  | .enqueue job => store.IsFreeFor job
  | .requeue =>
    match store.gate with
    | .requeueing job => store.IsFreeFor job
    | _ => True
  | .release holder => store.SparesReady holder
  | _ => True

instance decidableIsFreeFor
    (store : MediaStore Content)
    (job : WarmJob) : Decidable (store.IsFreeFor job) :=
  inferInstanceAs (Decidable (_ → _))

instance decidableStaysConsistent
    (setup : MediaSetup Content)
    (store : MediaStore Content) :
    (event : MediaStoreEvent Content) →
      Decidable (store.StaysConsistent setup event)
  | .adopt _ descriptors =>
    inferInstanceAs
      (Decidable (∀ descriptor ∈ descriptors,
        setup.admits descriptor = true))
  | .enqueue job => decidableIsFreeFor store job
  | .requeue =>
    match isGate : store.gate with
    | .requeueing job =>
      decidable_of_iff (store.IsFreeFor job)
        (by simp [StaysConsistent, isGate])
    | .free | .sweeping _ _ | .verifying _ _ _ _ | .removing _ _
    | .publishing _ _ | .renamed _ _ | .tidying | .cleaning _
    | .reclaiming _ _ =>
      .isTrue (by simp [StaysConsistent, isGate])
  | .release holder =>
    inferInstanceAs (Decidable (Option.all _ _ = true))
  | .verifyObjects | .verifyObject _ | .abandon | .enterFatal _ | .commit
  | .sweepFile _ | .readReady _ | .verifyRead _ _ | .drop _ | .rejectRead _
  | .removeFile _ | .takeJob | .stage _ _ | .failWarm _ _ | .passFence _ _
  | .exceedHighWater | .rename _ | .publish | .finish _ | .beginCleanup
  | .pickCandidates _ | .reclaim | .endCleanup => .isTrue trivial

end MediaStore

def mediaStore
    {Content : Type}
    [DecidableEq Content]
    (setup : MediaSetup Content) :
    Machine (MediaStore Content) (MediaStoreEvent Content) where
  step := MediaStore.step setup

end VendingSystem.Daemon
