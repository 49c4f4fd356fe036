import Mathlib.Logic.Function.Basic
import VendingSystem.DaemonMediaInterest

namespace VendingSystem.Daemon

/-!
# The entries of the media cache

The cache keeps one entry for each digest.  The functions here are what the
tasks do to the entries while they hold the lock of the state.
-/

inductive MediaReadiness where
  | ready
  | warming
  | unavailable
  deriving Repr, DecidableEq

structure MediaEntry where
  descriptor : MediaDescriptor
  candidates : List MediaDescriptor
  readiness : MediaReadiness
  diagnostic : Option String
  pinned : Bool
  active : Bool
  leases : Nat
  /-- One publication for each reservation of a lease. -/
  leaseReservations : List Nat
  warmingGeneration : Option String
  readVersion : Nat
  pendingQuarantine : Option Nat
  deriving Repr, DecidableEq

structure WarmJob where
  generation : String
  descriptor : MediaDescriptor
  candidates : List MediaDescriptor
  deriving Repr, DecidableEq

/-- One reservation of the publication is given back. -/
def MediaEntry.release (entry : MediaEntry) (version : Nat) : MediaEntry :=
  { entry with
    leases := entry.leases - 1
    leaseReservations := entry.leaseReservations.erase version }

/-- The entry still waits for the job. -/
def WarmJob.isCurrentFor (job : WarmJob) (entry : MediaEntry) : Bool :=
  entry.active &&
    mediaIdentity entry.descriptor = mediaIdentity job.descriptor &&
    entry.warmingGeneration = some job.generation

structure MediaCacheState where
  generation : String
  entries : String → Option MediaEntry
  fatalError : Option String

/-- The state of a cache that has found no manifest. -/
def MediaCacheState.empty : MediaCacheState where
  generation := ""
  entries := fun _ => none
  fatalError := none

namespace MediaCacheState

def setEntry
    (state : MediaCacheState)
    (digest : String)
    (entry : MediaEntry) : MediaCacheState :=
  { state with entries := Function.update state.entries digest (some entry) }

def freshEntry (object : MediaObject) : MediaEntry where
  descriptor := object.descriptor
  candidates := object.candidates
  readiness := .warming
  diagnostic := none
  pinned := false
  active := false
  leases := 0
  leaseReservations := []
  warmingGeneration := none
  readVersion := 0
  pendingQuarantine := none

/-- An adoption leaves the publication and its leases as they are. -/
def adoptEntry
    (generation : String)
    (published : Bool)
    (object : MediaObject)
    (entry : MediaEntry) : MediaEntry :=
  { entry with
    descriptor := object.descriptor
    candidates := object.candidates
    active := true
    pinned := true
    diagnostic := none
    readiness := if published then .ready else .warming
    warmingGeneration := if published then none else some generation }

def deactivate (state : MediaCacheState) : MediaCacheState :=
  { state with
    entries := fun digest =>
      (state.entries digest).map fun entry =>
        { entry with active := false, pinned := false } }

def adoptObject
    (generation : String)
    (published : String → Bool)
    (state : MediaCacheState)
    (object : MediaObject) : MediaCacheState :=
  let digest := object.descriptor.digest
  state.setEntry digest
    (adoptEntry generation (published digest) object
      ((state.entries digest).getD (freshEntry object)))

/-- The interest of the new generation takes the place of the former one. -/
def adopt
    (state : MediaCacheState)
    (generation : String)
    (objects : List MediaObject)
    (published : String → Bool) : MediaCacheState :=
  { objects.foldl (adoptObject generation published) state.deactivate with
    generation }

/-- Some digest of the interest is known with other facts. -/
def conflicts (state : MediaCacheState) (objects : List MediaObject) : Bool :=
  objects.any fun object =>
    (state.entries object.descriptor.digest).any fun existing =>
      mediaIdentity existing.descriptor ≠ mediaIdentity object.descriptor

def enterFatal (state : MediaCacheState) (error : String) : MediaCacheState :=
  { state with
    fatalError := some error
    entries := fun digest =>
      (state.entries digest).map fun entry =>
        { entry with
          active := false
          pinned := false
          readiness := .unavailable } }

def recoveredEntry (ready : Bool) (object : MediaObject) : MediaEntry :=
  { freshEntry object with
    readiness := if ready then .ready else .warming
    pinned := true
    active := true
    readVersion := 1 }

def recover
    (generation : String)
    (objects : List MediaObject)
    (ready : String → Bool) : MediaCacheState :=
  objects.foldl
    (fun state object =>
      state.setEntry object.descriptor.digest
        (recoveredEntry (ready object.descriptor.digest) object))
    { empty with generation }

/-- A reader takes a lease of what is ready. -/
def reserve (state : MediaCacheState) (digest : String) :
    Option MediaCacheState := do
  let entry ← state.entries digest
  if ¬ entry.active ∨ entry.readiness ≠ .ready then none
  else
    some (state.setEntry digest
      { entry with
        leases := entry.leases + 1
        leaseReservations := entry.readVersion :: entry.leaseReservations })

/-- The entry of the object that a reader took its lease of. -/
def entryOf (state : MediaCacheState) (identity : MediaIdentity) :
    Option MediaEntry :=
  (state.entries identity.digest).filter fun entry =>
    mediaIdentity entry.descriptor = identity

/-- A defensive read has failed; whether its file is to be removed. -/
def rejectRead
    (state : MediaCacheState)
    (identity : MediaIdentity)
    (version : Nat) : MediaCacheState × Bool :=
  match state.entryOf identity with
  | none => (state, false)
  | some entry =>
    let released := entry.release version
    if entry.readVersion = version then
      (state.setEntry identity.digest
        { released with
          readiness := .unavailable
          diagnostic :=
            some "published media failed defensive read verification"
          pendingQuarantine := some version },
        version ∉ released.leaseReservations)
    else (state.setEntry identity.digest released, false)

/-- The job that a quarantined entry goes on to wait for. -/
def requeuedJob (entry : MediaEntry) : Option WarmJob :=
  if entry.active then
    entry.warmingGeneration.map fun generation =>
      { generation
        descriptor := entry.descriptor
        candidates := entry.candidates }
  else none

/-- The last lease of a rejected publication takes its file with it. -/
def isQuarantinedBy (entry : MediaEntry) (version : Nat) : Bool :=
  entry.readVersion = version && entry.pendingQuarantine = some version &&
    !(entry.release version).leaseReservations.contains version

/-- A lease is dropped: whether its file is removed, and the job that follows. -/
def releaseLease
    (state : MediaCacheState)
    (identity : MediaIdentity)
    (version : Nat) : MediaCacheState × Bool × Option WarmJob :=
  match state.entryOf identity with
  | none => (state, false, none)
  | some entry =>
    let released := entry.release version
    if isQuarantinedBy entry version then
      let job := requeuedJob entry
      (state.setEntry identity.digest
        { released with
          pendingQuarantine := none
          readiness := if job.isSome then .warming else entry.readiness
          diagnostic := if job.isSome then none else entry.diagnostic },
        true,
        job)
    else (state.setEntry identity.digest released, false, none)

def currentEntry (state : MediaCacheState) (job : WarmJob) :
    Option MediaEntry :=
  (state.entries job.descriptor.digest).filter job.isCurrentFor

/-- Every source of the job has failed. -/
def failWarm (state : MediaCacheState) (job : WarmJob) (error : String) :
    MediaCacheState :=
  match state.currentEntry job with
  | none => state
  | some entry =>
    state.setEntry job.descriptor.digest
      { entry with
        warmingGeneration := none
        readiness := .unavailable
        diagnostic := some error }

/-- The staged file was renamed into place, or the rename has failed. -/
def publish
    (state : MediaCacheState)
    (job : WarmJob)
    (renamed : Except String Unit) : MediaCacheState :=
  match renamed with
  | .error error => state.failWarm job error
  | .ok () =>
    match state.currentEntry job with
    | none => state
    | some entry =>
      state.setEntry job.descriptor.digest
        { entry with
          warmingGeneration := none
          readVersion := entry.readVersion + 1
          pendingQuarantine := none
          readiness := .ready
          diagnostic := none }

/-- The cache is too large to publish into; the entry goes on naming the job. -/
def exceedHighWater (state : MediaCacheState) (job : WarmJob) :
    MediaCacheState :=
  match state.entries job.descriptor.digest with
  | none => state
  | some entry =>
    if entry.warmingGeneration = some job.generation then
      state.setEntry job.descriptor.digest
        { entry with
          readiness := .unavailable
          diagnostic :=
            some "managed media cache disk high-water mark exceeded" }
    else state

def isReclaimable (entry : MediaEntry) : Bool :=
  !entry.pinned && entry.leases = 0

def reclaim (state : MediaCacheState) (digest : String) : MediaCacheState :=
  if (state.entries digest).any isReclaimable then
    { state with entries := Function.update state.entries digest none }
  else state

theorem fatalError_adopt
    (state : MediaCacheState)
    (generation : String)
    (objects : List MediaObject)
    (published : String → Bool) :
    (state.adopt generation objects published).fatalError =
      state.fatalError := by
  change (objects.foldl (adoptObject generation published)
    state.deactivate).fatalError = state.deactivate.fatalError
  generalize state.deactivate = start
  induction objects generalizing start with
  | nil => rfl
  | cons object rest inductionHypothesis => exact inductionHypothesis _

/-- No entry is active or ready. -/
def IsQuiet (state : MediaCacheState) : Prop :=
  ∀ digest entry, state.entries digest = some entry →
    entry.active = false ∧ entry.readiness ≠ .ready

theorem isQuiet_enterFatal (state : MediaCacheState) (error : String) :
    (state.enterFatal error).IsQuiet := by
  intro digest entry found
  obtain ⟨former, -, rfl⟩ := Option.map_eq_some_iff.mp found
  exact ⟨rfl, nofun⟩

variable {state : MediaCacheState} {entry : MediaEntry}

theorem IsQuiet.setEntry
    (quiet : state.IsQuiet)
    {digest : String}
    (inactive : entry.active = false)
    (notReady : entry.readiness ≠ .ready) :
    (state.setEntry digest entry).IsQuiet := by
  intro other found isFound
  by_cases same : other = digest
  · subst same
    simp only [MediaCacheState.setEntry, Function.update_self,
      Option.some.injEq] at isFound
    subst isFound
    exact ⟨inactive, notReady⟩
  · simp only [MediaCacheState.setEntry,
      Function.update_of_ne same] at isFound
    exact quiet other found isFound

/-- What a task does to the state, besides an adoption. -/
inductive Change where
  | reserve (digest : String)
  | rejectRead (identity : MediaIdentity) (version : Nat)
  | releaseLease (identity : MediaIdentity) (version : Nat)
  | failWarm (job : WarmJob) (error : String)
  | publish (job : WarmJob) (renamed : Except String Unit)
  | exceedHighWater (job : WarmJob)
  | reclaim (digest : String)

/-- The change is made by a task that holds the reconcile gate. -/
def Change.needsGate : Change → Bool
  | reserve _ | failWarm _ _ => false
  | _ => true

def apply (state : MediaCacheState) : Change → MediaCacheState
  | .reserve digest => (state.reserve digest).getD state
  | .rejectRead identity version => (state.rejectRead identity version).1
  | .releaseLease identity version => (state.releaseLease identity version).1
  | .failWarm job error => state.failWarm job error
  | .publish job renamed => state.publish job renamed
  | .exceedHighWater job => state.exceedHighWater job
  | .reclaim digest => state.reclaim digest

/-- No such change replaces the generation or mends a fatal error. -/
structure Spares (before after : MediaCacheState) : Prop where
  generation : after.generation = before.generation
  fatalError : after.fatalError = before.fatalError

theorem Spares.refl (state : MediaCacheState) : Spares state state where
  generation := rfl
  fatalError := rfl

theorem spares_setEntry
    (state : MediaCacheState)
    (digest : String)
    (entry : MediaEntry) :
    Spares state (state.setEntry digest entry) where
  generation := rfl
  fatalError := rfl

theorem spares_reserve (state : MediaCacheState) (digest : String) :
    Spares state ((state.reserve digest).getD state) := by
  cases reserved : state.reserve digest with
  | none => exact .refl state
  | some after =>
    obtain ⟨entry, -, taken⟩ := Option.bind_eq_some_iff.mp reserved
    split at taken
    · cases taken
    · cases taken
      exact spares_setEntry ..

theorem spares_rejectRead
    (state : MediaCacheState)
    (identity : MediaIdentity)
    (version : Nat) :
    Spares state (state.rejectRead identity version).1 := by
  unfold rejectRead
  split
  · exact .refl state
  · split
    · exact spares_setEntry ..
    · exact spares_setEntry ..

theorem spares_releaseLease
    (state : MediaCacheState)
    (identity : MediaIdentity)
    (version : Nat) :
    Spares state (state.releaseLease identity version).1 := by
  unfold releaseLease
  split
  · exact .refl state
  · split
    · exact spares_setEntry ..
    · exact spares_setEntry ..

theorem spares_failWarm
    (state : MediaCacheState)
    (job : WarmJob)
    (error : String) :
    Spares state (state.failWarm job error) := by
  unfold failWarm
  split
  · exact .refl state
  · exact spares_setEntry ..

theorem spares_apply (state : MediaCacheState) (change : Change) :
    Spares state (state.apply change) := by
  cases change with
  | reserve digest => exact spares_reserve state digest
  | rejectRead identity version => exact spares_rejectRead ..
  | releaseLease identity version => exact spares_releaseLease ..
  | failWarm job error => exact spares_failWarm ..
  | publish job renamed =>
    cases renamed with
    | error error => exact spares_failWarm ..
    | ok done =>
      simp only [apply, publish]
      split
      · exact .refl state
      · exact spares_setEntry ..
  | exceedHighWater job =>
    simp only [apply, exceedHighWater]
    split
    · exact .refl state
    · split
      · exact spares_setEntry ..
      · exact .refl state
  | reclaim digest =>
    simp only [apply, reclaim]
    split
    · exact ⟨rfl, rfl⟩
    · exact .refl state

theorem entryOf_some
    {identity : MediaIdentity}
    (found : state.entryOf identity = some entry) :
    state.entries identity.digest = some entry ∧
      mediaIdentity entry.descriptor = identity := by
  simpa [entryOf, Option.filter_eq_some_iff] using found

theorem currentEntry_some
    {job : WarmJob}
    (found : state.currentEntry job = some entry) :
    state.entries job.descriptor.digest = some entry ∧
      job.isCurrentFor entry = true := by
  simpa [currentEntry, Option.filter_eq_some_iff] using found

theorem IsQuiet.currentEntry
    (quiet : state.IsQuiet)
    (job : WarmJob) :
    state.currentEntry job = none := by
  cases found : state.currentEntry job with
  | none => rfl
  | some entry =>
    obtain ⟨isEntry, current⟩ := currentEntry_some found
    have inactive := (quiet _ entry isEntry).1
    simp [WarmJob.isCurrentFor, inactive] at current

theorem IsQuiet.reserve
    (quiet : state.IsQuiet)
    (digest : String) :
    state.reserve digest = none := by
  cases found : state.entries digest with
  | none => simp [MediaCacheState.reserve, found]
  | some entry =>
    simp [MediaCacheState.reserve, found, (quiet digest entry found).1]

theorem IsQuiet.rejectRead
    (quiet : state.IsQuiet)
    (identity : MediaIdentity)
    (version : Nat) :
    (state.rejectRead identity version).1.IsQuiet := by
  unfold MediaCacheState.rejectRead
  split
  · exact quiet
  · rename_i entry found
    have still := quiet _ entry (entryOf_some found).1
    split
    · exact quiet.setEntry still.1 nofun
    · exact quiet.setEntry still.1 still.2

theorem IsQuiet.releaseLease
    (quiet : state.IsQuiet)
    (identity : MediaIdentity)
    (version : Nat) :
    (state.releaseLease identity version).1.IsQuiet := by
  unfold MediaCacheState.releaseLease
  split
  · exact quiet
  · rename_i entry found
    have still := quiet _ entry (entryOf_some found).1
    split
    · refine quiet.setEntry still.1 ?_
      simpa [requeuedJob, still.1] using still.2
    · exact quiet.setEntry still.1 still.2

/-- What gives nothing out goes on to give nothing out. -/
theorem IsQuiet.apply
    (quiet : state.IsQuiet)
    (change : Change) :
    (state.apply change).IsQuiet := by
  cases change with
  | reserve digest => simpa [MediaCacheState.apply, quiet.reserve digest]
  | rejectRead identity version => exact quiet.rejectRead identity version
  | releaseLease identity version => exact quiet.releaseLease identity version
  | failWarm job error =>
    simpa [MediaCacheState.apply, failWarm, quiet.currentEntry job]
  | publish job renamed =>
    cases renamed with
    | error error =>
      simpa [MediaCacheState.apply, publish, failWarm,
        quiet.currentEntry job]
    | ok done =>
      simpa [MediaCacheState.apply, publish, quiet.currentEntry job]
  | exceedHighWater job =>
    simp only [MediaCacheState.apply, exceedHighWater]
    split
    · exact quiet
    · rename_i entry found
      split
      · exact quiet.setEntry (quiet _ entry found).1 nofun
      · exact quiet
  | reclaim digest =>
    simp only [MediaCacheState.apply, reclaim]
    split
    · intro other entry found
      by_cases same : other = digest
      · subst same
        simp at found
      · exact quiet other entry (by
          simpa [Function.update_of_ne same] using found)
    · exact quiet

theorem generation_recover
    (generation : String)
    (objects : List MediaObject)
    (ready : String → Bool) :
    (recover generation objects ready).generation = generation := by
  change (objects.foldl _ { empty with generation }).generation =
    { empty with generation }.generation
  generalize { empty with generation } = start
  induction objects generalizing start with
  | nil => rfl
  | cons object rest inductionHypothesis => exact inductionHypothesis _

end MediaCacheState

end VendingSystem.Daemon
