import VendingSystem.CrashFiles
import VendingSystem.DaemonMediaEntries
import VendingSystem.SharedPrograms
import VendingSystem.Text

namespace VendingSystem.Daemon

/-!
# The manifest of the media cache

The interest of the accepted catalog is kept in a manifest.  An adoption
replaces it by a rename, under a marker that is written in place three times
and removed at the end.
-/

inductive ManifestTransactionPhase where
  | absent
  | pendingReplacement
  | completionPending
  | completedReplacement
  deriving Repr, DecidableEq

def pendingReplacementMarker : List Char :=
  "pending replacement\n".toList

def completionPendingMarker : List Char :=
  "completion pending\n".toList

def completedReplacementMarker : List Char :=
  "completed replacement\n".toList

/-- A marker that is not one of the labels is given back. -/
def ManifestTransactionPhase.parse (marker : Option (List Char)) :
    Except (List Char) ManifestTransactionPhase :=
  match marker with
  | none => .ok .absent
  | some marker =>
    if marker = pendingReplacementMarker then .ok .pendingReplacement
    else if marker = completionPendingMarker then .ok .completionPending
    else if marker = completedReplacementMarker then
      .ok .completedReplacement
    else .error marker

inductive ManifestStartupRecovery where
  | trust
  | unknownMarker
  | markerReadError (error : String)
  | markerInspectionError (error : String)
  deriving Repr, DecidableEq

def classifyManifestStartup
    (markerPresent : Except String Bool)
    (markerBytes : Except String (Option (List Char))) :
    ManifestStartupRecovery :=
  match markerPresent with
  | .error error =>
    .markerInspectionError s!"inspect manifest transaction marker: {error}"
  | .ok false => .trust
  | .ok true =>
    match markerBytes with
    | .error error =>
      .markerReadError s!"read manifest transaction marker: {error}"
    | .ok bytes =>
      match ManifestTransactionPhase.parse bytes with
      | .ok _ => .trust
      | .error _ => .unknownMarker

structure ActiveMediaManifest where
  generation : String
  assets : List MediaDescriptor
  deriving Repr, DecidableEq

/-- What is read of the bytes of a manifest, unless they are incomplete. -/
abbrev ManifestBytes := Option ActiveMediaManifest

structure MediaDisk where
  manifest : CrashFile ManifestBytes
  marker : CrashFile (List Char)
  /-- The file that is renamed onto the manifest next. -/
  temporary : CrashFile ManifestBytes
  deriving Repr, DecidableEq

inductive MediaAction where
  | createTemporary
  | writeTemporary (bytes : ManifestBytes)
  | syncTemporary
  | createMarker
  | appendMarker (byte : Char)
  | syncMarker
  | removeMarker
  | replaceManifest
  | removeManifest
  | syncDirectory
  /-- The manifest is read; it may be unreadable. -/
  | readManifest
  /-- The published file of a digest is verified. -/
  | verify (digest : String)
  deriving Repr, DecidableEq

def MediaDisk.act (disk : MediaDisk) : MediaAction → MediaDisk
  | .createTemporary =>
    { disk with temporary := (CrashFile.settled none).create none }
  | .writeTemporary bytes =>
    { disk with temporary := disk.temporary.write bytes }
  | .syncTemporary => { disk with temporary := disk.temporary.sync }
  | .createMarker => { disk with marker := disk.marker.create [] }
  | .appendMarker byte =>
    { disk with
      marker :=
        disk.marker.write (disk.marker.visible.getD [] ++ [byte]) }
  | .syncMarker => { disk with marker := disk.marker.sync }
  | .removeMarker => { disk with marker := disk.marker.remove }
  | .replaceManifest =>
    { disk with
      manifest := CrashFile.replaceBy disk.temporary disk.manifest
      temporary := disk.temporary.remove }
  | .removeManifest => { disk with manifest := disk.manifest.remove }
  | .syncDirectory =>
    { manifest := disk.manifest.syncEntry
      marker := disk.marker.syncEntry
      temporary := disk.temporary.syncEntry }
  | .readManifest | .verify _ => disk

structure MediaCache where
  disk : MediaDisk
  state : MediaCacheState
  latestAdoption : Nat
  isShutdown : Bool
  /-- The adoption that holds the gate between registrations and commits. -/
  linearization : Option Nat

def MediaCache.act (action : MediaAction) (cache : MediaCache) : MediaCache :=
  { cache with disk := cache.disk.act action }

/-- A step that reports an error may have taken its effect. -/
def mediaMedium : Medium MediaCache MediaAction where
  apply := MediaCache.act
  report := MediaCache.act

abbrev MediaProgram := SharedProgram MediaCache MediaAction

def isLatestAdoption (token : Nat) : MediaProgram Bool :=
  .ask fun cache => !cache.isShutdown && cache.latestAdoption = token

def lockLinearization (token : Nat) : MediaProgram Unit :=
  .await (fun cache => cache.linearization.isNone) fun cache =>
    { cache with linearization := some token }

def unlockLinearization : MediaProgram Unit :=
  .await (fun _ => true) fun cache => { cache with linearization := none }

structure ManifestPersistenceError where
  message : String
  fatal : Bool
  deriving Repr, DecidableEq

/-- The commit is held when the result is `Ok`. -/
abbrev PersistenceResult := Except ManifestPersistenceError Unit

def ordinaryFailure (message : String) : PersistenceResult :=
  .error { message, fatal := false }

def fatalFailure (message : String) : PersistenceResult :=
  .error { message, fatal := true }

def writeTemporaryDurably (bytes : ManifestBytes) : MediaProgram Bool :=
  .performAll [.createTemporary, .writeTemporary bytes, .syncTemporary]

def writeMarkerDurably (label : List Char) : MediaProgram Bool :=
  .performAll (.createMarker :: (label.map .appendMarker ++ [.syncMarker]))

def restoreManifest (previous : Option ManifestBytes) : MediaProgram Bool :=
  match previous with
  | none => .performOne .removeManifest
  | some bytes => do
      let written ← writeTemporaryDurably bytes
      if ¬ written then return false
      .performOne .replaceManifest

def rollbackManifest (previous : Option ManifestBytes) (cause : String) :
    MediaProgram PersistenceResult := do
  let restored ← restoreManifest previous
  if ¬ restored then
    return fatalFailure
      s!"managed media cache fatal: {cause}; rollback failed"
  let synced ← .performOne .syncDirectory
  if ¬ synced then
    return fatalFailure
      s!"managed media cache fatal: {cause}; sync rollback manifest"
  let removed ← .performOne .removeMarker
  if ¬ removed then
    return fatalFailure
      s!"managed media cache fatal: {cause}; remove rollback transaction marker"
  let completed ← .performOne .syncDirectory
  if ¬ completed then
    return fatalFailure
      s!"managed media cache fatal: {cause}; sync rollback completion"
  return ordinaryFailure s!"manifest persistence: {cause}"

/-- The marker is removed once the replacement has been recorded. -/
def completeManifest (token : Nat) (previous : Option ManifestBytes) :
    MediaProgram PersistenceResult := do
  lockLinearization token
  let latest ← isLatestAdoption token
  if ¬ latest then
    unlockLinearization
    rollbackManifest previous
      "catalog adoption superseded before manifest completion"
  else
    let pending ← writeMarkerDurably completionPendingMarker
    if ¬ pending then
      unlockLinearization
      rollbackManifest previous "write completion-pending transaction marker"
    else
      let synced ← .performOne .syncDirectory
      if ¬ synced then
        unlockLinearization
        rollbackManifest previous "sync completion transaction marker"
      else
        let completed ← writeMarkerDurably completedReplacementMarker
        if ¬ completed then
          unlockLinearization
          return fatalFailure
            "managed media cache fatal: write completed transaction marker"
        else
          let removed ← .performOne .removeMarker
          if removed then
            let _ ← .performOne .syncDirectory
            return .ok ()
          else
            return .ok ()

def replaceManifest (token : Nat) (previous : Option ManifestBytes) :
    MediaProgram PersistenceResult := do
  let replaced ← .performOne .replaceManifest
  if ¬ replaced then rollbackManifest previous "replace manifest"
  else
    let synced ← .performOne .syncDirectory
    if ¬ synced then rollbackManifest previous "sync replaced manifest"
    else
      let latest ← isLatestAdoption token
      if ¬ latest then
        rollbackManifest previous
          "catalog adoption superseded after durable manifest replacement"
      else completeManifest token previous

def persistManifest (manifest : ActiveMediaManifest) (token : Nat) :
    MediaProgram PersistenceResult := do
  let staged ← writeTemporaryDurably (some manifest)
  if ¬ staged then return ordinaryFailure "manifest persistence"
  let readable ← .performOne .readManifest
  if ¬ readable then
    return ordinaryFailure
      "manifest persistence: read previous accepted manifest"
  let previous ← .ask fun cache => cache.disk.manifest.visible
  let marked ← writeMarkerDurably pendingReplacementMarker
  if ¬ marked then
    return ordinaryFailure "manifest persistence: write transaction marker"
  let synced ← .performOne .syncDirectory
  if ¬ synced then
    return ordinaryFailure "manifest persistence: sync transaction marker"
  replaceManifest token previous

inductive AdoptionAnswer where
  | accepted
  | refused (message : String)
  /-- The cache has entered its fatal state. -/
  | fatal (message : String)
  deriving Repr, DecidableEq

def adoptionSuperseded : AdoptionAnswer :=
  .refused "managed media catalog adoption superseded"

/-- The digests whose published files are valid. -/
def verifyObjects : List MediaObject → MediaProgram (List String)
  | [] => return []
  | object :: rest => do
      let valid ← .performOne (.verify object.descriptor.digest)
      let published ← verifyObjects rest
      return if valid then object.descriptor.digest :: published else published

/-- The files that no entry protects are removed, the marker among them. -/
def removeUntrackedFiles : MediaProgram Unit := do
  let _ ← .performOne .removeMarker

def commitInterestSet
    (generation : String)
    (interest : InterestSet)
    (token : Nat)
    (published : List String) : MediaProgram AdoptionAnswer := do
  let persisted ←
    persistManifest { generation, assets := interest.candidates } token
  match persisted with
  | .error error =>
    if error.fatal then
      .change fun cache =>
        { cache with state := cache.state.enterFatal error.message }
      return .fatal error.message
    else return .refused error.message
  | .ok () =>
    .change fun cache =>
      { cache with
        state :=
          cache.state.adopt generation interest.objects fun digest =>
            published.contains digest }
    return .accepted

/-- The adoption of a catalog by the task that holds the reconcile gate. -/
def adoptInterestSet
    (generation : String)
    (interest : InterestSet)
    (token : Nat) : MediaProgram AdoptionAnswer := do
  let latest ← isLatestAdoption token
  if ¬ latest then return adoptionSuperseded
  let fatal ← .ask fun cache => cache.state.fatalError
  match fatal with
  | some error =>
    return .refused s!"managed media cache unavailable: {error}"
  | none =>
    let conflicting ← .ask fun cache =>
      cache.state.conflicts interest.objects
    if conflicting then
      return .refused
        "managed media digest conflicts with known immutable facts"
    removeUntrackedFiles
    let published ← verifyObjects interest.objects
    let latest ← isLatestAdoption token
    if ¬ latest then return adoptionSuperseded
    commitInterestSet generation interest token published

/-- What a crash leaves of the files. -/
structure Survivors where
  manifest : Option ManifestBytes
  marker : Option (List Char)
  deriving Repr, DecidableEq

/-- The manifest that a startup trusts, with its interest. -/
def trustedManifest
    (validate : MediaDescriptor → Option String)
    (survivors : Survivors) : Option (String × InterestSet) := do
  let manifest ← survivors.manifest.join
  if isBlank manifest.generation then none
  else
    match normalizeInterestSet validate manifest.assets with
    | .error _ => none
    | .ok interest => some (manifest.generation, interest)

def startupRecovery (survivors : Survivors) : ManifestStartupRecovery :=
  classifyManifestStartup (.ok survivors.marker.isSome) (.ok survivors.marker)

/-- The message of a cache that does not trust its manifest. -/
def ManifestStartupRecovery.fatalError : ManifestStartupRecovery → Option String
  | .trust => none
  | .unknownMarker =>
    some ("managed media cache has an incomplete manifest transaction; " ++
      "cache is unavailable")
  | .markerReadError error | .markerInspectionError error =>
    some ("managed media cache cannot inspect manifest transaction " ++
      s!"marker; cache is unavailable: {error}")

/-- What a startup adopts. -/
def startupManifest
    (validate : MediaDescriptor → Option String)
    (survivors : Survivors) : Option (String × InterestSet) :=
  if startupRecovery survivors = .trust then
    trustedManifest validate survivors
  else none

/--
A process starts on what is left of the files.  `ready` tells which objects
are verified, and `removed` whether the marker could be removed.
-/
def startMediaCache
    (validate : MediaDescriptor → Option String)
    (survivors : Survivors)
    (ready : String → Bool)
    (removed : Bool) : MediaCache :=
  let recovery := startupRecovery survivors
  let marker := CrashFile.settled survivors.marker
  { disk :=
      { manifest := .settled survivors.manifest
        marker :=
          if recovery = .trust ∧ survivors.marker.isSome ∧ removed then
            marker.remove
          else marker
        temporary := .settled none }
    state :=
      { (match startupManifest validate survivors with
          | none => MediaCacheState.empty
          | some (generation, interest) =>
            MediaCacheState.recover generation interest.objects ready) with
        fatalError := recovery.fatalError }
    latestAdoption := 0
    isShutdown := false
    linearization := none }

end VendingSystem.Daemon
