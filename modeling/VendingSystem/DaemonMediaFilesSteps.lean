import VendingSystem.DaemonMediaFiles
import VendingSystem.DaemonMediaObjects

namespace VendingSystem.Daemon

open MediaCacheState

/-!
# What keeps the publications consistent

Each entry is true of the files, of the readers and of the jobs, and whoever
holds the gate knows what the entries of its files are.
-/

namespace MediaStore

variable {Content : Type} {digest generation : String}
  {objects : List MediaObject} {identity : WarmIdentity} {entry : MediaEntry}
  {maintenance : List WarmJob} {job : WarmJob}
variable {setup : MediaSetup Content}
variable {store next : MediaStore Content}

/-- The publications that the readers of the digest hold. -/
def versionsRead (holders : List LeaseHolder) (digest : String) : List Nat :=
  (holders.filter fun holder => holder.identity.digest = digest).map
    (·.version)

/-- What the entry says is true. -/
structure EntrySound
    (setup : MediaSetup Content)
    (store : MediaStore Content)
    (digest : String)
    (entry : MediaEntry) : Prop where
  named : entry.descriptor.digest = digest
  known : digest ∈ store.known
  contract : isContractDigest digest = true
  pinned : entry.pinned = entry.active
  published : entry.active = true → entry.readiness = .ready →
    store.holds setup (mediaIdentity entry.descriptor) = true
  leases : entry.leases = entry.leaseReservations.length
  reservations : entry.leaseReservations.Perm
    (versionsRead store.holders digest)
  awaited : entry.active = true → entry.readiness = .warming →
    ∃ generation, entry.warmingGeneration = some generation ∧
      store.HasJob ⟨generation, mediaIdentity entry.descriptor⟩

/-- The objects have their own digests and the facts of their entries. -/
structure Agreed
    (setup : MediaSetup Content)
    (store : MediaStore Content)
    (objects : List MediaObject) : Prop where
  distinct : objects.Pairwise fun earlier later =>
    earlier.descriptor.digest < later.descriptor.digest
  admitted : ∀ object ∈ objects, setup.admits object.descriptor = true
  agrees : ∀ object ∈ objects, ∀ entry,
    store.state.entries object.descriptor.digest = some entry →
      mediaIdentity entry.descriptor = mediaIdentity object.descriptor

/-- The file of the digest is neither given out nor read. -/
structure Unread (store : MediaStore Content) (digest : String) : Prop where
  contract : isContractDigest digest = true
  notReady : ∀ entry, store.state.entries digest = some entry →
    entry.active = true → entry.readiness ≠ .ready
  notRead : ∀ entry, store.state.entries digest = some entry →
    ∀ holder ∈ store.holders, holder.identity.digest = digest →
      entry.readVersion ≠ holder.version

/-- The entry of the digest, if there still is one, may be reclaimed. -/
structure Reclaimed (store : MediaStore Content) (digest : String) :
    Prop where
  contract : isContractDigest digest = true
  reclaimable : ∀ entry, store.state.entries digest = some entry →
    isReclaimable entry = true

/-- What the holder of the gate relies on. -/
def GateSound
    (setup : MediaSetup Content)
    (store : MediaStore Content) : Prop :=
  match store.gate with
  | .free | .tidying | .requeueing _ => True
  | .sweeping _ objects => Agreed setup store objects
  | .verifying _ objects remaining published =>
    Agreed setup store objects ∧ remaining ⊆ objects ∧
      ∀ object ∈ objects, object.descriptor.digest ∈ published →
        store.holds setup (mediaIdentity object.descriptor) = true
  | .removing identity _ => store.Unread identity.digest
  | .publishing job content =>
    setup.verified content (mediaIdentity job.descriptor) = true ∧
      ∃ entry, store.state.entries job.descriptor.digest = some entry ∧
        mediaIdentity entry.descriptor = mediaIdentity job.descriptor
  | .renamed job renamed =>
    renamed = .ok () →
      store.holds setup (mediaIdentity job.descriptor) = true
  | .cleaning digests => ∀ digest ∈ digests, store.Reclaimed digest
  | .reclaiming digest digests =>
    ∀ other ∈ digest :: digests, store.Reclaimed other

structure Sound
    (setup : MediaSetup Content)
    (store : MediaStore Content) : Prop where
  entries : ∀ digest entry, store.state.entries digest = some entry →
    EntrySound setup store digest entry
  holders : ∀ holder ∈ store.holders,
    ∃ entry, store.state.entries holder.identity.digest = some entry ∧
      mediaIdentity entry.descriptor = holder.identity
  inflight : ∀ identity ∈ store.inflight,
    (∃ job ∈ store.queue, job.identity = identity) ∨
      ∃ worker ∈ store.running, worker.job.identity = identity
  staged : ∀ worker ∈ store.running, ∀ content,
    worker.phase = .staged content →
      setup.verified content (mediaIdentity worker.job.descriptor) = true
  gate : GateSound setup store

theorem map_toLower_of_lowerHex
    {value : List Char}
    (lower : value.all isLowerHexDigit = true) :
    value.map Char.toLower = value := by
  induction value with
  | nil => rfl
  | cons char rest inductionHypothesis =>
    obtain ⟨isLower, others⟩ := Bool.and_eq_true_iff.mp lower
    have same : ("0123456789abcdef".toList.all fun digit =>
        digit.toLower == digit) = true := by
      decide
    have isSame := List.all_eq_true.mp same char
      (List.contains_iff_mem.mp isLower)
    rw [List.map_cons, inductionHypothesis others, beq_iff_eq.mp isSame]

theorem objectKey_of_contract
    (contract : isContractDigest digest = true) :
    digestScheme ++ objectKey digest = digest.toList := by
  simp only [isContractDigest, Bool.and_eq_true, decide_eq_true_eq] at contract
  obtain ⟨⟨scheme, long⟩, lower⟩ := contract
  have hex : (digest.toList.drop digestScheme.length).all isHexDigit = true := by
    rw [List.all_eq_true] at lower ⊢
    intro char member
    simp [isHexDigit, lower char member]
  simp only [objectKey, scheme, long, hex, decide_true, Bool.and_self,
    if_true, map_toLower_of_lowerHex lower]
  obtain ⟨value, isValue⟩ := List.isPrefixOf_iff_prefix.mp scheme
  rw [← isValue, List.drop_left]

theorem objectKey_injective
    {first second : String}
    (isFirst : isContractDigest first = true)
    (isSecond : isContractDigest second = true)
    (same : objectKey first = objectKey second) :
    first = second := by
  apply String.toList_inj.mp
  rw [← objectKey_of_contract isFirst, ← objectKey_of_contract isSecond, same]

theorem holds_iff {identity : MediaIdentity} :
    store.holds setup identity = true ↔
      ∃ content, store.files (objectKey identity.digest) = some content ∧
        setup.verified content identity = true :=
  Option.any_eq_true _ _

theorem holds_congr
    {identity : MediaIdentity}
    (same : next.files (objectKey identity.digest) =
      store.files (objectKey identity.digest)) :
    next.holds setup identity = store.holds setup identity := by
  simp only [holds, same]

theorem eq_of_digest_eq
    (distinct : objects.Pairwise fun earlier later =>
      earlier.descriptor.digest < later.descriptor.digest)
    {first second : MediaObject}
    (isFirst : first ∈ objects)
    (isSecond : second ∈ objects)
    (same : first.descriptor.digest = second.descriptor.digest) :
    first = second := by
  have nodup : (objects.map (·.descriptor.digest)).Nodup :=
    List.pairwise_map.mpr (distinct.imp fun less => less.ne)
  exact List.inj_on_of_nodup_map nodup isFirst isSecond same

theorem HasJob.mono
    (has : store.HasJob identity)
    (maintenance : store.maintenance ⊆ next.maintenance)
    (gate : ∀ job, store.gate.job = some job → next.gate.job = some job)
    (queue : ∀ job ∈ store.queue, job.identity = identity →
      next.HasJob identity)
    (running : ∀ worker ∈ store.running, worker.phase ≠ .finishing →
      worker.job.identity = identity → next.HasJob identity) :
    next.HasJob identity := by
  cases has with
  | scheduled job isScheduled same =>
    exact .scheduled job (maintenance isScheduled) same
  | released job isReleased same =>
    exact .released job (gate job isReleased) same
  | queued job isQueued same => exact queue job isQueued same
  | running worker isRunning unfinished same =>
    exact running worker isRunning unfinished same

theorem HasJob.stays
    (has : store.HasJob identity)
    (maintenance : next.maintenance = store.maintenance)
    (queue : next.queue = store.queue)
    (running : next.running = store.running)
    (gate : ∀ job, store.gate.job = some job → next.gate.job = some job) :
    next.HasJob identity :=
  has.mono (fun _ member => maintenance ▸ member) gate
    (fun job isQueued same => .queued job (queue ▸ isQueued) same)
    (fun worker isRunning unfinished same =>
      .running worker (running ▸ isRunning) unfinished same)

theorem EntrySound.keep
    (sound : EntrySound setup store digest entry)
    (known : store.known ⊆ next.known)
    (published : entry.active = true → entry.readiness = .ready →
      store.holds setup (mediaIdentity entry.descriptor) = true →
      next.holds setup (mediaIdentity entry.descriptor) = true)
    (readers :
      (versionsRead store.holders digest).Perm
        (versionsRead next.holders digest))
    (jobs : ∀ generation, entry.active = true → entry.readiness = .warming →
      entry.warmingGeneration = some generation →
      store.HasJob ⟨generation, mediaIdentity entry.descriptor⟩ →
      next.HasJob ⟨generation, mediaIdentity entry.descriptor⟩) :
    EntrySound setup next digest entry where
  named := sound.named
  known := known sound.known
  contract := sound.contract
  pinned := sound.pinned
  published := fun active ready =>
    published active ready (sound.published active ready)
  leases := sound.leases
  reservations := sound.reservations.trans readers
  awaited := fun active warming =>
    have ⟨generation, awaits, has⟩ := sound.awaited active warming
    ⟨generation, awaits, jobs generation active warming awaits has⟩

variable {work : GateWork Content}

section

variable (sound : Sound setup store)

include sound

theorem Sound.turnGate
    {files : List Char → Option Content}
    (published : ∀ digest entry, store.state.entries digest = some entry →
      isContractDigest digest = true → entry.descriptor.digest = digest →
      entry.active = true → entry.readiness = .ready →
      store.holds setup (mediaIdentity entry.descriptor) = true →
      { store with files, gate := work }.holds setup
        (mediaIdentity entry.descriptor) = true)
    (jobs : ∀ job, store.gate.job = some job → work.job = some job)
    (gate : GateSound setup { store with files, gate := work }) :
    Sound setup { store with files, gate := work } where
  entries := fun digest entry isEntry =>
    have known := sound.entries digest entry isEntry
    known.keep (fun _ member => member)
      (fun active ready =>
        published digest entry isEntry known.contract known.named active ready)
      (.refl _)
      (fun _ _ _ _ has => has.stays rfl rfl rfl jobs)
  holders := sound.holders
  inflight := sound.inflight
  staged := sound.staged
  gate := gate

theorem Sound.passGate
    (jobs : ∀ job, store.gate.job = some job → work.job = some job)
    (gate : GateSound setup { store with gate := work }) :
    Sound setup { store with gate := work } :=
  sound.turnGate (fun _ _ _ _ _ _ _ holds => holds) jobs gate

theorem Sound.adopt
    {descriptors : List MediaDescriptor}
    (admitted : ∀ descriptor ∈ descriptors, setup.admits descriptor = true)
    (step : store.adopt setup generation descriptors = some next) :
    Sound setup next := by
  unfold MediaStore.adopt at step
  split at step
  · rename_i interest isFree normal
    split at step
    · cases step
    · rename_i allowed
      cases step
      obtain ⟨described, distinct⟩ := objects_of_normalizeInterestSet normal
      refine sound.passGate (by simp [isFree, GateWork.job]) ⟨distinct, ?_, ?_⟩
      · exact fun object member => admitted _ (described object member)
      · intro object member entry isEntry
        by_contra differs
        refine allowed (.inr (List.any_eq_true.mpr ⟨object, member, ?_⟩))
        rw [show store.state.entries object.descriptor.digest = some entry
          from isEntry]
        exact decide_eq_true differs
  · cases step

theorem Sound.verifyObjects
    (step : store.verifyObjects = some next) :
    Sound setup next := by
  unfold MediaStore.verifyObjects at step
  split at step
  · rename_i generation objects isSweeping
    cases step
    have gate := sound.gate
    rw [GateSound, isSweeping] at gate
    exact sound.passGate (by simp [isSweeping, GateWork.job])
      ⟨⟨gate.distinct, gate.admitted, gate.agrees⟩, fun _ member => member,
        nofun⟩
  · cases step

theorem Sound.verifyObject
    {answer : Bool}
    (step : store.verifyObject setup answer = some next) :
    Sound setup next := by
  unfold MediaStore.verifyObject at step
  split at step
  · rename_i generation objects object remaining published isVerifying
    split at step
    · cases step
    · rename_i notWrong
      cases step
      have gate := sound.gate
      rw [GateSound, isVerifying] at gate
      obtain ⟨agreed, within, holds⟩ := gate
      refine sound.passGate (by simp [isVerifying, GateWork.job])
        ⟨⟨agreed.distinct, agreed.admitted, agreed.agrees⟩,
          fun _ member => within (List.mem_cons_of_mem _ member), ?_⟩
      intro other member isPublished
      cases answer with
      | false => exact holds other member isPublished
      | true =>
        rcases List.mem_cons.mp isPublished with same | before
        · have isObject : other = object :=
            eq_of_digest_eq agreed.distinct member
              (within List.mem_cons_self) same
          subst isObject
          have isHeld : store.holds setup (mediaIdentity other.descriptor) =
              true := by
            simpa using notWrong
          exact isHeld
        · exact holds other member before
  · cases step

theorem Sound.abandon
    (step : store.abandon = some next) :
    Sound setup next := by
  unfold MediaStore.abandon at step
  split at step
  · rename_i isSweeping
    cases step
    exact sound.passGate (by simp [isSweeping, GateWork.job]) trivial
  · rename_i isVerifying
    cases step
    exact sound.passGate (by simp [isVerifying, GateWork.job]) trivial
  · cases step

theorem Sound.beginCleanup
    (step : store.beginCleanup = some next) :
    Sound setup next := by
  unfold MediaStore.beginCleanup at step
  split at step
  · rename_i isFree
    cases step
    exact sound.passGate (by simp [isFree, GateWork.job]) trivial
  · cases step

theorem Sound.pickCandidates
    {digests : List String}
    (step : store.pickCandidates digests = some next) :
    Sound setup next := by
  unfold MediaStore.pickCandidates at step
  split at step
  · rename_i isTidying
    split at step
    · rename_i reclaimable
      cases step
      refine sound.passGate (by simp [isTidying, GateWork.job]) ?_
      intro digest member
      obtain ⟨entry, isEntry, isReclaimable⟩ := (Option.any_eq_true _ _).mp
        (List.all_eq_true.mp reclaimable digest member)
      refine ⟨(sound.entries digest entry isEntry).contract, ?_⟩
      intro other isOther
      cases isEntry.symm.trans isOther
      exact isReclaimable
    · cases step
  · cases step

theorem Sound.endCleanup
    (step : store.endCleanup = some next) :
    Sound setup next := by
  unfold MediaStore.endCleanup at step
  split at step
  · rename_i isCleaning
    cases step
    exact sound.passGate (by simp [isCleaning, GateWork.job]) trivial
  · cases step

end

/-- What is done without the gate; it makes nothing ready or unread. -/
structure Gentle (store next : MediaStore Content) : Prop where
  gate : next.gate = store.gate
  files : next.files = store.files
  entries : ∀ digest after, next.state.entries digest = some after →
    ∃ entry, store.state.entries digest = some entry ∧
      after.descriptor = entry.descriptor ∧
      after.readVersion = entry.readVersion ∧
      (after.active = true → after.readiness = .ready →
        entry.active = true ∧ entry.readiness = .ready) ∧
      (isReclaimable entry = true → isReclaimable after = true)
  present : ∀ digest entry, store.state.entries digest = some entry →
    ∃ after, next.state.entries digest = some after ∧
      after.descriptor = entry.descriptor
  holders : ∀ holder ∈ next.holders,
    (∃ former ∈ store.holders, former.identity = holder.identity ∧
      former.version = holder.version) ∨
      ∃ entry, store.state.entries holder.identity.digest = some entry ∧
        entry.active = true ∧ entry.readiness = .ready

theorem Gentle.unread
    (gentle : Gentle store next)
    (unread : store.Unread digest) :
    next.Unread digest where
  contract := unread.contract
  notReady := by
    intro after isAfter active ready
    obtain ⟨entry, isEntry, -, -, wasReady, -⟩ :=
      gentle.entries digest after isAfter
    exact unread.notReady entry isEntry (wasReady active ready).1
      (wasReady active ready).2
  notRead := by
    intro after isAfter holder member same
    obtain ⟨entry, isEntry, -, version, -, -⟩ :=
      gentle.entries digest after isAfter
    rw [version]
    rcases gentle.holders holder member with
        ⟨former, isFormer, identity, read⟩ | ⟨given, isGiven, active, ready⟩
    · rw [← read]
      exact unread.notRead entry isEntry former isFormer (identity ▸ same)
    · rw [same] at isGiven
      exact absurd ready (unread.notReady given isGiven active)

theorem Gentle.reclaimed
    (gentle : Gentle store next)
    (reclaimed : store.Reclaimed digest) :
    next.Reclaimed digest where
  contract := reclaimed.contract
  reclaimable := by
    intro after isAfter
    obtain ⟨entry, isEntry, -, -, -, still⟩ :=
      gentle.entries digest after isAfter
    exact still (reclaimed.reclaimable entry isEntry)

theorem Gentle.agreed
    (gentle : Gentle store next)
    (agreed : Agreed setup store objects) :
    Agreed setup next objects where
  distinct := agreed.distinct
  admitted := agreed.admitted
  agrees := by
    intro object member after isAfter
    obtain ⟨entry, isEntry, descriptor, -⟩ := gentle.entries _ after isAfter
    rw [descriptor]
    exact agreed.agrees object member entry isEntry

/-- What the holder of the gate relies on is not disturbed. -/
theorem Gentle.gateSound
    (gentle : Gentle store next)
    (sound : GateSound setup store) :
    GateSound setup next := by
  have holds (identity : MediaIdentity) :
      next.holds setup identity = store.holds setup identity :=
    holds_congr (by rw [gentle.files])
  rw [GateSound] at sound ⊢
  rw [gentle.gate]
  cases isWork : store.gate with
  | free | tidying | requeueing job => trivial
  | sweeping generation objects =>
    rw [isWork] at sound
    exact gentle.agreed sound
  | verifying generation objects remaining published =>
    rw [isWork] at sound
    refine ⟨gentle.agreed sound.1, sound.2.1, fun object member done => ?_⟩
    rw [holds]
    exact sound.2.2 object member done
  | removing identity job =>
    rw [isWork] at sound
    exact gentle.unread sound
  | publishing job content =>
    rw [isWork] at sound
    obtain ⟨verified, entry, isEntry, identity⟩ := sound
    obtain ⟨after, isAfter, descriptor⟩ := gentle.present _ entry isEntry
    exact ⟨verified, after, isAfter, descriptor ▸ identity⟩
  | renamed job renamed =>
    rw [isWork] at sound
    intro done
    rw [holds]
    exact sound done
  | cleaning digests =>
    rw [isWork] at sound
    exact fun digest member => gentle.reclaimed (sound digest member)
  | reclaiming digest digests =>
    rw [isWork] at sound
    exact fun other member => gentle.reclaimed (sound other member)

theorem Gentle.of_state
    (gate : next.gate = store.gate)
    (files : next.files = store.files)
    (state : next.state = store.state)
    (holders : ∀ holder ∈ next.holders,
      ∃ former ∈ store.holders, former.identity = holder.identity ∧
        former.version = holder.version) :
    Gentle store next where
  gate := gate
  files := files
  entries := fun _ after isAfter =>
    ⟨after, state ▸ isAfter, rfl, rfl, fun active ready => ⟨active, ready⟩,
      fun still => still⟩
  present := fun _ entry isEntry => ⟨entry, state ▸ isEntry, rfl⟩
  holders := fun holder member => .inl (holders holder member)

variable {running : List (RunningJob Content)}

/-- Jobs are moved, and none that an entry waits for is lost. -/
theorem Sound.reschedule
    {queue : List WarmJob}
    {inflight : List WarmIdentity}
    (sound : Sound setup store)
    (jobs : ∀ digest entry generation,
      store.state.entries digest = some entry →
      entry.descriptor.digest = digest →
      entry.active = true → entry.readiness = .warming →
      entry.warmingGeneration = some generation →
      store.HasJob ⟨generation, mediaIdentity entry.descriptor⟩ →
      { store with queue, inflight, running, maintenance }.HasJob
        ⟨generation, mediaIdentity entry.descriptor⟩)
    (known : ∀ identity ∈ inflight, (∃ job ∈ queue, job.identity = identity) ∨
      ∃ worker ∈ running, worker.job.identity = identity)
    (staged : ∀ worker ∈ running, ∀ content,
      worker.phase = .staged content →
        setup.verified content (mediaIdentity worker.job.descriptor) = true) :
    Sound setup { store with queue, inflight, running, maintenance } where
  entries := fun digest entry isEntry =>
    have known := sound.entries digest entry isEntry
    known.keep (fun _ member => member) (fun _ _ holds => holds) (.refl _)
      fun generation active warming awaits has =>
        jobs digest entry generation isEntry known.named active warming awaits
          has
  holders := sound.holders
  inflight := known
  staged := staged
  gate :=
    have gentle : Gentle store
        { store with queue, inflight, running, maintenance } :=
      .of_state rfl rfl rfl fun holder member => ⟨holder, member, rfl, rfl⟩
    gentle.gateSound sound.gate

theorem currentEntry_of_awaits
    (isEntry : store.state.entries digest = some entry)
    (named : entry.descriptor.digest = digest)
    (active : entry.active = true)
    (awaits : entry.warmingGeneration = some generation)
    (same : job.identity = ⟨generation, mediaIdentity entry.descriptor⟩) :
    store.state.currentEntry job = some entry := by
  simp only [WarmJob.identity, WarmIdentity.mk.injEq] at same
  obtain ⟨rfl, identity⟩ := same
  have isDigest : job.descriptor.digest = digest := by
    rw [← named]
    exact congrArg MediaIdentity.digest identity
  simp [currentEntry, isDigest, isEntry, WarmJob.isCurrentFor, active,
    awaits, identity]

theorem enqueueJob_eq (store : MediaStore Content) (job : WarmJob) :
    ∃ queue inflight,
      store.enqueueJob job = { store with queue, inflight } ∧
        store.queue ⊆ queue ∧
        (∀ identity ∈ inflight, identity ∈ store.inflight ∨
          ∃ queued ∈ queue, queued.identity = identity) ∧
        (job.identity ∈ store.inflight ∨ job ∈ queue) := by
  by_cases member : job.identity ∈ store.inflight
  · refine ⟨store.queue, store.inflight, ?_, fun _ queued => queued,
      fun identity before => .inl before, .inl member⟩
    rw [MediaStore.enqueueJob, if_pos member]
  · refine ⟨store.queue ++ [job], job.identity :: store.inflight, ?_,
      List.subset_append_left _ _, ?_, .inr (by simp)⟩
    · rw [MediaStore.enqueueJob, if_neg member]
    · intro identity isInflight
      rcases List.mem_cons.mp isInflight with rfl | before
      · exact .inr ⟨job, by simp, rfl⟩
      · exact .inl before

/-- The job that the gate or the maintenance has held back is queued. -/
theorem Sound.enqueueJob
    (sound : Sound setup store)
    (isFree : store.IsFreeFor job)
    (scheduled : ∀ other ∈ store.maintenance, other ≠ job →
      other ∈ maintenance)
    (released : ∀ other, store.gate.job = some other → other ≠ job →
      work.job = some other)
    (gate : GateSound setup { store with gate := work, maintenance }) :
    Sound setup ({ store with gate := work, maintenance }.enqueueJob job) := by
  obtain ⟨queue, inflight, isNext, kept, known, isQueued⟩ :=
    enqueueJob_eq { store with gate := work, maintenance } job
  rw [isNext]
  have inflightSound : ∀ identity ∈ inflight,
      (∃ queued ∈ queue, queued.identity = identity) ∨
        ∃ worker ∈ store.running, worker.job.identity = identity := by
    intro identity member
    rcases known identity member with before | queued
    · rcases sound.inflight identity before with
          ⟨queued, isQueued, same⟩ | running
      · exact .inl ⟨queued, kept isQueued, same⟩
      · exact .inr running
    · exact .inl queued
  refine ⟨fun digest entry isEntry => ?_, sound.holders, inflightSound,
    sound.staged, ?_⟩
  · have entrySound := sound.entries digest entry isEntry
    refine entrySound.keep (fun _ member => member) (fun _ _ holds => holds)
      (.refl _) fun generation active warming awaits has => ?_
    by_cases asked : job.identity = ⟨generation, mediaIdentity entry.descriptor⟩
    · have current := currentEntry_of_awaits isEntry entrySound.named active
        awaits asked
      have unfinished := isFree (by simp [current, warming])
      rw [← asked]
      rcases isQueued with before | queued
      · rcases sound.inflight job.identity before with
            ⟨queued, isQueued, same⟩ | ⟨worker, isRunning, same⟩
        · exact .queued queued (kept isQueued) same
        · exact .running worker isRunning (unfinished worker isRunning same)
            same
      · exact .queued job queued rfl
    · cases has with
      | scheduled other isScheduled same =>
        exact .scheduled other
          (scheduled other isScheduled fun isJob => asked (isJob ▸ same))
          same
      | released other isReleased same =>
        exact .released other
          (released other isReleased fun isJob => asked (isJob ▸ same)) same
      | queued other isQueued same => exact .queued other (kept isQueued) same
      | running worker isRunning unfinished same =>
        exact .running worker isRunning unfinished same
  · have gentle : Gentle { store with gate := work, maintenance }
        { store with gate := work, maintenance, queue, inflight } :=
      .of_state rfl rfl rfl fun holder member => ⟨holder, member, rfl, rfl⟩
    exact gentle.gateSound gate

theorem Sound.enqueue
    (sound : Sound setup store)
    (isFree : store.IsFreeFor job)
    (step : store.enqueue job = some next) :
    Sound setup next := by
  unfold MediaStore.enqueue at step
  split at step
  · cases step
    have gentle : Gentle store
        { store with maintenance := store.maintenance.erase job } :=
      .of_state rfl rfl rfl fun holder member => ⟨holder, member, rfl, rfl⟩
    exact sound.enqueueJob isFree
      (fun other member differs => (List.mem_erase_of_ne differs).mpr member)
      (fun other isReleased _ => isReleased) (gentle.gateSound sound.gate)
  · cases step

theorem Sound.requeue
    (sound : Sound setup store)
    (isFree : store.StaysConsistent setup .requeue)
    (step : store.requeue = some next) :
    Sound setup next := by
  unfold MediaStore.requeue at step
  split at step
  · rename_i job isRequeueing
    cases step
    simp only [StaysConsistent, isRequeueing] at isFree
    refine sound.enqueueJob isFree (fun other member _ => member) ?_ trivial
    intro other isReleased differs
    rw [isRequeueing] at isReleased
    exact absurd (Option.some.inj isReleased).symm differs
  · cases step

theorem Sound.takeJob
    (sound : Sound setup store)
    (step : store.takeJob = some next) :
    Sound setup next := by
  unfold MediaStore.takeJob at step
  split at step
  · cases step
  · rename_i job queue isQueue
    cases step
    refine sound.reschedule ?_ ?_ ?_
    · intro digest entry generation _ _ _ _ _ has
      refine has.mono (fun _ member => member) (fun _ same => same) ?_ ?_
      · intro queued isQueued same
        rw [isQueue] at isQueued
        rcases List.mem_cons.mp isQueued with rfl | later
        · exact .running { job := queued, phase := .fetching }
            List.mem_cons_self nofun same
        · exact .queued queued later same
      · exact fun worker isRunning unfinished same =>
          .running worker (List.mem_cons_of_mem _ isRunning) unfinished same
    · intro identity member
      rcases sound.inflight identity member with
          ⟨queued, isQueued, same⟩ | ⟨worker, isRunning, same⟩
      · rw [isQueue] at isQueued
        rcases List.mem_cons.mp isQueued with rfl | later
        · exact .inr ⟨{ job := queued, phase := .fetching },
            List.mem_cons_self, same⟩
        · exact .inl ⟨queued, later, same⟩
      · exact .inr ⟨worker, List.mem_cons_of_mem _ isRunning, same⟩
    · intro worker member content phase
      rcases List.mem_cons.mp member with rfl | before
      · cases phase
      · exact sound.staged worker before content phase

variable [DecidableEq Content]

/-- The workers after one of them has gone on to its next phase. -/
def workersAfter
    (running : List (RunningJob Content))
    (job : WarmJob)
    (before after : WarmPhase Content) : List (RunningJob Content) :=
  { job, phase := after } :: running.erase { job, phase := before }

variable {after before : WarmPhase Content}

theorem moveJob_some
    (moved : store.moveJob job before after = some next) :
    { job, phase := before } ∈ store.running ∧
      next =
        { store with running := workersAfter store.running job before after } := by
  unfold MediaStore.moveJob at moved
  split at moved
  · rename_i isRunning
    cases moved
    exact ⟨isRunning, rfl⟩
  · cases moved

theorem mem_workersAfter
    (job : WarmJob)
    (before after : WarmPhase Content)
    {worker : RunningJob Content}
    (isRunning : worker ∈ running) :
    worker ∈ workersAfter running job before after ∨
      worker = { job, phase := before } := by
  by_cases same : worker = { job, phase := before }
  · exact .inr same
  · exact .inl (List.mem_cons_of_mem _
      ((List.mem_erase_of_ne same).mpr isRunning))

theorem inflight_workersAfter
    (sound : Sound setup store)
    (after : WarmPhase Content) :
    ∀ identity ∈ store.inflight,
      (∃ queued ∈ store.queue, queued.identity = identity) ∨
        ∃ worker ∈ workersAfter store.running job before after,
          worker.job.identity = identity := by
  intro identity member
  rcases sound.inflight identity member with
      queued | ⟨worker, isRunning, same⟩
  · exact .inl queued
  · rcases mem_workersAfter job before after isRunning with still | rfl
    · exact .inr ⟨worker, still, same⟩
    · exact .inr ⟨_, List.mem_cons_self, same⟩

theorem staged_workersAfter
    (sound : Sound setup store)
    (verified : ∀ content, after = .staged content →
      setup.verified content (mediaIdentity job.descriptor) = true) :
    ∀ worker ∈ workersAfter store.running job before after, ∀ content,
      worker.phase = .staged content →
        setup.verified content (mediaIdentity worker.job.descriptor) =
          true := by
  intro worker member content phase
  rcases List.mem_cons.mp member with rfl | others
  · exact verified content phase
  · exact sound.staged worker (List.mem_of_mem_erase others) content phase

theorem HasJob.moved
    {state : MediaCacheState}
    (has : store.HasJob identity)
    (released : ∀ other, store.gate.job = some other → work.job = some other)
    (unfinished : job.identity = identity → after ≠ .finishing) :
    HasJob
      { store with
        state
        gate := work
        running := workersAfter store.running job before after }
      identity := by
  refine has.mono (fun _ member => member) released
    (fun queued isQueued same => .queued queued isQueued same) ?_
  intro worker isRunning unmoved same
  rcases mem_workersAfter job before after isRunning with still | rfl
  · exact .running worker still unmoved same
  · exact .running { job, phase := after } List.mem_cons_self
      (unfinished same) same

theorem Sound.moveJob
    (sound : Sound setup store)
    (released : ∀ other, store.gate.job = some other → work.job = some other)
    (current : after = .finishing → store.state.currentEntry job = none)
    (verified : ∀ content, after = .staged content →
      setup.verified content (mediaIdentity job.descriptor) = true)
    (gate : GateSound setup
      { store with
        gate := work
        running := workersAfter store.running job before after }) :
    Sound setup
      { store with
        gate := work
        running := workersAfter store.running job before after } where
  entries := by
    intro digest entry isEntry
    have entrySound := sound.entries digest entry isEntry
    refine entrySound.keep (fun _ member => member) (fun _ _ holds => holds)
      (.refl _) fun generation active _ awaits has => ?_
    refine has.moved released fun asked finishing => ?_
    have isCurrent := currentEntry_of_awaits isEntry entrySound.named active
      awaits asked
    simp [current finishing] at isCurrent
  holders := sound.holders
  inflight := inflight_workersAfter sound after
  staged := staged_workersAfter sound verified
  gate := gate

variable {content : Content}

theorem Sound.stage
    (sound : Sound setup store)
    (step : store.stage setup job content = some next) :
    Sound setup next := by
  unfold MediaStore.stage at step
  split at step
  · rename_i verified
    obtain ⟨-, rfl⟩ := moveJob_some step
    refine sound.moveJob (fun _ same => same) nofun ?_ ?_
    · intro other same
      cases same
      exact verified
    · have gentle : Gentle store
          { store with
            running :=
              workersAfter store.running job .fetching (.staged content) } :=
        .of_state rfl rfl rfl fun holder member => ⟨holder, member, rfl, rfl⟩
      exact gentle.gateSound sound.gate
  · cases step

theorem Sound.passFence
    (sound : Sound setup store)
    (step : store.passFence job content = some next) :
    Sound setup next := by
  unfold MediaStore.passFence at step
  split at step
  · rename_i isFree
    split at step
    · rename_i isCurrent
      obtain ⟨isRunning, rfl⟩ := moveJob_some step
      obtain ⟨entry, current⟩ := Option.isSome_iff_exists.mp isCurrent
      obtain ⟨isEntry, isCurrentFor⟩ := currentEntry_some current
      refine sound.moveJob (by simp [isFree, GateWork.job]) (by simp) (by simp)
        ⟨sound.staged _ isRunning content rfl, entry, isEntry, ?_⟩
      simp only [WarmJob.isCurrentFor, Bool.and_eq_true,
        decide_eq_true_eq] at isCurrentFor
      exact isCurrentFor.1.2
    · rename_i isStale
      obtain ⟨-, rfl⟩ := moveJob_some step
      refine sound.moveJob (by simp [isFree, GateWork.job])
        (fun _ => by simpa using isStale) (by simp) ?_
      rw [GateSound, isFree]
      trivial
  · cases step

theorem Sound.finish
    (sound : Sound setup store)
    (step : store.finish job = some next) :
    Sound setup next := by
  unfold MediaStore.finish at step
  split at step
  · rename_i isRunning
    cases step
    refine sound.reschedule ?_ ?_ ?_
    · intro digest entry generation _ _ _ _ _ has
      refine has.mono (fun _ member => member) (fun _ same => same)
        (fun queued isQueued same => .queued queued isQueued same) ?_
      intro worker isRunning unfinished same
      refine .running worker ((List.mem_erase_of_ne ?_).mpr isRunning)
        unfinished same
      rintro rfl
      exact unfinished rfl
    · intro identity member
      obtain ⟨before, differs⟩ := List.mem_filter.mp member
      rcases sound.inflight identity before with
          queued | ⟨worker, isRunning, same⟩
      · exact .inl queued
      · refine .inr ⟨worker, (List.mem_erase_of_ne ?_).mpr isRunning, same⟩
        rintro rfl
        exact of_decide_eq_true differs same.symm
    · exact fun worker member =>
        sound.staged worker (List.mem_of_mem_erase member)
  · cases step

end MediaStore

end VendingSystem.Daemon
