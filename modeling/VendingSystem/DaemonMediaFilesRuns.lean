import VendingSystem.DaemonMediaFilesEntries

namespace VendingSystem.Daemon

open MediaCacheState

/-!
# The publications of a running cache

The condition on the steps leaves out four things: a manifest whose files were
not all found whole, descriptors without a place in the snapshot, a job asked
for anew while its worker is still to leave it, and a dropped lease that
quarantines what was found whole again.
-/

namespace MediaStore

variable {Content : Type} {key : List Char} {removed published : Bool}
  {digest generation : String} {holder : LeaseHolder}
  {entry former : MediaEntry} {objects : List MediaObject}
  {object : MediaObject} {ready : String → Bool}
variable {setup : MediaSetup Content}
variable {store next : MediaStore Content}

section Workers

variable [DecidableEq Content]

variable {job : WarmJob}

/-- A worker is done with its job, and the entry no longer waits for it. -/
theorem Sound.settle
    {phase : WarmPhase Content}
    {changed : MediaEntry}
    {work : GateWork Content}
    (sound : Sound setup store)
    (isEntry : store.state.entries job.descriptor.digest = some entry)
    (same : SameObject entry changed)
    (leases : changed.leases = entry.leases)
    (reservations : changed.leaseReservations = entry.leaseReservations)
    (settled : changed.readiness ≠ .warming)
    (published : changed.active = true → changed.readiness = .ready →
      store.holds setup (mediaIdentity entry.descriptor) = true)
    (released : ∀ other, store.gate.job = some other → work.job = some other)
    (gate : GateSound setup
      { store with
        state := store.state.setEntry job.descriptor.digest changed
        gate := work
        running := workersAfter store.running job phase .finishing }) :
    Sound setup
      { store with
        state := store.state.setEntry job.descriptor.digest changed
        gate := work
        running := workersAfter store.running job phase .finishing } where
  entries := by
    intro digest found isFound
    rcases entries_setEntry isFound with ⟨rfl, rfl⟩ | ⟨differs, isFormer⟩
    · have entrySound := sound.entries _ entry isEntry
      refine ⟨same.descriptor ▸ entrySound.named, entrySound.known,
        entrySound.contract, ?_, ?_, ?_, ?_, ?_⟩
      · rw [same.pinned, same.active, entrySound.pinned]
      · rw [same.descriptor]
        exact published
      · rw [leases, reservations, entrySound.leases]
      · rw [reservations]
        exact entrySound.reservations
      · exact fun _ warming => absurd warming settled
    · have entrySound := sound.entries digest found isFormer
      refine entrySound.keep (fun _ known => known) (fun _ _ holds => holds)
        (.refl _) fun generation _ _ _ has => ?_
      refine has.moved released fun asked => ?_
      have media := congrArg (fun identity => identity.media.digest) asked
      exact absurd (entrySound.named.symm.trans media.symm) differs
  holders := sound.holders_setEntry isEntry same.descriptor
  inflight := inflight_workersAfter sound .finishing
  staged := staged_workersAfter sound nofun
  gate := gate

theorem Sound.failWarm
    {error : String}
    (sound : Sound setup store)
    (step : store.failWarm job error = some next) :
    Sound setup next := by
  obtain ⟨-, rfl⟩ := moveJob_some step
  cases found : store.state.currentEntry job with
  | none =>
    simp only [MediaCacheState.failWarm, found]
    refine sound.moveJob (fun _ same => same) (fun _ => found) (by simp) ?_
    refine Gentle.gateSound (?_ : Gentle store _) sound.gate
    exact .of_state rfl rfl rfl fun holder member =>
      ⟨holder, member, rfl, rfl⟩
  | some entry =>
    have isEntry := (currentEntry_some found).1
    simp only [MediaCacheState.failWarm, found]
    refine sound.settle isEntry ⟨rfl, rfl, rfl⟩ rfl rfl (by simp) (by simp)
      (fun _ same => same) ?_
    refine Gentle.gateSound (?_ : Gentle store _) sound.gate
    refine ⟨rfl, rfl, ?_, ?_, fun holder member =>
      .inl ⟨holder, member, rfl, rfl⟩⟩
    · intro digest after isAfter
      rcases entries_setEntry isAfter with ⟨rfl, rfl⟩ | ⟨-, isFormer⟩
      · exact ⟨entry, isEntry, rfl, rfl, (by simp), fun still => still⟩
      · exact ⟨after, isFormer, rfl, rfl, fun active ready =>
          ⟨active, ready⟩, fun still => still⟩
    · exact fun digest former isFormer =>
        exists_setEntry isEntry rfl isFormer

theorem Sound.exceedHighWater
    (sound : Sound setup store)
    (step : store.exceedHighWater = some next) :
    Sound setup next := by
  unfold MediaStore.exceedHighWater at step
  split at step
  · rename_i job content isPublishing
    obtain ⟨-, rfl⟩ := moveJob_some step
    have noJob : ∀ other, store.gate.job = some other →
        GateWork.job (.free : GateWork Content) = some other := by
      simp [isPublishing, GateWork.job]
    have gate := sound.gate
    rw [GateSound, isPublishing] at gate
    obtain ⟨-, entry, isEntry, -⟩ := gate
    by_cases awaits : entry.warmingGeneration = some job.generation
    · simp only [MediaCacheState.exceedHighWater, isEntry, if_pos awaits]
      exact sound.settle isEntry ⟨rfl, rfl, rfl⟩ rfl rfl (by simp) (by simp) noJob
        trivial
    · simp only [MediaCacheState.exceedHighWater, isEntry, if_neg awaits]
      refine sound.moveJob noJob (fun _ => ?_) (by simp) trivial
      simp [currentEntry, isEntry, WarmJob.isCurrentFor, awaits]
  · cases step

theorem Sound.publish
    (sound : Sound setup store)
    (step : store.publish = some next) :
    Sound setup next := by
  unfold MediaStore.publish at step
  split at step
  · rename_i job renamed isRenamed
    obtain ⟨-, rfl⟩ := moveJob_some step
    have noJob : ∀ other, store.gate.job = some other →
        GateWork.job (.free : GateWork Content) = some other := by
      simp [isRenamed, GateWork.job]
    have gate := sound.gate
    rw [GateSound, isRenamed] at gate
    cases found : store.state.currentEntry job with
    | none =>
      have stays : store.state.publish job renamed = store.state := by
        cases renamed with
        | error error =>
          simp [MediaCacheState.publish, MediaCacheState.failWarm, found]
        | ok done => simp [MediaCacheState.publish, found]
      rw [stays]
      exact sound.moveJob noJob (fun _ => found) (by simp) trivial
    | some entry =>
      obtain ⟨isEntry, isCurrent⟩ := currentEntry_some found
      simp only [WarmJob.isCurrentFor, Bool.and_eq_true,
        decide_eq_true_eq] at isCurrent
      cases renamed with
      | error error =>
        simp only [MediaCacheState.publish, MediaCacheState.failWarm,
          found]
        exact sound.settle isEntry ⟨rfl, rfl, rfl⟩ rfl rfl (by simp) (by simp)
          noJob trivial
      | ok done =>
        simp only [MediaCacheState.publish, found]
        refine sound.settle isEntry ⟨rfl, rfl, rfl⟩ rfl rfl (by simp) ?_
          noJob trivial
        intro _ _
        rw [isCurrent.1.2]
        exact gate rfl
  · cases step

end Workers

theorem holds_setFile_of_ne
    {content : Option Content}
    {identity : MediaIdentity}
    (differs : objectKey identity.digest ≠ key) :
    (store.setFile key content).holds setup identity =
      store.holds setup identity :=
  holds_congr (by simp [MediaStore.setFile, differs])

section

variable (sound : Sound setup store)

include sound

theorem Sound.sweepFile
    (step : store.sweepFile key = some next) :
    Sound setup next := by
  have removes
      (work : GateWork Content)
      (isWork : store.gate = work)
      (untracked : ¬store.isTracked key = true)
      (gate : GateSound setup
        { store.setFile key none with gate := work }) :
      Sound setup (store.setFile key none) := by
    subst isWork
    refine sound.turnGate ?_ (fun _ same => same) gate
    intro digest entry isEntry _ named _ _ holds
    refine (holds_setFile_of_ne fun isKey => untracked ?_).trans holds
    refine List.any_eq_true.mpr
      ⟨digest, (sound.entries digest entry isEntry).known, ?_⟩
    have isDigest : objectKey digest = key := by
      rw [← isKey, ← named]
      rfl
    simp [isDigest, isEntry]
  unfold MediaStore.sweepFile at step
  split at step
  · rename_i generation objects isSweeping
    split at step
    · cases step
    · rename_i untracked
      cases step
      have gate := sound.gate
      rw [GateSound, isSweeping] at gate
      exact removes _ isSweeping untracked
        ⟨gate.distinct, gate.admitted, gate.agrees⟩
  · rename_i isTidying
    split at step
    · cases step
    · rename_i untracked
      cases step
      exact removes _ isTidying untracked trivial
  · cases step

theorem Sound.removes
    {work : GateWork Content}
    (contract : isContractDigest digest = true)
    (notReady : ∀ entry, store.state.entries digest = some entry →
      entry.active = true → entry.readiness ≠ .ready)
    (released : ∀ other, store.gate.job = some other → work.job = some other)
    (gate : ∀ files, GateSound setup { store with files, gate := work }) :
    Sound setup { store.discardFile digest removed with gate := work } := by
  cases removed with
  | false => exact sound.turnGate (fun _ _ _ _ _ _ _ h => h) released (gate _)
  | true =>
    refine sound.turnGate ?_ released (gate _)
    intro other entry isEntry isContract named active ready holds
    have differs : objectKey (mediaIdentity entry.descriptor).digest ≠
        objectKey digest := by
      intro sameKey
      have same : other = digest := by
        refine objectKey_injective isContract contract ?_
        rw [← sameKey, ← named]
        rfl
      subst same
      exact notReady entry isEntry active ready
    exact (holds_setFile_of_ne differs).trans holds

theorem Sound.removeFile
    (step : store.removeFile removed = some next) :
    Sound setup next := by
  have gate := sound.gate
  unfold MediaStore.removeFile at step
  split at step
  · rename_i identity isRemoving
    cases step
    rw [GateSound, isRemoving] at gate
    exact sound.removes gate.contract gate.notReady
      (by simp [isRemoving, GateWork.job]) fun _ => trivial
  · rename_i identity job isRemoving
    cases step
    rw [GateSound, isRemoving] at gate
    exact sound.removes gate.contract gate.notReady
      (by simp [isRemoving, GateWork.job]) fun _ => trivial
  · rename_i digest digests isCleaning
    cases step
    rw [GateSound, isCleaning] at gate
    have reclaimed := gate digest List.mem_cons_self
    refine sound.removes reclaimed.contract ?_
      (by simp [isCleaning, GateWork.job]) ?_
    · intro entry isEntry active
      have isReclaimable := reclaimed.reclaimable entry isEntry
      have pinned := (sound.entries digest entry isEntry).pinned
      simp [MediaCacheState.isReclaimable, pinned, active] at isReclaimable
    · intro files other member
      exact ⟨(gate other member).contract, (gate other member).reclaimable⟩
  · cases step

theorem Sound.rename
    {renamed : Except String Unit}
    (step : store.rename renamed = some next) :
    Sound setup next := by
  have gate := sound.gate
  unfold MediaStore.rename at step
  split at step
  · rename_i job content isPublishing
    rw [GateSound, isPublishing] at gate
    obtain ⟨verified, current, isCurrent, identity⟩ := gate
    have noJob : ∀ other, store.gate.job = some other →
        GateWork.job (.renamed job renamed : GateWork Content) =
          some other := by
      simp [isPublishing, GateWork.job]
    split at step
    · cases step
      have holds :
          (store.setFile (objectKey job.descriptor.digest)
            (some content)).holds setup (mediaIdentity job.descriptor) =
              true :=
        holds_iff.mpr ⟨content, by simp [MediaStore.setFile, mediaIdentity],
          verified⟩
      refine sound.turnGate ?_ noJob fun _ => holds
      intro other entry isEntry isContract named _ _ held
      by_cases same : other = job.descriptor.digest
      · subst same
        cases isCurrent.symm.trans isEntry
        rw [identity]
        exact holds
      · refine (holds_setFile_of_ne fun sameKey => same ?_).trans held
        refine objectKey_injective isContract
          (sound.entries _ current isCurrent).contract ?_
        rw [← sameKey, ← named]
        rfl
    · cases step
      exact sound.passGate noJob (by rintro ⟨⟩)
  · cases step

theorem Sound.not_reclaimable
    (member : holder ∈ store.holders)
    (isEntry : store.state.entries holder.identity.digest = some entry) :
    ¬isReclaimable entry = true := by
  intro unneeded
  have entrySound := sound.entries _ entry isEntry
  have read := entrySound.reservations.mem_iff.mpr (mem_versionsRead member)
  have none : entry.leaseReservations = [] := by
    apply List.eq_nil_of_length_eq_zero
    rw [← entrySound.leases]
    simp only [isReclaimable, Bool.and_eq_true, decide_eq_true_eq] at unneeded
    exact unneeded.2
  rw [none] at read
  cases read

theorem Sound.reclaim
    (step : store.reclaim = some next) :
    Sound setup next := by
  have gate := sound.gate
  unfold MediaStore.reclaim at step
  split at step
  · rename_i digest digests isReclaiming
    cases step
    rw [GateSound, isReclaiming] at gate
    have noJob : ∀ job, store.gate.job = some job →
        GateWork.job (.cleaning digests : GateWork Content) = some job := by
      simp [isReclaiming, GateWork.job]
    simp only [MediaCacheState.reclaim]
    split
    · rename_i reclaimable
      obtain ⟨entry, isEntry, unneeded⟩ :=
        (Option.any_eq_true _ _).mp reclaimable
      have former : ∀ {other found},
          Function.update store.state.entries digest none other =
              some found →
            other ≠ digest ∧ store.state.entries other = some found := by
        intro other found isFound
        by_cases same : other = digest
        · subst same
          simp at isFound
        · exact ⟨same, by simpa [same] using isFound⟩
      refine ⟨?_, ?_, sound.inflight, sound.staged, ?_⟩
      · intro other found isFound
        exact (sound.entries other found (former isFound).2).keep
          (fun _ known => known) (fun _ _ holds => holds) (.refl _)
          (fun _ _ _ _ has => has.stays rfl rfl rfl noJob)
      · intro holder member
        obtain ⟨found, isFound, identity⟩ := sound.holders holder member
        refine ⟨found, ?_, identity⟩
        have differs : holder.identity.digest ≠ digest := by
          rintro rfl
          cases isEntry.symm.trans isFound
          exact sound.not_reclaimable member isFound unneeded
        simpa [differs] using isFound
      · intro other member
        refine ⟨(gate other (List.mem_cons_of_mem _ member)).contract, ?_⟩
        exact fun found isFound =>
          (gate other (List.mem_cons_of_mem _ member)).reclaimable found
            (former isFound).2
    · exact sound.passGate noJob fun other member =>
        ⟨(gate other (List.mem_cons_of_mem _ member)).contract,
          (gate other (List.mem_cons_of_mem _ member)).reclaimable⟩
  · cases step

theorem Sound.enterFatal
    {error : String}
    (step : store.enterFatal error = some next) :
    Sound setup next := by
  unfold MediaStore.enterFatal at step
  split at step
  · cases step
    refine ⟨?_, ?_, sound.inflight, sound.staged, trivial⟩
    · intro digest found isFound
      obtain ⟨entry, isEntry, rfl⟩ := Option.map_eq_some_iff.mp isFound
      have entrySound := sound.entries digest entry isEntry
      exact ⟨entrySound.named, entrySound.known, entrySound.contract, rfl,
        nofun, entrySound.leases, entrySound.reservations, nofun⟩
    · intro holder member
      obtain ⟨entry, isEntry, identity⟩ := sound.holders holder member
      exact ⟨_, Option.map_eq_some_iff.mpr ⟨entry, isEntry, rfl⟩, identity⟩
  · cases step

end

theorem entries_adoptObjects_of_ne
    {published : String → Bool}
    (state : MediaCacheState)
    (others : ∀ object ∈ objects, object.descriptor.digest ≠ digest) :
    (objects.foldl (adoptObject generation published) state).entries digest =
      state.entries digest := by
  induction objects generalizing state with
  | nil => rfl
  | cons object rest inductionHypothesis =>
    rw [List.foldl_cons, inductionHypothesis _
      fun other member => others other (List.mem_cons_of_mem _ member)]
    have differs := (others object List.mem_cons_self).symm
    simp [adoptObject, setEntry, differs]

theorem entries_adopt_of_ne
    (state : MediaCacheState)
    (others : ∀ object ∈ objects, object.descriptor.digest ≠ digest)
    (generation : String)
    (published : String → Bool) :
    (state.adopt generation objects published).entries digest =
      state.deactivate.entries digest :=
  entries_adoptObjects_of_ne state.deactivate others

theorem entries_adopt_of_mem
    (state : MediaCacheState)
    (distinct : objects.Pairwise fun earlier later =>
      earlier.descriptor.digest < later.descriptor.digest)
    (member : object ∈ objects)
    (generation : String)
    (published : String → Bool) :
    (state.adopt generation objects published).entries
        object.descriptor.digest =
      some (adoptEntry generation (published object.descriptor.digest) object
        ((state.deactivate.entries object.descriptor.digest).getD
          (freshEntry object))) := by
  change (objects.foldl (adoptObject generation published)
    state.deactivate).entries _ = _
  generalize state.deactivate = start
  induction objects generalizing start with
  | nil => cases member
  | cons first rest inductionHypothesis =>
    obtain ⟨less, others⟩ := List.pairwise_cons.mp distinct
    rw [List.foldl_cons]
    rcases List.mem_cons.mp member with rfl | later
    · rw [entries_adoptObjects_of_ne _ fun other later =>
        (less other later).ne']
      simp [adoptObject, setEntry]
    · rw [inductionHypothesis others later]
      have differs := (less object later).ne'
      simp [adoptObject, setEntry, differs]

theorem published_of_adoptEntry
    (ready :
      (adoptEntry generation published object former).readiness = .ready) :
    published = true := by
  cases published with
  | true => rfl
  | false => cases ready

theorem awaits_of_adoptEntry
    (warming :
      (adoptEntry generation published object former).readiness = .warming) :
    (adoptEntry generation published object former).warmingGeneration =
      some generation := by
  cases published with
  | true => cases warming
  | false => rfl

theorem Sound.leases_getD
    (sound : Sound setup store)
    (isFormer : (store.state.deactivate.entries
      object.descriptor.digest).getD (freshEntry object) = former) :
    former.leases = former.leaseReservations.length ∧
      former.leaseReservations.Perm
        (versionsRead store.holders object.descriptor.digest) := by
  cases found : store.state.entries object.descriptor.digest with
  | none =>
    simp only [deactivate, found, Option.map_none, Option.getD_none] at isFormer
    subst isFormer
    refine ⟨rfl, List.Perm.of_eq (List.eq_nil_iff_forall_not_mem.mpr ?_).symm⟩
    intro version read
    obtain ⟨holder, isHolder, -⟩ := List.mem_map.mp read
    obtain ⟨member, isDigest⟩ := List.mem_filter.mp isHolder
    obtain ⟨entry, isEntry, -⟩ := sound.holders holder member
    rw [of_decide_eq_true isDigest, found] at isEntry
    cases isEntry
  | some entry =>
    simp only [deactivate, found, Option.map_some, Option.getD_some] at isFormer
    subst isFormer
    have entrySound := sound.entries _ entry found
    exact ⟨entrySound.leases, entrySound.reservations⟩

/-- An accepted adoption schedules a job for each entry that is warming. -/
theorem Sound.commit
    (sound : Sound setup store)
    (step : store.commit setup = some next) :
    Sound setup next := by
  have gate := sound.gate
  unfold MediaStore.commit at step
  split at step
  · rename_i generation objects published isVerifying
    rw [GateSound, isVerifying] at gate
    obtain ⟨agreed, -, holds⟩ := gate
    have allAdmitted :
        (objects.all fun object => setup.admits object.descriptor) = true :=
      List.all_eq_true.mpr agreed.admitted
    have adopted (object : MediaObject) (member : object ∈ objects) :=
      entries_adopt_of_mem store.state agreed.distinct member generation
        published.contains
    have others {digest : String}
        (none : ∀ object ∈ objects, object.descriptor.digest ≠ digest) :=
      entries_adopt_of_ne store.state none generation published.contains
    cases step
    simp only [if_pos allAdmitted]
    refine ⟨?_, ?_, sound.inflight, sound.staged, trivial⟩
    · intro digest entry isEntry
      by_cases isInterest :
          ∃ object ∈ objects, object.descriptor.digest = digest
      · obtain ⟨object, member, rfl⟩ := isInterest
        have isAdopted := (adopted object member).symm.trans isEntry
        generalize isFormer : (store.state.deactivate.entries
          object.descriptor.digest).getD (freshEntry object) = former
          at isAdopted
        obtain ⟨leases, reservations⟩ := sound.leases_getD isFormer
        have admitted := agreed.admitted object member
        simp only [MediaSetup.admits, Bool.and_eq_true] at admitted
        have isKnown : object.descriptor.digest ∈
            objects.map (·.descriptor.digest) ++ store.known :=
          List.mem_append_left _ (List.mem_map.mpr ⟨object, member, rfl⟩)
        cases isAdopted
        refine ⟨rfl, isKnown, admitted.1, rfl, ?_, leases, reservations, ?_⟩
        · intro _ ready
          exact holds object member
            (List.contains_iff_mem.mp (published_of_adoptEntry ready))
        · intro active warming
          refine ⟨generation, awaits_of_adoptEntry warming, ?_⟩
          refine .scheduled
            { generation
              descriptor := object.descriptor
              candidates := object.candidates } ?_ rfl
          refine List.mem_append_right _
            (List.mem_filterMap.mpr ⟨object, member, ?_⟩)
          rw [isEntry]
          exact if_pos ⟨active, warming⟩
      · have none : ∀ object ∈ objects,
            object.descriptor.digest ≠ digest :=
          fun object member same => isInterest ⟨object, member, same⟩
        obtain ⟨before, isBefore, rfl⟩ := Option.map_eq_some_iff.mp
          ((others none).symm.trans isEntry)
        have entrySound := sound.entries digest before isBefore
        exact ⟨entrySound.named, List.mem_append_right _ entrySound.known,
          entrySound.contract, rfl, (by simp), entrySound.leases,
          entrySound.reservations, (by simp)⟩
    · intro holder member
      obtain ⟨before, isBefore, identity⟩ := sound.holders holder member
      by_cases isInterest :
          ∃ object ∈ objects,
            object.descriptor.digest = holder.identity.digest
      · obtain ⟨object, isObject, same⟩ := isInterest
        refine ⟨_, same ▸ adopted object isObject, ?_⟩
        rw [← identity]
        exact (agreed.agrees object isObject before (same ▸ isBefore)).symm
      · have none : ∀ object ∈ objects,
            object.descriptor.digest ≠ holder.identity.digest :=
          fun object member same => isInterest ⟨object, member, same⟩
        refine ⟨_, (others none).trans
          (Option.map_eq_some_iff.mpr ⟨before, isBefore, rfl⟩), identity⟩
  · cases step

theorem entries_recover
    (isEntry :
      (recover generation objects ready).entries digest = some entry) :
    ∃ object ∈ objects, object.descriptor.digest = digest ∧
      entry = recoveredEntry (ready digest) object := by
  have found : ∀ (objects : List MediaObject) (start : MediaCacheState),
      (objects.foldl (fun state object =>
        state.setEntry object.descriptor.digest
          (recoveredEntry (ready object.descriptor.digest) object))
        start).entries digest = some entry →
      start.entries digest = some entry ∨
        ∃ object ∈ objects, object.descriptor.digest = digest ∧
          entry = recoveredEntry (ready digest) object := by
    intro objects
    induction objects with
    | nil => exact fun _ isEntry => .inl isEntry
    | cons object rest inductionHypothesis =>
      intro start isEntry
      rcases inductionHypothesis _ isEntry with
          before | ⟨other, member, same⟩
      · rcases entries_setEntry before with ⟨rfl, rfl⟩ | ⟨-, former⟩
        · exact .inr ⟨object, List.mem_cons_self, rfl, rfl⟩
        · exact .inl former
      · exact .inr ⟨other, List.mem_cons_of_mem _ member, same⟩
  exact (found objects _ isEntry).resolve_left nofun

theorem sound_start
    {files : List Char → Option Content}
    (whole : ∀ object ∈ objects,
      setup.admits object.descriptor = true ∧
        ready object.descriptor.digest = true)
    (verified : ∀ object ∈ objects, ready object.descriptor.digest = true →
      (start generation objects ready files).holds setup
        (mediaIdentity object.descriptor) = true) :
    Sound setup (start generation objects ready files) where
  entries := by
    intro digest entry isEntry
    obtain ⟨object, member, rfl, rfl⟩ := entries_recover isEntry
    obtain ⟨admitted, isReady⟩ := whole object member
    simp only [MediaSetup.admits, Bool.and_eq_true] at admitted
    refine ⟨rfl, List.mem_map.mpr ⟨object, member, rfl⟩, admitted.1, rfl,
      fun _ _ => verified object member isReady, rfl, .refl _, ?_⟩
    intro _ warming
    simp [recoveredEntry, isReady] at warming
  holders := nofun
  inflight := nofun
  staged := nofun
  gate := trivial

theorem Sound.consistent
    (sound : Sound setup store) :
    Consistent setup store where
  published := by
    intro digest entry isEntry active ready
    have entrySound := sound.entries digest entry isEntry
    obtain ⟨content, isFile, verified⟩ :=
      holds_iff.mp (entrySound.published active ready)
    refine ⟨content, ?_, verified⟩
    rw [← entrySound.named]
    exact isFile
  leases := by
    intro digest entry isEntry
    have entrySound := sound.entries digest entry isEntry
    refine ⟨entrySound.leases, ?_⟩
    rw [entrySound.leases, entrySound.reservations.length_eq, versionsRead,
      List.length_map, List.countP_eq_length_filter]
  awaited := fun digest entry isEntry =>
    (sound.entries digest entry isEntry).awaited

theorem sparesReaders_of_files
    (same : next.files = store.files) :
    SparesReaders store next := by
  intro key present absent
  exact absurd (same ▸ absent) present

theorem key_of_removed
    (present : store.files key ≠ none)
    (absent : (store.discardFile digest removed).files key = none) :
    key = objectKey digest := by
  by_contra differs
  cases removed with
  | false => exact present absent
  | true =>
    simp only [MediaStore.discardFile, if_true, MediaStore.setFile,
      Function.update_of_ne differs] at absent
    exact present absent

theorem Sound.digest_of_holder
    (sound : Sound setup store)
    (contract : isContractDigest digest = true)
    (member : holder ∈ store.holders)
    (same : objectKey holder.identity.digest = objectKey digest) :
    holder.identity.digest = digest := by
  obtain ⟨entry, isEntry, -⟩ := sound.holders holder member
  exact objectKey_injective (sound.entries _ entry isEntry).contract contract
    same

variable [DecidableEq Content]

variable {event : MediaStoreEvent Content}

/-- The steps keep the cache sound, where the condition holds. -/
theorem Sound.step
    (sound : Sound setup store)
    (condition : store.StaysConsistent setup event)
    (step : store.step setup event = some next) :
    Sound setup next := by
  cases event with
  | adopt generation descriptors => exact sound.adopt condition step
  | verifyObjects => exact sound.verifyObjects step
  | verifyObject answer => exact sound.verifyObject step
  | abandon => exact sound.abandon step
  | enterFatal error => exact sound.enterFatal step
  | commit => exact sound.commit step
  | sweepFile key => exact sound.sweepFile step
  | enqueue job => exact sound.enqueue condition step
  | requeue => exact sound.requeue condition step
  | readReady digest => exact sound.readReady step
  | verifyRead holder answer =>
    simp only [MediaStore.step, MediaStore.verifyRead] at step
    split at step
    · exact sound.moveHolder step
    · cases step
  | drop holder =>
    simp only [MediaStore.step, MediaStore.drop] at step
    split at step
    · exact sound.moveHolder step
    · cases step
  | rejectRead holder => exact sound.rejectRead step
  | release holder => exact sound.release condition step
  | removeFile removed => exact sound.removeFile step
  | takeJob => exact sound.takeJob step
  | stage job content => exact sound.stage step
  | failWarm job error => exact sound.failWarm step
  | passFence job content => exact sound.passFence step
  | exceedHighWater => exact sound.exceedHighWater step
  | rename renamed => exact sound.rename step
  | publish => exact sound.publish step
  | finish job => exact sound.finish step
  | beginCleanup => exact sound.beginCleanup step
  | pickCandidates digests => exact sound.pickCandidates step
  | reclaim => exact sound.reclaim step
  | endCleanup => exact sound.endCleanup step

theorem files_moveJob
    {job : WarmJob}
    {before after : WarmPhase Content}
    (moved : store.moveJob job before after = some next) :
    next.files = store.files := by
  rw [(moveJob_some moved).2]

theorem files_of_step
    (step : store.step setup event = some next)
    (sweeps : ∀ key, event ≠ .sweepFile key)
    (removes : ∀ removed, event ≠ .removeFile removed)
    (renames : ∀ renamed, event ≠ .rename renamed) :
    next.files = store.files := by
  cases event with
  | sweepFile key => exact absurd rfl (sweeps key)
  | removeFile removed => exact absurd rfl (removes removed)
  | rename renamed => exact absurd rfl (renames renamed)
  | adopt => grind [MediaStore.step, MediaStore.adopt]
  | verifyObjects => grind [MediaStore.step, MediaStore.verifyObjects]
  | verifyObject => grind [MediaStore.step, MediaStore.verifyObject]
  | abandon => grind [MediaStore.step, MediaStore.abandon]
  | enterFatal => grind [MediaStore.step, MediaStore.enterFatal]
  | commit => grind [MediaStore.step, MediaStore.commit]
  | enqueue => grind [MediaStore.step, MediaStore.enqueue, MediaStore.enqueueJob]
  | requeue => grind [MediaStore.step, MediaStore.requeue, MediaStore.enqueueJob]
  | readReady => grind [MediaStore.step, readReady_some]
  | verifyRead =>
    grind [MediaStore.step, MediaStore.verifyRead, MediaStore.moveHolder]
  | drop => grind [MediaStore.step, MediaStore.drop, MediaStore.moveHolder]
  | rejectRead => grind [MediaStore.step, MediaStore.rejectRead]
  | release => grind [MediaStore.step, MediaStore.release]
  | takeJob => grind [MediaStore.step, MediaStore.takeJob]
  | stage => grind [MediaStore.step, MediaStore.stage, → files_moveJob]
  | failWarm => grind [MediaStore.step, MediaStore.failWarm, → files_moveJob]
  | passFence => grind [MediaStore.step, MediaStore.passFence, → files_moveJob]
  | exceedHighWater =>
    grind [MediaStore.step, MediaStore.exceedHighWater, → files_moveJob]
  | publish => grind [MediaStore.step, MediaStore.publish, → files_moveJob]
  | finish => grind [MediaStore.step, MediaStore.finish]
  | beginCleanup => grind [MediaStore.step, MediaStore.beginCleanup]
  | pickCandidates => grind [MediaStore.step, MediaStore.pickCandidates]
  | reclaim => grind [MediaStore.step, MediaStore.reclaim]
  | endCleanup => grind [MediaStore.step, MediaStore.endCleanup]

theorem Sound.sparesReaders
    (sound : Sound setup store)
    (step : store.step setup event = some next) :
    SparesReaders store next := by
  cases event with
  | sweepFile key =>
    intro other present absent holder member isKey entry isEntry
    simp only [MediaStore.step, MediaStore.sweepFile] at step
    have untracked : ¬store.isTracked key = true ∧
        next = store.setFile key none := by
      grind
    obtain ⟨untracked, rfl⟩ := untracked
    by_cases same : other = key
    · refine absurd (List.any_eq_true.mpr ⟨_, (sound.entries _ entry
        isEntry).known, ?_⟩) untracked
      simp [isKey, same, isEntry]
    · simp only [MediaStore.setFile, Function.update_of_ne same] at absent
      exact absurd absent present
  | removeFile removed =>
    intro key present absent holder member isKey entry isEntry
    have gate := sound.gate
    simp only [MediaStore.step, MediaStore.removeFile] at step
    split at step
    · rename_i identity isRemoving
      cases step
      rw [GateSound, isRemoving] at gate
      have isDigest := sound.digest_of_holder gate.contract member
        (isKey.trans (key_of_removed present absent))
      exact gate.notRead entry (isDigest ▸ isEntry) holder member isDigest
    · rename_i identity job isRemoving
      cases step
      rw [GateSound, isRemoving] at gate
      have isDigest := sound.digest_of_holder gate.contract member
        (isKey.trans (key_of_removed present absent))
      exact gate.notRead entry (isDigest ▸ isEntry) holder member isDigest
    · rename_i digest digests isCleaning
      cases step
      rw [GateSound, isCleaning] at gate
      have reclaimed := gate digest List.mem_cons_self
      have isDigest := sound.digest_of_holder reclaimed.contract member
        (isKey.trans (key_of_removed present absent))
      -- A holder has a lease, and a candidate of a cleanup has none.
      have isReclaimable := reclaimed.reclaimable entry (isDigest ▸ isEntry)
      exact absurd isReclaimable (sound.not_reclaimable member isEntry)
    · cases step
  | rename renamed =>
    intro key present absent
    simp only [MediaStore.step, MediaStore.rename] at step
    split at step
    · rename_i job content isPublishing
      split at step
      · cases step
        by_cases same : key = objectKey job.descriptor.digest
        · simp [MediaStore.setFile, same] at absent
        · simp only [MediaStore.setFile, Function.update_of_ne same] at absent
          exact absurd absent present
      · cases step
        exact absurd absent present
    · cases step
  | _ => exact sparesReaders_of_files (files_of_step step (by simp) (by simp) (by simp))

/-- The publications stay consistent with the files, readers and jobs. -/
theorem publications_stay_consistent
    {generation : String}
    {objects : List MediaObject}
    {ready : String → Bool}
    {files : List Char → Option Content}
    {events : List (MediaStoreEvent Content)}
    {last : MediaStore Content}
    (verified : ∀ object ∈ objects,
      ready object.descriptor.digest = true →
        (start generation objects ready files).holds setup
          (mediaIdentity object.descriptor) = true)
    (whole : ∀ object ∈ objects,
      setup.admits object.descriptor = true ∧
        ready object.descriptor.digest = true)
    (meets : (mediaStore setup).RunMeets (StaysConsistent setup)
      (start generation objects ready files) events)
    (run : (mediaStore setup).run
      (start generation objects ready files) events = some last) :
    Consistent setup last ∧
      ∀ event next, last.step setup event = some next →
        SparesReaders last next := by
  have sound : Sound setup last :=
    Machine.run_keeps_of_meets Sound.step (sound_start whole verified) meets run
  exact ⟨sound.consistent, fun _ _ step => sound.sparesReaders step⟩

def warmedPicture : MediaDescriptor where
  id := "picture"
  reference := "/media/picture"
  digest :=
    "sha256:0000000000000000000000000000000000000000000000000000000000000000"
  contentType := "image/png"
  byteSize := 4
  purpose := "product"
  catalogRevision := "1"
  assetRevision := none

/-- Every content is that of the picture. -/
def pictureSetup : MediaSetup Unit where
  validate := fun _ => none
  verified := fun _ _ => true
  converts := fun _ => true

def pictureJob : WarmJob where
  generation := "morning"
  descriptor := warmedPicture
  candidates := [warmedPicture]

def pictureObject : MediaObject where
  descriptor := warmedPicture
  candidates := [warmedPicture]

/-- The picture is adopted while its file cannot be verified. -/
def adoptPicture : List (MediaStoreEvent Unit) :=
  [.adopt "morning" [warmedPicture], .verifyObjects, .verifyObject false,
    .commit]

/-- A reader holds the picture while it is adopted and published again. -/
theorem publications_stay_consistent_republished :
    ∃ last : MediaStore Unit,
      Consistent pictureSetup last ∧
        ∀ event next, last.step pictureSetup event = some next →
          SparesReaders last next := by
  let reader (phase : LeasePhase) : LeaseHolder :=
    { identity := mediaIdentity warmedPicture, version := 1, phase }
  let events : List (MediaStoreEvent Unit) :=
    [.readReady warmedPicture.digest, .verifyRead (reader .verifying) true] ++
      adoptPicture ++
      [.enqueue pictureJob, .takeJob, .stage pictureJob (),
        .passFence pictureJob (), .rename (.ok ()), .publish,
        .finish pictureJob, .drop (reader .reading), .release (reader .dropped)]
  let first : MediaStore Unit :=
    start "evening" [pictureObject] (fun _ => true) fun _ => some ()
  have ends : ((mediaStore pictureSetup).run first events).isSome = true := by
    decide +kernel
  obtain ⟨last, run⟩ := Option.isSome_iff_exists.mp ends
  exact ⟨last, publications_stay_consistent (by decide +kernel)
    (by decide +kernel) (by decide +kernel) run⟩

/-- The job of the second adoption is dropped: the first is yet to be left. -/
theorem picture_stays_warming :
    ∃ last,
      (mediaStore pictureSetup).run
          (start "" [] (fun _ => false) fun _ => none)
          (adoptPicture ++
            [.enqueue pictureJob, .takeJob, .failWarm pictureJob "offline"] ++
            adoptPicture ++ [.enqueue pictureJob, .finish pictureJob]) =
        some last ∧ ¬Consistent pictureSetup last := by
  have ends : (((mediaStore pictureSetup).run
      (start "" [] (fun _ => false) fun _ => none)
      (adoptPicture ++
        [.enqueue pictureJob, .takeJob, .failWarm pictureJob "offline"] ++
        adoptPicture ++ [.enqueue pictureJob, .finish pictureJob])).any
      fun last =>
        (last.state.entries warmedPicture.digest).any (fun entry =>
          entry.active && entry.readiness = .warming) &&
        last.maintenance.isEmpty && last.queue.isEmpty &&
        last.running.isEmpty && last.gate.job.isNone) = true := by
    decide +kernel
  obtain ⟨last, run, holds⟩ := (Option.any_eq_true _ _).mp ends
  refine ⟨last, run, fun consistent => ?_⟩
  simp only [Bool.and_eq_true, List.isEmpty_iff, Option.isNone_iff_eq_none]
    at holds
  obtain ⟨⟨⟨⟨warming, maintenance⟩, queue⟩, running⟩, gate⟩ := holds
  obtain ⟨entry, isEntry, waits⟩ := (Option.any_eq_true _ _).mp warming
  simp only [Bool.and_eq_true, decide_eq_true_eq] at waits
  obtain ⟨generation, -, has⟩ :=
    consistent.awaited _ entry isEntry waits.1 waits.2
  cases has with
  | scheduled job isScheduled same =>
    rw [maintenance] at isScheduled
    cases isScheduled
  | released job isReleased same =>
    rw [gate] at isReleased
    cases isReleased
  | queued job isQueued same =>
    rw [queue] at isQueued
    cases isQueued
  | running worker isRunning unfinished same =>
    rw [running] at isRunning
    cases isRunning

end MediaStore

end VendingSystem.Daemon
