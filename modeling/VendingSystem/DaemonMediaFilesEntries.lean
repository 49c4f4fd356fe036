import VendingSystem.DaemonMediaFilesSteps

namespace VendingSystem.Daemon

open MediaCacheState

/-!
# The steps that change the entries

Readers take and return leases, workers settle their jobs, and cleanups
reclaim what nobody needs.
-/

namespace MediaStore

variable {Content : Type} {changed entry : MediaEntry} {digest other : String}
  {state : MediaCacheState} {holder : LeaseHolder} {holders : List LeaseHolder}
variable {setup : MediaSetup Content}
variable {store next : MediaStore Content}

theorem entries_setEntry
    {found : MediaEntry}
    (isFound : (state.setEntry digest changed).entries other = some found) :
    (other = digest ∧ found = changed) ∨
      (other ≠ digest ∧ state.entries other = some found) := by
  by_cases same : other = digest
  · subst same
    refine .inl ⟨rfl, ?_⟩
    simpa [setEntry] using isFound.symm
  · exact .inr ⟨same, by simpa [setEntry, same] using isFound⟩

theorem entries_setEntry_self
    (state : MediaCacheState)
    (digest : String)
    (changed : MediaEntry) :
    (state.setEntry digest changed).entries digest = some changed := by
  simp [setEntry]

theorem exists_setEntry
    {former : MediaEntry}
    (isEntry : state.entries digest = some entry)
    (descriptor : changed.descriptor = entry.descriptor)
    (isFormer : state.entries other = some former) :
    ∃ after, (state.setEntry digest changed).entries other = some after ∧
      after.descriptor = former.descriptor := by
  by_cases same : other = digest
  · subst same
    cases isEntry.symm.trans isFormer
    exact ⟨changed, entries_setEntry_self state other changed, descriptor⟩
  · exact ⟨former, by simp [setEntry, same, isFormer], rfl⟩

theorem Sound.holders_setEntry
    (sound : Sound setup store)
    (isEntry : store.state.entries digest = some entry)
    (descriptor : changed.descriptor = entry.descriptor) :
    ∀ holder ∈ store.holders,
      ∃ after, (store.state.setEntry digest changed).entries
          holder.identity.digest = some after ∧
        mediaIdentity after.descriptor = holder.identity := by
  intro holder member
  obtain ⟨former, isFormer, identity⟩ := sound.holders holder member
  obtain ⟨after, isAfter, same⟩ :=
    exists_setEntry isEntry descriptor isFormer
  exact ⟨after, isAfter, same ▸ identity⟩

theorem versionsRead_cons
    (holder : LeaseHolder)
    (holders : List LeaseHolder)
    (digest : String) :
    versionsRead (holder :: holders) digest =
      if holder.identity.digest = digest then
        holder.version :: versionsRead holders digest
      else versionsRead holders digest := by
  by_cases same : holder.identity.digest = digest
  · simp [versionsRead, same]
  · simp [versionsRead, same]

theorem versionsRead_perm
    {before after : List LeaseHolder}
    (perm : before.Perm after)
    (digest : String) :
    (versionsRead before digest).Perm (versionsRead after digest) :=
  (perm.filter _).map _

theorem versionsRead_erase
    (member : holder ∈ holders)
    (digest : String) :
    (versionsRead holders digest).Perm
      (if holder.identity.digest = digest then
        holder.version :: versionsRead (holders.erase holder) digest
      else versionsRead (holders.erase holder) digest) := by
  rw [← versionsRead_cons]
  exact versionsRead_perm (List.perm_cons_erase member) digest

theorem mem_versionsRead
    (member : holder ∈ holders) :
    holder.version ∈ versionsRead holders holder.identity.digest :=
  List.mem_map.mpr ⟨holder, List.mem_filter.mpr ⟨member, by simp⟩, rfl⟩

/-- The entry goes on standing for its object, as much as it did. -/
structure SameObject (entry changed : MediaEntry) : Prop where
  descriptor : changed.descriptor = entry.descriptor
  pinned : changed.pinned = entry.pinned
  active : changed.active = entry.active

/-- What a reader has been given. -/
theorem readReady_some
    (step : store.readReady digest = some next) :
    ∃ entry changed holder, store.state.entries digest = some entry ∧
      entry.active = true ∧ entry.readiness = .ready ∧
      SameObject entry changed ∧ changed.readiness = .ready ∧
      changed.readVersion = entry.readVersion ∧
      changed.leases = entry.leases + 1 ∧
      changed.leaseReservations =
        entry.readVersion :: entry.leaseReservations ∧
      holder.identity = mediaIdentity entry.descriptor ∧
      holder.version = entry.readVersion ∧
      next =
        { store with
          state := store.state.setEntry digest changed
          holders := holder :: store.holders } := by
  obtain ⟨entry, isEntry, taken⟩ := Option.bind_eq_some_iff.mp step
  obtain ⟨state, reserved, isNext⟩ := Option.bind_eq_some_iff.mp taken
  obtain ⟨again, isAgain, given⟩ := Option.bind_eq_some_iff.mp reserved
  cases isEntry.symm.trans isAgain
  split at given
  · cases given
  · rename_i allowed
    obtain ⟨active, ready⟩ := not_or.mp allowed
    simp only [not_not] at active ready
    cases given
    refine ⟨entry, _, _, isEntry, active, ready, ?_, ?_, ?_, ?_, ?_, ?_, ?_,
      (Option.some.inj isNext).symm⟩
    · exact ⟨rfl, rfl, rfl⟩
    · exact ready
    all_goals rfl

theorem Sound.readReady
    (sound : Sound setup store)
    (step : store.readReady digest = some next) :
    Sound setup next := by
  obtain ⟨entry, changed, holder, isEntry, active, ready, same, still, version,
    leases, reservations, identity, read, rfl⟩ := readReady_some step
  have entrySound := sound.entries digest entry isEntry
  have isDigest : holder.identity.digest = digest := by
    rw [identity]
    exact entrySound.named
  refine ⟨?_, ?_, sound.inflight, sound.staged, ?_⟩
  · intro other found isFound
    rcases entries_setEntry isFound with ⟨rfl, rfl⟩ | ⟨differs, isFormer⟩
    · refine ⟨same.descriptor ▸ entrySound.named, entrySound.known,
        entrySound.contract, ?_, ?_, ?_, ?_, ?_⟩
      · rw [same.pinned, same.active, entrySound.pinned]
      · intro _ _
        rw [same.descriptor]
        exact entrySound.published active ready
      · simp [leases, reservations, entrySound.leases]
      · rw [versionsRead_cons, if_pos isDigest, reservations, read]
        exact entrySound.reservations.cons _
      · intro _ warming
        rw [still] at warming
        cases warming
    · refine (sound.entries other found isFormer).keep
        (fun _ member => member) (fun _ _ holds => holds) ?_
        (fun _ _ _ _ has => has.stays rfl rfl rfl fun _ same => same)
      rw [versionsRead_cons, if_neg]
      exact fun sameDigest => differs (sameDigest.symm.trans isDigest)
  · intro other member
    rcases List.mem_cons.mp member with rfl | before
    · refine ⟨changed, ?_, by rw [same.descriptor, identity]⟩
      rw [isDigest]
      exact entries_setEntry_self ..
    · exact sound.holders_setEntry isEntry same.descriptor other before
  · refine Gentle.gateSound (?_ : Gentle store _) sound.gate
    refine ⟨rfl, rfl, ?_, ?_, ?_⟩
    · intro other found isFound
      rcases entries_setEntry isFound with ⟨rfl, rfl⟩ | ⟨differs, isFormer⟩
      · refine ⟨entry, isEntry, same.descriptor, version,
          fun _ _ => ⟨active, ready⟩, ?_⟩
        simp [isReclaimable, entrySound.pinned, active]
      · exact ⟨found, isFormer, rfl, rfl, fun isActive isReady =>
          ⟨isActive, isReady⟩, fun still => still⟩
    · exact fun other former isFormer =>
        exists_setEntry isEntry same.descriptor isFormer
    · intro other member
      rcases List.mem_cons.mp member with rfl | before
      · exact .inr ⟨entry, isDigest ▸ isEntry, active, ready⟩
      · exact .inl ⟨other, before, rfl, rfl⟩

theorem Sound.moveHolder
    {phase : LeasePhase}
    (sound : Sound setup store)
    (step : store.moveHolder holder phase = some next) :
    Sound setup next := by
  unfold MediaStore.moveHolder at step
  split at step
  · rename_i member
    cases step
    refine ⟨?_, ?_, sound.inflight, sound.staged, ?_⟩
    · intro digest entry isEntry
      refine (sound.entries digest entry isEntry).keep (fun _ known => known)
        (fun _ _ holds => holds) ?_
        (fun _ _ _ _ has => has.stays rfl rfl rfl fun _ same => same)
      rw [versionsRead_cons]
      exact versionsRead_erase member digest
    · intro other isOther
      rcases List.mem_cons.mp isOther with rfl | before
      · exact sound.holders holder member
      · exact sound.holders other (List.mem_of_mem_erase before)
    · refine Gentle.gateSound (?_ : Gentle store _) sound.gate
      refine .of_state rfl rfl rfl ?_
      intro other isOther
      rcases List.mem_cons.mp isOther with rfl | before
      · exact ⟨holder, member, rfl, rfl⟩
      · exact ⟨other, List.mem_of_mem_erase before, rfl, rfl⟩
  · cases step

theorem Sound.entryOf_holder
    (sound : Sound setup store)
    (member : holder ∈ store.holders) :
    ∃ entry, store.state.entryOf holder.identity = some entry := by
  obtain ⟨entry, isEntry, identity⟩ := sound.holders holder member
  exact ⟨entry, by simp [entryOf, isEntry, identity]⟩

/-- What becomes of an entry that has got a lease back. -/
structure LeaseReturned
    (holder : LeaseHolder)
    (entry changed : MediaEntry) : Prop extends
    SameObject entry changed where
  leases : changed.leases = entry.leases - 1
  reservations : changed.leaseReservations =
    entry.leaseReservations.erase holder.version
  ready : changed.active = true → changed.readiness = .ready →
    entry.readiness = .ready
  readVersion : changed.readVersion = entry.readVersion

theorem EntrySound.reservations_erase
    (sound : EntrySound setup store digest entry)
    (member : holder ∈ store.holders)
    (isDigest : holder.identity.digest = digest) :
    (entry.leaseReservations.erase holder.version).Perm
      (versionsRead (store.holders.erase holder) digest) := by
  have perm := sound.reservations.trans (versionsRead_erase member digest)
  rw [if_pos isDigest] at perm
  simpa using perm.erase holder.version

variable {work : GateWork Content}

theorem Sound.returnLease
    (sound : Sound setup store)
    (isFree : store.gate = .free)
    (member : holder ∈ store.holders)
    (isEntry : store.state.entries holder.identity.digest = some entry)
    (returned : LeaseReturned holder entry changed)
    (awaited : changed.active = true → changed.readiness = .warming →
      (entry.readiness = .warming ∧
        changed.warmingGeneration = entry.warmingGeneration) ∨
      ∃ job generation, changed.warmingGeneration = some generation ∧
        work.job = some job ∧
        job.identity = ⟨generation, mediaIdentity entry.descriptor⟩)
    (gate : GateSound setup
      { store with
        state := store.state.setEntry holder.identity.digest changed
        holders := store.holders.erase holder
        gate := work }) :
    Sound setup
      { store with
        state := store.state.setEntry holder.identity.digest changed
        holders := store.holders.erase holder
        gate := work } where
  entries := by
    intro digest found isFound
    have noJob : ∀ job, store.gate.job = some job → work.job = some job := by
      simp [isFree, GateWork.job]
    rcases entries_setEntry isFound with ⟨rfl, rfl⟩ | ⟨differs, isFormer⟩
    · have entrySound := sound.entries _ entry isEntry
      refine ⟨returned.descriptor ▸ entrySound.named, entrySound.known,
        entrySound.contract, ?_, ?_, ?_, ?_, ?_⟩
      · rw [returned.pinned, returned.active, entrySound.pinned]
      · intro active ready
        rw [returned.descriptor]
        exact entrySound.published (returned.active ▸ active)
          (returned.ready active ready)
      · have read : holder.version ∈ entry.leaseReservations :=
          entrySound.reservations.mem_iff.mpr (mem_versionsRead member)
        rw [returned.leases, returned.reservations, entrySound.leases,
          List.length_erase_of_mem read]
      · rw [returned.reservations]
        exact entrySound.reservations_erase member rfl
      · intro active warming
        rw [returned.descriptor]
        rcases awaited active warming with
            ⟨wasWarming, still⟩ | ⟨job, generation, awaits, released, same⟩
        · obtain ⟨generation, awaits, has⟩ :=
            entrySound.awaited (returned.active ▸ active) wasWarming
          exact ⟨generation, still.trans awaits, has.stays rfl rfl rfl noJob⟩
        · exact ⟨generation, awaits, .released job released same⟩
    · refine (sound.entries digest found isFormer).keep
        (fun _ known => known) (fun _ _ holds => holds) ?_
        (fun _ _ _ _ has => has.stays rfl rfl rfl noJob)
      have perm := versionsRead_erase member digest
      rwa [if_neg fun same => differs same.symm] at perm
  holders := fun other isOther =>
    sound.holders_setEntry isEntry returned.descriptor other
      (List.mem_of_mem_erase isOther)
  inflight := sound.inflight
  staged := sound.staged
  gate := gate

theorem unread_of_returned
    (sound : Sound setup store)
    (member : holder ∈ store.holders)
    (isEntry : store.state.entries holder.identity.digest = some entry)
    (returned : LeaseReturned holder entry changed)
    (last : holder.version ∉ entry.leaseReservations.erase holder.version)
    (current : entry.readVersion = holder.version)
    (notReady : changed.active = true → changed.readiness ≠ .ready) :
    Unread
      { store with
        state := store.state.setEntry holder.identity.digest changed
        holders := store.holders.erase holder
        gate := work }
      holder.identity.digest where
  contract := (sound.entries _ entry isEntry).contract
  notReady := by
    intro found isFound
    cases (entries_setEntry_self ..).symm.trans isFound
    exact notReady
  notRead := by
    intro found isFound other isOther same
    cases (entries_setEntry_self ..).symm.trans isFound
    rw [returned.readVersion, current]
    intro isVersion
    have perm := (sound.entries _ entry isEntry).reservations_erase member rfl
    refine last (perm.mem_iff.mpr ?_)
    have read := mem_versionsRead isOther
    rwa [same, ← isVersion] at read

theorem Sound.rejectRead
    (sound : Sound setup store)
    (step : store.rejectRead holder = some next) :
    Sound setup next := by
  unfold MediaStore.rejectRead at step
  split at step
  · rename_i isFree
    split at step
    · rename_i rejected
      obtain ⟨entry, found⟩ := sound.entryOf_holder rejected.2
      obtain ⟨isEntry, -⟩ := entryOf_some found
      cases step
      simp only [found]
      by_cases current : entry.readVersion = holder.version
      · simp only [if_pos current]
        refine sound.returnLease isFree rejected.2 isEntry
          ⟨⟨rfl, rfl, rfl⟩, rfl, rfl, nofun, rfl⟩ nofun ?_
        split
        · rename_i last
          exact unread_of_returned sound rejected.2 isEntry
            ⟨⟨rfl, rfl, rfl⟩, rfl, rfl, nofun, rfl⟩
            (of_decide_eq_true last) current nofun
        · trivial
      · simp only [if_neg current]
        exact sound.returnLease isFree rejected.2 isEntry
          ⟨⟨rfl, rfl, rfl⟩, rfl, rfl, fun _ ready => ready, rfl⟩
          (fun _ warming => .inl ⟨warming, rfl⟩) trivial
    · cases step
  · cases step

theorem Sound.release
    (sound : Sound setup store)
    (spares : store.SparesReady holder)
    (step : store.release holder = some next) :
    Sound setup next := by
  unfold MediaStore.release at step
  split at step
  · rename_i isFree
    split at step
    · rename_i dropped
      obtain ⟨entry, found⟩ := sound.entryOf_holder dropped.2
      obtain ⟨isEntry, -⟩ := entryOf_some found
      cases step
      simp only [found]
      by_cases quarantined : isQuarantinedBy entry holder.version = true
      · have quarantine := quarantined
        simp only [isQuarantinedBy, Bool.and_eq_true, decide_eq_true_eq]
          at quarantine
        obtain ⟨⟨current, -⟩, last⟩ := quarantine
        have notReady : entry.active = true → entry.readiness ≠ .ready := by
          intro active
          simpa [SparesReady, found, quarantined, active] using spares
        simp only [if_pos quarantined]
        have returned : LeaseReturned holder entry
            { entry.release holder.version with
              pendingQuarantine := none
              readiness :=
                if (requeuedJob entry).isSome then .warming
                else entry.readiness
              diagnostic :=
                if (requeuedJob entry).isSome then none
                else entry.diagnostic } := by
          refine ⟨⟨rfl, rfl, rfl⟩, rfl, rfl, ?_, rfl⟩
          intro _ ready
          split at ready
          · cases ready
          · exact ready
        refine sound.returnLease isFree dropped.2 isEntry returned ?_
          (unread_of_returned sound dropped.2 isEntry returned ?_ current ?_)
        · intro active warming
          cases isJob : requeuedJob entry with
          | none =>
            rw [isJob] at warming
            exact .inl ⟨warming, rfl⟩
          | some job =>
            obtain ⟨generation, awaits, rfl⟩ := Option.map_eq_some_iff.mp
              ((if_pos active).symm.trans isJob)
            exact .inr ⟨_, generation, awaits, rfl, rfl⟩
        · simpa [MediaEntry.release] using last
        · exact fun active ready =>
            notReady active (returned.ready active ready)
      · simp only [if_neg quarantined]
        exact sound.returnLease isFree dropped.2 isEntry
          ⟨⟨rfl, rfl, rfl⟩, rfl, rfl, fun _ ready => ready, rfl⟩
          (fun _ warming => .inl ⟨warming, rfl⟩) trivial
    · cases step
  · cases step

end MediaStore

end VendingSystem.Daemon
