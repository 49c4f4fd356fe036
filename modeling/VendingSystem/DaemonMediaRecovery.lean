import VendingSystem.DaemonMediaRuns

namespace VendingSystem.Daemon

/-!
# The manifest after a crash

Unless a crash cuts a label of the marker off, the next process trusts the
manifest that it finds, which is the last accepted one or the one in progress.
-/

/-- A crash has cut a label off. -/
def IsCutLabel (bytes : List Char) : Prop :=
  ∃ label ∈ markerLabels, bytes <+: label ∧ bytes ≠ label

instance (bytes : List Char) : Decidable (IsCutLabel bytes) :=
  inferInstanceAs
    (Decidable (∃ label ∈ markerLabels, bytes <+: label ∧ bytes ≠ label))

variable {survivors : Survivors} {validate : MediaDescriptor → Option String}
  {removed : Bool} {ready : List String} {next system : MediaSystem}

theorem startupRecovery_label
    (known : ∀ bytes, survivors.marker = some bytes →
      bytes ∈ markerLabels) :
    startupRecovery survivors = .trust := by
  obtain ⟨manifest, marker⟩ := survivors
  cases marker with
  | none => rfl
  | some bytes =>
    have parsed : ∃ phase,
        ManifestTransactionPhase.parse (some bytes) = .ok phase := by
      have label := known bytes rfl
      simp only [markerLabels, List.mem_cons, List.not_mem_nil,
        or_false] at label
      simp only [ManifestTransactionPhase.parse]
      split_ifs with pending completion completed
      · exact ⟨_, rfl⟩
      · exact ⟨_, rfl⟩
      · exact ⟨_, rfl⟩
      · rcases label with is | is | is
        · exact absurd is pending
        · exact absurd is completion
        · exact absurd is completed
    obtain ⟨phase, parsed⟩ := parsed
    simp [startupRecovery, classifyManifestStartup, parsed]

theorem trustedManifest_of_storable
    {manifest : ActiveMediaManifest}
    (storable : Storable validate manifest)
    (marker : Option (List Char)) :
    ∃ interest,
      trustedManifest validate { manifest := some (some manifest), marker } =
          some (manifest.generation, interest) ∧
        interest.candidates = manifest.assets := by
  obtain ⟨interest, normal, same⟩ := storable.normal
  refine ⟨interest, ?_, same⟩
  simp [trustedManifest, storable.named, normal]

/-- What a startup recovers from the files that are left. -/
structure MediaRecovered
    (manifest : Option ActiveMediaManifest)
    (system : MediaSystem) : Prop where
  recovered : system.recovered = manifest
  healthy : system.cache.state.fatalError = none
  kept : system.cache.disk.manifest.IsSettled (manifest.map some)
  generation : system.cache.state.generation = generationOf manifest
  marker : MarkerSound system.cache.disk.marker

theorem boot_recovered
    {validate : MediaDescriptor → Option String}
    {manifest : Option ActiveMediaManifest}
    {marker : Option (List Char)}
    (known : ∀ bytes, marker = some bytes → bytes ∈ markerLabels)
    (storable : ∀ stored, manifest = some stored → Storable validate stored)
    (ready : List String)
    (removed : Bool) :
    MediaRecovered manifest
      (MediaSystem.boot validate { manifest := manifest.map some, marker }
        ready removed) := by
  have trust : startupRecovery { manifest := manifest.map some, marker } =
      .trust :=
    startupRecovery_label known
  have sound : MarkerSound (CrashFile.settled marker) := by
    intro bytes member
    rw [CrashFile.lasting_settled, List.mem_singleton] at member
    exact ⟨bytes, known bytes member.symm, List.prefix_rfl⟩
  have adopted :
      (MediaSystem.boot validate { manifest := manifest.map some, marker }
          ready removed).recovered = manifest ∧
        (MediaSystem.boot validate { manifest := manifest.map some, marker }
          ready removed).cache.state.generation = generationOf manifest := by
    cases manifest with
    | none =>
      have nothing :
          startupManifest validate { manifest := none, marker } = none := by
        simp [startupManifest, trustedManifest]
      simp [MediaSystem.boot, startMediaCache, nothing, generationOf,
        MediaCacheState.empty]
    | some stored =>
      obtain ⟨interest, trusted, same⟩ :=
        trustedManifest_of_storable (storable stored rfl) marker
      have adopts :
          startupManifest validate { manifest := some (some stored), marker } =
            some (stored.generation, interest) :=
        (if_pos trust).trans trusted
      simp [MediaSystem.boot, startMediaCache, adopts, same, generationOf,
        MediaCacheState.generation_recover]
  exact
    { recovered := adopted.1
      healthy := by
        simp [MediaSystem.boot, startMediaCache, trust,
          ManifestStartupRecovery.fatalError]
      kept := CrashFile.isSettled_settled _
      generation := adopted.2
      marker := by
        simp only [MediaSystem.boot, startMediaCache]
        split
        · exact sound.remove
        · exact sound }

/-- A process that has just recovered. -/
theorem MediaInvariant.of_recovered
    {manifest : Option ActiveMediaManifest}
    (storable : ∀ stored, manifest = some stored → Storable validate stored)
    (recovered : MediaRecovered manifest
      (MediaSystem.boot validate survivors ready removed)) :
    MediaInvariant validate
      (MediaSystem.boot validate survivors ready removed) where
  guarded := by
    have isLast :
        (MediaSystem.boot validate survivors ready removed).lastAccepted =
          manifest :=
      recovered.recovered
    rw [isLast]
    exact
      { marker := recovered.marker
        manifest := fun left member =>
          .inl (recovered.kept.lasting left member)
        generation := recovered.generation
        healthy := ⟨fun _ => rfl, fun _ => recovered.healthy⟩
        quiet := fun fatal => absurd recovered.healthy fatal }
  settled := fun _ _ => by
    have isLast :
        (MediaSystem.boot validate survivors ready removed).lastAccepted =
          manifest :=
      recovered.recovered
    rw [isLast]
    exact recovered.kept
  sustains := nofun
  held := nofun
  storable := fun stored isStored => by
    rcases isStored with last | tried
    · exact storable stored (recovered.recovered.symm.trans last)
    · cases tried
  waitingNamed := nofun
  tokensDistinct := .nil
  tokensBelow := nofun
  tokensFresh := nofun
  acceptedBelow := nofun
  ordered := .nil
  closed := .nil

/-- The generation is named, and the crash leaves no label cut off. -/
def MediaEvent.LeavesLabels : MediaEvent → Prop
  | .register generation _ => isBlank generation = false
  | .crash survivors _ _ =>
    ∀ bytes ∈ survivors.marker, ¬ IsCutLabel bytes
  | _ => True

instance (event : MediaEvent) : Decidable event.LeavesLabels := by
  cases event <;> unfold MediaEvent.LeavesLabels <;> infer_instance

/-- After a crash that leaves no label cut off, the startup recovers. -/
theorem MediaInvariant.recovers
    (invariant : MediaInvariant validate system)
    (uncut : ∀ bytes ∈ survivors.marker, ¬ IsCutLabel bytes)
    (step : system.step validate (.crash survivors ready removed) =
      some next) :
    startupRecovery survivors = .trust ∧
      ∃ manifest,
        (manifest = system.lastAccepted ∨ manifest = system.inProgress) ∧
          (∀ stored, manifest = some stored → Storable validate stored) ∧
            MediaRecovered manifest next := by
  simp only [MediaSystem.step] at step
  split at step
  · rename_i left
    cases step
    have known : ∀ bytes, survivors.marker = some bytes →
        bytes ∈ markerLabels := by
      intro bytes isMarker
      obtain ⟨label, isLabel, begins⟩ :=
        invariant.guarded.marker bytes (isMarker ▸ left.2)
      by_cases whole : bytes = label
      · exact whole ▸ isLabel
      · exact absurd ⟨label, isLabel, begins, whole⟩ (uncut bytes isMarker)
    refine ⟨startupRecovery_label known, ?_⟩
    obtain ⟨manifest, marker⟩ := survivors
    rcases invariant.guarded.manifest manifest left.1 with
      rfl | ⟨tried, isTried, rfl⟩
    · have storable : ∀ stored, system.lastAccepted = some stored →
          Storable validate stored :=
        fun stored last => invariant.storable stored (.inl last)
      exact ⟨system.lastAccepted, .inl rfl, storable,
        boot_recovered known storable ready removed⟩
    · have storable : ∀ stored, some tried = some stored →
          Storable validate stored :=
        fun stored same => invariant.storable stored (.inr (isTried.trans same))
      exact ⟨some tried, .inr isTried.symm, storable,
        boot_recovered known storable ready removed⟩
  · cases step

theorem MediaInvariant.step
    {event : MediaEvent}
    (invariant : MediaInvariant validate system)
    (leaves : event.LeavesLabels)
    (step : system.step validate event = some next) :
    MediaInvariant validate next := by
  cases event with
  | register generation descriptors => exact invariant.register leaves step
  | turnAway token => exact invariant.turnAway step
  | enter token => exact invariant.enter step
  | proceed outcome => exact invariant.proceed step
  | release => exact invariant.release step
  | change change => exact invariant.change step
  | cleanUp outcome => exact invariant.cleanUp step
  | shutDown => exact invariant.shutDown step
  | crash survivors ready removed =>
    obtain ⟨-, manifest, -, storable, recovered⟩ :=
      invariant.recovers leaves step
    simp only [MediaSystem.step] at step
    split at step
    · cases step
      exact .of_recovered storable recovered
    · cases step

theorem MediaInvariant.start
    (validate : MediaDescriptor → Option String) :
    MediaInvariant validate (MediaSystem.start validate) := by
  have recovered : MediaRecovered none (MediaSystem.start validate) :=
    @boot_recovered validate none none nofun nofun [] false
  have nothing : ∀ stored, none = some stored → Storable validate stored :=
    nofun
  exact .of_recovered nothing recovered

end VendingSystem.Daemon
