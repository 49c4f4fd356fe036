import VendingSystem.DaemonMediaManifest

namespace VendingSystem.Daemon

open SharedProgram

/-!
# What an adoption sustains

At every step of an adoption, whatever the other tasks do meanwhile, a crash
leaves the manifest of the last accepted adoption or its own, and no marker
but a label or the beginning of one.
-/

def markerLabels : List (List Char) :=
  [pendingReplacementMarker, completionPendingMarker,
    completedReplacementMarker]

/-- A crash leaves no marker, or the beginning of a label. -/
def MarkerSound (marker : CrashFile (List Char)) : Prop :=
  ∀ bytes, some bytes ∈ marker.lasting →
    ∃ label ∈ markerLabels, bytes <+: label

/-- A crash leaves the accepted manifest or the one that is tried. -/
def ManifestSound
    (accepted tried : Option ActiveMediaManifest)
    (manifest : CrashFile ManifestBytes) : Prop :=
  ∀ left ∈ manifest.lasting,
    left = accepted.map some ∨
      ∃ new, tried = some new ∧ left = some (some new)

def generationOf (accepted : Option ActiveMediaManifest) : String :=
  (accepted.map (·.generation)).getD ""

/-- `failed` tells whether an adoption has ended in a fatal error. -/
structure MediaGuarded
    (accepted tried : Option ActiveMediaManifest)
    (failed : Bool)
    (cache : MediaCache) : Prop where
  marker : MarkerSound cache.disk.marker
  manifest : ManifestSound accepted tried cache.disk.manifest
  generation : cache.state.generation = generationOf accepted
  healthy : cache.state.fatalError = none ↔ failed = false
  quiet : cache.state.fatalError ≠ none → cache.state.IsQuiet

/-- The manifest and what is said of it in memory are as before. -/
structure MediaUndisturbed (before after : MediaCache) : Prop where
  disk : after.disk = before.disk
  generation : after.state.generation = before.state.generation
  fatal : after.state.fatalError = before.state.fatalError
  quiet : before.state.IsQuiet → after.state.IsQuiet

/-- What the other tasks do while an adoption holds the reconcile gate. -/
structure MediaRely (token : Nat) (before after : MediaCache) : Prop
    extends MediaUndisturbed before after where
  held : after.linearization = some token ↔ before.linearization = some token
  latest : before.linearization = some token →
    after.latestAdoption = before.latestAdoption

theorem MediaRely.refl (token : Nat) (cache : MediaCache) :
    MediaRely token cache cache where
  disk := rfl
  generation := rfl
  fatal := rfl
  quiet := id
  held := Iff.rfl
  latest := fun _ => rfl

theorem MediaRely.trans
    {token : Nat}
    {first second third : MediaCache}
    (leading : MediaRely token first second)
    (trailing : MediaRely token second third) :
    MediaRely token first third where
  disk := trailing.disk.trans leading.disk
  generation := trailing.generation.trans leading.generation
  fatal := trailing.fatal.trans leading.fatal
  quiet := fun quiet => trailing.quiet (leading.quiet quiet)
  held := trailing.held.trans leading.held
  latest := fun held =>
    (trailing.latest (leading.held.mpr held)).trans (leading.latest held)

/-- What an adoption leaves to the other tasks. -/
structure MediaGuarantee (token : Nat) (before after : MediaCache) : Prop where
  latest : after.latestAdoption = before.latestAdoption
  healthy : after.state.fatalError = none → before.state.fatalError = none
  holder : after.linearization = before.linearization ∨
    after.linearization = none ∨ after.linearization = some token

theorem MediaGuarantee.refl (token : Nat) (cache : MediaCache) :
    MediaGuarantee token cache cache where
  latest := rfl
  healthy := id
  holder := .inl rfl

def mediaInterference (token : Nat) : Interference MediaCache where
  rely := MediaRely token
  guarantee := MediaGuarantee token
  relyRefl := MediaRely.refl token
  relyTrans := MediaRely.trans
  guaranteeRefl := MediaGuarantee.refl token

/-- A durable step leaves the gates alone. -/
theorem MediaGuarantee.outcome
    (token : Nat)
    (action : MediaAction)
    (cache : MediaCache)
    (outcome : Outcome) :
    MediaGuarantee token cache
      (CrashProgram.outcomeState mediaMedium action cache outcome) := by
  cases outcome with
  | succeeds => exact ⟨rfl, id, .inl rfl⟩
  | fails => exact .refl token cache
  | reports => exact ⟨rfl, id, .inl rfl⟩

/-- How far the adoption has gone with the linearization gate. -/
inductive Hold where
  | free
  | locked
  /-- The gate was locked before a later adoption registered. -/
  | latest
  deriving Repr, DecidableEq

def Hold.Meets (token : Nat) (cache : MediaCache) : Hold → Prop
  | free => cache.linearization ≠ some token
  | locked => cache.linearization = some token
  | latest =>
    cache.linearization = some token ∧ cache.latestAdoption = token

/-- What is known of the manifest and of the temporary file. -/
abbrev Placement := CrashFile ManifestBytes → CrashFile ManifestBytes → Prop

/-- The manifest is on the disk for good. -/
def Keeping (manifest : Option ActiveMediaManifest) : Placement :=
  fun file _ => file.IsSettled (manifest.map some)

/-- The manifest has its place, if the directory is synced. -/
def Placed (manifest : Option ActiveMediaManifest) : Placement :=
  fun file _ => file.IsPlaced (manifest.map some)

/-- Nothing is known. -/
def Anywhere : Placement :=
  fun _ _ => True

/-- An adoption at work. -/
structure MediaWorking
    (token : Nat)
    (accepted : Option ActiveMediaManifest)
    (tried : ActiveMediaManifest)
    (placement : Placement)
    (hold : Hold)
    (cache : MediaCache) : Prop where
  guarded : MediaGuarded accepted (some tried) false cache
  place : placement cache.disk.manifest cache.disk.temporary
  hold : hold.Meets token cache

section Stable

variable {token : Nat} {accepted : Option ActiveMediaManifest}
  {cache : MediaCache} {tried : ActiveMediaManifest} {placement : Placement}
  {hold : Hold}

theorem MediaGuarded.undisturbed
    {tried : Option ActiveMediaManifest}
    {failed : Bool}
    {before after : MediaCache}
    (guarded : MediaGuarded accepted tried failed before)
    (same : MediaUndisturbed before after) :
    MediaGuarded accepted tried failed after where
  marker := same.disk ▸ guarded.marker
  manifest := same.disk ▸ guarded.manifest
  generation := same.generation.trans guarded.generation
  healthy :=
    (iff_of_eq (congrArg (· = none) same.fatal)).trans guarded.healthy
  quiet := fun fatal => same.quiet (guarded.quiet (same.fatal ▸ fatal))

theorem Hold.stable {hold : Hold} :
    Stable (mediaInterference token) (hold.Meets token) := by
  intro before after met relied
  cases hold with
  | free => exact fun held => met (relied.held.mp held)
  | locked => exact relied.held.mpr met
  | latest =>
    exact ⟨relied.held.mpr met.1, (relied.latest met.1).trans met.2⟩

/-- The gates are no files. -/
theorem Hold.Meets.act
    (met : hold.Meets token cache)
    (action : MediaAction) :
    hold.Meets token (cache.act action) := by
  cases hold with
  | free | locked | latest => exact met

theorem MediaWorking.stable :
    Stable (mediaInterference token)
      (MediaWorking token accepted tried placement hold) := by
  intro before after working relied
  exact
    { guarded := working.guarded.undisturbed relied.toMediaUndisturbed
      place := relied.disk ▸ working.place
      hold := Hold.stable before after working.hold relied }

theorem MediaWorking.healthy
    (working : MediaWorking token accepted tried placement hold cache) :
    cache.state.fatalError = none :=
  working.guarded.healthy.mpr rfl

theorem MediaWorking.place_of
    {other : Placement}
    (working : MediaWorking token accepted tried placement hold cache)
    (places : ∀ manifest temporary,
      placement manifest temporary → other manifest temporary) :
    MediaWorking token accepted tried other hold cache :=
  { working with place := places _ _ working.place }

end Stable

variable {marker : CrashFile (List Char)} {label written : List Char}
  {manifest : CrashFile ManifestBytes}

section

variable (sound : MarkerSound marker)

include sound

theorem MarkerSound.of_mem
    {other : CrashFile (List Char)}
    (mem : ∀ bytes, some bytes ∈ other.lasting →
      some bytes ∈ marker.lasting ∨
        ∃ label ∈ markerLabels, bytes <+: label) :
    MarkerSound other :=
  fun bytes member => (mem bytes member).elim (sound bytes) id

theorem MarkerSound.create :
    MarkerSound (marker.create []) := by
  refine sound.of_mem fun bytes member => ?_
  rcases CrashFile.mem_lasting_create member with empty | former
  · cases empty
    exact .inr ⟨pendingReplacementMarker, List.mem_cons_self, List.nil_prefix⟩
  · exact .inl former

theorem MarkerSound.write
    (known : label ∈ markerLabels)
    (begins : written <+: label) :
    MarkerSound (marker.write written) := by
  refine sound.of_mem fun bytes member => ?_
  rcases CrashFile.mem_lasting_write member with added | former
  · cases added
    exact .inr ⟨label, known, begins⟩
  · exact .inl former

theorem MarkerSound.sync
    (known : label ∈ markerLabels)
    (visible : marker.visible = some written)
    (begins : written <+: label) :
    MarkerSound marker.sync := by
  refine sound.of_mem fun bytes member => ?_
  rcases CrashFile.mem_lasting_sync member with seen | earlier
  · rw [visible] at seen
    cases seen
    exact .inr ⟨label, known, begins⟩
  · exact .inl (CrashFile.mem_lasting_iff.mpr (.inl earlier))

theorem MarkerSound.remove :
    MarkerSound marker.remove := by
  refine sound.of_mem fun bytes member => ?_
  rcases CrashFile.mem_lasting_remove member with gone | former
  · cases gone
  · exact .inl former

theorem MarkerSound.syncEntry :
    MarkerSound marker.syncEntry :=
  sound.of_mem fun _ member =>
    .inl (CrashFile.mem_lasting_iff.mpr
      (.inr (CrashFile.mem_lasting_syncEntry member)))

end

theorem ManifestSound.syncEntry
    {accepted tried : Option ActiveMediaManifest}
    (sound : ManifestSound accepted tried manifest) :
    ManifestSound accepted tried manifest.syncEntry :=
  fun left member =>
    sound left (CrashFile.mem_lasting_iff.mpr
      (.inr (CrashFile.mem_lasting_syncEntry member)))

theorem ManifestSound.remove
    {tried : Option ActiveMediaManifest}
    (sound : ManifestSound none tried manifest) :
    ManifestSound none tried manifest.remove := by
  intro left member
  rcases CrashFile.mem_lasting_remove member with gone | former
  · exact .inl gone
  · exact sound left former

theorem ManifestSound.replaceBy
    {accepted tried : Option ActiveMediaManifest}
    {temporary : CrashFile ManifestBytes}
    (sound : ManifestSound accepted tried manifest)
    {bytes : ManifestBytes}
    (holds : temporary.Holds bytes)
    (known : some bytes = accepted.map some ∨
      ∃ new, tried = some new ∧ bytes = some new) :
    ManifestSound accepted tried
      (CrashFile.replaceBy temporary manifest) := by
  intro left member
  rcases holds.mem_lasting_replaceBy member with rfl | former
  · rcases known with former | ⟨new, isTried, rfl⟩
    · exact .inl former
    · exact .inr ⟨new, isTried, rfl⟩
  · exact sound left former

section Steps

variable {token : Nat} {accepted kept : Option ActiveMediaManifest}
  {tried : ActiveMediaManifest} {placement other : Placement} {hold : Hold}
  {cache state : MediaCache} {rest : List MediaAction} {action : MediaAction}
  {disk : MediaDisk} {interest : InterestSet} {generation : String}

/-- A program that keeps the files guarded. -/
abbrev SectionKeeps
    {Result : Type}
    (token : Nat)
    (accepted : Option ActiveMediaManifest)
    (tried : Option ActiveMediaManifest)
    (failed : Bool)
    (post : Result → MediaCache → Prop)
    (program : MediaProgram Result)
    (cache : MediaCache) : Prop :=
  program.Sustains mediaMedium (mediaInterference token)
    (MediaGuarded accepted tried failed) post cache

theorem SectionKeeps.bind
    {Result Other : Type}
    {tried : Option ActiveMediaManifest}
    {failed : Bool}
    {program : MediaProgram Result}
    {later : Result → MediaProgram Other}
    {between : Result → MediaCache → Prop}
    {post : Other → MediaCache → Prop}
    (first : SectionKeeps token accepted tried failed between program cache)
    (second : ∀ result cache, between result cache →
      SectionKeeps token accepted tried failed post (later result) cache) :
    SectionKeeps token accepted tried failed post (program >>= later) cache :=
  Sustains.bind (first.weaken second)

/-- The disk after one step, if the step took effect. -/
theorem outcomeState_cases
    (cache : MediaCache)
    (action : MediaAction)
    (outcome : Outcome) :
    CrashProgram.outcomeState mediaMedium action cache outcome =
        cache.act action ∨
      outcome ≠ .succeeds ∧
        CrashProgram.outcomeState mediaMedium action cache outcome = cache := by
  cases outcome with
  | succeeds => exact .inl rfl
  | fails => exact .inr ⟨nofun, rfl⟩
  | reports => exact .inl rfl

section

variable (working : MediaWorking token accepted tried placement hold cache)

include working

/-- One durable step, whatever its outcome. -/
theorem MediaWorking.performOne
    (action : MediaAction)
    (other failed : Placement)
    (undone : ∀ manifest temporary,
      placement manifest temporary → failed manifest temporary)
    (acts : ∀ cache, MediaWorking token accepted tried placement hold cache →
      MediaWorking token accepted tried other hold (cache.act action) ∧
        MediaWorking token accepted tried failed hold (cache.act action)) :
    SectionKeeps token accepted (some tried) false
      (fun succeeded =>
        MediaWorking token accepted tried
          (if succeeded then other else failed) hold)
      (.performOne action) cache := by
  refine .performOne MediaWorking.stable working (fun _ now => now.guarded)
    (fun _ => MediaWorking.stable) fun state outcome now =>
      ⟨.outcome token action state outcome, ?_⟩
  rcases outcomeState_cases state action outcome with
    effect | ⟨failure, unchanged⟩
  · rw [effect]
    by_cases succeeded : outcome = .succeeds
    · simpa [succeeded] using (acts state now).1
    · simpa [succeeded] using (acts state now).2
  · rw [unchanged]
    simpa [failure] using now.place_of undone

theorem MediaWorking.act_marker
    (action : MediaAction)
    (manifest : (cache.disk.act action).manifest = cache.disk.manifest)
    (temporary : (cache.disk.act action).temporary = cache.disk.temporary)
    (marker : MarkerSound (cache.disk.act action).marker) :
    MediaWorking token accepted tried placement hold (cache.act action) where
  guarded :=
    { marker
      manifest := by
        have sound := working.guarded.manifest
        rw [← manifest] at sound
        exact sound
      generation := working.guarded.generation
      healthy := working.guarded.healthy
      quiet := working.guarded.quiet }
  place := by
    have place := working.place
    rw [← manifest, ← temporary] at place
    exact place
  hold := working.hold.act action

theorem MediaWorking.removeMarker :
    SectionKeeps token accepted (some tried) false
      (fun _ => MediaWorking token accepted tried placement hold)
      (.performOne .removeMarker) cache := by
  refine (working.performOne .removeMarker placement placement
    (fun _ _ => id) fun cache now => ?_).weaken fun succeeded _ after => by
      cases succeeded with
      | true => exact after
      | false => exact after
  have removed := now.act_marker .removeMarker rfl rfl now.guarded.marker.remove
  exact ⟨removed, removed⟩

theorem MediaWorking.idle
    (action : MediaAction)
    (isIdle : ∀ disk : MediaDisk, disk.act action = disk) :
    SectionKeeps token accepted (some tried) false
      (fun _ => MediaWorking token accepted tried placement hold)
      (.performOne action) cache := by
  refine (working.performOne action placement placement (fun _ _ => id)
    fun cache now => ?_).weaken fun succeeded _ after => by
      cases succeeded with
      | true => exact after
      | false => exact after
  have same := isIdle cache.disk
  have after := now.act_marker action
    (congrArg MediaDisk.manifest same) (congrArg MediaDisk.temporary same)
    (same.symm ▸ now.guarded.marker)
  exact ⟨after, after⟩

theorem MediaWorking.syncDirectory
    (other : Placement)
    (synced : ∀ manifest temporary, placement manifest temporary →
      other manifest.syncEntry temporary.syncEntry ∧
        placement manifest.syncEntry temporary.syncEntry) :
    SectionKeeps token accepted (some tried) false
      (fun succeeded =>
        MediaWorking token accepted tried
          (if succeeded then other else placement) hold)
      (.performOne .syncDirectory) cache := by
  refine working.performOne .syncDirectory other placement (fun _ _ => id)
    fun cache now => ?_
  have guarded :
      MediaGuarded accepted (some tried) false (cache.act .syncDirectory) :=
    { marker := now.guarded.marker.syncEntry
      manifest := now.guarded.manifest.syncEntry
      generation := now.guarded.generation
      healthy := now.guarded.healthy
      quiet := now.guarded.quiet }
  have met := now.hold.act .syncDirectory
  have places := synced _ _ now.place
  exact
    ⟨⟨guarded, places.1, met⟩,
      ⟨guarded, places.2, met⟩⟩

end

/-- What is left to do of a label that is written in place. -/
def LabelLeft
    (label : List Char)
    (rest : List MediaAction)
    (marker : CrashFile (List Char)) : Prop :=
  rest = [] ∨
    rest = .createMarker :: (label.map .appendMarker ++ [.syncMarker]) ∨
      ∃ written left,
        label = written ++ left ∧ marker.visible = some written ∧
          rest = left.map .appendMarker ++ [.syncMarker]

theorem LabelLeft.act
    (known : label ∈ markerLabels)
    (left : LabelLeft label (action :: rest) disk.marker)
    (sound : MarkerSound disk.marker) :
    (disk.act action).manifest = disk.manifest ∧
      (disk.act action).temporary = disk.temporary ∧
        MarkerSound (disk.act action).marker ∧
          LabelLeft label rest (disk.act action).marker := by
  rcases left with done | begins | ⟨written, left, rfl, visible, shape⟩
  · cases done
  · cases begins
    exact ⟨rfl, rfl, sound.create, .inr (.inr
      ⟨[], label, rfl, CrashFile.visible_create [], rfl⟩)⟩
  · cases left with
    | nil =>
      cases shape
      exact ⟨rfl, rfl,
        sound.sync known visible (List.prefix_append written []),
        .inl rfl⟩
    | cons byte left =>
      cases shape
      refine ⟨rfl, rfl, ?_,
        .inr (.inr ⟨written ++ [byte], left, ?_, ?_, rfl⟩)⟩
      · refine sound.write known ?_
        simp [visible]
      · simp
      · simp only [MediaDisk.act, visible, Option.getD_some]
        exact CrashFile.visible_write visible

theorem MediaWorking.writeMarker
    (working : MediaWorking token accepted tried placement hold cache)
    (known : label ∈ markerLabels) :
    SectionKeeps token accepted (some tried) false
      (fun _ => MediaWorking token accepted tried placement hold)
      (writeMarkerDurably label) cache := by
  refine .performAll
    (fun rest cache =>
      MediaWorking token accepted tried placement hold cache ∧
        LabelLeft label rest cache.disk.marker)
    ?_ MediaWorking.stable (fun _ _ now => now.1.guarded) ?_
    (fun _ now => now.1) ⟨working, .inr (.inl rfl)⟩
  · intro rest before after now relied
    exact ⟨MediaWorking.stable before after now.1 relied, relied.disk ▸ now.2⟩
  · intro action rest state outcome now
    refine ⟨.outcome token action state outcome, ?_⟩
    have acted := now.2.act known now.1.guarded.marker
    have after := now.1.act_marker action acted.1 acted.2.1 acted.2.2.1
    rcases outcomeState_cases state action outcome with
      effect | ⟨failure, unchanged⟩
    · rw [effect]
      by_cases succeeded : outcome = .succeeds
      · rw [if_pos succeeded]
        exact ⟨after, acted.2.2.2⟩
      · rw [if_neg succeeded]
        exact after
    · rw [unchanged, if_neg failure]
      exact now.1

def TemporaryLeft
    (bytes : ManifestBytes)
    (rest : List MediaAction)
    (temporary : CrashFile ManifestBytes) : Prop :=
  match rest with
  | [] => temporary.Holds bytes
  | [last] => last = .syncTemporary ∧ temporary.visible = some bytes
  | [first, last] =>
    first = .writeTemporary bytes ∧ last = .syncTemporary ∧
      temporary.visible = some none
  | rest =>
    rest = [.createTemporary, .writeTemporary bytes, .syncTemporary]

theorem TemporaryLeft.act
    {bytes : ManifestBytes}
    (left : TemporaryLeft bytes (action :: rest) disk.temporary) :
    (disk.act action).manifest = disk.manifest ∧
      (disk.act action).marker = disk.marker ∧
        TemporaryLeft bytes rest (disk.act action).temporary := by
  match rest, left with
  | [], ⟨isSync, visible⟩ =>
    subst isSync
    exact ⟨rfl, rfl, .of_sync visible⟩
  | [_], ⟨isWrite, isSync, visible⟩ =>
    subst isWrite isSync
    exact ⟨rfl, rfl, rfl, CrashFile.visible_write visible⟩
  | _ :: _ :: _, shape =>
    cases shape
    exact ⟨rfl, rfl, rfl, rfl, CrashFile.visible_create none⟩

theorem MediaWorking.act_temporary
    {onManifest : CrashFile ManifestBytes → Prop}
    (working :
      MediaWorking token accepted tried
        (fun file _ => onManifest file) hold cache)
    {action : MediaAction}
    (manifest : (cache.disk.act action).manifest = cache.disk.manifest)
    (marker : (cache.disk.act action).marker = cache.disk.marker) :
    MediaWorking token accepted tried (fun file _ => onManifest file) hold
      (cache.act action) where
  guarded :=
    { marker := by
        have sound := working.guarded.marker
        rw [← marker] at sound
        exact sound
      manifest := by
        have sound := working.guarded.manifest
        rw [← manifest] at sound
        exact sound
      generation := working.guarded.generation
      healthy := working.guarded.healthy
      quiet := working.guarded.quiet }
  place := by
    have place := working.place
    rw [← manifest] at place
    exact place
  hold := working.hold.act action

/-- The temporary file is written and synced, or the manifest is as before. -/
theorem MediaWorking.writeTemporary
    (onManifest : CrashFile ManifestBytes → Prop)
    (working :
      MediaWorking token accepted tried
        (fun file _ => onManifest file) hold cache)
    (bytes : ManifestBytes) :
    SectionKeeps token accepted (some tried) false
      (fun written =>
        MediaWorking token accepted tried
          (fun file temporary =>
            onManifest file ∧ (written = true → temporary.Holds bytes))
          hold)
      (writeTemporaryDurably bytes) cache := by
  refine .performAll
    (fun rest cache =>
      MediaWorking token accepted tried (fun file _ => onManifest file) hold
          cache ∧
        TemporaryLeft bytes rest cache.disk.temporary)
    ?_ MediaWorking.stable (fun _ _ now => now.1.guarded) ?_
    (fun _ now =>
      { now.1 with place := ⟨now.1.place, fun _ => now.2⟩ })
    ⟨working, rfl⟩
  · intro rest before after now relied
    exact ⟨MediaWorking.stable before after now.1 relied, relied.disk ▸ now.2⟩
  · intro action rest state outcome now
    refine ⟨.outcome token action state outcome, ?_⟩
    have acted := now.2.act
    have after := now.1.act_temporary acted.1 acted.2.1
    rcases outcomeState_cases state action outcome with
      effect | ⟨failure, unchanged⟩
    · rw [effect]
      by_cases succeeded : outcome = .succeeds
      · rw [if_pos succeeded]
        exact ⟨after, acted.2.2⟩
      · rw [if_neg succeeded]
        exact { after with place := ⟨after.place, nofun⟩ }
    · rw [unchanged, if_neg failure]
      exact { now.1 with place := ⟨now.1.place, nofun⟩ }

theorem MediaWorking.replaceManifest
    {placed : ActiveMediaManifest}
    (known : accepted = some placed ∨ tried = placed)
    (working :
      MediaWorking token accepted tried
        (fun _ temporary => temporary.Holds (some placed)) hold cache) :
    SectionKeeps token accepted (some tried) false
      (fun replaced =>
        MediaWorking token accepted tried
          (if replaced then Placed (some placed) else Anywhere) hold)
      (.performOne .replaceManifest) cache := by
  refine working.performOne .replaceManifest (Placed (some placed)) Anywhere
    (fun _ _ _ => trivial) fun cache now => ?_
  have guarded : MediaGuarded accepted (some tried) false
      (cache.act .replaceManifest) :=
    { marker := now.guarded.marker
      manifest := now.guarded.manifest.replaceBy now.place (by
        rcases known with rfl | rfl
        · exact .inl rfl
        · exact .inr ⟨tried, rfl, rfl⟩)
      generation := now.guarded.generation
      healthy := now.guarded.healthy
      quiet := now.guarded.quiet }
  have placed :
      Placed (some placed) (cache.act .replaceManifest).disk.manifest
        (cache.act .replaceManifest).disk.temporary :=
    CrashFile.IsPlaced.of_replaceBy now.place
  exact
    ⟨⟨guarded, placed, now.hold.act _⟩,
      ⟨guarded, trivial, now.hold.act _⟩⟩

/-- The accepted manifest is put back into its place. -/
theorem MediaWorking.restoreManifest
    (working : MediaWorking token accepted tried Anywhere hold cache) :
    SectionKeeps token accepted (some tried) false
      (fun restored =>
        MediaWorking token accepted tried
          (if restored then Placed accepted else Anywhere) hold)
      (restoreManifest (accepted.map some)) cache := by
  cases accepted with
  | none =>
    refine working.performOne .removeManifest (Placed none) Anywhere
      (fun _ _ => id) fun cache now => ?_
    have guarded :
        MediaGuarded none (some tried) false (cache.act .removeManifest) :=
      { marker := now.guarded.marker
        manifest := now.guarded.manifest.remove
        generation := now.guarded.generation
        healthy := now.guarded.healthy
        quiet := now.guarded.quiet }
    exact
      ⟨⟨guarded, .of_remove, now.hold.act _⟩,
        ⟨guarded, trivial, now.hold.act _⟩⟩
  | some former =>
    refine SectionKeeps.bind
      (MediaWorking.writeTemporary (fun _ => True) working (some former)) ?_
    intro written state now
    cases written with
    | false =>
      exact .result MediaWorking.stable now fun _ later =>
        later.place_of fun _ _ _ => trivial
    | true =>
      exact MediaWorking.replaceManifest (.inl rfl)
        (now.place_of fun _ _ place => place.2 rfl)

/-- What holds when the transaction has ended. -/
def Persisted
    (token : Nat)
    (accepted : Option ActiveMediaManifest)
    (tried : ActiveMediaManifest) :
    PersistenceResult → MediaCache → Prop
  | .ok () => MediaWorking token accepted tried (Keeping (some tried)) .latest
  | .error error =>
    MediaWorking token accepted tried
      (if error.fatal then Anywhere else Keeping accepted) .free

theorem Persisted.fatal
    (working : MediaWorking token accepted tried placement .free state)
    (message : String) :
    SectionKeeps token accepted (some tried) false
      (Persisted token accepted tried)
      (pure (fatalFailure message)) state :=
  .result MediaWorking.stable working fun _ later =>
    later.place_of fun _ _ _ => trivial

theorem Persisted.ordinary
    (working : MediaWorking token accepted tried placement .free state)
    (keeps : ∀ manifest temporary, placement manifest temporary →
      Keeping accepted manifest temporary)
    (message : String) :
    SectionKeeps token accepted (some tried) false
      (Persisted token accepted tried)
      (pure (ordinaryFailure message)) state :=
  .result MediaWorking.stable working fun _ later => later.place_of keeps

theorem MediaWorking.syncPlaced
    (working : MediaWorking token accepted tried (Placed kept) hold cache) :
    SectionKeeps token accepted (some tried) false
      (fun synced =>
        MediaWorking token accepted tried
          (if synced then Keeping kept else Placed kept) hold)
      (.performOne .syncDirectory) cache :=
  working.syncDirectory (Keeping kept) fun _ _ placed =>
    ⟨CrashFile.IsPlaced.syncEntry placed,
      { visible := placed.visible, entry := placed.entry }⟩

theorem MediaWorking.syncKept
    (working : MediaWorking token accepted tried (Keeping kept) hold cache) :
    SectionKeeps token accepted (some tried) false
      (fun _ => MediaWorking token accepted tried (Keeping kept) hold)
      (.performOne .syncDirectory) cache := by
  refine (working.syncDirectory (Keeping kept) fun _ _ keeping =>
    ⟨CrashFile.IsSettled.syncEntry keeping,
      CrashFile.IsSettled.syncEntry keeping⟩).weaken fun synced _ after => ?_
  cases synced with
  | false => exact after
  | true => exact after

theorem MediaWorking.rollbackManifest
    (working : MediaWorking token accepted tried placement .free cache)
    (cause : String) :
    SectionKeeps token accepted (some tried) false
      (Persisted token accepted tried)
      (rollbackManifest (accepted.map some) cause) cache := by
  refine SectionKeeps.bind (working.place_of
    fun _ _ _ => trivial).restoreManifest ?_
  intro restored state now
  cases restored with
  | false => exact Persisted.fatal now _
  | true =>
    refine SectionKeeps.bind (MediaWorking.syncPlaced now) ?_
    intro synced state now
    cases synced with
    | false => exact Persisted.fatal now _
    | true =>
      refine SectionKeeps.bind now.removeMarker ?_
      intro removed state now
      cases removed with
      | false => exact Persisted.fatal now _
      | true =>
        refine SectionKeeps.bind (MediaWorking.syncKept now) ?_
        intro completed state now
        cases completed with
        | false => exact Persisted.fatal now _
        | true => exact Persisted.ordinary now (fun _ _ => id) _

/-- The gate is given back. -/
theorem MediaWorking.unlock
    (working : MediaWorking token accepted tried placement hold cache) :
    SectionKeeps token accepted (some tried) false
      (fun _ => MediaWorking token accepted tried placement .free)
      unlockLinearization cache := by
  refine .await MediaWorking.stable working (fun _ now => now.guarded)
    MediaWorking.stable fun state now _ => ⟨⟨rfl, id, .inr (.inl rfl)⟩, ?_⟩
  exact
    { guarded :=
        { marker := now.guarded.marker
          manifest := now.guarded.manifest
          generation := now.guarded.generation
          healthy := now.guarded.healthy
          quiet := now.guarded.quiet }
      place := now.place
      hold := nofun }

theorem MediaWorking.lock
    (working : MediaWorking token accepted tried placement .free cache) :
    SectionKeeps token accepted (some tried) false
      (fun _ => MediaWorking token accepted tried placement .locked)
      (lockLinearization token) cache := by
  refine .await MediaWorking.stable working (fun _ now => now.guarded)
    MediaWorking.stable fun state now _ => ⟨⟨rfl, id, .inr (.inr rfl)⟩, ?_⟩
  exact
    { guarded :=
        { marker := now.guarded.marker
          manifest := now.guarded.manifest
          generation := now.guarded.generation
          healthy := now.guarded.healthy
          quiet := now.guarded.quiet }
      place := now.place
      hold := rfl }

/-- Under the gate, no later adoption registers any more. -/
theorem MediaWorking.isLatestLocked
    (working : MediaWorking token accepted tried placement .locked cache) :
    SectionKeeps token accepted (some tried) false
      (fun latest =>
        MediaWorking token accepted tried placement
          (if latest then .latest else .locked))
      (isLatestAdoption token) cache := by
  refine .ask MediaWorking.stable working (fun _ now => now.guarded) ?_
  intro state now
  refine ⟨MediaWorking.stable, ?_⟩
  by_cases latest :
      (!state.isShutdown && state.latestAdoption = token) = true
  · rw [if_pos latest]
    simp only [Bool.and_eq_true, decide_eq_true_eq] at latest
    exact { now with hold := ⟨now.hold, latest.2⟩ }
  · rw [if_neg latest]
    exact now

theorem MediaWorking.isLatest
    (working : MediaWorking token accepted tried placement hold cache) :
    SectionKeeps token accepted (some tried) false
      (fun _ => MediaWorking token accepted tried placement hold)
      (isLatestAdoption token) cache :=
  .ask MediaWorking.stable working (fun _ now => now.guarded)
    fun _ now => ⟨MediaWorking.stable, now⟩

theorem MediaWorking.completeManifest
    (working :
      MediaWorking token accepted tried (Keeping (some tried)) .free cache) :
    SectionKeeps token accepted (some tried) false
      (Persisted token accepted tried)
      (completeManifest token (accepted.map some)) cache := by
  refine SectionKeeps.bind working.lock fun _ state now => ?_
  refine SectionKeeps.bind now.isLatestLocked fun latest state now => ?_
  cases latest with
  | false =>
    exact SectionKeeps.bind now.unlock fun _ _ later => later.rollbackManifest _
  | true =>
    refine SectionKeeps.bind (now.writeMarker (by simp [markerLabels]))
      fun pending state now => ?_
    cases pending with
    | false =>
      exact SectionKeeps.bind now.unlock
        fun _ _ later => later.rollbackManifest _
    | true =>
      refine SectionKeeps.bind (MediaWorking.syncKept now)
        fun synced state now => ?_
      cases synced with
      | false =>
        exact SectionKeeps.bind now.unlock fun _ _ later =>
          later.rollbackManifest _
      | true =>
        refine SectionKeeps.bind (now.writeMarker (by simp [markerLabels]))
          fun completed state now => ?_
        cases completed with
        | false =>
          exact SectionKeeps.bind now.unlock fun _ _ later =>
            Persisted.fatal later _
        | true =>
          refine SectionKeeps.bind now.removeMarker fun removed state now => ?_
          cases removed with
          | false => exact .result MediaWorking.stable now fun _ => id
          | true =>
            refine SectionKeeps.bind (MediaWorking.syncKept now)
              fun _ state now => ?_
            exact .result MediaWorking.stable now fun _ => id

theorem MediaWorking.replacesManifest
    (working :
      MediaWorking token accepted tried
        (fun _ temporary => temporary.Holds (some tried)) .free cache) :
    SectionKeeps token accepted (some tried) false
      (Persisted token accepted tried)
      (Daemon.replaceManifest token (accepted.map some)) cache := by
  refine SectionKeeps.bind (MediaWorking.replaceManifest (.inr rfl) working)
    fun replaced state now => ?_
  cases replaced with
  | false => exact now.rollbackManifest _
  | true =>
    refine SectionKeeps.bind (MediaWorking.syncPlaced now)
      fun synced state now => ?_
    cases synced with
    | false => exact now.rollbackManifest _
    | true =>
      refine SectionKeeps.bind now.isLatest fun latest state now => ?_
      cases latest with
      | false => exact now.rollbackManifest _
      | true => exact now.completeManifest

theorem MediaWorking.askManifest
    (working : MediaWorking token accepted tried placement hold cache)
    (keeps : ∀ manifest temporary, placement manifest temporary →
      Keeping accepted manifest temporary) :
    SectionKeeps token accepted (some tried) false
      (fun previous cache =>
        previous = accepted.map some ∧
          MediaWorking token accepted tried placement hold cache)
      (.ask fun cache => cache.disk.manifest.visible) cache := by
  refine .ask MediaWorking.stable working (fun _ now => now.guarded)
    fun state now => ⟨?_, (keeps _ _ now.place).visible, now⟩
  intro before after relation relied
  exact ⟨relation.1, MediaWorking.stable before after relation.2 relied⟩

theorem MediaWorking.persistManifest
    (working :
      MediaWorking token accepted tried (Keeping accepted) .free cache) :
    SectionKeeps token accepted (some tried) false
      (Persisted token accepted tried)
      (persistManifest tried token) cache := by
  refine SectionKeeps.bind
    (MediaWorking.writeTemporary (fun file => file.IsSettled (accepted.map some))
      working (some tried))
    fun staged state now => ?_
  cases staged with
  | false => exact Persisted.ordinary now (fun _ _ place => place.1) _
  | true =>
    refine SectionKeeps.bind (now.idle .readManifest fun _ => rfl)
      fun readable state now => ?_
    cases readable with
    | false => exact Persisted.ordinary now (fun _ _ place => place.1) _
    | true =>
      refine SectionKeeps.bind (now.askManifest fun _ _ place => place.1)
        fun previous state now => ?_
      obtain ⟨rfl, now⟩ := now
      refine SectionKeeps.bind (now.writeMarker (by simp [markerLabels]))
        fun marked state now => ?_
      cases marked with
      | false => exact Persisted.ordinary now (fun _ _ place => place.1) _
      | true =>
        refine SectionKeeps.bind (now.syncDirectory
          (fun _ temporary => temporary.Holds (some tried))
          fun _ _ place => ⟨place.2 rfl, place.1.syncEntry, place.2⟩)
          fun synced state now => ?_
        cases synced with
        | false => exact Persisted.ordinary now (fun _ _ place => place.1) _
        | true => exact MediaWorking.replacesManifest now

/-- An adoption that has the reconcile gate and has changed nothing. -/
structure Entered
    (token : Nat)
    (accepted progress : Option ActiveMediaManifest)
    (tried : ActiveMediaManifest)
    (failed : Bool)
    (cache : MediaCache) : Prop where
  guarded : MediaGuarded accepted progress failed cache
  mine : failed = false → progress = some tried
  kept : failed = false →
    cache.disk.manifest.IsSettled (accepted.map some)
  free : cache.linearization ≠ some token

theorem Entered.stable
    {progress : Option ActiveMediaManifest}
    {failed : Bool} :
    Stable (mediaInterference token)
      (Entered token accepted progress tried failed) := by
  intro before after entered relied
  exact
    { guarded := entered.guarded.undisturbed relied.toMediaUndisturbed
      mine := entered.mine
      kept := fun healthy => relied.disk ▸ entered.kept healthy
      free := fun held => entered.free (relied.held.mp held) }

theorem Entered.working
    (entered : Entered token accepted (some tried) tried false cache) :
    MediaWorking token accepted tried (Keeping accepted) .free cache where
  guarded := entered.guarded
  place := entered.kept rfl
  hold := entered.free

theorem MediaWorking.entered
    (working :
      MediaWorking token accepted tried (Keeping accepted) .free cache) :
    Entered token accepted (some tried) tried false cache where
  guarded := working.guarded
  mine := fun _ => rfl
  kept := fun _ => working.place
  free := working.hold

/-- What holds when an adoption returns. -/
def Adopted
    (token : Nat)
    (accepted progress : Option ActiveMediaManifest)
    (tried : ActiveMediaManifest)
    (failed : Bool) :
    AdoptionAnswer → MediaCache → Prop
  | .accepted =>
    MediaWorking token (some tried) tried (Keeping (some tried)) .latest
  | .refused _ => Entered token accepted progress tried failed
  | .fatal _ => fun cache =>
    failed = false ∧ MediaGuarded accepted (some tried) true cache

theorem Adopted.refused
    (working : MediaWorking token accepted tried (Keeping accepted) .free cache)
    (message : String) :
    SectionKeeps token accepted (some tried) false
      (Adopted token accepted (some tried) tried false)
      (pure (.refused message)) cache :=
  .result MediaWorking.stable working fun _ later => later.entered

theorem MediaWorking.enterFatal
    (working : MediaWorking token accepted tried Anywhere .free cache)
    (error : String) :
    SectionKeeps token accepted (some tried) false
      (Adopted token accepted (some tried) tried false)
      (do
        .change fun cache =>
          { cache with state := cache.state.enterFatal error }
        return .fatal error) cache := by
  have stable : Stable (mediaInterference token)
      (Adopted token accepted (some tried) tried false (.fatal error)) := by
    intro before after now relied
    exact ⟨now.1, now.2.undisturbed relied.toMediaUndisturbed⟩
  refine SectionKeeps.bind (.await MediaWorking.stable working
    (fun _ now => now.guarded) stable fun state now _ => ?_)
    fun _ state now => .result stable now fun _ => id
  refine ⟨⟨rfl, nofun, .inl rfl⟩, rfl, ?_⟩
  exact
    { marker := now.guarded.marker
      manifest := now.guarded.manifest
      generation := now.guarded.generation
      healthy := ⟨nofun, nofun⟩
      quiet := fun _ => MediaCacheState.isQuiet_enterFatal state.state error }

/-- The interest takes its place in memory once its manifest is on the disk. -/
theorem MediaWorking.adopts
    (working :
      MediaWorking token accepted tried (Keeping (some tried)) .latest cache)
    (objects : List MediaObject)
    (published : String → Bool) :
    SectionKeeps token accepted (some tried) false
      (Adopted token accepted (some tried) tried false)
      (do
        .change fun cache =>
          { cache with
            state := cache.state.adopt tried.generation objects published }
        return .accepted) cache := by
  have stable : Stable (mediaInterference token)
      (Adopted token accepted (some tried) tried false .accepted) :=
    MediaWorking.stable
  refine SectionKeeps.bind (.await MediaWorking.stable working
    (fun _ now => now.guarded) stable fun state now _ => ?_)
    fun _ state now => .result stable now fun _ => id
  have healthy :
      (state.state.adopt tried.generation objects published).fatalError =
        none :=
    (MediaCacheState.fatalError_adopt ..).trans now.healthy
  refine ⟨⟨rfl, fun _ => now.healthy, .inl rfl⟩, ?_⟩
  exact
    { guarded :=
        { marker := now.guarded.marker
          manifest := fun left member =>
            .inl (now.place.lasting left member)
          generation := rfl
          healthy := ⟨fun _ => rfl, fun _ => healthy⟩
          quiet := fun fatal => absurd healthy fatal }
      place := now.place
      hold := now.hold }

theorem MediaWorking.commitInterestSet
    (isTried : tried = { generation, assets := interest.candidates })
    (working : MediaWorking token accepted tried (Keeping accepted) .free cache)
    (published : List String) :
    SectionKeeps token accepted (some tried) false
      (Adopted token accepted (some tried) tried false)
      (commitInterestSet generation interest token published) cache := by
  subst isTried
  refine SectionKeeps.bind working.persistManifest fun persisted state now => ?_
  cases persisted with
  | ok done => exact MediaWorking.adopts now _ _
  | error error =>
    by_cases fatal : error.fatal = true
    · simp only [Persisted, if_pos fatal] at now
      simpa only [if_pos fatal] using now.enterFatal error.message
    · simp only [Persisted, if_neg fatal] at now
      simpa only [if_neg fatal] using Adopted.refused now error.message

section

variable (working : MediaWorking token accepted tried placement hold cache)

include working

theorem MediaWorking.verifyObjects
    (objects : List MediaObject) :
    SectionKeeps token accepted (some tried) false
      (fun _ => MediaWorking token accepted tried placement hold)
      (verifyObjects objects) cache := by
  induction objects generalizing cache with
  | nil => exact .result MediaWorking.stable working fun _ => id
  | cons object rest inductionHypothesis =>
    refine SectionKeeps.bind (working.idle _
      fun _ => rfl) fun valid state now => ?_
    exact SectionKeeps.bind (inductionHypothesis now) fun _ _ later =>
      .result MediaWorking.stable later fun _ => id

theorem MediaWorking.removeUntracked :
    SectionKeeps token accepted (some tried) false
      (fun _ => MediaWorking token accepted tried placement hold)
      removeUntrackedFiles cache :=
  SectionKeeps.bind working.removeMarker fun _ _ later =>
    .result MediaWorking.stable later fun _ => id

theorem MediaWorking.askConflicts
    {objects : List MediaObject} :
    SectionKeeps token accepted (some tried) false
      (fun _ => MediaWorking token accepted tried placement hold)
      (.ask fun cache => cache.state.conflicts objects) cache :=
  .ask MediaWorking.stable working (fun _ now => now.guarded)
    fun _ now => ⟨MediaWorking.stable, now⟩

end

section Entered

variable
  {progress : Option ActiveMediaManifest}
  {failed : Bool}
  (entered : Entered token accepted progress tried failed cache)

include entered

theorem Entered.isLatest :
    SectionKeeps token accepted progress failed
      (fun _ => Entered token accepted progress tried failed)
      (isLatestAdoption token) cache :=
  .ask Entered.stable entered (fun _ now => now.guarded)
    fun _ now => ⟨Entered.stable, now⟩

theorem Entered.askFatal :
    SectionKeeps token accepted progress failed
      (fun fatal cache =>
        (fatal = none → failed = false) ∧
          Entered token accepted progress tried failed cache)
      (.ask fun cache => cache.state.fatalError) cache := by
  refine .ask Entered.stable entered (fun _ now => now.guarded)
    fun state now => ⟨?_, now.guarded.healthy.mp, now⟩
  intro before after relation relied
  exact ⟨relation.1, Entered.stable before after relation.2 relied⟩

end Entered

/-- The adoption of a catalog, from the gate to its answer. -/
theorem Entered.adoptInterestSet
    {progress : Option ActiveMediaManifest}
    {failed : Bool}
    (isTried : tried = { generation, assets := interest.candidates })
    (entered : Entered token accepted progress tried failed cache) :
    SectionKeeps token accepted progress failed
      (Adopted token accepted progress tried failed)
      (adoptInterestSet generation interest token) cache := by
  refine SectionKeeps.bind entered.isLatest fun latest state now => ?_
  cases latest with
  | false => exact .result Entered.stable now fun _ => id
  | true =>
    refine SectionKeeps.bind now.askFatal fun fatal state now => ?_
    cases fatal with
    | some error => exact .result Entered.stable now.2 fun _ => id
    | none =>
      obtain ⟨healthy, now⟩ := now
      obtain rfl := healthy rfl
      obtain rfl := now.mine rfl
      refine SectionKeeps.bind now.working.askConflicts
        fun conflicting state now => ?_
      cases conflicting with
      | true => exact Adopted.refused now _
      | false =>
        refine SectionKeeps.bind now.removeUntracked fun _ state now => ?_
        refine SectionKeeps.bind (now.verifyObjects _)
          fun published state now => ?_
        refine SectionKeeps.bind now.isLatest fun latest state now => ?_
        cases latest with
        | false => exact Adopted.refused now _
        | true => exact now.commitInterestSet isTried published

end Steps

end VendingSystem.Daemon
