import VendingSystem.DaemonMediaTransaction
import VendingSystem.Machine

namespace VendingSystem.Daemon

/-!
# The manifest over runs

Adoptions register in an order, and their tasks run in any order.  One at a
time holds the reconcile gate and takes its steps, between the steps of the
other tasks, until a crash.
-/

structure PendingAdoption where
  token : Nat
  generation : String
  descriptors : List MediaDescriptor
  deriving Repr, DecidableEq

structure ActiveAdoption where
  token : Nat
  manifest : ActiveMediaManifest
  program : MediaProgram AdoptionAnswer

structure FinishedAdoption where
  token : Nat
  manifest : ActiveMediaManifest
  answer : AdoptionAnswer
  deriving Repr, DecidableEq

def FinishedAdoption.isFatal (adoption : FinishedAdoption) : Bool :=
  match adoption.answer with
  | .fatal _ => true
  | _ => false

structure MediaSystem where
  cache : MediaCache
  waiting : List PendingAdoption
  /-- The adoption that holds the reconcile gate. -/
  active : Option ActiveAdoption
  /-- The adoptions that have returned since the start, the last one first. -/
  finished : List FinishedAdoption
  /-- The manifest that the startup adopted. -/
  recovered : Option ActiveMediaManifest

namespace MediaSystem

/-- A process starts on what is left of the files. -/
def boot
    (validate : MediaDescriptor → Option String)
    (survivors : Survivors)
    (ready : List String)
    (removed : Bool) : MediaSystem where
  cache := startMediaCache validate survivors ready.contains removed
  waiting := []
  active := none
  finished := []
  recovered :=
    (startupManifest validate survivors).map fun (generation, interest) =>
      { generation, assets := interest.candidates }

/-- The cache is started over an empty directory. -/
def start (validate : MediaDescriptor → Option String) : MediaSystem :=
  boot validate { manifest := none, marker := none } [] false

def accepted (system : MediaSystem) : List FinishedAdoption :=
  system.finished.filter fun adoption => adoption.answer = .accepted

/-- The manifest of the last accepted adoption. -/
def lastAccepted (system : MediaSystem) : Option ActiveMediaManifest :=
  match system.accepted with
  | [] => system.recovered
  | last :: _ => some last.manifest

/-- The manifest of the adoption in progress, or of the one that was fatal. -/
def progressOf
    (finished : List FinishedAdoption)
    (active : Option ActiveAdoption) : Option ActiveMediaManifest :=
  match finished.find? FinishedAdoption.isFatal with
  | some fatal => some fatal.manifest
  | none => active.map (·.manifest)

def inProgress (system : MediaSystem) : Option ActiveMediaManifest :=
  progressOf system.finished system.active

variable {finished : List FinishedAdoption}

theorem progressOf_healthy
    (healthy : finished.any FinishedAdoption.isFatal = false)
    (active : Option ActiveAdoption) :
    progressOf finished active = active.map (·.manifest) := by
  have isNone : finished.find? FinishedAdoption.isFatal = none := by
    simpa using healthy
  simp [progressOf, isNone]

theorem progressOf_failed
    (failed : finished.any FinishedAdoption.isFatal = true)
    (active other : Option ActiveAdoption) :
    progressOf finished active = progressOf finished other := by
  cases found : finished.find? FinishedAdoption.isFatal with
  | none =>
    rw [List.find?_eq_none] at found
    obtain ⟨adoption, member, fatal⟩ := List.any_eq_true.mp failed
    exact absurd fatal (found adoption member)
  | some fatal => simp [progressOf, found]

end MediaSystem

inductive MediaEvent where
  | register (generation : String) (descriptors : List MediaDescriptor)
  /-- The adoption does not reach the reconcile gate. -/
  | turnAway (token : Nat)
  | enter (token : Nat)
  /-- The adoption at the gate takes its next step. -/
  | proceed (outcome : Outcome)
  /-- The receipt has been built, and the commit is released. -/
  | release
  | change (change : MediaCacheState.Change)
  /-- A cleanup removes the files that no entry protects. -/
  | cleanUp (outcome : Outcome)
  | shutDown
  | crash (survivors : Survivors) (ready : List String) (removed : Bool)

namespace MediaSystem

def finish
    (system : MediaSystem)
    (adoption : ActiveAdoption)
    (answer : AdoptionAnswer) : MediaSystem :=
  { system with
    active := none
    finished :=
      { token := adoption.token, manifest := adoption.manifest, answer } ::
        system.finished }

def proceed (system : MediaSystem) (outcome : Outcome) :
    Option MediaSystem := do
  let adoption ← system.active
  let (rest, cache) ←
    adoption.program.advance mediaMedium system.cache outcome
  match rest with
  | .done answer => some ({ system with cache }.finish adoption answer)
  | program => some { system with
      cache, active := some { adoption with program } }

def enter
    (validate : MediaDescriptor → Option String)
    (system : MediaSystem)
    (token : Nat) : Option MediaSystem := do
  let pending ← system.waiting.find? fun pending => pending.token = token
  if system.active.isSome then none
  else
    match normalizeInterestSet validate pending.descriptors with
    | .error _ => none
    | .ok interest =>
      some { system with
        waiting := system.waiting.filter fun other => other.token ≠ token
        active := some
          { token
            manifest :=
              { generation := pending.generation
                assets := interest.candidates }
            program := adoptInterestSet pending.generation interest token } }

/-- The interest is not normal, or a later adoption has registered. -/
def turnAway
    (validate : MediaDescriptor → Option String)
    (system : MediaSystem)
    (token : Nat) : Option MediaSystem := do
  let pending ← system.waiting.find? fun pending => pending.token = token
  if (normalizeInterestSet validate pending.descriptors).isOk &&
      (!system.cache.isShutdown && system.cache.latestAdoption = token) then
    none
  else
    some { system with
      waiting := system.waiting.filter fun other => other.token ≠ token }

def step
    (validate : MediaDescriptor → Option String)
    (system : MediaSystem) : MediaEvent → Option MediaSystem
  | .register generation descriptors =>
    if system.cache.linearization.isSome then none
    else
      let token := system.cache.latestAdoption + 1
      some { system with
        cache := { system.cache with latestAdoption := token }
        waiting := { token, generation, descriptors } :: system.waiting }
  | .turnAway token => system.turnAway validate token
  | .enter token => system.enter validate token
  | .proceed outcome => system.proceed outcome
  | .release => do
      let holder ← system.cache.linearization
      if system.active.any fun adoption => adoption.token = holder then none
      else
        some { system with
          cache := { system.cache with linearization := none } }
  | .change change =>
    if change.needsGate && system.active.isSome then none
    else
      some { system with
        cache :=
          { system.cache with state := system.cache.state.apply change } }
  | .cleanUp outcome =>
    if system.active.isSome then none
    else
      some { system with
        cache :=
          CrashProgram.outcomeState mediaMedium .removeMarker system.cache
            outcome }
  | .shutDown =>
    some { system with cache := { system.cache with isShutdown := true } }
  | .crash survivors ready removed =>
    if survivors.manifest ∈ system.cache.disk.manifest.lasting ∧
        survivors.marker ∈ system.cache.disk.marker.lasting then
      some (boot validate survivors ready removed)
    else none

end MediaSystem

/-- The manifest is read back as it was written. -/
structure Storable
    (validate : MediaDescriptor → Option String)
    (manifest : ActiveMediaManifest) : Prop where
  named : isBlank manifest.generation = false
  normal : ∃ interest,
    normalizeInterestSet validate manifest.assets = .ok interest ∧
      interest.candidates = manifest.assets

/-- The tokens of the adoptions that have not returned. -/
def MediaSystem.openTokens (system : MediaSystem) : List Nat :=
  system.waiting.map (·.token) ++ (system.active.map (·.token)).toList

/-- An adoption has ended in a fatal error. -/
def MediaSystem.hasFailed (system : MediaSystem) : Bool :=
  system.finished.any FinishedAdoption.isFatal

structure MediaInvariant
    (validate : MediaDescriptor → Option String)
    (system : MediaSystem) : Prop where
  guarded :
    MediaGuarded system.lastAccepted system.inProgress system.hasFailed
      system.cache
  settled : system.active = none → system.hasFailed = false →
    system.cache.disk.manifest.IsSettled (system.lastAccepted.map some)
  sustains : ∀ adoption, system.active = some adoption →
    SectionKeeps adoption.token system.lastAccepted system.inProgress
      system.hasFailed
      (Adopted adoption.token system.lastAccepted system.inProgress
        adoption.manifest system.hasFailed)
      adoption.program system.cache
  held : ∀ holder, system.cache.linearization = some holder →
    holder ≤ system.cache.latestAdoption ∧
      ∀ pending ∈ system.waiting, pending.token ≠ holder
  storable : ∀ manifest,
    system.lastAccepted = some manifest ∨ system.inProgress = some manifest →
      Storable validate manifest
  waitingNamed : ∀ pending ∈ system.waiting,
    isBlank pending.generation = false
  tokensDistinct : system.openTokens.Nodup
  tokensBelow : ∀ token ∈ system.openTokens,
    token ≤ system.cache.latestAdoption
  tokensFresh : ∀ token ∈ system.openTokens,
    ∀ adoption ∈ system.accepted, adoption.token ≠ token
  acceptedBelow : ∀ adoption ∈ system.accepted,
    adoption.token ≤ system.cache.latestAdoption
  ordered : system.accepted.Pairwise fun later earlier =>
    earlier.token < later.token
  closed : system.finished.Pairwise fun later earlier =>
    earlier.isFatal = true → later.answer ≠ .accepted

namespace MediaInvariant

variable {validate : MediaDescriptor → Option String}
  {system next : MediaSystem} {pending : PendingAdoption} {token : Nat}
  {outcome : Outcome}

section

variable (invariant : MediaInvariant validate system)

include invariant

/-- The others leave the adoption at the gate alone. -/
theorem undisturbed
    {cache : MediaCache}
    {waiting : List PendingAdoption}
    (same : MediaUndisturbed system.cache cache)
    (relied : ∀ adoption, system.active = some adoption →
      MediaRely adoption.token system.cache cache)
    (later : system.cache.latestAdoption ≤ cache.latestAdoption)
    (held : ∀ holder, cache.linearization = some holder →
      holder ≤ cache.latestAdoption ∧
        ∀ pending ∈ waiting, pending.token ≠ holder)
    (named : ∀ pending ∈ waiting, isBlank pending.generation = false)
    (distinct :
      (waiting.map (·.token) ++
        (system.active.map (·.token)).toList).Nodup)
    (below : ∀ pending ∈ waiting, pending.token ≤ cache.latestAdoption)
    (fresh : ∀ pending ∈ waiting, ∀ adoption ∈ system.accepted,
      adoption.token ≠ pending.token) :
    MediaInvariant validate { system with cache, waiting } where
  guarded := invariant.guarded.undisturbed same
  settled := fun idle healthy =>
    same.disk ▸ invariant.settled idle healthy
  sustains := fun adoption active =>
    (invariant.sustains adoption active).interfere (relied adoption active)
  held := held
  storable := invariant.storable
  waitingNamed := named
  tokensDistinct := distinct
  tokensBelow := fun token member => by
    rcases List.mem_append.mp member with isWaiting | isActive
    · obtain ⟨pending, isPending, rfl⟩ := List.mem_map.mp isWaiting
      exact below pending isPending
    · exact (invariant.tokensBelow token
        (List.mem_append_right _ isActive)).trans later
  tokensFresh := fun token member => by
    rcases List.mem_append.mp member with isWaiting | isActive
    · obtain ⟨pending, isPending, rfl⟩ := List.mem_map.mp isWaiting
      exact fresh pending isPending
    · exact invariant.tokensFresh token (List.mem_append_right _ isActive)
  acceptedBelow := fun adoption member =>
    (invariant.acceptedBelow adoption member).trans later
  ordered := invariant.ordered
  closed := invariant.closed

theorem waitingBelow
    (member : pending ∈ system.waiting) :
    pending.token ≤ system.cache.latestAdoption :=
  invariant.tokensBelow _ (List.mem_append_left _ (List.mem_map_of_mem member))

theorem waitingFresh
    (member : pending ∈ system.waiting) :
    ∀ adoption ∈ system.accepted, adoption.token ≠ pending.token :=
  invariant.tokensFresh _ (List.mem_append_left _ (List.mem_map_of_mem member))

/-- Neither the gates nor the waiting adoptions change. -/
theorem aside
    {cache : MediaCache}
    (same : MediaUndisturbed system.cache cache)
    (latest : cache.latestAdoption = system.cache.latestAdoption)
    (held : cache.linearization = system.cache.linearization) :
    MediaInvariant validate { system with cache } :=
  invariant.undisturbed same
    (fun _ _ =>
      { same with
        held := by rw [held]
        latest := fun _ => latest })
    latest.ge
    (fun holder isHeld => by
      rw [latest]
      exact invariant.held holder (held ▸ isHeld))
    invariant.waitingNamed invariant.tokensDistinct
    (fun _ member => latest ▸ invariant.waitingBelow member)
    fun _ => invariant.waitingFresh

theorem register
    {generation : String}
    {descriptors : List MediaDescriptor}
    (named : isBlank generation = false)
    (step : system.step validate (.register generation descriptors) =
      some next) :
    MediaInvariant validate next := by
  simp only [MediaSystem.step] at step
  split at step
  · cases step
  · rename_i unheld
    cases step
    simp only [Bool.not_eq_true, Option.isSome_eq_false_iff,
      Option.isNone_iff_eq_none] at unheld
    have notHeld : ∀ holder, system.cache.linearization ≠ some holder :=
      fun holder held => by rw [unheld] at held; cases held
    refine invariant.undisturbed ⟨rfl, rfl, rfl, id⟩
      (fun adoption _ =>
        { disk := rfl
          generation := rfl
          fatal := rfl
          quiet := id
          held := Iff.rfl
          latest := fun held => absurd held (notHeld _) })
      (Nat.le_succ _) (fun holder held => absurd held (notHeld holder))
      ?_ ?_ ?_ ?_
    · intro pending member
      rcases List.mem_cons.mp member with rfl | former
      · exact named
      · exact invariant.waitingNamed pending former
    · refine List.nodup_cons.mpr ⟨fun member => ?_, invariant.tokensDistinct⟩
      exact Nat.not_succ_le_self _ (invariant.tokensBelow _ member)
    · intro pending member
      rcases List.mem_cons.mp member with rfl | former
      · exact le_rfl
      · exact (invariant.waitingBelow former).trans (Nat.le_succ _)
    · intro pending member adoption isAccepted
      rcases List.mem_cons.mp member with rfl | former
      · exact Nat.ne_of_lt
          (Nat.lt_succ_of_le (invariant.acceptedBelow adoption isAccepted))
      · exact invariant.waitingFresh former adoption isAccepted

theorem turnAway
    (step : system.step validate (.turnAway token) = some next) :
    MediaInvariant validate next := by
  obtain ⟨pending, -, step⟩ := Option.bind_eq_some_iff.mp step
  split at step
  · cases step
  · cases step
    have kept : ∀ other ∈ system.waiting.filter
        (fun other => other.token ≠ token), other ∈ system.waiting :=
      fun other member => (List.mem_filter.mp member).1
    refine invariant.undisturbed ⟨rfl, rfl, rfl, id⟩
      (fun adoption _ => MediaRely.refl _ _) le_rfl
      (fun holder held => ⟨(invariant.held holder held).1, fun other member =>
        (invariant.held holder held).2 other (kept other member)⟩)
      (fun other member => invariant.waitingNamed other (kept other member))
      ?_ (fun other member => invariant.waitingBelow (kept other member))
      fun other member => invariant.waitingFresh (kept other member)
    exact invariant.tokensDistinct.sublist
      ((List.filter_sublist.map _).append (List.Sublist.refl _))

theorem release
    (step : system.step validate .release = some next) :
    MediaInvariant validate next := by
  obtain ⟨holder, held, step⟩ := Option.bind_eq_some_iff.mp step
  split at step
  · cases step
  · rename_i foreign
    cases step
    refine invariant.undisturbed ⟨rfl, rfl, rfl, id⟩
      (fun adoption active => ?_) le_rfl (fun _ => nofun)
      invariant.waitingNamed invariant.tokensDistinct
      (fun _ member => invariant.waitingBelow member)
      fun _ => invariant.waitingFresh
    have other : holder ≠ adoption.token := by
      rintro rfl
      simp [active] at foreign
    exact
      { disk := rfl
        generation := rfl
        fatal := rfl
        quiet := id
        held := ⟨nofun, fun isHeld => by
          rw [held] at isHeld
          exact absurd (Option.some.inj isHeld) other⟩
        latest := fun _ => rfl }

theorem change
    {change : MediaCacheState.Change}
    (step : system.step validate (.change change) = some next) :
    MediaInvariant validate next := by
  simp only [MediaSystem.step] at step
  split at step
  · cases step
  · cases step
    have spares := MediaCacheState.spares_apply system.cache.state change
    exact invariant.aside
      { disk := rfl
        generation := spares.generation
        fatal := spares.fatalError
        quiet := fun quiet => quiet.apply change }
      rfl rfl

theorem shutDown
    (step : system.step validate .shutDown = some next) :
    MediaInvariant validate next := by
  cases step
  exact invariant.aside ⟨rfl, rfl, rfl, id⟩ rfl rfl

/-- A cleanup may remove the marker, while no adoption is at the gate. -/
theorem cleanUp
    (step : system.step validate (.cleanUp outcome) = some next) :
    MediaInvariant validate next := by
  simp only [MediaSystem.step] at step
  split at step
  · cases step
  · rename_i busy
    cases step
    have idle : system.active = none := by simpa using busy
    rcases outcomeState_cases system.cache .removeMarker outcome
      with effect | ⟨-, unchanged⟩
    · rw [effect]
      exact
        { invariant with
          guarded :=
            { invariant.guarded with
              marker := invariant.guarded.marker.remove }
          sustains := fun adoption active => by
            rw [show system.active = some adoption from active] at idle
            cases idle }
    · rw [unchanged]
      exact invariant

end

/-- What is tried next does not matter to what the files hold now. -/
theorem guarded_of_settled
    {accepted tried other : Option ActiveMediaManifest}
    {failed : Bool}
    {cache : MediaCache}
    (guarded : MediaGuarded accepted tried failed cache)
    (settled : cache.disk.manifest.IsSettled (accepted.map some)) :
    MediaGuarded accepted other failed cache :=
  { guarded with
    manifest := fun left member => .inl (settled.lasting left member) }

theorem enter
    (invariant : MediaInvariant validate system)
    (step : system.step validate (.enter token) = some next) :
    MediaInvariant validate next := by
  obtain ⟨pending, found, step⟩ := Option.bind_eq_some_iff.mp step
  have isWaiting := List.mem_of_find?_eq_some found
  have isToken : pending.token = token := by
    simpa using List.find?_some found
  subst isToken
  split at step
  · cases step
  · rename_i busy
    have idle : system.active = none := by simpa using busy
    split at step
    · cases step
    · rename_i interest normal
      cases step
      set manifest : ActiveMediaManifest :=
        { generation := pending.generation, assets := interest.candidates }
      have kept : ∀ other ∈ system.waiting.filter
          (fun other => other.token ≠ pending.token),
          other ∈ system.waiting ∧ other.token ≠ pending.token :=
        fun other member => by simpa using List.mem_filter.mp member
      have openToken : ∀ token, token ∈
          (system.waiting.filter fun other =>
              other.token ≠ pending.token).map (·.token) ++ [pending.token] →
            token ∈ system.openTokens := by
        intro token member
        refine List.mem_append_left _ ?_
        rcases List.mem_append.mp member with isOther | isThis
        · obtain ⟨other, isKept, rfl⟩ := List.mem_map.mp isOther
          exact List.mem_map_of_mem (kept other isKept).1
        · rw [List.mem_singleton.mp isThis]
          exact List.mem_map_of_mem isWaiting
      have free : system.cache.linearization ≠ some pending.token :=
        fun held => (invariant.held _ held).2 pending isWaiting rfl
      set adoption : ActiveAdoption :=
        { token := pending.token
          manifest
          program :=
            adoptInterestSet pending.generation interest pending.token }
      have begun :
          Entered pending.token system.lastAccepted
            (MediaSystem.progressOf system.finished (some adoption))
            manifest system.hasFailed system.cache :=
        { guarded := by
            cases failed : system.hasFailed with
            | false =>
              exact failed ▸ guarded_of_settled invariant.guarded
                (invariant.settled idle failed)
            | true =>
              rw [MediaSystem.progressOf_failed failed _ system.active]
              exact failed ▸ invariant.guarded
          mine := fun healthy =>
            MediaSystem.progressOf_healthy healthy (some adoption)
          kept := invariant.settled idle
          free }
      exact
        { guarded := begun.guarded
          settled := nofun
          sustains := fun adoption active => by
            cases active
            exact begun.adoptInterestSet rfl
          held := fun holder held =>
            ⟨(invariant.held holder held).1, fun other member =>
              (invariant.held holder held).2 other (kept other member).1⟩
          storable := fun stored isStored => by
            rcases isStored with former | tried
            · exact invariant.storable stored (.inl former)
            · change MediaSystem.progressOf system.finished
                (some adoption) = some stored at tried
              cases failed : system.hasFailed with
              | false =>
                rw [MediaSystem.progressOf_healthy failed] at tried
                cases tried
                exact
                  { named := invariant.waitingNamed pending isWaiting
                    normal :=
                      ⟨interest, normalizeInterestSet_candidates normal,
                        rfl⟩ }
              | true =>
                rw [MediaSystem.progressOf_failed failed _ system.active]
                  at tried
                exact invariant.storable stored (.inr tried)
          waitingNamed := fun other member =>
            invariant.waitingNamed other (kept other member).1
          tokensDistinct := by
            have distinct : (system.waiting.map (·.token)).Nodup :=
              (List.nodup_append.mp invariant.tokensDistinct).1
            refine List.nodup_append.mpr
              ⟨distinct.sublist (List.filter_sublist.map _),
                List.nodup_singleton _, ?_⟩
            intro other member this isThis same
            obtain ⟨former, isKept, rfl⟩ := List.mem_map.mp member
            rw [List.mem_singleton.mp isThis] at same
            exact (kept former isKept).2 same
          tokensBelow := fun token member =>
            invariant.tokensBelow token (openToken token member)
          tokensFresh := fun token member =>
            invariant.tokensFresh token (openToken token member)
          acceptedBelow := invariant.acceptedBelow
          ordered := invariant.ordered
          closed := invariant.closed }

theorem openTokens_finish
    (cache : MediaCache)
    (adoption : ActiveAdoption)
    (answer : AdoptionAnswer) :
    (MediaSystem.finish { system with cache } adoption answer).openTokens =
      system.waiting.map (·.token) := by
  simp [MediaSystem.openTokens, MediaSystem.finish]

section Returns

variable
  (invariant : MediaInvariant validate system)
  {adoption : ActiveAdoption}
  (active : system.active = some adoption)
  {cache : MediaCache}
  (guaranteed : MediaGuarantee adoption.token system.cache cache)

include invariant active

omit invariant in
theorem active_mem : adoption.token ∈ system.openTokens :=
  List.mem_append_right _ (by simp [active])

theorem waiting_ne
    (member : pending ∈ system.waiting) :
    pending.token ≠ adoption.token := by
  have distinct := (List.nodup_append.mp invariant.tokensDistinct).2.2
  exact distinct pending.token (List.mem_map_of_mem member) adoption.token
    (by simp [active])

include guaranteed

theorem held_after
    (holder : Nat)
    (held : cache.linearization = some holder) :
    holder ≤ cache.latestAdoption ∧
      ∀ pending ∈ system.waiting, pending.token ≠ holder := by
  rw [guaranteed.latest]
  rcases guaranteed.holder with same | free | mine
  · exact invariant.held holder (same ▸ held)
  · rw [free] at held
    cases held
  · rw [mine] at held
    cases held
    exact ⟨invariant.tokensBelow _ (active_mem active),
      fun _ => invariant.waiting_ne active⟩

/-- The adoption takes a step, and goes on. -/
theorem goesOn
    {program : MediaProgram AdoptionAnswer}
    (guarded : MediaGuarded system.lastAccepted system.inProgress
      system.hasFailed cache)
    (sustains :
      SectionKeeps adoption.token system.lastAccepted system.inProgress
      system.hasFailed
      (Adopted adoption.token system.lastAccepted system.inProgress
        adoption.manifest system.hasFailed) program cache) :
    MediaInvariant validate
      { system with cache, active := some { adoption with program } } := by
  have progress :
      MediaSystem.progressOf system.finished
          (some { adoption with program }) = system.inProgress := by
    rw [MediaSystem.inProgress, active]
    rfl
  have tokens :
      MediaSystem.openTokens
          { system with cache, active := some { adoption with program } } =
        system.openTokens := by
    simp [MediaSystem.openTokens, active]
  exact
    { guarded := by
        rw [MediaSystem.inProgress, progress]
        exact guarded
      settled := nofun
      sustains := fun other isActive => by
        cases isActive
        rw [MediaSystem.inProgress, progress]
        exact sustains
      held := invariant.held_after active guaranteed
      storable := fun manifest isStored => by
        rw [MediaSystem.inProgress, progress] at isStored
        exact invariant.storable manifest isStored
      waitingNamed := invariant.waitingNamed
      tokensDistinct := by
        rw [tokens]
        exact invariant.tokensDistinct
      tokensBelow := fun token member => by
        rw [tokens] at member
        exact (invariant.tokensBelow token member).trans guaranteed.latest.ge
      tokensFresh := fun token member => by
        rw [tokens] at member
        exact invariant.tokensFresh token member
      acceptedBelow := fun other member =>
        (invariant.acceptedBelow other member).trans guaranteed.latest.ge
      ordered := invariant.ordered
      closed := invariant.closed }

/-- The adoption is refused, or it is fatal. -/
theorem returnsUnaccepted
    {answer : AdoptionAnswer}
    (unaccepted : answer ≠ .accepted)
    (isFatal : Bool)
    (fatal : FinishedAdoption.isFatal
      { token := adoption.token, manifest := adoption.manifest, answer } =
        isFatal)
    (unharmed : isFatal = true → system.hasFailed = false)
    (guarded : MediaGuarded system.lastAccepted
      (MediaSystem.progressOf
        ({ token := adoption.token, manifest := adoption.manifest, answer } ::
          system.finished) none)
      (isFatal || system.hasFailed) cache)
    (settled : isFatal = false → system.hasFailed = false →
      cache.disk.manifest.IsSettled (system.lastAccepted.map some)) :
    MediaInvariant validate
      (MediaSystem.finish { system with cache } adoption answer) := by
  set returned : FinishedAdoption :=
    { token := adoption.token, manifest := adoption.manifest, answer }
  have accepted :
      (MediaSystem.finish { system with cache } adoption answer).accepted =
        system.accepted := by
    simp [MediaSystem.accepted, MediaSystem.finish, unaccepted]
  have lastAccepted :
      (MediaSystem.finish { system with cache } adoption
        answer).lastAccepted = system.lastAccepted := by
    simp only [MediaSystem.lastAccepted, accepted]
    rfl
  have hasFailed :
      (MediaSystem.finish { system with cache } adoption answer).hasFailed =
        (isFatal || system.hasFailed) := by
    rw [← fatal]
    rfl
  exact
    { guarded := by
        rw [lastAccepted, hasFailed]
        exact guarded
      settled := fun _ healthy => by
        rw [hasFailed, Bool.or_eq_false_iff] at healthy
        rw [lastAccepted]
        exact settled healthy.1 healthy.2
      sustains := nofun
      held := invariant.held_after active guaranteed
      storable := fun manifest isStored => by
        rw [lastAccepted] at isStored
        rcases isStored with former | tried
        · exact invariant.storable manifest (.inl former)
        · refine invariant.storable manifest (.inr ?_)
          change MediaSystem.progressOf (returned :: system.finished) none =
            some manifest at tried
          cases isFatal with
          | true =>
            simp only [MediaSystem.progressOf, List.find?_cons, fatal] at tried
            rw [MediaSystem.inProgress,
              MediaSystem.progressOf_healthy (unharmed rfl), active]
            exact tried
          | false =>
            have skipped :
                MediaSystem.progressOf (returned :: system.finished) none =
                  MediaSystem.progressOf system.finished none := by
              simp only [MediaSystem.progressOf, List.find?_cons, fatal]
            rw [skipped] at tried
            cases failed : system.hasFailed with
            | true =>
              rw [← tried]
              exact MediaSystem.progressOf_failed failed _ _
            | false =>
              rw [MediaSystem.progressOf_healthy failed] at tried
              cases tried
      waitingNamed := invariant.waitingNamed
      tokensDistinct := by
        rw [openTokens_finish]
        exact (List.nodup_append.mp invariant.tokensDistinct).1
      tokensBelow := fun token member => by
        rw [openTokens_finish] at member
        exact (invariant.tokensBelow token
          (List.mem_append_left _ member)).trans guaranteed.latest.ge
      tokensFresh := fun token member => by
        rw [openTokens_finish] at member
        rw [accepted]
        exact invariant.tokensFresh token (List.mem_append_left _ member)
      acceptedBelow := fun other member => by
        rw [accepted] at member
        exact (invariant.acceptedBelow other member).trans guaranteed.latest.ge
      ordered := by
        rw [accepted]
        exact invariant.ordered
      closed := List.pairwise_cons.mpr
        ⟨fun _ _ _ => unaccepted, invariant.closed⟩ }

theorem returnsAccepted
    (working : MediaWorking adoption.token (some adoption.manifest)
      adoption.manifest (Keeping (some adoption.manifest)) .latest cache) :
    MediaInvariant validate
      (MediaSystem.finish { system with cache } adoption .accepted) := by
  set returned : FinishedAdoption :=
    { token := adoption.token
      manifest := adoption.manifest
      answer := .accepted }
  have healthy : system.hasFailed = false :=
    invariant.guarded.healthy.mp (guaranteed.healthy working.healthy)
  have accepted :
      (MediaSystem.finish { system with cache } adoption .accepted).accepted =
        returned :: system.accepted := by
    simp [MediaSystem.accepted, MediaSystem.finish, returned]
  have lastAccepted :
      (MediaSystem.finish { system with cache } adoption
        .accepted).lastAccepted = some adoption.manifest := by
    simp only [MediaSystem.lastAccepted, accepted]
    rfl
  have hasFailed :
      (MediaSystem.finish { system with cache } adoption
        .accepted).hasFailed = false := by
    simpa [MediaSystem.hasFailed, MediaSystem.finish,
      FinishedAdoption.isFatal] using healthy
  exact
    { guarded := by
        rw [lastAccepted, hasFailed]
        exact guarded_of_settled working.guarded working.place
      settled := fun _ _ => by
        rw [lastAccepted]
        exact working.place
      sustains := nofun
      held := invariant.held_after active guaranteed
      storable := fun manifest isStored => by
        refine invariant.storable manifest (.inr ?_)
        have progress : system.inProgress = some adoption.manifest := by
          rw [MediaSystem.inProgress, MediaSystem.progressOf_healthy healthy,
            active]
          rfl
        rw [lastAccepted] at isStored
        rcases isStored with mine | tried
        · exact progress.trans mine
        · rw [MediaSystem.inProgress,
            MediaSystem.progressOf_healthy hasFailed] at tried
          cases tried
      waitingNamed := invariant.waitingNamed
      tokensDistinct := by
        rw [openTokens_finish]
        exact (List.nodup_append.mp invariant.tokensDistinct).1
      tokensBelow := fun token member => by
        rw [openTokens_finish] at member
        obtain ⟨pending, isWaiting, rfl⟩ := List.mem_map.mp member
        exact (invariant.waitingBelow isWaiting).trans guaranteed.latest.ge
      tokensFresh := fun token member other isAccepted => by
        rw [openTokens_finish] at member
        obtain ⟨pending, isWaiting, rfl⟩ := List.mem_map.mp member
        rw [accepted] at isAccepted
        rcases List.mem_cons.mp isAccepted with rfl | former
        · exact (invariant.waiting_ne active isWaiting).symm
        · exact invariant.waitingFresh isWaiting other former
      acceptedBelow := fun other member => by
        rw [accepted] at member
        rcases List.mem_cons.mp member with rfl | former
        · exact working.hold.2.ge
        · exact (invariant.acceptedBelow other former).trans
            guaranteed.latest.ge
      ordered := by
        rw [accepted]
        refine List.pairwise_cons.mpr ⟨fun other member => ?_,
          invariant.ordered⟩
        have below := (invariant.acceptedBelow other member).trans
          guaranteed.latest.ge
        have fresh := invariant.tokensFresh _ (active_mem active) other member
        have latest := working.hold.2
        change other.token < adoption.token
        omega
      closed := by
        refine List.pairwise_cons.mpr ⟨fun other member fatal => ?_,
          invariant.closed⟩
        simp only [MediaSystem.hasFailed, List.any_eq_false] at healthy
        exact absurd fatal (healthy other member) }

end Returns

/-- The adoption at the gate takes its next step. -/
theorem proceed
    (invariant : MediaInvariant validate system)
    (step : system.step validate (.proceed outcome) = some next) :
    MediaInvariant validate next := by
  obtain ⟨adoption, active, step⟩ := Option.bind_eq_some_iff.mp step
  obtain ⟨⟨rest, cache⟩, advanced, step⟩ := Option.bind_eq_some_iff.mp step
  obtain ⟨guaranteed, sustains⟩ :=
    (invariant.sustains adoption active).advance advanced
  have now := sustains.now
  cases rest with
  | atomic ready update following =>
    cases step
    exact invariant.goesOn active guaranteed now sustains
  | perform action following =>
    cases step
    exact invariant.goesOn active guaranteed now sustains
  | done answer =>
    cases step
    cases answer with
    | accepted => exact invariant.returnsAccepted active guaranteed now
    | refused message =>
      refine invariant.returnsUnaccepted active guaranteed nofun
        false rfl nofun ?_ fun _ => now.kept
      have skipped : ∀ other,
          MediaSystem.progressOf
              ({ token := adoption.token
                 manifest := adoption.manifest
                 answer := .refused message } :: system.finished) other =
            MediaSystem.progressOf system.finished other :=
        fun _ => rfl
      rw [skipped, Bool.false_or]
      cases failed : system.hasFailed with
      | true =>
        rw [MediaSystem.progressOf_failed failed none system.active]
        exact failed ▸ now.guarded
      | false =>
        exact failed ▸ guarded_of_settled now.guarded (now.kept failed)
    | fatal message =>
      exact invariant.returnsUnaccepted active guaranteed nofun
        true rfl (fun _ => now.1) now.2 nofun

end MediaInvariant

end VendingSystem.Daemon
