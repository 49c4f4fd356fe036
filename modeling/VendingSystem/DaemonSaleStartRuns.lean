import VendingSystem.DaemonSaleStart

namespace VendingSystem.Daemon

/-!
# Calls of the sale-start capability

A snapshot evaluated from an observation starts a sale exactly without a
blocker.  A patched snapshot repeats only what depends on MQTT and the scanner.
-/

variable {option : CapabilityPaymentOption}

theorem defaultOption_mem
    {key : Option String}
    {options : List CapabilityPaymentOption}
    (chosen : defaultOption key options = some option) :
    option ∈ options ∧ option.ready = true := by
  rcases Option.or_eq_some_iff.mp chosen with preferred | ⟨_, first⟩
  · obtain ⟨_, _, found⟩ := Option.bind_eq_some_iff.mp preferred
    have matching := List.find?_some found
    exact ⟨List.mem_of_find?_eq_some found,
      (Bool.and_eq_true_iff.mp matching).2⟩
  · exact ⟨List.mem_of_find?_eq_some first, List.find?_some first⟩

theorem defaultOption_exists
    (key : Option String)
    {options : List CapabilityPaymentOption}
    (offered : option ∈ options)
    (ready : option.ready = true) :
    ∃ chosen, defaultOption key options = some chosen := by
  have found : (options.find? fun option => option.ready).isSome :=
    List.find?_isSome.mpr ⟨option, offered, ready⟩
  obtain ⟨first, isFirst⟩ := Option.isSome_iff_exists.mp found
  unfold defaultOption
  rw [isFirst]
  cases key.bind fun key =>
      options.find? fun option => option.optionKey == key && option.ready with
  | none => exact ⟨first, rfl⟩
  | some preferred => exact ⟨preferred, rfl⟩

namespace SaleStartCapabilityObservation

variable {observation : SaleStartCapabilityObservation}

theorem mem_options :
    option ∈ observation.options ↔
      ∃ backend ∈ observation.paymentOptions,
        paymentMethodAllowedByProfile backend.method observation.profile =
            true ∧
          observation.offered backend = option := by
  simp [options, and_assoc]

/-- Nothing blocks a sale exactly when every fact allows it. -/
theorem blockers_eq_nil :
    observation.blockers = [] ↔
      observation.topology.ready = true ∧
        observation.hardware.online = true ∧
        observation.wholeMachineLocked = false ∧
        observation.hasSaleableSlot = true ∧
        observation.mqttConnected = true ∧
        observation.paymentReady = true := by
  simp [blockers]

theorem paymentReady_iff :
    observation.paymentReady = true ↔
      ∃ option ∈ observation.options, option.ready = true :=
  List.any_eq_true

theorem offered_ready
    {backend : BackendPaymentOption} :
    (observation.offered backend).ready = true ↔
      backend.disabled = false ∧
        observation.scannerBlocked backend = false := by
  simp [offered]

end SaleStartCapabilityObservation

def SaleStartCapabilitySnapshot.StartsExactly
    (snapshot : SaleStartCapabilitySnapshot) : Prop :=
  snapshot.canStartSale = true ↔ snapshot.blockers = []

/-- The default is a ready option, with its provider, when there is one. -/
def SaleStartCapabilitySnapshot.DefaultIsReady
    (snapshot : SaleStartCapabilitySnapshot) : Prop :=
  (∃ option ∈ snapshot.paymentOptions.options, option.ready = true) →
    ∃ option ∈ snapshot.paymentOptions.options, option.ready = true ∧
      snapshot.paymentOptions.defaultOptionKey = some option.optionKey ∧
      snapshot.paymentOptions.defaultProviderCode = some option.providerCode

/-- Nothing is granted beyond another snapshot: no sale and no option. -/
def SaleStartCapabilitySnapshot.GrantsAtMost
    (snapshot other : SaleStartCapabilitySnapshot) : Prop :=
  (snapshot.canStartSale = true → other.canStartSale = true) ∧
    ∀ option ∈ snapshot.paymentOptions.options, option.ready = true →
      option ∈ other.paymentOptions.options

section Evaluated

variable
  (observation : SaleStartCapabilityObservation)
  (generation : String)
  (revision : Nat)
  (observedAt : Int)

theorem evaluate_startsExactly :
    (evaluateSaleStartCapability observation generation revision
      observedAt).StartsExactly :=
  List.isEmpty_iff

theorem evaluate_defaultIsReady :
    (evaluateSaleStartCapability observation generation revision
      observedAt).DefaultIsReady := by
  rintro ⟨option, offered, ready⟩
  obtain ⟨chosen, isChosen⟩ := defaultOption_exists
    observation.platformDefaultOptionKey offered ready
  obtain ⟨chosenOffered, chosenReady⟩ := defaultOption_mem isChosen
  refine ⟨chosen, chosenOffered, chosenReady, ?_, ?_⟩
  · exact congrArg (Option.map fun option => option.optionKey) isChosen
  · exact congrArg
      (fun default : Option CapabilityPaymentOption =>
        (default.map fun option => option.providerCode).or
          observation.platformDefaultProviderCode) isChosen

theorem evaluate_notStale :
    ((evaluateSaleStartCapability observation generation revision
      observedAt).degradations.any fun reason =>
        reason.code == capabilityStale) = false := by
  show (observation.degradations.any _) = false
  unfold SaleStartCapabilityObservation.degradations
  split
  · cases observation.scannerCode <;> rfl
  · rfl

end Evaluated

/-- An option of the last accepted snapshot that the scanner leaves usable. -/
def CapabilityFacts.leavesUsable
    (facts : CapabilityFacts)
    (option : CapabilityPaymentOption) : Bool :=
  option.ready && !(option.method == "payment_code" && !facts.scannerReady)

namespace CapabilityFacts

variable (facts : CapabilityFacts)

/-- The options of a snapshot once the scanner fact is applied. -/
def patchedOptions
    (options : List CapabilityPaymentOption) : List CapabilityPaymentOption :=
  if facts.scannerReady then options
  else options.map fun option => option.withoutScanner facts.scannerMessage

variable {facts} {options : List CapabilityPaymentOption}

theorem find?_patchedOptions (wanted : CapabilityPaymentOption → Bool)
    (ignoresReadiness : ∀ option message,
      wanted (option.withoutScanner message) = wanted option) :
    ((facts.patchedOptions options).find? fun option =>
        wanted option && option.ready) =
      (options.filter facts.leavesUsable).find? fun option =>
        wanted option && option.ready := by
  unfold patchedOptions
  cases scanner : facts.scannerReady with
  | true =>
    simp only [if_true, List.find?_filter]
    congr 1
    funext option
    simp [leavesUsable, scanner, Bool.and_comm]
  | false =>
    simp only [Bool.false_eq_true, if_false]
    induction options with
    | nil => rfl
    | cons option rest inductionHypothesis =>
      simp only [List.map_cons, List.find?_cons, List.filter_cons,
        ignoresReadiness, inductionHypothesis]
      by_cases method : option.method = "payment_code"
      · simp [CapabilityPaymentOption.withoutScanner, leavesUsable,
          scanner, method]
      · cases isReady : option.ready <;>
          cases isWanted : wanted option <;>
          simp [CapabilityPaymentOption.withoutScanner, leavesUsable,
            scanner, method, isReady, isWanted]

theorem defaultOption_patchedOptions
    (key : Option String) :
    defaultOption key (facts.patchedOptions options) =
      defaultOption key (options.filter facts.leavesUsable) := by
  have keeps (option : CapabilityPaymentOption) (message : String) :
      (option.withoutScanner message).optionKey = option.optionKey := by
    unfold CapabilityPaymentOption.withoutScanner
    split <;> rfl
  have first := @find?_patchedOptions facts options (fun _ => true)
    (fun _ _ => rfl)
  simp only [Bool.true_and] at first
  unfold defaultOption
  rw [first]
  congr 1
  cases key with
  | none => rfl
  | some key =>
    exact find?_patchedOptions
      (fun option => option.optionKey == key)
      (fun option message =>
        congrArg (fun found => found == key) (keeps option message))

theorem mem_patchedOptions_ready :
    (option ∈ facts.patchedOptions options ∧ option.ready = true) ↔
      option ∈ options ∧ facts.leavesUsable option = true := by
  unfold patchedOptions
  cases scanner : facts.scannerReady with
  | true => simp [leavesUsable, scanner]
  | false =>
    simp only [Bool.false_eq_true, if_false, List.mem_map]
    constructor
    · rintro ⟨⟨before, member, rfl⟩, ready⟩
      by_cases method : before.method = "payment_code"
      · simp [CapabilityPaymentOption.withoutScanner, method] at ready
      · simp only [CapabilityPaymentOption.withoutScanner, beq_iff_eq,
          method, if_false] at ready ⊢
        exact ⟨member, by simp [leavesUsable, ready, method]⟩
    · rintro ⟨member, usable⟩
      simp only [leavesUsable, scanner, Bool.and_eq_true,
        Bool.not_eq_true', Bool.and_eq_false_iff, Bool.not_false,
        beq_eq_false_iff_ne, ne_eq, Bool.true_eq_false, or_false] at usable
      refine ⟨⟨option, member, ?_⟩, usable.1⟩
      simp [CapabilityPaymentOption.withoutScanner, usable.2]

end CapabilityFacts

section Patched

variable {facts : CapabilityFacts}
  {accepted snapshot : SaleStartCapabilitySnapshot} {error : String}

/-- The last accepted snapshot as a failed observation answers it. -/
def SaleStartCapabilitySnapshot.patched
    (accepted : SaleStartCapabilitySnapshot)
    (facts : CapabilityFacts)
    (error : String) : SaleStartCapabilitySnapshot :=
  applyFailClosedCachedFacts facts (accepted.markStale error)

theorem addReason_ne_nil
    (reason : CapabilityReason)
    (reasons : List CapabilityReason) :
    addReason reason reasons ≠ [] := by
  unfold addReason
  split
  · next present =>
      rintro rfl
      cases present
  · simp

theorem applyPaymentReadiness_blockers :
    snapshot.applyPaymentReadiness.blockers = [] ↔
      snapshot.blockers = [] ∧
        ∃ option ∈ snapshot.paymentOptions.options, option.ready = true := by
  simp only [SaleStartCapabilitySnapshot.applyPaymentReadiness]
  split
  · next ready => exact ⟨fun none => ⟨none, List.any_eq_true.mp ready⟩, And.left⟩
  · next notReady =>
      refine ⟨fun none => absurd none (addReason_ne_nil _ _), ?_⟩
      rintro ⟨_, ready⟩
      exact absurd (List.any_eq_true.mpr ready) notReady

theorem applyMqtt_blockers :
    (snapshot.applyMqtt facts).blockers = [] ↔
      snapshot.blockers = [] ∧ facts.mqttConnected = true := by
  unfold SaleStartCapabilitySnapshot.applyMqtt
  split
  · next connected => simp [connected]
  · next disconnected =>
      simp [disconnected, addReason_ne_nil]

@[simp] theorem applyMqtt_paymentOptions
    (snapshot : SaleStartCapabilitySnapshot) :
    (snapshot.applyMqtt facts).paymentOptions = snapshot.paymentOptions := by
  unfold SaleStartCapabilitySnapshot.applyMqtt
  split <;> rfl

@[simp] theorem applyScanner_blockers
    (snapshot : SaleStartCapabilitySnapshot) :
    (snapshot.applyScanner facts).blockers = snapshot.blockers := by
  unfold SaleStartCapabilitySnapshot.applyScanner
  split <;> rfl

@[simp] theorem applyScanner_paymentOptions
    (snapshot : SaleStartCapabilitySnapshot) :
    (snapshot.applyScanner facts).paymentOptions =
      { snapshot.paymentOptions with
        options := facts.patchedOptions snapshot.paymentOptions.options } := by
  unfold SaleStartCapabilitySnapshot.applyScanner CapabilityFacts.patchedOptions
  split <;> rfl

theorem patched_options :
    (accepted.patched facts error).paymentOptions.options =
      facts.patchedOptions accepted.paymentOptions.options := by
  have options := congrArg CapabilityPaymentOptions.options
    (@applyScanner_paymentOptions facts
      ((accepted.markStale error).applyMqtt facts))
  rw [applyMqtt_paymentOptions] at options
  exact options

theorem patched_defaultProviderCode :
    (accepted.patched facts error).paymentOptions.defaultProviderCode =
      accepted.paymentOptions.defaultProviderCode := by
  have provider := congrArg CapabilityPaymentOptions.defaultProviderCode
    (@applyScanner_paymentOptions facts
      ((accepted.markStale error).applyMqtt facts))
  rw [applyMqtt_paymentOptions] at provider
  exact provider

theorem patched_defaultOptionKey :
    (accepted.patched facts error).paymentOptions.defaultOptionKey =
      (defaultOption accepted.paymentOptions.defaultOptionKey
        (accepted.paymentOptions.options.filter facts.leavesUsable)).map
          fun option => option.optionKey := by
  rw [← CapabilityFacts.defaultOption_patchedOptions]
  show (defaultOption
      (((accepted.markStale error).applyMqtt facts).applyScanner
        facts).paymentOptions.defaultOptionKey
      (((accepted.markStale error).applyMqtt facts).applyScanner
        facts).paymentOptions.options).map _ = _
  rw [applyScanner_paymentOptions, applyMqtt_paymentOptions]
  rfl

theorem patched_startsExactly :
    (accepted.patched facts error).StartsExactly :=
  List.isEmpty_iff

theorem patched_canStartSale :
    (accepted.patched facts error).canStartSale = true ↔
      accepted.blockers = [] ∧ facts.mqttConnected = true ∧
        ∃ option ∈ accepted.paymentOptions.options,
          facts.leavesUsable option = true := by
  refine Iff.trans patched_startsExactly ?_
  have blockers : (accepted.patched facts error).blockers = [] ↔
      (accepted.blockers = [] ∧ facts.mqttConnected = true) ∧
        ∃ option ∈ facts.patchedOptions accepted.paymentOptions.options,
          option.ready = true := by
    refine applyPaymentReadiness_blockers.trans ?_
    rw [applyScanner_blockers, applyMqtt_blockers,
      applyScanner_paymentOptions, applyMqtt_paymentOptions]
    rfl
  rw [blockers, and_assoc]
  simp only [CapabilityFacts.mem_patchedOptions_ready]

theorem patched_option_ready :
    (option ∈ (accepted.patched facts error).paymentOptions.options ∧
        option.ready = true) ↔
      option ∈ accepted.paymentOptions.options ∧
        facts.leavesUsable option = true := by
  rw [patched_options]
  exact CapabilityFacts.mem_patchedOptions_ready

theorem patched_isStale :
    ((accepted.patched facts error).degradations.any fun reason =>
      reason.code == capabilityStale) = true := by
  refine List.any_eq_true.mpr
    ⟨⟨capabilityStale, "sale_start_capability", error⟩, ?_, beq_self_eq_true _⟩
  show _ ∈ (((accepted.markStale error).applyMqtt facts).applyScanner
    facts).degradations
  have marked : (⟨capabilityStale, "sale_start_capability", error⟩ :
      CapabilityReason) ∈
      ((accepted.markStale error).applyMqtt facts).degradations := by
    unfold SaleStartCapabilitySnapshot.applyMqtt
    split <;> exact List.mem_append_right _ (List.mem_singleton_self _)
  unfold SaleStartCapabilitySnapshot.applyScanner
  split
  · exact marked
  · have kept : (⟨capabilityStale, "sale_start_capability", error⟩ :
        CapabilityReason) ∈
        ((accepted.markStale error).applyMqtt facts).degradations.filter
          fun reason => reason.component != "scanner" :=
      List.mem_filter.mpr ⟨marked, rfl⟩
    dsimp only
    split
    · exact List.mem_append_left _ kept
    · exact kept

end Patched

/--
The capability of one runtime generation, with the payment options received
last and the snapshot answered last.
-/
structure WatchedSaleStart where
  generation : String
  state : SaleStartCapabilityState
  received : Option BackendPaymentOptions
  answered : Option SaleStartCapabilitySnapshot

namespace WatchedSaleStart

def start (generation : String) : WatchedSaleStart where
  generation := generation
  state := .initial
  received := none
  answered := none

variable (watched : WatchedSaleStart)

def outcome (call : CapabilityCall) : CapabilityOutcome :=
  saleStartCapabilitySnapshot watched.generation watched.state call

def step (call : CapabilityCall) : WatchedSaleStart where
  generation := watched.generation
  state := (watched.outcome call).state
  received := call.reading.toOption.or watched.received
  answered := (watched.outcome call).answer.toOption.or watched.answered

def machine : Machine WatchedSaleStart CapabilityCall where
  step watched call := some (watched.step call)

/-- What the current facts and the options received last evaluate to. -/
def current
    (call : CapabilityCall)
    (payment : BackendPaymentOptions) : SaleStartCapabilitySnapshot :=
  evaluateSaleStartCapability (call.facts.observed payment)
    watched.generation 1 call.facts.now

/-- What a call's answer must be. -/
structure AnswersRightly (call : CapabilityCall) : Prop where
  failsClosed : ∀ error payment snapshot,
    call.reading = .error error →
    watched.received = some payment →
    (watched.outcome call).answer = .ok snapshot →
    snapshot.GrantsAtMost (watched.current call payment)
  startsExactly : ∀ snapshot,
    (watched.outcome call).answer = .ok snapshot → snapshot.StartsExactly
  defaultIsReady : ∀ snapshot,
    (watched.outcome call).answer = .ok snapshot → snapshot.DefaultIsReady
  fresh : ∀ snapshot,
    call.requireFreshObservation = true →
    (watched.outcome call).answer = .ok snapshot →
    ∃ payment, call.reading = .ok payment ∧
      snapshot =
        { watched.current call payment with revision := snapshot.revision }
  revision : ∀ previous snapshot,
    watched.answered = some previous →
    (watched.outcome call).answer = .ok snapshot →
    if capabilityFingerprint snapshot = capabilityFingerprint previous then
      snapshot.revision = previous.revision
    else
      previous.revision < snapshot.revision

/--
The facts that a patched snapshot does not read again deny nothing that the
last accepted snapshot grants.
-/
structure CachedFactsHold
    (facts : CapabilityFacts)
    (accepted : SaleStartCapabilitySnapshot) : Prop where
  start :
    accepted.blockers = [] →
    facts.mqttConnected = true →
    (∃ option ∈ accepted.paymentOptions.options,
      facts.leavesUsable option = true) →
    facts.topology.ready = true ∧ facts.hardware.online = true ∧
      facts.wholeMachineLocked = false ∧ facts.hasSaleableSlot = true
  allowed : ∀ option ∈ accepted.paymentOptions.options,
    facts.leavesUsable option = true →
    paymentMethodAllowedByProfile option.method facts.profile = true
  provider : ∀ option,
    defaultOption accepted.paymentOptions.defaultOptionKey
        (accepted.paymentOptions.options.filter facts.leavesUsable) =
      some option →
    accepted.paymentOptions.defaultProviderCode = some option.providerCode

/--
A failed observation finds facts that deny nothing of the last accepted
snapshot, and the revision has room to grow.
-/
def CachedFactsDenyNothing (call : CapabilityCall) : Prop :=
  watched.state.revision < maximumRevision ∧
    ∀ error accepted,
      call.reading = .error error →
      call.requireFreshObservation = false →
      watched.state.lastAccepted = some accepted →
      CachedFactsHold call.facts accepted

variable {watched : WatchedSaleStart} {call : CapabilityCall}
  {facts : CapabilityFacts} {error : String}

/-- The ways a call goes: evaluated, refused or answered by a patch. -/
inductive Goes
    (watched : WatchedSaleStart)
    (call : CapabilityCall) : CapabilityOutcome → Prop
  | evaluated
      (payment : BackendPaymentOptions)
      (reading : call.reading = .ok payment) :
      Goes watched call (watched.state.published (watched.current call payment))
  | refused
      (error : String)
      (reading : call.reading = .error error) :
      Goes watched call
        { answer := .error error, state := watched.state, changed := none }
  | patched
      (error : String)
      (accepted : SaleStartCapabilitySnapshot)
      (reading : call.reading = .error error)
      (notFresh : call.requireFreshObservation = false)
      (isAccepted : watched.state.lastAccepted = some accepted) :
      Goes watched call
        (watched.state.published (accepted.patched call.facts error))

theorem outcome_goes : Goes watched call (watched.outcome call) := by
  unfold outcome saleStartCapabilitySnapshot
    SaleStartCapabilityState.provisional observeSaleStartCapability
  cases reading : call.reading with
  | ok payment => exact .evaluated payment reading
  | error error =>
    cases fresh : call.requireFreshObservation with
    | true => exact .refused error reading
    | false =>
      cases isAccepted : watched.state.lastAccepted with
      | none => exact .refused error reading
      | some accepted => exact .patched error accepted reading fresh isAccepted

/-- What is known of a watched capability between calls. -/
structure Invariant (watched : WatchedSaleStart) : Prop where
  accepted : ∀ accepted,
    watched.state.lastAccepted = some accepted →
    ∃ (payment : BackendPaymentOptions) (facts : CapabilityFacts)
        (revision : Nat),
      watched.received = some payment ∧
        accepted =
          { evaluateSaleStartCapability (facts.observed payment)
              watched.generation 1 facts.now with revision }
  answered : ∀ previous,
    watched.answered = some previous →
    watched.state.fingerprint = some (capabilityFingerprint previous) ∧
      watched.state.revision = previous.revision ∧ 0 < previous.revision

theorem start_invariant (generation : String) :
    (start generation).Invariant where
  accepted _ isAccepted := by cases isAccepted
  answered _ isAnswered := by cases isAnswered

theorem nextRevision_pos
    (state : SaleStartCapabilityState)
    (snapshot : SaleStartCapabilitySnapshot) :
    0 < state.nextRevision snapshot := by
  unfold SaleStartCapabilityState.nextRevision
  split
  · exact Nat.lt_of_lt_of_le Nat.one_pos (Nat.le_max_right _ _)
  · split
    · exact Nat.one_pos
    · next nonzero => exact Nat.pos_of_ne_zero nonzero

/-- Each call keeps what is known of the capability. -/
theorem Invariant.step
    (invariant : watched.Invariant) :
    (watched.step call).Invariant := by
  unfold WatchedSaleStart.step
  have goes : Goes watched call (watched.outcome call) := outcome_goes
  revert goes
  generalize watched.outcome call = outcome
  intro goes
  cases goes with
  | evaluated payment reading =>
    refine ⟨fun accepted isAccepted => ?_, fun previous isAnswered => ?_⟩
    · have notStale := evaluate_notStale (call.facts.observed payment)
        watched.generation 1 call.facts.now
      have accepts : (watched.state.published
          (watched.current call payment)).state.lastAccepted =
          some { watched.current call payment with
            revision :=
              watched.state.nextRevision (watched.current call payment) } :=
        if_neg (ne_true_of_eq_false notStale)
      rw [accepts] at isAccepted
      cases isAccepted
      refine ⟨payment, call.facts, _, ?_, rfl⟩
      rw [reading]
      rfl
    · cases isAnswered
      exact ⟨rfl, rfl, nextRevision_pos _ _⟩
  | refused error reading =>
    refine ⟨fun accepted isAccepted => ?_, invariant.answered⟩
    rw [reading]
    exact invariant.accepted accepted isAccepted
  | patched error last reading notFresh isLast =>
    refine ⟨fun accepted isAccepted => ?_, fun previous isAnswered => ?_⟩
    · have keeps : (watched.state.published
          (last.patched call.facts error)).state.lastAccepted =
          watched.state.lastAccepted := if_pos patched_isStale
      rw [keeps] at isAccepted
      rw [reading]
      exact invariant.accepted accepted isAccepted
    · cases isAnswered
      exact ⟨rfl, rfl, nextRevision_pos _ _⟩

theorem published_revision
    {previous snapshot : SaleStartCapabilitySnapshot}
    (invariant : watched.Invariant)
    (room : watched.state.revision < maximumRevision)
    (isAnswered : watched.answered = some previous) :
    if capabilityFingerprint snapshot = capabilityFingerprint previous then
      watched.state.nextRevision snapshot = previous.revision
    else
      previous.revision < watched.state.nextRevision snapshot := by
  obtain ⟨fingerprint, revision, positive⟩ :=
    invariant.answered previous isAnswered
  unfold SaleStartCapabilityState.nextRevision
    SaleStartCapabilityState.isChangedBy
  rw [revision] at room
  rw [fingerprint, revision]
  split
  · next same =>
      have nonzero := Nat.ne_of_gt positive
      simp [same, nonzero]
  · next differs =>
      have changed : (some (capabilityFingerprint previous) !=
          some (capabilityFingerprint snapshot)) = true := by
        simp [Ne.symm differs]
      rw [if_pos changed]
      unfold saturatingSucc
      omega

theorem patched_grantsAtMost
    {before : CapabilityFacts}
    {payment : BackendPaymentOptions}
    {generation : String}
    {revision : Nat}
    (holds : CachedFactsHold facts
      { evaluateSaleStartCapability (before.observed payment) generation 1
          before.now with revision }) :
    (SaleStartCapabilitySnapshot.patched
      { evaluateSaleStartCapability (before.observed payment) generation 1
          before.now with revision } facts error).GrantsAtMost
      (evaluateSaleStartCapability (facts.observed payment) generation 1
        facts.now) := by
  -- A usable accepted option is offered again, the same in every field.
  have offeredAgain (option : CapabilityPaymentOption)
      (offered : option ∈ (before.observed payment).options)
      (usable : facts.leavesUsable option = true) :
      option ∈ (facts.observed payment).options := by
    have allowed := holds.allowed option offered usable
    obtain ⟨backend, member, _, rfl⟩ :=
      SaleStartCapabilityObservation.mem_options.mp offered
    have isUsable := Bool.and_eq_true_iff.mp usable
    obtain ⟨enabled, unblocked⟩ :=
      SaleStartCapabilityObservation.offered_ready.mp isUsable.1
    have stillUnblocked :
        (facts.observed payment).scannerBlocked backend = false :=
      (Bool.not_eq_true' _).mp isUsable.2
    refine SaleStartCapabilityObservation.mem_options.mpr
      ⟨backend, member, allowed, ?_⟩
    simp [SaleStartCapabilityObservation.offered, unblocked, stillUnblocked]
  constructor
  · intro starts
    obtain ⟨unblocked, connected, option, offered, usable⟩ :=
      patched_canStartSale.mp starts
    obtain ⟨topology, online, unlocked, saleable⟩ :=
      holds.start unblocked connected ⟨option, offered, usable⟩
    have ready : (facts.observed payment).paymentReady = true :=
      SaleStartCapabilityObservation.paymentReady_iff.mpr
        ⟨option, offeredAgain option offered usable,
          (Bool.and_eq_true_iff.mp usable).1⟩
    exact List.isEmpty_iff.mpr
      (SaleStartCapabilityObservation.blockers_eq_nil.mpr
        ⟨topology, online, unlocked, saleable, connected, ready⟩)
  · intro option offered ready
    obtain ⟨accepted, usable⟩ := patched_option_ready.mp ⟨offered, ready⟩
    exact offeredAgain option accepted usable

theorem patched_defaultIsReady
    {accepted : SaleStartCapabilitySnapshot}
    (holds : CachedFactsHold facts accepted) :
    (accepted.patched facts error).DefaultIsReady := by
  rintro ⟨option, offered, ready⟩
  obtain ⟨isAccepted, usable⟩ := patched_option_ready.mp ⟨offered, ready⟩
  obtain ⟨chosen, isChosen⟩ := defaultOption_exists
    accepted.paymentOptions.defaultOptionKey
    (List.mem_filter.mpr ⟨isAccepted, usable⟩)
    (Bool.and_eq_true_iff.mp usable).1
  obtain ⟨chosenKept, chosenReady⟩ := defaultOption_mem isChosen
  have chosenUsable := List.mem_filter.mp chosenKept
  refine ⟨chosen, (patched_option_ready.mpr chosenUsable).1, chosenReady, ?_,
    ?_⟩
  · rw [patched_defaultOptionKey, isChosen]
    rfl
  · rw [patched_defaultProviderCode]
    exact holds.provider chosen isChosen

/-- A call whose unread facts deny nothing is answered as it must be. -/
theorem answersRightly
    (invariant : watched.Invariant)
    (denyNothing : watched.CachedFactsDenyNothing call) :
    watched.AnswersRightly call := by
  have revisions := fun previous snapshot =>
    @published_revision watched previous snapshot invariant denyNothing.1
  have goes : Goes watched call (watched.outcome call) := outcome_goes
  refine ⟨?_, ?_, ?_, ?_, ?_⟩ <;> revert goes <;>
    generalize watched.outcome call = outcome <;> intro goes
  · intro error payment snapshot failed isReceived isAnswer
    cases goes with
    | evaluated other reading => cases failed.symm.trans reading
    | refused other reading => cases isAnswer
    | patched other accepted reading notFresh isAccepted =>
      have holds := denyNothing.2 other accepted reading notFresh isAccepted
      obtain ⟨last, facts, revision, isLast, rfl⟩ :=
        invariant.accepted accepted isAccepted
      cases isLast.symm.trans isReceived
      cases isAnswer
      exact patched_grantsAtMost holds
  · intro snapshot isAnswer
    cases goes with
    | evaluated payment reading =>
      cases isAnswer
      exact evaluate_startsExactly _ _ _ _
    | refused error reading => cases isAnswer
    | patched error accepted reading notFresh isAccepted =>
      cases isAnswer
      exact patched_startsExactly
  · intro snapshot isAnswer
    cases goes with
    | evaluated payment reading =>
      cases isAnswer
      exact evaluate_defaultIsReady _ _ _ _
    | refused error reading => cases isAnswer
    | patched error accepted reading notFresh isAccepted =>
      cases isAnswer
      exact patched_defaultIsReady
        (denyNothing.2 error accepted reading notFresh isAccepted)
  · intro snapshot isFresh isAnswer
    cases goes with
    | evaluated payment reading =>
      cases isAnswer
      exact ⟨payment, reading, rfl⟩
    | refused error reading => cases isAnswer
    | patched error accepted reading notFresh isAccepted =>
      cases isFresh.symm.trans notFresh
  · intro previous snapshot isPrevious isAnswer
    cases goes with
    | evaluated payment reading =>
      cases isAnswer
      exact revisions previous _ isPrevious
    | refused error reading => cases isAnswer
    | patched error accepted reading notFresh isAccepted =>
      cases isAnswer
      exact revisions previous _ isPrevious

/--
As long as the facts that a patched snapshot does not read again deny nothing
that the last accepted snapshot grants, every call is answered as it must be.
-/
theorem calls_answered_rightly
    (generation : String)
    (calls : List CapabilityCall)
    (denyNothing :
      machine.RunMeets CachedFactsDenyNothing (start generation) calls) :
    machine.RunMeets AnswersRightly (start generation) calls := by
  refine @Machine.runMeets_of_meets _ _ machine Invariant _ _
    (fun invariant _ step => ?_) answersRightly _ _
    (start_invariant generation) denyNothing
  cases step
  exact invariant.step

/-- A machine that can sell through one payment option. -/
def sellingFacts : CapabilityFacts where
  profile := { qrCodeEnabled := true, paymentCodeEnabled := true }
  topology :=
    { ready := true
      code := "HARDWARE_SLOT_TOPOLOGY_READY"
      message :=
        "accepted provisioning profile matches the deployment topology" }
  hardware := { online := true, message := "ready" }
  wholeMachineLocked := false
  saleView := [{ slotSalesState := "sale_ready", saleableStock := 1 }]
  mqttConnected := true
  scanner :=
    { online := true, adapter := "serial_text", code := .ready
      message := "scanner ready", updatedAt := some 0 }
  now := 0

def qrCodeOption : BackendPaymentOption where
  optionKey := "qr_code:alipay"
  providerCode := "alipay"
  method := "qr_code"
  displayName := "QR"
  description := "QR payment"
  icon := "qr"
  recommended := true
  disabled := false
  disabledReason := none

def qrCodePayment : BackendPaymentOptions where
  options := [qrCodeOption]
  defaultOptionKey := some "qr_code:alipay"
  defaultProviderCode := some "alipay"

/-- A call that is answered, and one whose observation fails. -/
def answeredThenFailed (facts : CapabilityFacts) : List CapabilityCall :=
  [{ facts := sellingFacts, reading := .ok qrCodePayment
     requireFreshObservation := false },
   { facts, reading := .error "backend unavailable"
     requireFreshObservation := false }]

/-- A failed observation at the same facts is answered by the patch. -/
theorem calls_answered_rightly_unchanged :
    machine.RunMeets AnswersRightly (start "generation")
      (answeredThenFailed sellingFacts) := by
  apply calls_answered_rightly
  refine ⟨⟨by decide, fun error accepted failed => by cases failed⟩, ?_⟩
  intro next step
  cases step
  refine ⟨⟨by decide, fun error accepted _ _ isAccepted => ?_⟩,
    fun _ _ => trivial⟩
  cases isAccepted
  exact ⟨by decide, by decide, by decide⟩

/--
The machine is locked after the snapshot was accepted, and the backend fails:
the patched snapshot still starts a sale.
-/
theorem calls_answered_rightly_fails_for_locked_machine :
    ¬ ∀ (generation : String) (calls : List CapabilityCall),
      machine.RunMeets AnswersRightly (start generation) calls := by
  intro always
  have calls := always "generation"
    (answeredThenFailed { sellingFacts with wholeMachineLocked := true })
  have stale := (calls.2 _ rfl).1.failsClosed _ qrCodePayment _ rfl rfl rfl
  have starts := stale.1
  revert starts
  decide

end WatchedSaleStart

end VendingSystem.Daemon
