import VendingSystem.AudioCoordinator

namespace VendingSystem.Audio

/-!
# What the coordinator and the driver keep together

The playback of the driver is the one of the active request, so its outcome
reaches that request.  An error that is still to be told is about a playback
the driver has given up.
-/

/-- The request a callback brings an error about. -/
def Callback.about : Callback → Option Nat
  | .stopRejected _ requestId _ => some requestId
  | .playRejected request _ => some request.requestId
  | .startNext => none
  | .stopResolved _ => none
  | .playResolved _ => none

/-- The terminal outcomes of a trace. -/
def terminals (trace : List TraceEntry) : List (Request × Outcome) :=
  trace.filterMap fun entry =>
    match entry with
    | .audioTerminal request outcome => some (request, outcome)
    | _ => none

@[simp] theorem terminals_append (leading trailing : List TraceEntry) :
    terminals (leading ++ trailing) =
      terminals leading ++ terminals trailing :=
  List.filterMap_append

/-- The cue of a transition, and a test playback where it counts as a cue. -/
def IsCue (testsAreCues : Bool) (request : Request) : Prop :=
  testsAreCues = true ∨ request.kind ≠ .localOperationsTest

/-- An outcome of the request's own playback or of its removal. -/
def IsOwn (request : Request) (outcome : Outcome) : Prop :=
  outcome.origin = .removal ∨ outcome.origin = .playback request.requestId

/-- What is asked of the start of a request. -/
structure Start.Fine (testsAreCues : Bool) (start : Start) : Prop where
  alone : start.busy = false ∧ start.active = none
  presence : start.request.category = .presence →
    ∀ queued ∈ start.queued, IsCue testsAreCues queued →
      queued.category ≠ .transaction
  allowed : start.preferencesApplied = true →
    IsCue testsAreCues start.request →
      preferencesAllow start.preferences start.request.category = true

namespace System

/-- A request number that was given out and has left the queue. -/
def Earlier (system : System) (requestId : Nat) : Prop :=
  requestId < system.nextRequestSequence ∧
    ∀ queued ∈ system.queue, queued.requestId ≠ requestId

structure Invariant (testsAreCues : Bool) (system : System) : Prop where
  /-- The driver plays the active request. -/
  playing : ∀ playback ∈ system.activePlayback,
    ∃ request ∈ system.active, request.requestId = playback.requestId
  ownTerminal : ∀ playback ∈ system.activePlayback,
    ∀ outcome ∈ playback.terminal,
      outcome.origin = .playback playback.requestId
  /-- No error is to be told about what the driver plays. -/
  noError : ∀ playback ∈ system.activePlayback,
    ∀ callback ∈ system.callbacks,
      callback.about ≠ some playback.requestId
  playbackEarlier : ∀ playback ∈ system.activePlayback,
    system.Earlier playback.requestId
  callbacksEarlier : ∀ callback ∈ system.callbacks,
    ∀ requestId ∈ callback.about, system.Earlier requestId
  playCallsEarlier : ∀ call ∈ system.playCalls,
    system.Earlier call.request.requestId
  stopCallsEarlier : ∀ call ∈ system.stopCalls,
    system.Earlier call.requestId
  queuedEarlier : ∀ queued ∈ system.queue,
    queued.requestId < system.nextRequestSequence
  distinct : (system.queue.map Request.requestId).Nodup
  presence : ∀ request ∈ system.queue, request.category = .presence →
    ∀ queued ∈ system.queue, IsCue testsAreCues queued →
      queued.category ≠ .transaction
  allowed : system.preferencesApplied = true →
    ∀ queued ∈ system.queue, IsCue testsAreCues queued →
      preferencesAllow system.preferences queued.category = true
  starts : ∀ start ∈ system.starts, start.Fine testsAreCues
  listed : system.terminalRequestIds =
    (terminals system.trace).map fun terminal => terminal.1.requestId
  once : system.terminalRequestIds.Nodup
  own : ∀ terminal ∈ terminals system.trace,
    IsOwn terminal.1 terminal.2

/-- Where nothing is active, the queue is empty or about to be started. -/
def Drained (system : System) : Prop :=
  system.active = none → system.disposed = false →
    system.queue = [] ∨ .startNext ∈ system.callbacks

variable {testsAreCues : Bool} {system : System} {requestId : Nat}

namespace Invariant

theorem record
    (invariant : system.Invariant testsAreCues)
    (entry : TraceEntry)
    (noTerminal : terminals [entry] = []) :
    (system.record entry).Invariant testsAreCues := by
  have same : terminals (system.trace ++ [entry]) =
      terminals system.trace := by
    rw [terminals_append, noTerminal, List.append_nil]
  exact
    { invariant with
      listed := by
        rw [System.record, same]
        exact invariant.listed
      own := by
        rw [System.record, same]
        exact invariant.own }

variable {outcome : Outcome} {request : Request} {queue : List Request}

section

variable (invariant : system.Invariant testsAreCues)

include invariant

theorem recordTerminal
    (isOwn : IsOwn request outcome) :
    (system.recordTerminal request outcome).Invariant testsAreCues := by
  unfold System.recordTerminal
  split
  · exact invariant
  · rename_i notYet
    have added : terminals (system.trace ++
        [.audioTerminal request outcome]) =
          terminals system.trace ++ [(request, outcome)] :=
      terminals_append _ _
    exact
      { invariant with
        listed := by
          rw [added, List.map_append, ← invariant.listed]
          rfl
        once := List.nodup_append.mpr ⟨invariant.once, by simp, by
          intro recorded member other isNew
          rw [List.mem_singleton] at isNew
          rintro rfl
          exact notYet (isNew ▸ member)⟩
        own := by
          intro terminal member
          rw [added, List.mem_append, List.mem_singleton] at member
          rcases member with earlier | rfl
          · exact invariant.own terminal earlier
          · exact isOwn }

theorem appendCallbacks
    {callbacks : List Callback}
    (earlier : ∀ callback ∈ callbacks,
      ∀ requestId ∈ callback.about, system.Earlier requestId)
    (noError : ∀ callback ∈ callbacks,
      ∀ playback ∈ system.activePlayback,
        callback.about ≠ some playback.requestId) :
    Invariant testsAreCues
      { system with callbacks := system.callbacks ++ callbacks } :=
  { invariant with
    noError := by
      intro playback plays callback member
      rcases List.mem_append.mp member with before | added
      · exact invariant.noError playback plays callback before
      · exact noError callback added playback plays
    callbacksEarlier := by
      intro callback member
      rcases List.mem_append.mp member with before | added
      · exact invariant.callbacksEarlier callback before
      · exact earlier callback added }

theorem call
    {callback : Callback}
    (noError : callback.about = none) :
    (system.call callback).Invariant testsAreCues := by
  refine invariant.appendCallbacks ?_ ?_
  · intro other member
    rw [List.mem_singleton.mp member, noError]
    exact fun _ none => by cases none
  · intro other member playback _
    rw [List.mem_singleton.mp member, noError]
    exact fun none => by cases none

theorem resolveWaiters
    (waiters : List Waiter) :
    Invariant testsAreCues
      { system with
        callbacks := system.callbacks ++
          waiters.map .stopResolved } := by
  refine invariant.appendCallbacks ?_ ?_
  · intro callback member
    obtain ⟨waiter, _, rfl⟩ := List.mem_map.mp member
    exact fun _ none => by cases none
  · intro callback member playback _
    obtain ⟨waiter, _, rfl⟩ := List.mem_map.mp member
    exact fun none => by cases none

theorem resolveTerminal
    (requestId : Nat) :
    (system.resolveTerminal requestId).Invariant testsAreCues := by
  have resolved := invariant.resolveWaiters
    ((system.stopCalls.filter fun call =>
      call.requestId == requestId && call.commandAccepted).flatMap
        StopCall.waiters)
  rw [List.map_flatMap] at resolved
  exact
    { resolved with
      stopCallsEarlier := fun call member =>
        invariant.stopCallsEarlier call (List.mem_of_mem_filter member) }

theorem subqueue
    (fewer : queue.Sublist system.queue) :
    Invariant testsAreCues { system with queue } := by
  have earlier {requestId : Nat}
      (before : system.Earlier requestId) :
      Earlier { system with queue } requestId :=
    ⟨before.1, fun queued member => before.2 queued (fewer.subset member)⟩
  exact
    { invariant with
      playbackEarlier := fun playback plays =>
        earlier (invariant.playbackEarlier playback plays)
      callbacksEarlier := fun callback member requestId about =>
        earlier (invariant.callbacksEarlier callback member requestId about)
      playCallsEarlier := fun call member =>
        earlier (invariant.playCallsEarlier call member)
      stopCallsEarlier := fun call member =>
        earlier (invariant.stopCallsEarlier call member)
      queuedEarlier := fun queued member =>
        invariant.queuedEarlier queued (fewer.subset member)
      distinct := invariant.distinct.sublist (fewer.map Request.requestId)
      presence := fun request member isPresence queued other =>
        invariant.presence request (fewer.subset member) isPresence queued
          (fewer.subset other)
      allowed := fun applied queued member =>
        invariant.allowed applied queued (fewer.subset member) }

theorem setActive
    (silent : system.activePlayback = none)
    (active : Option Request)
    (stoppingActive : Bool) :
    Invariant testsAreCues { system with active, stoppingActive } :=
  { invariant with
    playing := by
      intro playback plays
      rw [silent] at plays
      cases plays }

theorem noPlayback :
    Invariant testsAreCues { system with activePlayback := none } :=
  { invariant with
    playing := fun _ plays => by cases plays
    ownTerminal := fun _ plays => by cases plays
    noError := fun _ plays => by cases plays
    playbackEarlier := fun _ plays => by cases plays }

/-- Where nothing is active, the driver plays nothing. -/
theorem silent
    (idle : system.active = none) :
    system.activePlayback = none := by
  cases plays : system.activePlayback with
  | none => rfl
  | some playback =>
    obtain ⟨request, isActive, _⟩ := invariant.playing playback plays
    rw [idle] at isActive
    cases isActive

theorem startNext :
    system.startNext.Invariant testsAreCues := by
  unfold System.startNext
  split
  · exact invariant
  · rename_i free
    have idle : system.active = none := by
      cases active : system.active with
      | none => rfl
      | some request => simp [active] at free
    have silent := invariant.silent idle
    cases queue : system.queue with
    | nil => exact invariant
    | cons request rest =>
      have fewer : rest.Sublist system.queue := by
        rw [queue]
        exact List.sublist_cons_self request rest
      have head : request ∈ system.queue := by
        rw [queue]
        exact List.mem_cons_self
      have distinct := invariant.distinct
      rw [queue, List.map_cons, List.nodup_cons] at distinct
      have earlier : Earlier { system with queue := rest }
          request.requestId := by
        refine ⟨invariant.queuedEarlier request head, ?_⟩
        intro queued member same
        exact distinct.1 (List.mem_map.mpr ⟨queued, member, same⟩)
      have smaller := invariant.subqueue fewer
      simp only [System.playLocal, silent, Option.isSome_none,
        Bool.false_eq_true, if_false]
      exact
        { smaller with
          playing := by
            intro playback plays
            cases plays
            exact ⟨request, rfl, rfl⟩
          ownTerminal := by
            intro playback plays
            cases plays
            exact fun _ none => by cases none
          noError := by
            intro playback plays callback member about
            cases plays
            exact (invariant.callbacksEarlier callback member _ about).2
              request head rfl
          playbackEarlier := by
            intro playback plays
            cases plays
            exact earlier
          playCallsEarlier := by
            intro call member
            rcases List.mem_append.mp member with before | added
            · exact smaller.playCallsEarlier call before
            · rw [List.mem_singleton.mp added]
              exact earlier
          starts := by
            intro start member
            rcases List.mem_append.mp member with before | added
            · exact invariant.starts start before
            · rw [List.mem_singleton.mp added]
              exact
                { alone := ⟨rfl, idle⟩
                  presence := fun isPresence queued other =>
                    invariant.presence request head isPresence queued
                      (fewer.subset other)
                  allowed := fun applied =>
                    invariant.allowed applied request head } }

theorem finishActive
    (silent : system.activePlayback = none)
    (isOwn : ∀ request ∈ system.active, IsOwn request outcome) :
    (system.finishActive outcome).Invariant testsAreCues := by
  unfold System.finishActive
  cases active : system.active with
  | none => exact invariant
  | some request =>
    simp only
    split
    · exact invariant
    · exact ((invariant.setActive silent none false).recordTerminal
        (isOwn request active)).startNext

theorem finishActivePlayback
    (isOwn : outcome.origin = .playback requestId) :
    (system.finishActivePlayback requestId outcome).Invariant
      testsAreCues := by
  unfold System.finishActivePlayback
  split
  · rename_i plays
    obtain ⟨playback, isPlayed, same⟩ := (Option.any_eq_true _ _).mp plays
    rw [beq_iff_eq] at same
    obtain ⟨request, isActive, requested⟩ :=
      invariant.playing playback isPlayed
    refine (invariant.noPlayback.finishActive rfl ?_).resolveTerminal _
    intro active alsoActive
    cases isActive.symm.trans alsoActive
    refine Or.inr ?_
    rw [isOwn, requested, same]
  · exact invariant

theorem stop
    (waiter : Waiter) :
    (system.stop waiter).Invariant testsAreCues := by
  unfold System.stop
  split
  · exact invariant.call rfl
  · rename_i playback plays
    split
    · exact
        { invariant with
          stopCallsEarlier := by
            intro call member
            obtain ⟨before, isCall, rfl⟩ := List.mem_map.mp member
            split
            · exact invariant.stopCallsEarlier before isCall
            · exact invariant.stopCallsEarlier before isCall }
    · exact
        { invariant with
          stopCallsEarlier := by
            intro call member
            rcases List.mem_append.mp member with before | added
            · exact invariant.stopCallsEarlier call before
            · rw [List.mem_singleton.mp added]
              exact invariant.playbackEarlier playback plays }

theorem recordRemovals
    (requests : List Request)
    (message : Request → String) :
    (requests.foldl
      (fun system request =>
        system.recordTerminal request
          { status := .stopped
            message := some (message request)
            origin := .removal }) system).Invariant testsAreCues := by
  induction requests generalizing system with
  | nil => exact invariant
  | cons request rest inductionHypothesis =>
    exact inductionHypothesis (invariant.recordTerminal (Or.inl rfl))

theorem discard
    (removes : Request → Bool)
    (message : Request → String) :
    (system.discard removes message).Invariant testsAreCues :=
  (invariant.subqueue List.filter_sublist).recordRemovals _ message

theorem clearQueue :
    system.clearQueue.Invariant testsAreCues :=
  (invariant.subqueue (List.nil_sublist _)).recordRemovals _
    fun _ => "runtime disposed"

/-- A new request under a new number. -/
theorem addRequest
    (acceptedTransitionIds : List String)
    (message : Option String)
    (isNew : request.requestId = system.nextRequestSequence)
    (added : queue.Perm (system.queue ++ [request]))
    (presence : request.category = .presence →
      ∀ queued ∈ system.queue, IsCue testsAreCues queued →
        queued.category ≠ .transaction)
    (transaction : IsCue testsAreCues request →
      request.category = .transaction →
        ∀ queued ∈ system.queue, queued.category ≠ .presence)
    (allowed : IsCue testsAreCues request →
      preferencesAllow system.preferences request.category = true) :
    Invariant testsAreCues
      { system with
        acceptedTransitionIds
        nextRequestSequence := system.nextRequestSequence + 1
        queue
        trace := system.trace ++ [.audioQueued request message] } := by
  have member {queued : Request} (isQueued : queued ∈ queue) :
      queued ∈ system.queue ∨ queued = request := by
    simpa using added.mem_iff.mp isQueued
  have earlier {requestId : Nat} (before : system.Earlier requestId) :
      Earlier
        { system with
          acceptedTransitionIds
          nextRequestSequence := system.nextRequestSequence + 1
          queue
          trace := system.trace ++ [.audioQueued request message] }
        requestId := by
    refine ⟨Nat.lt_succ_of_lt before.1, fun queued isQueued => ?_⟩
    rcases member isQueued with old | rfl
    · exact before.2 queued old
    · rw [isNew]
      exact Nat.ne_of_gt before.1
  have recorded := invariant.record (.audioQueued request message) rfl
  exact
    { recorded with
      playbackEarlier := fun playback plays =>
        earlier (invariant.playbackEarlier playback plays)
      callbacksEarlier := fun callback isCallback requestId about =>
        earlier (invariant.callbacksEarlier callback isCallback requestId about)
      playCallsEarlier := fun call isCall =>
        earlier (invariant.playCallsEarlier call isCall)
      stopCallsEarlier := fun call isCall =>
        earlier (invariant.stopCallsEarlier call isCall)
      queuedEarlier := by
        intro queued isQueued
        rcases member isQueued with old | rfl
        · exact Nat.lt_succ_of_lt (invariant.queuedEarlier queued old)
        · rw [isNew]
          exact Nat.lt_succ_self _
      distinct := by
        rw [(added.map Request.requestId).nodup_iff, List.map_append,
          List.nodup_append]
        refine ⟨invariant.distinct, by simp, ?_⟩
        intro requestId isOld other isOther
        obtain ⟨queued, isQueued, rfl⟩ := List.mem_map.mp isOld
        rw [List.mem_singleton.mp isOther, isNew]
        exact Nat.ne_of_lt (invariant.queuedEarlier queued isQueued)
      presence := by
        intro first isFirst isPresence second isSecond isCue
        rcases member isFirst with old | rfl
        · rcases member isSecond with alsoOld | rfl
          · exact invariant.presence first old isPresence second alsoOld isCue
          · exact fun isTransaction =>
              transaction isCue isTransaction first old isPresence
        · rcases member isSecond with alsoOld | rfl
          · exact presence isPresence second alsoOld isCue
          · rw [isPresence]
            exact fun other => by cases other
      allowed := by
        intro applied queued isQueued isCue
        rcases member isQueued with old | rfl
        · exact invariant.allowed applied queued old isCue
        · exact allowed isCue }

end

end Invariant

theorem recordRemovals_eq
    (system : System)
    (requests : List Request)
    (message : Request → String) :
    ∃ terminalRequestIds trace,
      requests.foldl
        (fun system request =>
          system.recordTerminal request
            { status := .stopped
              message := some (message request)
              origin := .removal }) system =
        { system with terminalRequestIds, trace } := by
  induction requests generalizing system with
  | nil => exact ⟨_, _, rfl⟩
  | cons request rest inductionHypothesis =>
    rw [List.foldl_cons]
    obtain ⟨terminalRequestIds, trace, same⟩ := inductionHypothesis
      (system.recordTerminal request
        { status := .stopped
          message := some (message request)
          origin := .removal })
    refine ⟨terminalRequestIds, trace, ?_⟩
    rw [same]
    unfold System.recordTerminal
    split
    · rfl
    · rfl

theorem discard_eq
    (system : System)
    (removes : Request → Bool)
    (message : Request → String) :
    ∃ terminalRequestIds trace,
      system.discard removes message =
        { system with
          queue := system.queue.filter fun request => !removes request
          terminalRequestIds
          trace } :=
  recordRemovals_eq _ _ message

theorem clearQueue_eq (system : System) :
    ∃ terminalRequestIds trace,
      system.clearQueue =
        { system with queue := [], terminalRequestIds, trace } :=
  recordRemovals_eq _ _ fun _ => "runtime disposed"

namespace Invariant

section

variable (invariant : system.Invariant testsAreCues)

include invariant

theorem enqueue
    (options : AudioOptions)
    {transition : Transition}
    (presentation : Presentation)
    (presence : transition.category = .presence →
      ∀ queued ∈ system.queue, queued.category ≠ .transaction)
    (transaction : transition.category = .transaction →
      ∀ queued ∈ system.queue, queued.category ≠ .presence)
    (allowed :
      preferencesAllow system.preferences transition.category = true) :
    (system.enqueue options transition presentation).Invariant
      testsAreCues := by
  unfold System.enqueue
  split
  · exact invariant.record _ rfl
  · exact invariant.addRequest _ none rfl (List.perm_insertionSort _ _)
      (fun isPresence queued member _ => presence isPresence queued member)
      (fun _ isTransaction => transaction isTransaction) fun _ => allowed

theorem acceptTransition
    (options : AudioOptions)
    (transition : Transition) :
    (system.acceptTransition options transition).Invariant testsAreCues := by
  have recorded := invariant.record
    (.journeyTransition transition.transitionId) rfl
  unfold System.acceptTransition
  simp only
  split
  · exact recorded.record _ rfl
  · split
    · exact recorded
    · rename_i presentation _
      split
      · exact recorded.record _ rfl
      · rename_i isAllowed
        rw [Bool.not_eq_false] at isAllowed
        split
        · rename_i category
          obtain ⟨_, _, shape⟩ := discard_eq
            (system.record (.journeyTransition transition.transitionId))
            (fun _ => true) supersededMessage
          refine (recorded.discard _ supersededMessage).enqueue options
            presentation ?_ ?_ ?_
          · exact fun isPresence => by cases category.symm.trans isPresence
          · intro _ queued member
            rw [shape] at member
            simp at member
          · rw [shape]
            exact isAllowed
        · rename_i category
          split
          · exact recorded.record _ rfl
          · rename_i isFree
            obtain ⟨_, _, shape⟩ := discard_eq
              (system.record (.journeyTransition transition.transitionId))
              (fun request => request.category == .presence)
              fun _ => "superseded by newer presence audio"
            refine (recorded.discard _ _).enqueue options presentation ?_ ?_ ?_
            · intro _ queued member isTransaction
              rw [shape] at member
              refine isFree ?_
              unfold System.transactionAudio
              rw [Bool.or_eq_true, List.any_eq_true]
              exact Or.inr ⟨queued, List.mem_of_mem_filter member,
                beq_iff_eq.mpr isTransaction⟩
            · exact fun isTransaction => by
                cases category.symm.trans isTransaction
            · rw [shape]
              exact isAllowed

theorem interruptForHigherPriorityRequest :
    system.interruptForHigherPriorityRequest.Invariant testsAreCues := by
  unfold System.interruptForHigherPriorityRequest
  split
  · split
    · exact invariant.call rfl
    · have marked : Invariant testsAreCues
          { system with stoppingActive := true } :=
        { invariant with }
      exact marked.stop .interrupt
  · exact invariant.call rfl

theorem accept
    (options : AudioOptions)
    (transitions : List Transition) :
    (system.accept options transitions).Invariant testsAreCues := by
  have accepted : ∀ {system : System},
      system.Invariant testsAreCues →
      (transitions.foldl (System.acceptTransition options)
        system).Invariant testsAreCues := by
    induction transitions with
    | nil => exact id
    | cons transition rest inductionHypothesis =>
      exact fun invariant =>
        inductionHypothesis (invariant.acceptTransition options transition)
  unfold System.accept
  split
  · exact invariant
  · exact (accepted invariant).interruptForHigherPriorityRequest

theorem requestTestPlayback
    (options : AudioOptions)
    (sourceUrl : String)
    (fits : testsAreCues = true →
      (∀ queued ∈ system.queue, queued.category ≠ .presence) ∧
        preferencesAllow system.preferences .transaction = true) :
    (system.requestTestPlayback options sourceUrl).Invariant
      testsAreCues := by
  unfold System.requestTestPlayback
  split
  · exact invariant
  · refine interruptForHigherPriorityRequest ?_
    refine invariant.addRequest _ _ rfl (List.Perm.refl _) ?_ ?_ ?_
    · exact fun isPresence => by cases isPresence
    · intro isCue _
      exact (fits (isCue.resolve_right fun other => other rfl)).1
    · intro isCue
      exact (fits (isCue.resolve_right fun other => other rfl)).2

theorem refreshPreferences :
    system.refreshPreferences.Invariant testsAreCues := by
  unfold System.refreshPreferences
  split
  · exact invariant
  · have filtered := invariant.subqueue
      (List.filter_sublist (p := fun request =>
        !!preferencesAllow system.preferences request.category))
    have applied : Invariant testsAreCues
        { system with
          preferencesApplied := true
          queue := system.queue.filter fun request =>
            !!preferencesAllow system.preferences request.category } :=
      { filtered with
        allowed := by
          intro _ queued member _
          have isAllowed := (List.mem_filter.mp member).2
          rw [Bool.not_not] at isAllowed
          exact isAllowed }
    have discarded := applied.recordRemovals
      (system.queue.filter fun request =>
        !preferencesAllow system.preferences request.category).reverse
      fun _ => "audio cue preference disabled"
    simp only
    split
    · exact discarded.startNext
    · split
      · exact discarded.startNext
      · refine stop ?_ .refresh
        exact { discarded with }

theorem dispose :
    system.dispose.Invariant testsAreCues := by
  have marked : Invariant testsAreCues { system with disposed := true } :=
    { invariant with }
  unfold System.dispose
  split
  · exact invariant
  · simp only
    split
    · exact marked.clearQueue
    · exact marked.stop .dispose

theorem preferencesChanged
    (preferences : Preferences) :
    Invariant testsAreCues
      { system with preferences, preferencesApplied := false } :=
  { invariant with
    allowed := fun applied => by cases applied }

theorem dropCallback
    (index : Nat) :
    Invariant testsAreCues
      { system with callbacks := system.callbacks.eraseIdx index } :=
  { invariant with
    noError := fun playback plays callback member =>
      invariant.noError playback plays callback
        (List.mem_of_mem_eraseIdx member)
    callbacksEarlier := fun callback member =>
      invariant.callbacksEarlier callback (List.mem_of_mem_eraseIdx member) }

theorem afterStop
    (waiter : Waiter) :
    (system.afterStop waiter).Invariant testsAreCues := by
  cases waiter with
  | interrupt => exact invariant.call rfl
  | refresh => exact invariant.startNext
  | dispose => exact invariant.clearQueue

theorem tellError
    (givenUp : ∀ playback ∈ system.activePlayback,
      playback.requestId ≠ requestId)
    (atHome : ∀ request ∈ system.active, request.requestId = requestId)
    (message : String) :
    (system.finishActive (errorOutcome requestId message)).Invariant
      testsAreCues := by
  refine invariant.finishActive ?_ ?_
  · cases plays : system.activePlayback with
    | none => rfl
    | some playback =>
      obtain ⟨request, isActive, same⟩ := invariant.playing playback plays
      exact absurd (same.symm.trans (atHome request isActive))
        (givenUp playback plays)
  · intro request isActive
    refine Or.inr ?_
    rw [atHome request isActive]
    rfl

theorem deliver
    {callback : Callback}
    (givenUp : ∀ playback ∈ system.activePlayback,
      callback.about ≠ some playback.requestId)
    (atHome : ∀ requestId ∈ callback.about,
      ∀ request ∈ system.active, request.requestId = requestId) :
    (system.deliver callback).Invariant testsAreCues := by
  cases callback with
  | startNext => exact invariant.startNext
  | stopResolved waiter => exact invariant.afterStop waiter
  | stopRejected waiter requestId message =>
    refine (invariant.tellError ?_ (atHome requestId rfl)
      message).afterStop waiter
    exact fun playback plays same =>
      givenUp playback plays (congrArg some same.symm)
  | playResolved request =>
    rw [System.deliver]
    split
    · exact invariant.record _ rfl
    · exact invariant
  | playRejected request message =>
    refine invariant.tellError ?_ (atHome request.requestId rfl) message
    exact fun playback plays same =>
      givenUp playback plays (congrArg some same.symm)

end

end Invariant

/-- A request that was played and is not played any more. -/
structure GivenUp (system : System) (requestId : Nat) : Prop where
  earlier : system.Earlier requestId
  silent : ∀ playback ∈ system.activePlayback,
    playback.requestId ≠ requestId

theorem GivenUp.startNext
    (givenUp : system.GivenUp requestId) :
    system.startNext.GivenUp requestId := by
  unfold System.startNext
  split
  · exact givenUp
  · split
    · exact givenUp
    · rename_i request rest queue
      have others : ∀ queued ∈ request :: rest,
          queued.requestId ≠ requestId := by
        rw [← queue]
        exact givenUp.earlier.2
      rw [List.forall_mem_cons] at others
      have earlier : requestId < system.nextRequestSequence ∧
          ∀ queued ∈ rest, queued.requestId ≠ requestId :=
        ⟨givenUp.earlier.1, others.2⟩
      simp only [System.playLocal]
      split
      · exact { earlier := earlier, silent := givenUp.silent }
      · refine { earlier := earlier, silent := ?_ }
        intro playback plays
        cases plays
        exact others.1

theorem GivenUp.finishActive
    (givenUp : system.GivenUp requestId)
    (outcome : Outcome) :
    (system.finishActive outcome).GivenUp requestId := by
  unfold System.finishActive
  split
  · exact givenUp
  · split
    · exact givenUp
    · refine startNext ?_
      unfold System.recordTerminal
      split
      · exact { givenUp with }
      · exact { givenUp with }

theorem Earlier.finishActivePlayback
    (earlier : system.Earlier requestId)
    (outcome : Outcome) :
    (system.finishActivePlayback requestId outcome).GivenUp requestId := by
  unfold System.finishActivePlayback
  split
  · have ended : GivenUp { system with activePlayback := none } requestId :=
      { earlier := earlier
        silent := fun _ plays => by cases plays }
    have finished := ended.finishActive outcome
    exact { finished with }
  · rename_i elsewhere
    refine { earlier := earlier, silent := fun playback plays same => ?_ }
    refine elsewhere ((Option.any_eq_true _ _).mpr ⟨playback, plays, ?_⟩)
    rw [beq_iff_eq]
    exact same

namespace Invariant

theorem dropPlayCall
    (invariant : system.Invariant testsAreCues)
    (index : Nat) :
    Invariant testsAreCues
      { system with playCalls := system.playCalls.eraseIdx index } :=
  { invariant with
    playCallsEarlier := fun call member =>
      invariant.playCallsEarlier call (List.mem_of_mem_eraseIdx member) }

theorem dropStopCall
    (invariant : system.Invariant testsAreCues)
    (index : Nat) :
    Invariant testsAreCues
      { system with stopCalls := system.stopCalls.eraseIdx index } :=
  { invariant with
    stopCallsEarlier := fun call member =>
      invariant.stopCallsEarlier call (List.mem_of_mem_eraseIdx member) }

theorem not_isPlaying
    (elsewhere : ¬system.isPlaying requestId = true) :
    ∀ playback ∈ system.activePlayback,
      playback.requestId ≠ requestId := by
  intro playback plays same
  refine elsewhere ((Option.any_eq_true _ _).mpr ⟨playback, plays, ?_⟩)
  rw [beq_iff_eq]
  exact same

section

variable (invariant : system.Invariant testsAreCues)

include invariant

theorem rejectPlay
    {call : PlayCall}
    (earlier : system.Earlier call.request.requestId)
    (message : String) :
    (system.rejectPlay call message).Invariant testsAreCues := by
  have told {other : System}
      (otherInvariant : other.Invariant testsAreCues)
      (otherEarlier : other.Earlier call.request.requestId)
      (givenUp : ∀ playback ∈ other.activePlayback,
        playback.requestId ≠ call.request.requestId) :
      (other.call (.playRejected call.request message)).Invariant
        testsAreCues := by
    refine otherInvariant.appendCallbacks ?_ ?_
    · intro callback member requestId about
      rw [List.mem_singleton.mp member] at about
      cases about
      exact otherEarlier
    · intro callback member playback plays about
      rw [List.mem_singleton.mp member] at about
      exact givenUp playback plays (Option.some.inj about).symm
  unfold System.rejectPlay
  simp only
  split
  · exact told (invariant.noPlayback.resolveTerminal _) earlier
      fun _ plays => by cases plays
  · rename_i elsewhere
    exact told invariant earlier (not_isPlaying elsewhere)

theorem listened
    {call : PlayCall}
    (earlier : system.Earlier call.request.requestId) :
    (system.listened call).Invariant testsAreCues := by
  unfold System.listened
  split
  · exact
      { invariant with
        playCallsEarlier := by
          intro other member
          rcases List.mem_append.mp member with before | added
          · exact invariant.playCallsEarlier other before
          · rw [List.mem_singleton.mp added]
            exact earlier }
  · exact invariant.call rfl

theorem updatePlayback
    {playback updated : Playback}
    (plays : system.activePlayback = some playback)
    (same : updated.requestId = playback.requestId)
    (ownTerminal : ∀ outcome ∈ updated.terminal,
      outcome.origin = .playback updated.requestId) :
    Invariant testsAreCues { system with activePlayback := some updated } :=
  { invariant with
    playing := by
      intro other isUpdated
      cases isUpdated
      rw [same]
      exact invariant.playing playback plays
    ownTerminal := by
      intro other isUpdated
      cases isUpdated
      exact ownTerminal
    noError := by
      intro other isUpdated
      cases isUpdated
      rw [same]
      exact invariant.noError playback plays
    playbackEarlier := by
      intro other isUpdated
      cases isUpdated
      rw [same]
      exact invariant.playbackEarlier playback plays }

theorem playAccepted
    (call : PlayCall) :
    (system.playAccepted call).Invariant testsAreCues := by
  unfold System.playAccepted
  simp only
  split
  · exact invariant.call rfl
  · rename_i playback plays
    split
    · split
      · rename_i outcome terminal
        refine (invariant.finishActivePlayback ?_).call rfl
        exact invariant.ownTerminal playback plays outcome terminal
      · have accepted : Invariant testsAreCues
            { system with
              activePlayback :=
                some { playback with commandAccepted := true } } :=
          invariant.updatePlayback plays rfl
            (invariant.ownTerminal playback plays)
        exact accepted.call rfl
    · exact invariant.call rfl

theorem terminalEvent
    (requestId : Nat)
    (status : Status)
    (message : Option String) :
    (system.terminalEvent requestId status message).Invariant
      testsAreCues := by
  unfold System.terminalEvent
  split
  · exact invariant
  · rename_i playback plays
    split
    · rename_i same
      simp only
      split
      · exact invariant.finishActivePlayback rfl
      · refine invariant.updatePlayback plays rfl ?_
        intro outcome isTerminal
        cases isTerminal
        exact congrArg Origin.playback same.symm
    · exact invariant

theorem stopAccepted
    {call : StopCall}
    (earlier : system.Earlier call.requestId) :
    (system.stopAccepted call).Invariant testsAreCues := by
  unfold System.stopAccepted
  split
  · exact
      { invariant with
        stopCallsEarlier := by
          intro other member
          rcases List.mem_append.mp member with before | added
          · exact invariant.stopCallsEarlier other before
          · rw [List.mem_singleton.mp added]
            exact earlier }
  · exact invariant.resolveWaiters call.waiters

theorem stopFailed
    {call : StopCall}
    (earlier : system.Earlier call.requestId)
    (message : String) :
    (system.stopFailed call message).Invariant testsAreCues := by
  have finished : Invariant testsAreCues
      (system.finishActivePlayback call.requestId
        (errorOutcome call.requestId message)) :=
    invariant.finishActivePlayback rfl
  have givenUp := earlier.finishActivePlayback
    (errorOutcome call.requestId message)
  refine finished.appendCallbacks ?_ ?_
  · intro callback member requestId about
    obtain ⟨waiter, _, rfl⟩ := List.mem_map.mp member
    cases about
    exact givenUp.earlier
  · intro callback member playback plays about
    obtain ⟨waiter, _, rfl⟩ := List.mem_map.mp member
    exact givenUp.silent playback plays (Option.some.inj about).symm

end

end Invariant

end System

end VendingSystem.Audio
