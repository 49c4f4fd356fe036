import VendingSystem.Machine
import Mathlib.Data.List.Sort

namespace VendingSystem.Audio

/-!
# The audio coordinator over the native playback driver

The driver hands the outcome of its playback to a callback that does not say
which request it is for.  What waits behind an `await` is a callback, run in
any order with the others and with the answers of the native player.
-/

inductive TransitionKind where
  | touchscreenAwakened
  | presenceWelcome
  | privacyCrowdDetected
  | presenceDeparted
  | categoryEntered
  | productSelected
  | paymentPrompt
  | paymentSucceeded
  | paymentFailed
  | dispensingStarted
  | pickupOutletOpened
  | pickupWaiting
  | pickupWarning
  | pickupUrgent
  | pickupResetting
  | pickupCompleted
  | dispenseSucceeded
  | dispenseFailed
  | refundPending
  | refundCompleted
  | manualHandlingRequired
  deriving Repr, DecidableEq

inductive Category where
  | presence
  | transaction
  deriving Repr, DecidableEq

structure Transition where
  transitionId : String
  kind : TransitionKind
  category : Category
  deriving Repr, DecidableEq

structure Presentation where
  sourceUrl : String
  priority : Nat
  deriving Repr, DecidableEq

/-- What a request plays: the cue of a transition, or an operator's test. -/
inductive RequestKind where
  | transition (kind : TransitionKind)
  | localOperationsTest
  deriving Repr, DecidableEq

structure Request where
  requestId : Nat
  transitionId : String
  kind : RequestKind
  sourceUrl : String
  priority : Nat
  category : Category
  deriving Repr, DecidableEq

structure Preferences where
  cuesEnabled : Bool
  presenceCuesEnabled : Bool
  transactionCuesEnabled : Bool
  deriving Repr, DecidableEq

def preferencesAllow (preferences : Preferences) (category : Category) : Bool :=
  preferences.cuesEnabled &&
    match category with
    | .presence => preferences.presenceCuesEnabled
    | .transaction => preferences.transactionCuesEnabled

inductive Status where
  | completed
  | failed
  | stopped
  deriving Repr, DecidableEq

/-- Where an outcome comes from. -/
inductive Origin where
  /-- The playback of a request, or the attempt to stop it. -/
  | playback (requestId : Nat)
  /-- The removal from the queue. -/
  | removal
  deriving Repr, DecidableEq

/-- A terminal outcome; the coordinator does not see its origin. -/
structure Outcome where
  status : Status
  message : Option String
  origin : Origin
  deriving Repr, DecidableEq

inductive TraceEntry where
  | journeyTransition (transitionId : String)
  | audioRejected (transitionId : String) (message : String)
  | audioQueued (request : Request) (message : Option String)
  | audioStarted (request : Request)
  | audioTerminal (request : Request) (outcome : Outcome)
  deriving Repr, DecidableEq

/-- What held when a request was taken from the queue and played. -/
structure Start where
  request : Request
  active : Option Request
  queued : List Request
  /-- An earlier playback of the driver had no terminal outcome. -/
  busy : Bool
  preferences : Preferences
  preferencesApplied : Bool
  deriving Repr, DecidableEq

structure Playback where
  requestId : Nat
  commandAccepted : Bool
  terminal : Option Outcome
  deriving Repr, DecidableEq

/-- How far a call of `playLocal` has come. -/
inductive PlayStage where
  | listening
  | commanded
  deriving Repr, DecidableEq

structure PlayCall where
  request : Request
  stage : PlayStage
  deriving Repr, DecidableEq

/-- Who waits for a stop of the driver. -/
inductive Waiter where
  | interrupt
  | refresh
  | dispose
  deriving Repr, DecidableEq

/-- A stop promise; once the command is accepted it waits for the playback. -/
structure StopCall where
  requestId : Nat
  commandAccepted : Bool
  waiters : List Waiter
  deriving Repr, DecidableEq

/-- What is ready to go on behind an `await`. -/
inductive Callback where
  | startNext
  | stopResolved (waiter : Waiter)
  | stopRejected (waiter : Waiter) (requestId : Nat) (message : String)
  | playResolved (request : Request)
  | playRejected (request : Request) (message : String)
  deriving Repr, DecidableEq

structure System where
  acceptedTransitionIds : List String
  terminalRequestIds : List Nat
  queue : List Request
  nextRequestSequence : Nat
  active : Option Request
  stoppingActive : Bool
  disposed : Bool
  trace : List TraceEntry
  preferences : Preferences
  activePlayback : Option Playback
  playCalls : List PlayCall
  stopCalls : List StopCall
  callbacks : List Callback
  /-- The preferences are those of the last `refreshPreferences`. -/
  preferencesApplied : Bool
  starts : List Start
  deriving Repr, DecidableEq

structure AudioOptions where
  mapTransition : Transition → Option Presentation
  maxQueueSize : Nat

namespace System

def initial (preferences : Preferences) : System where
  acceptedTransitionIds := []
  terminalRequestIds := []
  queue := []
  nextRequestSequence := 1
  active := none
  stoppingActive := false
  disposed := false
  trace := []
  preferences := preferences
  activePlayback := none
  playCalls := []
  stopCalls := []
  callbacks := []
  preferencesApplied := false
  starts := []

def record (system : System) (entry : TraceEntry) : System :=
  { system with trace := system.trace ++ [entry] }

def call (system : System) (callback : Callback) : System :=
  { system with callbacks := system.callbacks ++ [callback] }

def recordTerminal
    (system : System)
    (request : Request)
    (outcome : Outcome) : System :=
  if request.requestId ∈ system.terminalRequestIds then system
  else
    { system with
      terminalRequestIds := system.terminalRequestIds ++ [request.requestId]
      trace := system.trace ++ [.audioTerminal request outcome] }

/-- The driver's `playLocal`, up to its first `await`. -/
def playLocal (system : System) (request : Request) : System :=
  if system.activePlayback.isSome then
    system.call
      (.playRejected request "native playback is awaiting a terminal event")
  else
    { system with
      activePlayback := some
        { requestId := request.requestId
          commandAccepted := false
          terminal := none }
      playCalls := system.playCalls ++ [{ request, stage := .listening }] }

def startNext (system : System) : System :=
  if system.disposed = true ∨ system.active.isSome then system
  else
    match system.queue with
    | [] => system
    | request :: queue =>
      let start : Start :=
        { request
          active := system.active
          queued := queue
          busy := system.activePlayback.isSome
          preferences := system.preferences
          preferencesApplied := system.preferencesApplied }
      let started : System :=
        { system with
          queue := queue
          active := some request
          stoppingActive := false
          starts := system.starts ++ [start] }
      started.playLocal request

def finishActive (system : System) (outcome : Outcome) : System :=
  match system.active with
  | none => system
  | some request =>
    if request.requestId ∈ system.terminalRequestIds then system
    else
      ({ system with
        active := none
        stoppingActive := false }.recordTerminal request outcome).startNext

/-- The promise of a playback's end lets the accepted stop go on. -/
def resolveTerminal (system : System) (requestId : Nat) : System :=
  let ended (call : StopCall) : Bool :=
    call.requestId == requestId && call.commandAccepted
  { system with
    stopCalls := system.stopCalls.filter fun call => !ended call
    callbacks := system.callbacks ++
      (system.stopCalls.filter ended).flatMap fun call =>
        call.waiters.map .stopResolved }

def isPlaying (system : System) (requestId : Nat) : Bool :=
  system.activePlayback.any fun playback => playback.requestId == requestId

def finishActivePlayback
    (system : System)
    (requestId : Nat)
    (outcome : Outcome) : System :=
  if system.isPlaying requestId then
    (({ system with activePlayback := none }).finishActive
      outcome).resolveTerminal requestId
  else system

/-- The driver's `stop`; a second call shares the promise of the first. -/
def stop (system : System) (waiter : Waiter) : System :=
  match system.activePlayback with
  | none => system.call (.stopResolved waiter)
  | some playback =>
    if system.stopCalls.any
        fun call => call.requestId == playback.requestId then
      { system with
        stopCalls := system.stopCalls.map fun call =>
          if call.requestId = playback.requestId then
            { call with waiters := call.waiters ++ [waiter] }
          else call }
    else
      { system with
        stopCalls := system.stopCalls ++
          [{ requestId := playback.requestId
             commandAccepted := false
             waiters := [waiter] }] }

/-- Remove requests from the queue, the last first, with their outcomes. -/
def discard
    (system : System)
    (removes : Request → Bool)
    (message : Request → String) : System :=
  (system.queue.filter removes).reverse.foldl
    (fun system request =>
      system.recordTerminal request
        { status := .stopped
          message := some (message request)
          origin := .removal })
    { system with
      queue := system.queue.filter fun request => !removes request }

def supersededMessage (request : Request) : String :=
  match request.category with
  | .presence => "superseded by transaction audio"
  | .transaction => "superseded by newer transaction audio"

def discardSupersededQueuedRequests (system : System) : System :=
  system.discard (fun _ => true) supersededMessage

def discardSupersededQueuedPresenceRequests (system : System) : System :=
  system.discard (fun request => request.category == .presence)
    fun _ => "superseded by newer presence audio"

/-- `compareQueuedRequests(left, right) <= 0`. -/
def goesFirst (left right : Request) : Prop :=
  if left.category ≠ right.category then left.category = .transaction
  else right.priority ≤ left.priority

instance : DecidableRel goesFirst := fun left right =>
  inferInstanceAs (Decidable (if left.category ≠ right.category then
    left.category = .transaction else right.priority ≤ left.priority))

def deduplicationLimit : Nat := 256

def rememberTransition
    (memory : List String)
    (transitionId : String) : List String :=
  let remembered := memory ++ [transitionId]
  if remembered.length ≤ deduplicationLimit then remembered
  else remembered.tail

def reject
    (system : System)
    (transition : Transition)
    (message : String) : System :=
  system.record (.audioRejected transition.transitionId message)

/-- An accepted transition becomes a request, unless the queue is full. -/
def enqueue
    (options : AudioOptions)
    (system : System)
    (transition : Transition)
    (presentation : Presentation) : System :=
  if options.maxQueueSize ≤ system.queue.length then
    system.reject transition "audio queue full"
  else
    let request : Request :=
      { requestId := system.nextRequestSequence
        transitionId := transition.transitionId
        kind := .transition transition.kind
        sourceUrl := presentation.sourceUrl
        priority := presentation.priority
        category := transition.category }
    { system with
      acceptedTransitionIds := rememberTransition
        system.acceptedTransitionIds transition.transitionId
      nextRequestSequence := system.nextRequestSequence + 1
      queue := (system.queue ++ [request]).insertionSort goesFirst
      trace := system.trace ++ [.audioQueued request none] }

/-- A transaction request is active or queued. -/
def transactionAudio (system : System) : Bool :=
  system.active.any (fun active => active.category == .transaction) ||
    system.queue.any fun request => request.category == .transaction

/-- One transition of `accept`. -/
def acceptTransition
    (options : AudioOptions)
    (system : System)
    (transition : Transition) : System :=
  let system := system.record (.journeyTransition transition.transitionId)
  if transition.transitionId ∈ system.acceptedTransitionIds then
    system.reject transition "duplicate transition"
  else
    match options.mapTransition transition with
    | none => system
    | some presentation =>
      if preferencesAllow system.preferences transition.category = false then
        system.reject transition "audio cue preference disabled"
      else
        match transition.category with
        | .transaction =>
          system.discardSupersededQueuedRequests.enqueue options
            transition presentation
        | .presence =>
          if system.transactionAudio then
            system.reject transition "transaction audio active"
          else
            system.discardSupersededQueuedPresenceRequests.enqueue
              options transition presentation

/-- Whether the first queued request interrupts the active one. -/
def interrupts (next active : Request) : Bool :=
  (next.category == .transaction && active.category == .presence) ||
    (next.category == .transaction && active.category == .transaction &&
      active.priority ≤ next.priority) ||
    (next.kind == .transition .presenceWelcome &&
      active.kind == .transition .presenceDeparted) ||
    active.priority < next.priority

/-- Up to the stop it waits for, or to the `startNext` behind it. -/
def interruptForHigherPriorityRequest (system : System) : System :=
  match system.queue, system.active with
  | next :: _, some active =>
    if interrupts next active = false ∨ system.stoppingActive = true then
      system.call .startNext
    else ({ system with stoppingActive := true }).stop .interrupt
  | _, _ => system.call .startNext

def accept
    (options : AudioOptions)
    (system : System)
    (transitions : List Transition) : System :=
  if system.disposed then system
  else
    (transitions.foldl (acceptTransition options)
      system).interruptForHigherPriorityRequest

def maxSafeInteger : Nat := 9007199254740991

def requestTestPlayback
    (options : AudioOptions)
    (system : System)
    (sourceUrl : String) : System :=
  if system.disposed = true ∨
      options.maxQueueSize ≤ system.queue.length then
    system
  else
    let request : Request :=
      { requestId := system.nextRequestSequence
        transitionId :=
          s!"local-operations-test:{system.nextRequestSequence}"
        kind := .localOperationsTest
        sourceUrl := sourceUrl
        priority := maxSafeInteger
        category := .transaction }
    let queued : System :=
      { system with
        nextRequestSequence := system.nextRequestSequence + 1
        queue := system.queue ++ [request]
        trace := system.trace ++
          [.audioQueued request (some "local operations test playback")] }
    queued.interruptForHigherPriorityRequest

def refreshPreferences (system : System) : System :=
  if system.disposed then system
  else
    let system :=
      ({ system with preferencesApplied := true }).discard
        (fun request => !preferencesAllow system.preferences request.category)
        fun _ => "audio cue preference disabled"
    match system.active with
    | none => system.startNext
    | some active =>
      if preferencesAllow system.preferences active.category then
        system.startNext
      else ({ system with stoppingActive := true }).stop .refresh

/-- The end of `performDispose`. -/
def clearQueue (system : System) : System :=
  system.queue.foldl
    (fun system request =>
      system.recordTerminal request
        { status := .stopped
          message := some "runtime disposed"
          origin := .removal })
    { system with queue := [] }

def dispose (system : System) : System :=
  if system.disposed then system
  else
    let system := { system with disposed := true }
    match system.active with
    | none => system.clearQueue
    | some _ => system.stop .dispose

/-- What goes on once a stop has been waited for. -/
def afterStop (system : System) : Waiter → System
  | .interrupt => system.call .startNext
  | .refresh => system.startNext
  | .dispose => system.clearQueue

/-- An error as an outcome of the playback it is about. -/
def errorOutcome (requestId : Nat) (message : String) : Outcome where
  status := .failed
  message := some message
  origin := .playback requestId

def deliver (system : System) : Callback → System
  | .startNext => system.startNext
  | .stopResolved waiter => system.afterStop waiter
  | .stopRejected waiter requestId message =>
    (system.finishActive (errorOutcome requestId message)).afterStop waiter
  | .playResolved request =>
    if system.active.any
        fun active => active.requestId == request.requestId then
      system.record (.audioStarted request)
    else system
  | .playRejected request message =>
    system.finishActive (errorOutcome request.requestId message)

/-- A call of `playLocal` whose playback ends with an error. -/
def rejectPlay
    (system : System)
    (call : PlayCall)
    (message : String) : System :=
  let rejected : System :=
    if system.isPlaying call.request.requestId then
      ({ system with activePlayback := none }).resolveTerminal
        call.request.requestId
    else system
  rejected.call (.playRejected call.request message)

/-- The listeners are there: the play command is sent, unless it is too late. -/
def listened (system : System) (call : PlayCall) : System :=
  if system.isPlaying call.request.requestId then
    { system with
      playCalls := system.playCalls ++ [{ call with stage := .commanded }] }
  else system.call (.playResolved call.request)

/-- The play command is accepted; a terminal event may have come before. -/
def playAccepted (system : System) (call : PlayCall) : System :=
  let accepted : System :=
    match system.activePlayback with
    | none => system
    | some playback =>
      if playback.requestId = call.request.requestId then
        match playback.terminal with
        | some outcome =>
          system.finishActivePlayback playback.requestId outcome
        | none =>
          { system with
            activePlayback :=
              some { playback with commandAccepted := true } }
      else system
  accepted.call (.playResolved call.request)

/-- A terminal event of the native player. -/
def terminalEvent
    (system : System)
    (requestId : Nat)
    (status : Status)
    (message : Option String) : System :=
  match system.activePlayback with
  | none => system
  | some playback =>
    if playback.requestId = requestId then
      let outcome : Outcome :=
        { status, message, origin := .playback requestId }
      if playback.commandAccepted then
        system.finishActivePlayback requestId outcome
      else
        { system with
          activePlayback := some { playback with terminal := outcome } }
    else system

/-- The stop command is accepted; the playback may have ended before. -/
def stopAccepted (system : System) (call : StopCall) : System :=
  if system.isPlaying call.requestId then
    { system with
      stopCalls := system.stopCalls ++ [{ call with commandAccepted := true }] }
  else
    { system with
      callbacks :=
        system.callbacks ++ call.waiters.map .stopResolved }

/-- The stop command fails: the playback ends, and every waiter is told. -/
def stopFailed
    (system : System)
    (call : StopCall)
    (message : String) : System :=
  let finished := system.finishActivePlayback call.requestId
    (errorOutcome call.requestId message)
  { finished with
    callbacks := finished.callbacks ++ call.waiters.map fun waiter =>
      .stopRejected waiter call.requestId message }

end System

inductive Event where
  | accept (transitions : List Transition)
  | requestTestPlayback (sourceUrl : String)
  | refreshPreferences
  | dispose
  /-- The owner of the preferences changes them. -/
  | preferencesChanged (preferences : Preferences)
  /-- One of the callbacks that are ready runs. -/
  | deliver (index : Nat)
  | listened (index : Nat)
  | listenFailed (index : Nat) (message : String)
  | playAccepted (index : Nat)
  | playFailed (index : Nat) (message : String)
  | terminalEvent (requestId : Nat) (status : Status) (message : Option String)
  | timedOut
  | stopAccepted (index : Nat)
  | stopFailed (index : Nat) (message : String)
  deriving Repr, DecidableEq

namespace System

/-- A call of `playLocal` at some stage, and the system without it. -/
def takePlayCall
    (system : System)
    (index : Nat)
    (stage : PlayStage) : Option (PlayCall × System) :=
  (system.playCalls[index]?).bind fun call =>
    if call.stage = stage then
      some (call,
        { system with playCalls := system.playCalls.eraseIdx index })
    else none

/-- A stop whose command is not answered yet, and the system without it. -/
def takeStopCall
    (system : System)
    (index : Nat) : Option (StopCall × System) :=
  (system.stopCalls[index]?).bind fun call =>
    if call.commandAccepted then none
    else some (call,
      { system with stopCalls := system.stopCalls.eraseIdx index })

end System

def step
    (options : AudioOptions)
    (system : System) : Event → Option System
  | .accept transitions => some (system.accept options transitions)
  | .requestTestPlayback sourceUrl =>
    some (system.requestTestPlayback options sourceUrl)
  | .refreshPreferences => some system.refreshPreferences
  | .dispose => some system.dispose
  | .preferencesChanged preferences =>
    some { system with preferences, preferencesApplied := false }
  | .deliver index =>
    (system.callbacks[index]?).map fun callback =>
      ({ system with
        callbacks := system.callbacks.eraseIdx index }).deliver callback
  | .listened index =>
    (system.takePlayCall index .listening).map fun taken =>
      taken.2.listened taken.1
  | .listenFailed index message =>
    (system.takePlayCall index .listening).map fun taken =>
      taken.2.rejectPlay taken.1 message
  | .playAccepted index =>
    (system.takePlayCall index .commanded).map fun taken =>
      taken.2.playAccepted taken.1
  | .playFailed index message =>
    (system.takePlayCall index .commanded).map fun taken =>
      taken.2.rejectPlay taken.1 message
  | .terminalEvent requestId status message =>
    some (system.terminalEvent requestId status message)
  | .timedOut =>
    (system.activePlayback).bind fun playback =>
      if playback.commandAccepted then
        some (system.finishActivePlayback playback.requestId
          { status := .failed
            message := some "native playback terminal event timed out"
            origin := .playback playback.requestId })
      else none
  | .stopAccepted index =>
    (system.takeStopCall index).map fun taken =>
      taken.2.stopAccepted taken.1
  | .stopFailed index message =>
    (system.takeStopCall index).map fun taken =>
      taken.2.stopFailed taken.1 message

def audioMachine (options : AudioOptions) : Machine System Event where
  step := step options

end VendingSystem.Audio
