import VendingSystem.AudioInvariant

namespace VendingSystem.Audio

/-!
# Audio cues one at a time

In a run in which an error is only told while the request it is about is
active, or none is, each request ends with its own outcome and starts alone.
A failed stop is told to its caller after the driver has ended the playback,
and by then the next request may be active.
-/

namespace System

variable {system : System}

namespace Drained

theorem of_frame
    {before : System}
    (drained : before.Drained)
    (active : system.active = before.active)
    (disposed : system.disposed = before.disposed)
    (queue : system.queue = before.queue)
    (callbacks : ∀ callback ∈ before.callbacks,
      callback ∈ system.callbacks) :
    system.Drained := by
  intro idle alive
  rw [active] at idle
  rw [disposed] at alive
  rw [queue]
  exact (drained idle alive).imp_right (callbacks _)

theorem call_startNext (system : System) :
    (system.call .startNext).Drained :=
  fun _ _ => Or.inr (List.mem_append_right _ List.mem_cons_self)

theorem of_active
    (isActive : system.active ≠ none) :
    system.Drained :=
  fun idle => absurd idle isActive

theorem startNext (system : System) : system.startNext.Drained := by
  unfold System.startNext
  split
  · rename_i busy
    intro idle alive
    rw [idle, alive] at busy
    simp at busy
  · split
    · rename_i queue
      exact fun _ _ => Or.inl queue
    · refine of_active ?_
      simp only [System.playLocal]
      split
      · exact Option.some_ne_none _
      · exact Option.some_ne_none _

theorem finishActive
    (drained : system.Drained)
    (outcome : Outcome) :
    (system.finishActive outcome).Drained := by
  unfold System.finishActive
  split
  · exact drained
  · split
    · exact drained
    · exact startNext _

theorem resolveTerminal
    (drained : system.Drained)
    (requestId : Nat) :
    (system.resolveTerminal requestId).Drained :=
  drained.of_frame rfl rfl rfl fun _ member =>
    List.mem_append_left _ member

theorem finishActivePlayback
    (drained : system.Drained)
    (requestId : Nat)
    (outcome : Outcome) :
    (system.finishActivePlayback requestId outcome).Drained := by
  have silent : Drained { system with activePlayback := none } :=
    drained
  unfold System.finishActivePlayback
  split
  · exact (silent.finishActive outcome).resolveTerminal requestId
  · exact drained

theorem call
    (drained : system.Drained)
    (callback : Callback) :
    (system.call callback).Drained :=
  drained.of_frame rfl rfl rfl fun _ member =>
    List.mem_append_left _ member

theorem stop_active (system : System) (waiter : Waiter) :
    (system.stop waiter).active = system.active := by
  unfold System.stop
  split
  · rfl
  · split
    · rfl
    · rfl

theorem interruptForHigherPriorityRequest (system : System) :
    system.interruptForHigherPriorityRequest.Drained := by
  unfold System.interruptForHigherPriorityRequest
  split
  · rename_i next rest active queue isActive
    split
    · exact call_startNext _
    · refine of_active ?_
      rw [stop_active, isActive]
      exact Option.some_ne_none _
  · exact call_startNext _

theorem accept
    (drained : system.Drained)
    (options : AudioOptions)
    (transitions : List Transition) :
    (system.accept options transitions).Drained := by
  unfold System.accept
  split
  · exact drained
  · exact interruptForHigherPriorityRequest _

theorem requestTestPlayback
    (drained : system.Drained)
    (options : AudioOptions)
    (sourceUrl : String) :
    (system.requestTestPlayback options sourceUrl).Drained := by
  unfold System.requestTestPlayback
  split
  · exact drained
  · exact interruptForHigherPriorityRequest _

theorem refreshPreferences
    (drained : system.Drained) :
    system.refreshPreferences.Drained := by
  unfold System.refreshPreferences
  split
  · exact drained
  · simp only
    split
    · exact startNext _
    · rename_i active isActive
      split
      · exact startNext _
      · refine of_active ?_
        rw [stop_active, isActive]
        exact Option.some_ne_none _

theorem clearQueue (system : System) : system.clearQueue.Drained := by
  obtain ⟨terminalRequestIds, trace, shape⟩ := clearQueue_eq system
  rw [shape]
  exact fun _ _ => Or.inl rfl

theorem dispose
    (drained : system.Drained) :
    system.dispose.Drained := by
  unfold System.dispose
  split
  · exact drained
  · simp only
    split
    · exact clearQueue _
    · rename_i active isActive
      refine of_active ?_
      rw [stop_active, isActive]
      exact Option.some_ne_none _

theorem afterStop
    (system : System)
    (waiter : Waiter) :
    (system.afterStop waiter).Drained := by
  cases waiter with
  | interrupt => exact call_startNext _
  | refresh => exact startNext _
  | dispose => exact clearQueue _

section

variable (drained : system.Drained)

include drained

/-- A callback that runs is the next start or leaves it to be run. -/
theorem deliver
    {index : Nat}
    {callback : Callback}
    (isReady : system.callbacks[index]? = some callback) :
    Drained (({ system with
      callbacks := system.callbacks.eraseIdx index }).deliver callback) := by
  have rest (other : callback ≠ .startNext) :
      Drained { system with
        callbacks := system.callbacks.eraseIdx index } := by
    intro idle alive
    refine (drained idle alive).imp_right fun member => ?_
    obtain ⟨position, found⟩ := List.mem_iff_getElem?.mp member
    refine List.mem_eraseIdx_iff_getElem?.mpr ⟨position, ?_, found⟩
    rintro rfl
    exact other (Option.some.inj (isReady.symm.trans found))
  cases callback with
  | startNext => exact startNext _
  | stopResolved waiter => exact afterStop _ waiter
  | stopRejected waiter requestId message => exact afterStop _ waiter
  | playResolved request =>
    rw [System.deliver]
    split
    · exact (rest (by simp)).of_frame rfl rfl rfl fun _ => id
    · exact rest (by simp)
  | playRejected request message =>
    exact (rest (by simp)).finishActive _

theorem rejectPlay
    (call : PlayCall)
    (message : String) :
    (system.rejectPlay call message).Drained := by
  have silent : Drained { system with activePlayback := none } :=
    drained
  unfold System.rejectPlay
  simp only
  split
  · exact (silent.resolveTerminal _).call _
  · exact drained.call _

theorem listened
    (call : PlayCall) :
    (system.listened call).Drained := by
  unfold System.listened
  split
  · exact drained
  · exact drained.call _

theorem playAccepted
    (call : PlayCall) :
    (system.playAccepted call).Drained := by
  unfold System.playAccepted
  simp only
  refine Drained.call ?_ _
  split
  · exact drained
  · split
    · split
      · exact drained.finishActivePlayback _ _
      · exact drained
    · exact drained

theorem terminalEvent
    (requestId : Nat)
    (status : Status)
    (message : Option String) :
    (system.terminalEvent requestId status message).Drained := by
  unfold System.terminalEvent
  split
  · exact drained
  · split
    · simp only
      split
      · exact drained.finishActivePlayback _ _
      · exact drained
    · exact drained

theorem stopAccepted
    (call : StopCall) :
    (system.stopAccepted call).Drained := by
  unfold System.stopAccepted
  split
  · exact drained
  · exact drained.of_frame rfl rfl rfl fun _ member =>
      List.mem_append_left _ member

theorem stopFailed
    (call : StopCall)
    (message : String) :
    (system.stopFailed call message).Drained :=
  (drained.finishActivePlayback _ _).of_frame rfl rfl rfl
    fun _ member => List.mem_append_left _ member

end

end Drained

end System

/-- An error that is told is about the active request, or none is active. -/
def ErrorsAtHome (system : System) : Event → Prop
  | .deliver index =>
    ((system.callbacks[index]?).all fun callback =>
      callback.about.all fun requestId =>
        system.active.all fun request =>
          request.requestId == requestId) = true
  | _ => True

/-- A test is asked for with transaction cues on and no presence cue waiting. -/
def TestsFit (system : System) : Event → Prop
  | .requestTestPlayback _ =>
    (∀ queued ∈ system.queue, queued.category ≠ .presence) ∧
      preferencesAllow system.preferences .transaction = true
  | _ => True

/-- The branches that go wrong are not taken. -/
structure Regular
    (testsAreCues : Bool)
    (system : System)
    (event : Event) : Prop where
  errors : ErrorsAtHome system event
  tests : testsAreCues = true → TestsFit system event

/-- What is asked of the coordinator in every state. -/
structure CuesInOrder (testsAreCues : Bool) (system : System) : Prop where
  /-- Each request was started alone, past no transaction cue, and allowed. -/
  starts : ∀ start ∈ system.starts, start.Fine testsAreCues
  /-- Each request has at most one terminal outcome. -/
  once : ((terminals system.trace).map
    fun terminal => terminal.1.requestId).Nodup
  /-- The outcome is that of the request's playback or of its removal. -/
  own : ∀ terminal ∈ terminals system.trace, IsOwn terminal.1 terminal.2
  /-- The preferences that were refreshed hold for the queue. -/
  allowed : system.preferencesApplied = true →
    ∀ queued ∈ system.queue, IsCue testsAreCues queued →
      preferencesAllow system.preferences queued.category = true
  /-- Once every callback has run, the queue waits for an active request. -/
  drained : system.active = none → system.disposed = false →
    system.callbacks = [] → system.queue = []

namespace System

structure Kept (testsAreCues : Bool) (system : System) : Prop where
  invariant : system.Invariant testsAreCues
  drained : system.Drained

variable {testsAreCues : Bool} {system : System} {index : Nat}

theorem Kept.cuesInOrder
    (kept : system.Kept testsAreCues) :
    CuesInOrder testsAreCues system where
  starts := kept.invariant.starts
  once := by
    rw [← kept.invariant.listed]
    exact kept.invariant.once
  own := kept.invariant.own
  allowed := kept.invariant.allowed
  drained := by
    intro idle alive ran
    refine (kept.drained idle alive).resolve_right fun member => ?_
    rw [ran] at member
    exact absurd member List.not_mem_nil

theorem Kept.initial (preferences : Preferences) :
    (System.initial preferences).Kept testsAreCues where
  invariant :=
    { playing := fun _ none => by cases none
      ownTerminal := fun _ none => by cases none
      noError := fun _ none => by cases none
      playbackEarlier := fun _ none => by cases none
      callbacksEarlier := fun _ none => by cases none
      playCallsEarlier := fun _ none => by cases none
      stopCallsEarlier := fun _ none => by cases none
      queuedEarlier := fun _ none => by cases none
      distinct := List.nodup_nil
      presence := fun _ none => by cases none
      allowed := fun _ _ none => by cases none
      starts := fun _ none => by cases none
      listed := rfl
      once := List.nodup_nil
      own := fun _ none => by cases none }
  drained := fun _ _ => Or.inl rfl

theorem Kept.takePlayCall
    (kept : system.Kept testsAreCues)
    {stage : PlayStage}
    {taken : PlayCall × System}
    (takes : system.takePlayCall index stage = some taken) :
    taken.2.Kept testsAreCues ∧
      taken.2.Earlier taken.1.request.requestId := by
  obtain ⟨call, found, chosen⟩ := Option.bind_eq_some_iff.mp takes
  split at chosen
  · cases chosen
    exact
      ⟨{ invariant := kept.invariant.dropPlayCall index
         drained := kept.drained },
        kept.invariant.playCallsEarlier call (List.mem_of_getElem? found)⟩
  · cases chosen

theorem Kept.takeStopCall
    (kept : system.Kept testsAreCues)
    {taken : StopCall × System}
    (takes : system.takeStopCall index = some taken) :
    taken.2.Kept testsAreCues ∧
      taken.2.Earlier taken.1.requestId := by
  obtain ⟨call, found, chosen⟩ := Option.bind_eq_some_iff.mp takes
  split at chosen
  · cases chosen
  · cases chosen
    exact
      ⟨{ invariant := kept.invariant.dropStopCall index
         drained := kept.drained },
        kept.invariant.stopCallsEarlier call (List.mem_of_getElem? found)⟩

theorem Kept.deliver
    (kept : system.Kept testsAreCues)
    {callback : Callback}
    (isReady : system.callbacks[index]? = some callback)
    (atHome : ErrorsAtHome system (.deliver index)) :
    Kept testsAreCues (({ system with
      callbacks := system.callbacks.eraseIdx index }).deliver callback) where
  invariant := by
    have member : callback ∈ system.callbacks := List.mem_of_getElem? isReady
    refine (kept.invariant.dropCallback index).deliver ?_ ?_
    · exact fun playback plays =>
        kept.invariant.noError playback plays callback member
    · intro requestId about request isActive
      have same := atHome
      simp only [ErrorsAtHome, isReady, Option.all_some] at same
      rw [Option.mem_def.mp about, Option.all_some,
        Option.mem_def.mp isActive, Option.all_some, beq_iff_eq] at same
      exact same
  drained := kept.drained.deliver isReady

/-- One step that takes no wrong branch. -/
theorem Kept.step
    {options : AudioOptions}
    {event : Event}
    {next : System}
    (kept : system.Kept testsAreCues)
    (regular : Regular testsAreCues system event)
    (stepped : (audioMachine options).step system event = some next) :
    next.Kept testsAreCues := by
  cases event with
  | accept transitions =>
    cases stepped
    exact
      { invariant := kept.invariant.accept options transitions
        drained := kept.drained.accept options transitions }
  | requestTestPlayback sourceUrl =>
    cases stepped
    exact
      { invariant := kept.invariant.requestTestPlayback options sourceUrl
          regular.tests
        drained := kept.drained.requestTestPlayback options sourceUrl }
  | refreshPreferences =>
    cases stepped
    exact
      { invariant := kept.invariant.refreshPreferences
        drained := kept.drained.refreshPreferences }
  | dispose =>
    cases stepped
    exact
      { invariant := kept.invariant.dispose
        drained := kept.drained.dispose }
  | preferencesChanged preferences =>
    cases stepped
    exact
      { invariant := kept.invariant.preferencesChanged preferences
        drained := kept.drained }
  | deliver index =>
    obtain ⟨callback, isReady, rfl⟩ := Option.map_eq_some_iff.mp stepped
    exact kept.deliver isReady regular.errors
  | listened index =>
    obtain ⟨taken, takes, rfl⟩ := Option.map_eq_some_iff.mp stepped
    obtain ⟨without, earlier⟩ := kept.takePlayCall takes
    exact
      { invariant := without.invariant.listened earlier
        drained := without.drained.listened taken.1 }
  | listenFailed index message =>
    obtain ⟨taken, takes, rfl⟩ := Option.map_eq_some_iff.mp stepped
    obtain ⟨without, earlier⟩ := kept.takePlayCall takes
    exact
      { invariant := without.invariant.rejectPlay earlier message
        drained := without.drained.rejectPlay taken.1 message }
  | playAccepted index =>
    obtain ⟨taken, takes, rfl⟩ := Option.map_eq_some_iff.mp stepped
    obtain ⟨without, _⟩ := kept.takePlayCall takes
    exact
      { invariant := without.invariant.playAccepted taken.1
        drained := without.drained.playAccepted taken.1 }
  | playFailed index message =>
    obtain ⟨taken, takes, rfl⟩ := Option.map_eq_some_iff.mp stepped
    obtain ⟨without, earlier⟩ := kept.takePlayCall takes
    exact
      { invariant := without.invariant.rejectPlay earlier message
        drained := without.drained.rejectPlay taken.1 message }
  | terminalEvent requestId status message =>
    cases stepped
    exact
      { invariant := kept.invariant.terminalEvent requestId status message
        drained := kept.drained.terminalEvent requestId status message }
  | timedOut =>
    obtain ⟨playback, plays, chosen⟩ := Option.bind_eq_some_iff.mp stepped
    split at chosen
    · cases chosen
      exact
        { invariant := kept.invariant.finishActivePlayback rfl
          drained := kept.drained.finishActivePlayback _ _ }
    · cases chosen
  | stopAccepted index =>
    obtain ⟨taken, takes, rfl⟩ := Option.map_eq_some_iff.mp stepped
    obtain ⟨without, earlier⟩ := kept.takeStopCall takes
    exact
      { invariant := without.invariant.stopAccepted earlier
        drained := without.drained.stopAccepted taken.1 }
  | stopFailed index message =>
    obtain ⟨taken, takes, rfl⟩ := Option.map_eq_some_iff.mp stepped
    obtain ⟨without, earlier⟩ := kept.takeStopCall takes
    exact
      { invariant := without.invariant.stopFailed earlier message
        drained := without.drained.stopFailed taken.1 message }

end System

/--
As long as no error is told while another request is active, audio cues play
one at a time and end once.  Test playbacks count as cues where each is asked
for with transaction cues on and no presence cue waiting.
-/
theorem audio_cues_play_in_order
    (options : AudioOptions)
    (preferences : Preferences)
    (testsAreCues : Bool)
    (events : List Event)
    (regular : (audioMachine options).RunMeets (Regular testsAreCues)
      (.initial preferences) events)
    (last : System)
    (run : (audioMachine options).run (.initial preferences) events =
      some last) :
    CuesInOrder testsAreCues last := by
  have kept : last.Kept testsAreCues :=
    Machine.run_keeps_of_meets System.Kept.step (.initial preferences)
      regular run
  exact kept.cuesInOrder

instance (system : System) (event : Event) :
    Decidable (ErrorsAtHome system event) := by
  unfold ErrorsAtHome
  split
  · infer_instance
  · infer_instance

instance (system : System) (event : Event) :
    Decidable (TestsFit system event) := by
  unfold TestsFit
  split
  · infer_instance
  · infer_instance

instance
    (testsAreCues : Bool)
    (system : System)
    (event : Event) :
    Decidable (Regular testsAreCues system event) :=
  decidable_of_iff
    (ErrorsAtHome system event ∧
      (testsAreCues = true → TestsFit system event))
    ⟨fun both => { errors := both.1, tests := both.2 },
      fun regular => ⟨regular.errors, regular.tests⟩⟩

instance (request : Request) (outcome : Outcome) :
    Decidable (IsOwn request outcome) :=
  inferInstanceAs (Decidable (_ ∨ _))

/-- Every transition has a cue of one priority. -/
def plainOptions : AudioOptions where
  mapTransition transition :=
    some { sourceUrl := transition.transitionId, priority := 10 }
  maxQueueSize := 8

def allCues : Preferences where
  cuesEnabled := true
  presenceCuesEnabled := true
  transactionCuesEnabled := true

/-- A welcome is played and interrupted by a payment prompt. -/
def interruptedWelcome : List Event :=
  [.accept [{ transitionId := "arrival", kind := .presenceWelcome
              category := .presence }],
    .deliver 0, .listened 0, .playAccepted 0, .deliver 0,
    .accept [{ transitionId := "prompt", kind := .paymentPrompt
               category := .transaction }]]

/-- The welcome stops, the prompt is refused, and a test is played. -/
def regularEvents : List Event :=
  interruptedWelcome ++
    [.stopAccepted 0, .terminalEvent 1 .stopped none, .deliver 0,
      .deliver 0, .listened 0, .playFailed 0 "no device",
      .requestTestPlayback "test", .deliver 0, .deliver 0, .listened 0]

theorem audio_cues_play_in_order_regular :
    ∃ last,
      (audioMachine plainOptions).run (.initial allCues) regularEvents =
        some last ∧
      CuesInOrder true last := by
  have reached : ((audioMachine plainOptions).run (.initial allCues)
      regularEvents).isSome = true := by
    decide +kernel
  obtain ⟨last, run⟩ := Option.isSome_iff_exists.mp reached
  exact ⟨last, run,
    audio_cues_play_in_order plainOptions allCues true regularEvents
      (by decide +kernel) last run⟩

/-- The stop of the welcome fails, and the prompt is ended with its error. -/
theorem failed_stop_ends_next_request :
    ¬ ∀ options preferences events last,
      (audioMachine options).run (.initial preferences) events = some last →
        CuesInOrder false last := by
  intro inOrder
  have reached : ((audioMachine plainOptions).run (.initial allCues)
      (interruptedWelcome ++ [.stopFailed 0 "no device", .deliver 0])).any
        (fun last => (terminals last.trace).any fun terminal =>
          !decide (IsOwn terminal.1 terminal.2)) = true := by
    decide +kernel
  obtain ⟨last, run, foreign⟩ := (Option.any_eq_true _ _).mp reached
  obtain ⟨terminal, member, notOwn⟩ := List.any_eq_true.mp foreign
  have own := (inOrder _ _ _ last run).own terminal member
  simp [own] at notOwn

end VendingSystem.Audio
