import VendingSystem.DaemonDispenseProgress

namespace VendingSystem.Daemon

/-!
# The progress of a dispense only goes on

An event is recorded only when it goes on from what is stored, and an answer
of the backend keeps the progress that it was merged with.  What was merged
may be overtaken by an event before it is written; that is left out.
-/

/-- The document of a session, or an empty one. -/
def storedDocument (row : Option ProgressRow) : Document :=
  (row.bind (·.lastBackendStatus)).getD (.object [])

def timeoutWarning : String :=
  dispenseProgressStageName .pickupTimeoutWarning

/-- The progress of a command goes on, or stays where it is. -/
structure GoesOn (command : String) (before after : Document) : Prop where
  same : after.commandNo = some command
  rank : before.progressRank ≤ after.progressRank
  warning : before.progressStage = some timeoutWarning →
    after.progressStage = some timeoutWarning →
      before.warningNo ≤ after.warningNo

/-- What is known of the command of a document is kept or carried on. -/
def Advances (before after : Document) : Prop :=
  ∀ command, before.commandNo = some command → GoesOn command before after

/-- The answer says dispensing, and names no other command than the row. -/
structure StatusApplication.IsAboutCommand
    (application : StatusApplication) : Prop where
  dispensing : application.status.textAt ["nextAction"] = some "dispensing"
  command : application.status.commandNo = none ∨
    application.status.commandNo =
      (storedDocument (some application.read)).commandNo

/-- The row that was read tells no less of the progress than the stored one. -/
structure StatusApplication.IsUpToDate
    (application : StatusApplication)
    (row : Option ProgressRow) : Prop where
  command : (storedDocument (some application.read)).commandNo =
    (storedDocument row).commandNo
  rank : (storedDocument row).progressRank ≤
    (storedDocument (some application.read)).progressRank
  warning : (storedDocument row).progressStage = some timeoutWarning →
    (storedDocument (some application.read)).progressStage =
      some timeoutWarning →
    (storedDocument row).warningNo ≤
      (storedDocument (some application.read)).warningNo

/-- What is written is about the command, and was not overtaken. -/
def KeepsProgress (store : ProgressStore) : ProgressEvent → Prop
  | .write index =>
    ∀ application, store.applying[index]? = some application →
      application.IsAboutCommand ∧ application.IsUpToDate store.row
  | _ => True

instance (application : StatusApplication) :
    Decidable application.IsAboutCommand :=
  decidable_of_iff (_ ∧ _) ⟨fun ⟨dispensing, command⟩ =>
    ⟨dispensing, command⟩, fun about => ⟨about.dispensing, about.command⟩⟩

instance
    (application : StatusApplication)
    (row : Option ProgressRow) :
    Decidable (application.IsUpToDate row) :=
  decidable_of_iff (_ ∧ _ ∧ _) ⟨fun ⟨command, rank, warning⟩ =>
    ⟨command, rank, warning⟩, fun upToDate =>
    ⟨upToDate.command, upToDate.rank, upToDate.warning⟩⟩

instance (store : ProgressStore) :
    (event : ProgressEvent) → Decidable (KeepsProgress store event)
  | .record _ => isTrue trivial
  | .readRow _ => isTrue trivial
  | .abandon _ => isTrue trivial
  | .write index =>
    decidable_of_iff
      (∀ application ∈ store.applying[index]?,
        application.IsAboutCommand ∧ application.IsUpToDate store.row)
      Iff.rfl

variable {document first last middle status reminder after known : Document}
  {command : String} {event : ObservedProgress} {row : Option ProgressRow}

theorem GoesOn.refl
    (same : document.commandNo = some command) :
    GoesOn command document document where
  same := same
  rank := Nat.le_refl _
  warning := fun _ _ => Nat.le_refl _

theorem name_of_rank
    {name : String}
    (rank : dispenseProgressNameRank name = 3) :
    name = timeoutWarning := by
  unfold dispenseProgressNameRank at rank
  split_ifs at rank with _ _ isWarning <;> first | exact isWarning | omega

theorem GoesOn.trans
    (leading : GoesOn command first middle)
    (trailing : GoesOn command middle last) :
    GoesOn command first last where
  same := trailing.same
  rank := leading.rank.trans trailing.rank
  warning := by
    intro firstWarning lastWarning
    have firstRank : first.progressRank = 3 := by
      rw [Document.progressRank, firstWarning]
      rfl
    have lastRank : last.progressRank = 3 := by
      rw [Document.progressRank, lastWarning]
      rfl
    have middleRank : middle.progressRank = 3 :=
      Nat.le_antisymm (lastRank ▸ trailing.rank) (firstRank ▸ leading.rank)
    have middleWarning : middle.progressStage = some timeoutWarning := by
      cases stage : middle.progressStage with
      | none => simp [Document.progressRank, stage] at middleRank
      | some name =>
        simp only [Document.progressRank, stage, Option.elim_some] at middleRank
        rw [name_of_rank middleRank]
    exact (leading.warning firstWarning middleWarning).trans
      (trailing.warning middleWarning lastWarning)

theorem Advances.trans
    (leading : Advances first middle)
    (trailing : Advances middle last) :
    Advances first last :=
  fun command same =>
    (leading command same).trans (trailing command (leading command same).same)

theorem Advances.refl (document : Document) : Advances document document :=
  fun _ same => .refl same

section Vending

variable {members vending : DocumentMembers}

@[simp] theorem textAt_vending (key : String) :
    Document.textAt
        (.object (Json.insertMember "vending" (.object vending) members))
        ["vending", key] =
      (vending.lookup key).bind Json.asString := by
  cases found : vending.lookup key with
  | none => simp [Document.textAt, Json.pointer, found]
  | some value => simp [Document.textAt, Json.pointer, found]

theorem pointer_vending (key : String) (path : List String) :
    Json.pointer
        (.object (Json.insertMember "vending" (.object vending) members) :
          Document)
        ("vending" :: key :: path) =
      (vending.lookup key).bind fun inner => inner.pointer path := by
  simp [Json.pointer]

theorem textAt_objectAt (key : String) :
    ((DocumentMembers.objectAt members "vending").lookup key).bind
        Json.asString =
      Document.textAt (.object members) ["vending", key] := by
  simp only [DocumentMembers.objectAt, Document.textAt, Json.pointer,
    Json.member_object]
  cases members.lookup "vending" with
  | none => rfl
  | some value =>
    cases inner : value.members with
    | none => simp [Json.member, inner]
    | some others =>
      cases found : others.lookup key with
      | none => simp [Json.member, inner, found]
      | some leaf => simp [Json.member, inner, found]

end Vending

theorem rank_stageName (stage : DispenseProgressStage) :
    dispenseProgressNameRank (dispenseProgressStageName stage) =
      dispenseProgressRank stage := by
  cases stage <;> rfl

theorem eq_of_stageName
    {stage : DispenseProgressStage}
    (same : dispenseProgressStageName stage = timeoutWarning) :
    stage = .pickupTimeoutWarning := by
  cases stage with
  | pickupTimeoutWarning => rfl
  | _ => simp [dispenseProgressStageName, timeoutWarning] at same

theorem patchVending_commandNo
    (event : ObservedProgress)
    (vending : DocumentMembers) :
    (patchVending event vending).lookup "commandNo" =
      some (.string event.commandNo) := by
  unfold patchVending
  split
  · simp [Json.lookup_insertMember_of_ne]
  · simp [Json.lookup_insertMember_of_ne]

theorem patchVending_stage
    (event : ObservedProgress)
    (vending : DocumentMembers) :
    (patchVending event vending).lookup "fulfillmentProgressStage" =
      some (.string (dispenseProgressStageName event.stage)) := by
  unfold patchVending
  split
  · simp [Json.lookup_insertMember_of_ne]
  · simp [Json.lookup_insertMember_of_ne]

theorem patchVending_reminder
    (isWarning : event.stage = .pickupTimeoutWarning)
    (vending : DocumentMembers) :
    ∃ level, (patchVending event vending).lookup "pickupReminder" =
      some (reminderDocument event level timeoutWarning) := by
  have notReset : event.stage ≠ .resetCompleted := by simp [isWarning]
  have contract : ∃ level,
      pickupReminderContract event = some (level, timeoutWarning) := by
    unfold pickupReminderContract
    simp only [isWarning]
    split
    · exact ⟨_, rfl⟩
    · exact ⟨_, rfl⟩
  obtain ⟨level, isContract⟩ := contract
  refine ⟨level, ?_⟩
  rw [patchVending, if_neg notReset, isContract]
  exact Json.lookup_insertMember_self _ _ _

theorem unsignedAt_reminder
    (event : ObservedProgress)
    (level stage : String) :
    Document.unsignedAt (reminderDocument event level stage) ["warningNo"] =
      event.warningNo.map UInt8.toNat := by
  have isMember : (reminderDocument event level stage).member "warningNo" =
      some (event.warningNo.elim .null fun number =>
        .number (.unsigned number.toNat)) := by
    simp [reminderDocument, List.lookup_cons]
  rw [Document.unsignedAt, Json.pointer, isMember]
  cases event.warningNo with
  | none => rfl
  | some number => rfl

theorem unsignedAt_vending
    (members vending : DocumentMembers)
    (key : String)
    (path : List String) :
    Document.unsignedAt
        (.object (Json.insertMember "vending" (.object vending) members))
        ("vending" :: key :: path) =
      (vending.lookup key).bind fun inner => inner.unsignedAt path := by
  rw [Document.unsignedAt, pointer_vending, Option.bind_assoc]
  rfl

/-- The document that a recorded event leaves. -/
theorem goesOn_patch
    (same : status.commandNo = some event.commandNo) :
    GoesOn event.commandNo status
      (patchBackendStatusForDispenseProgress status event) := by
  unfold patchBackendStatusForDispenseProgress
  split
  · exact .refl same
  · rename_i fresh
    simp only [isStaleProgress, Bool.or_eq_true, Bool.and_eq_true,
      decide_eq_true_eq, not_or, not_and, not_lt, not_le] at fresh
    obtain ⟨notBefore, notKnown⟩ := fresh
    dsimp only
    generalize (if event.stage = .resetCompleted then
      (Json.members status).getD []
      else Json.insertMember "nextAction" (.string "dispensing")
        ((Json.members status).getD [])) = members
    generalize isPatched : patchVending event
      (DocumentMembers.objectAt members "vending") = vending
    have isStage : Document.progressStage (.object
        (Json.insertMember "vending" (.object vending) members)) =
          some (dispenseProgressStageName event.stage) := by
      rw [Document.progressStage, textAt_vending, ← isPatched,
        patchVending_stage]
      rfl
    refine ⟨?_, ?_, ?_⟩
    · rw [Document.commandNo, textAt_vending, ← isPatched,
        patchVending_commandNo]
      rfl
    · change status.progressRank ≤
        (Document.progressStage _).elim 0 dispenseProgressNameRank
      rw [isStage]
      simpa [rank_stageName] using notBefore
    · intro wasWarning isWarning
      have stage := eq_of_stageName
        (Option.some.inj (isStage.symm.trans isWarning))
      have rank : status.progressRank = 3 := by
        rw [Document.progressRank, wasWarning]
        rfl
      have later : status.warningNo < (event.warningNo.getD 1).toNat := by
        simpa [stage, rank, dispenseProgressRank] using notKnown
      obtain ⟨level, isReminder⟩ := patchVending_reminder stage
        (DocumentMembers.objectAt members "vending")
      rw [isPatched] at isReminder
      have isNumber : Document.warningNo (.object
          (Json.insertMember "vending" (.object vending) members)) =
            (event.warningNo.map UInt8.toNat).getD 0 := by
        rw [Document.warningNo, unsignedAt_vending, isReminder,
          Option.bind_some, unsignedAt_reminder]
      rw [isNumber]
      cases number : event.warningNo with
      | none =>
        rw [number] at later
        simpa using later
      | some value =>
        rw [number] at later
        exact later.le

theorem advances_record
    (row : Option ProgressRow)
    (event : ObservedProgress) :
    Advances (storedDocument row)
      (storedDocument (recordDispenseProgress row event).1) := by
  unfold recordDispenseProgress
  split
  · exact .refl _
  · rename_i row
    dsimp only
    split
    · exact .refl _
    · split
      · exact .refl _
      · rename_i isCommand
        split
        · exact .refl _
        · intro command same
          rw [not_not] at isCommand
          have isStored : storedDocument (some row) =
            row.lastBackendStatus.getD (.object []) := rfl
          rw [isStored] at same ⊢
          cases isCommand.symm.trans same
          exact goesOn_patch isCommand

theorem eq_object_of_members
    {members : DocumentMembers}
    (isObject : document.members = some members) :
    document = .object members := by
  cases document with
  | object others => exact congrArg _ (Option.some.inj isObject)
  | _ => simp [Json.members] at isObject

theorem lookup_insertSome_self
    (key : String)
    (value : Option Document)
    (members : DocumentMembers) :
    (DocumentMembers.insertSome key value members).lookup key =
      value.or (members.lookup key) := by
  cases value with
  | none => rfl
  | some value => simp [DocumentMembers.insertSome]

theorem lookup_insertSome_of_ne
    {key other : String}
    (differs : other ≠ key)
    (value : Option Document)
    (members : DocumentMembers) :
    (DocumentMembers.insertSome key value members).lookup other =
      members.lookup other := by
  cases value with
  | none => rfl
  | some value =>
    simp [DocumentMembers.insertSome, Json.lookup_insertMember_of_ne differs]

/-- The vending part of an answer that is merged with a local document. -/
structure MergedWith (known after : Document) : Prop where
  command : after.commandNo = known.commandNo
  stage : ∀ stage, known.progressStage = some stage →
    after.progressStage = some stage
  reminder : ∀ reminder, known.pickupReminder = some reminder →
    after.pointer ["vending", "pickupReminder"] = some reminder

theorem warningNo_of_pointer
    (isReminder : document.pointer ["vending", "pickupReminder"] =
      some reminder) :
    document.warningNo = (reminder.unsignedAt ["warningNo"]).getD 0 := by
  have path : document.pointer ["vending", "pickupReminder", "warningNo"] =
      (document.pointer ["vending", "pickupReminder"]).bind
        fun reminder => reminder.pointer ["warningNo"] := by
    simp [Json.pointer, Option.bind_assoc]
  rw [Document.warningNo, Document.unsignedAt, path, isReminder]
  rfl

theorem warningNo_of_no_reminder
    (noReminder : document.pickupReminder = none) :
    document.warningNo = 0 := by
  cases found : document.pointer ["vending", "pickupReminder"] with
  | none =>
    have path : document.pointer
        ["vending", "pickupReminder", "warningNo"] =
      (document.pointer ["vending", "pickupReminder"]).bind
        fun reminder => reminder.pointer ["warningNo"] := by
      simp [Json.pointer, Option.bind_assoc]
    rw [Document.warningNo, Document.unsignedAt, path, found]
    rfl
  | some reminder =>
    have notObject : reminder.members = none := by
      simpa [Document.pickupReminder, found, Json.isObject] using noReminder
    rw [warningNo_of_pointer found, Document.unsignedAt, Json.pointer,
      Json.member, notObject]
    rfl

theorem warningNo_of_reminder
    (isKnown : known.pickupReminder = some reminder)
    (isKept : after.pointer ["vending", "pickupReminder"] = some reminder) :
    after.warningNo = known.warningNo := by
  rw [warningNo_of_pointer isKept,
    warningNo_of_pointer (Option.filter_eq_some_iff.mp isKnown).1]

theorem goesOn_of_merged
    (merged : MergedWith known after)
    (same : known.commandNo = some command) :
    GoesOn command known after where
  same := merged.command.trans same
  rank := by
    cases stage : known.progressStage with
    | none => simp [Document.progressRank, stage]
    | some name => simp [Document.progressRank, stage, merged.stage name stage]
  warning := by
    intro _ _
    cases reminder : known.pickupReminder with
    | none =>
      rw [warningNo_of_no_reminder reminder]
      exact Nat.zero_le _
    | some inner =>
      rw [warningNo_of_reminder reminder (merged.reminder inner reminder)]

theorem pointer_vending_leaf
    (members vending : DocumentMembers)
    (key : String) :
    Json.pointer
        (.object (Json.insertMember "vending" (.object vending) members) :
          Document)
        ["vending", key] = vending.lookup key := by
  simp [Json.pointer]

/-- The merge keeps what is known, for an answer about the same command. -/
theorem mergedWith_merge
    (dispensing : status.textAt ["nextAction"] = some "dispensing")
    (isKnown : known.commandNo = some command)
    (about : status.commandNo = none ∨ status.commandNo = some command) :
    MergedWith known (mergeDispenseProgress (some known) status) := by
  cases isObject : status.members with
  | none =>
    simp [Document.textAt, Json.pointer, Json.member, isObject] at dispensing
  | some members =>
    have isStatus := eq_object_of_members isObject
    subst isStatus
    have isAbout : ∀ named, named =
        ((DocumentMembers.objectAt members "vending").lookup
          "commandNo").bind Json.asString →
        (named.isNone || named = some command) = true := by
      intro named isNamed
      rw [textAt_objectAt] at isNamed
      rcases about with absent | same
      · simp [isNamed, show Document.textAt _ _ = none from absent]
      · simp [isNamed, show Document.textAt _ _ = some command from same]
    have isMerged : mergeDispenseProgress (some known) (.object members) =
        .object (Json.insertMember "vending" (.object
          (DocumentMembers.insertSome "pickupReminder" known.pickupReminder
            (DocumentMembers.insertSome "fulfillmentProgressStage"
              (known.progressStage.map .string)
              (Json.insertMember "commandNo" (.string command)
                (DocumentMembers.objectAt members "vending")))))
          members) := by
      simp [mergeDispenseProgress, dispensing, isKnown, isAbout _ rfl,
        DocumentMembers.insertSome]
    rw [isMerged]
    refine ⟨?_, ?_, ?_⟩
    · rw [isKnown, Document.commandNo, textAt_vending,
        lookup_insertSome_of_ne (by decide),
        lookup_insertSome_of_ne (by decide), Json.lookup_insertMember_self]
      rfl
    · intro stage isStage
      rw [Document.progressStage, textAt_vending,
        lookup_insertSome_of_ne (by decide), isStage,
        lookup_insertSome_self]
      rfl
    · intro reminder isReminder
      rw [pointer_vending_leaf, isReminder, lookup_insertSome_self]
      rfl

theorem validated_vending
    {validated : Document}
    (valid : validateStatusDocument status = .ok validated) :
    validated.member "vending" = status.member "vending" := by
  unfold validateStatusDocument at valid
  split at valid
  · rename_i members action isObject _
    cases parsed : parseCheckoutFlowAction action with
    | error _ => simp [parsed, Except.map] at valid
    | ok nextAction =>
      rw [parsed] at valid
      cases valid
      rw [eq_object_of_members isObject, Json.member_object,
        Json.member_object, Json.lookup_insertMember_of_ne (by decide)]
  · cases valid
    rfl

theorem MergedWith.of_vending
    {merged : Document}
    (isMerged : MergedWith known merged)
    (same : after.member "vending" = merged.member "vending") :
    MergedWith known after := by
  have sameAt : ∀ path, after.pointer ("vending" :: path) =
      merged.pointer ("vending" :: path) := by
    intro path
    rw [Json.pointer, Json.pointer, same]
  obtain ⟨command, stage, reminder⟩ := isMerged
  refine ⟨?_, ?_, ?_⟩
  · rw [← command, Document.commandNo, Document.textAt, sameAt]
    rfl
  · intro name isName
    rw [← stage name isName, Document.progressStage, Document.textAt, sameAt]
    rfl
  · intro value isValue
    rw [← reminder value isValue, sameAt]

theorem StatusApplication.stored_of_row
    {application : StatusApplication}
    {row : ProgressRow}
    (written : application.row = .ok row) :
    ∃ validated,
      validateStatusDocument
        (mergeDispenseProgress application.read.lastBackendStatus
          application.status) = .ok validated ∧
      row.lastBackendStatus = some validated := by
  unfold StatusApplication.row at written
  cases parsed : parseCheckoutFlowAction
      ((application.status.textAt ["nextAction"]).getD
        application.read.nextAction) with
  | error _ =>
    rw [parsed] at written
    cases written
  | ok nextAction =>
    rw [parsed] at written
    cases valid : validateStatusDocument
        (mergeDispenseProgress application.read.lastBackendStatus
          application.status) with
    | error _ =>
      simp only [valid] at written
      cases written
    | ok validated =>
      simp only [valid] at written
      cases written
      exact ⟨validated, rfl, rfl⟩

theorem StatusApplication.IsAboutCommand.advances
    {application : StatusApplication}
    {row : ProgressRow}
    (about : application.IsAboutCommand)
    (written : application.row = .ok row) :
    Advances (storedDocument (some application.read))
      (storedDocument (some row)) := by
  obtain ⟨⟨lastBackendStatus, nextAction⟩, status⟩ := application
  intro command isKnown
  cases lastBackendStatus with
  | none => simp [storedDocument, Document.commandNo, Document.textAt,
      Json.pointer] at isKnown
  | some known =>
    obtain ⟨validated, valid, isStored⟩ :=
      StatusApplication.stored_of_row written
    have isDocument : storedDocument (some row) = validated := by
      simp [storedDocument, isStored]
    rw [isDocument]
    have aboutKnown := about.command
    rw [isKnown] at aboutKnown
    exact goesOn_of_merged
      ((mergedWith_merge about.dispensing isKnown aboutKnown).of_vending
        (validated_vending valid)) isKnown

theorem StatusApplication.IsUpToDate.advances
    {application : StatusApplication}
    {row : Option ProgressRow}
    (upToDate : application.IsUpToDate row) :
    Advances (storedDocument row) (storedDocument (some application.read)) :=
  fun _ same =>
    ⟨upToDate.command.trans same, upToDate.rank, upToDate.warning⟩

theorem advances_step
    {store next : ProgressStore}
    {event : ProgressEvent}
    (keeps : KeepsProgress store event)
    (step : progressMachine.step store event = some next) :
    Advances (storedDocument store.row) (storedDocument next.row) := by
  cases event with
  | record event =>
    cases step
    exact advances_record store.row event
  | readRow status =>
    obtain ⟨read, _, rfl⟩ := Option.map_eq_some_iff.mp step
    exact .refl _
  | write index =>
    obtain ⟨application, isApplying, rfl⟩ := Option.map_eq_some_iff.mp step
    obtain ⟨about, upToDate⟩ := keeps application isApplying
    dsimp only
    split
    · rename_i row written
      exact upToDate.advances.trans (about.advances written)
    · exact .refl _
  | abandon index =>
    cases step
    exact .refl _

theorem record_of_other_command
    (other : (storedDocument row).commandNo ≠ some event.commandNo) :
    recordDispenseProgress row event = (row, false) := by
  cases row with
  | none => rfl
  | some row =>
    have isOther : (row.lastBackendStatus.getD (.object [])).commandNo ≠
      some event.commandNo := other
    by_cases dispensing : row.nextAction = "dispensing"
    · simp [recordDispenseProgress, dispensing, isOther]
    · simp [recordDispenseProgress, dispensing]

theorem not_recorded_of_unchanged
    (unchanged : (recordDispenseProgress row event).1 = row) :
    (recordDispenseProgress row event).2 = false := by
  cases row with
  | none => rfl
  | some row =>
    simp only [recordDispenseProgress] at unchanged ⊢
    split_ifs at unchanged ⊢ with dispensing isCommand isSame
    · rfl
    · rfl
    · rfl
    · have isStored := congrArg (·.lastBackendStatus.getD (.object []))
        (Option.some.inj unchanged)
      simp only [Option.getD_some] at isStored
      refine absurd ?_ isSame
      rw [isStored]
      exact Json.isSame_self _

/--
In a run whose applications are not overtaken the progress of the command only
goes on.  An event of another command changes nothing, and what changes
nothing is not reported as recorded.
-/
theorem dispense_progress_goes_on
    {first last : ProgressStore}
    {events : List ProgressEvent}
    (meets : progressMachine.RunMeets KeepsProgress first events)
    (run : progressMachine.run first events = some last) :
    Advances (storedDocument first.row) (storedDocument last.row) ∧
      ∀ event,
        ((storedDocument last.row).commandNo ≠ some event.commandNo →
          recordDispenseProgress last.row event = (last.row, false)) ∧
        ((recordDispenseProgress last.row event).1 = last.row →
          (recordDispenseProgress last.row event).2 = false) := by
  have stepKeeps : ∀ {store event next},
      Advances (storedDocument first.row) (storedDocument store.row) →
      KeepsProgress store event →
      progressMachine.step store event = some next →
      Advances (storedDocument first.row) (storedDocument next.row) :=
    fun advances keeps step => advances.trans (advances_step keeps step)
  exact ⟨Machine.run_keeps_of_meets stepKeeps (.refl _) meets run,
    fun event => ⟨record_of_other_command, not_recorded_of_unchanged⟩⟩

def dispensingAnswer : Document :=
  .object [("nextAction", .string "dispensing")]

/-- The outlet of the command is open. -/
def openedStore : ProgressStore where
  row := some
    { lastBackendStatus := some (.object
        [("nextAction", .string "dispensing"),
          ("vending", .object
            [("commandNo", .string "C1"),
              ("fulfillmentProgressStage", .string "outlet_opened")])])
      nextAction := "dispensing" }
  applying := []

def waitingEvent : ObservedProgress where
  commandNo := "C1"
  stage := .pickupWaiting
  warningNo := none
  message := "waiting for pickup"
  reportedAt := "2026-01-01T00:00:00Z"

/-- The answer is written before the event comes: the event goes on from it. -/
theorem dispense_progress_goes_on_opened :
    ∃ last,
      progressMachine.run openedStore
        [.readRow dispensingAnswer, .write 0, .record waitingEvent] =
          some last ∧
      (storedDocument last.row).progressRank = 2 ∧
      Advances (storedDocument openedStore.row) (storedDocument last.row) := by
  have meets : progressMachine.RunMeets KeepsProgress openedStore
      [.readRow dispensingAnswer, .write 0, .record waitingEvent] := by
    decide +kernel
  exact ⟨_, rfl, by decide +kernel, (dispense_progress_goes_on meets rfl).1⟩

/-- An event comes between the read and the write: its stage is lost. -/
theorem overtaken_answer_goes_back :
    dispensingAnswer.textAt ["nextAction"] = some "dispensing" ∧
      dispensingAnswer.commandNo = none ∧
      ∃ middle last,
        progressMachine.run openedStore
          [.readRow dispensingAnswer, .record waitingEvent] = some middle ∧
        progressMachine.step middle (.write 0) = some last ∧
        (storedDocument middle.row).commandNo = some "C1" ∧
        (storedDocument middle.row).progressRank = 2 ∧
        (storedDocument last.row).commandNo = some "C1" ∧
        (storedDocument last.row).progressRank = 1 := by
  refine ⟨by decide, by decide, _, _, rfl, rfl, ?_⟩
  decide +kernel

end VendingSystem.Daemon
