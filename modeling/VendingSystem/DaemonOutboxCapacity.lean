import VendingSystem.DaemonMqttOutbox

namespace VendingSystem.Daemon

/-!
# The capacity of the outbox

A new row displaces the least urgent of the droppable rows, and a prune drops
the least urgent ones beyond the limit.  Rows that are inserted in the
transaction of another write are not counted against the limit.
-/

variable {records : OutboxRecords} {record input : OutboxRecord}

inductive OutboxRefusal where
  | outboxCapacity
  deriving Repr, DecidableEq

/-- The outcome of `enqueueOutbox`, which may refuse the row. -/
def OutboxRecords.tryEnqueueOutbox
    (records : OutboxRecords)
    (input : OutboxRecord) : Except OutboxRefusal OutboxRecords :=
  match records.find? input.id with
  | some _ => .ok records
  | none =>
    if records.rows.length < outboxMaxEvents then
      .ok (records.insertOutbox input)
    else
      match ((records.rows.filter OutboxRecord.droppable).insertionSort
          OutboxRecord.worseThan).head? with
      | none => .error .outboxCapacity
      | some worst =>
        if input.priority < worst.priority then
          .ok ((records.removeOutboxEvent worst.id).insertOutbox input)
        else .error .outboxCapacity

/-- A refused row changes nothing. -/
theorem enqueueOutbox_eq (input : OutboxRecord) :
    records.enqueueOutbox input =
      match records.tryEnqueueOutbox input with
      | .ok after => after
      | .error _ => records := by
  unfold OutboxRecords.enqueueOutbox OutboxRecords.tryEnqueueOutbox
  cases records.find? input.id with
  | some _ => rfl
  | none =>
    by_cases room : records.rows.length < outboxMaxEvents
    · simp only [room, ↓reduceIte]
    · simp only [room, ↓reduceIte]
      cases ((records.rows.filter OutboxRecord.droppable).insertionSort
          OutboxRecord.worseThan).head? with
      | none => rfl
      | some worst =>
        by_cases urgent : input.priority < worst.priority
        · simp only [urgent, ↓reduceIte]
        · simp only [urgent, ↓reduceIte]

/-- The writers of the outbox; rows of equal rank come in any order. -/
inductive OutboxChange where
  | enqueueOutbox (input : OutboxRecord)
  | insertOutboxInTx (input : OutboxRecord)
  | pruneExpired (now : MqttTime)
  | pruneOversize
  | removeOutboxEvent (id : OutboxEventId)
  | replaceOutboxEvent (input : OutboxRecord)
  | listedAs (rows : OutboxRecords)

namespace OutboxChange

def apply (records : OutboxRecords) : OutboxChange → OutboxRecords
  | .enqueueOutbox input => records.enqueueOutbox input
  | .insertOutboxInTx input => records.insertOutbox input
  | .pruneExpired now => records.pruneExpired now
  | .pruneOversize => records.pruneOversize
  | .removeOutboxEvent id => records.removeOutboxEvent id
  | .replaceOutboxEvent input => records.replaceOutboxEvent input
  | .listedAs rows => if rows.rows.Perm records.rows then rows else records

def applyAll (records : OutboxRecords) (changes : List OutboxChange) :
    OutboxRecords :=
  changes.foldl apply records

end OutboxChange

instance : IsTrans OutboxRecord OutboxRecord.worseThan where
  trans first second third leading trailing := by
    rcases leading with less | ⟨same, older⟩
    · rcases trailing with less' | ⟨same', _⟩
      · exact Or.inl (less'.trans less)
      · exact Or.inl (same' ▸ less)
    · rcases trailing with less' | ⟨same', older'⟩
      · exact Or.inl (same ▸ less')
      · exact Or.inr ⟨same.trans same', Nat.le_trans older older'⟩

instance : Std.Total OutboxRecord.worseThan where
  total first second := by
    rcases lt_trichotomy first.priority second.priority with
      less | same | more
    · exact Or.inr (Or.inl less)
    · rcases Nat.le_total first.createdAt second.createdAt with older | newer
      · exact Or.inl (Or.inr ⟨same, older⟩)
      · exact Or.inr (Or.inr ⟨same.symm, newer⟩)
    · exact Or.inl (Or.inl more)

instance : IsTrans OutboxRecord OutboxRecord.keptBefore where
  trans first second third leading trailing := by
    rcases leading with less | ⟨same, newer⟩
    · rcases trailing with less' | ⟨same', _⟩
      · exact Or.inl (less.trans less')
      · exact Or.inl (same' ▸ less)
    · rcases trailing with less' | ⟨same', newer'⟩
      · exact Or.inl (same ▸ less')
      · exact Or.inr ⟨same.trans same', Nat.le_trans newer' newer⟩

instance : Std.Total OutboxRecord.keptBefore where
  total first second := by
    rcases lt_trichotomy first.priority second.priority with
      less | same | more
    · exact Or.inl (Or.inl less)
    · rcases Nat.le_total first.createdAt second.createdAt with older | newer
      · exact Or.inr (Or.inr ⟨same.symm, older⟩)
      · exact Or.inl (Or.inr ⟨same, newer⟩)
    · exact Or.inr (Or.inl more)

theorem worst_spec
    {worst : OutboxRecord}
    (isWorst : ((records.rows.filter OutboxRecord.droppable).insertionSort
      OutboxRecord.worseThan).head? = some worst) :
    worst ∈ records ∧ worst.droppable = true ∧
      ∀ other ∈ records, other.droppable = true →
        other.priority ≤ worst.priority := by
  have sorted := List.pairwise_insertionSort OutboxRecord.worseThan
    (records.rows.filter OutboxRecord.droppable)
  have isMember : ∀ row,
      row ∈ (records.rows.filter OutboxRecord.droppable).insertionSort
        OutboxRecord.worseThan ↔ row ∈ records ∧ row.droppable = true :=
    fun row => (List.mem_insertionSort _).trans List.mem_filter
  obtain ⟨rest, isSorted⟩ := List.head?_eq_some_iff.mp isWorst
  rw [isSorted] at sorted isMember
  obtain ⟨stored, droppable⟩ := (isMember worst).mp List.mem_cons_self
  refine ⟨stored, droppable, fun other otherStored otherDroppable => ?_⟩
  rcases List.mem_cons.mp ((isMember other).mpr
    ⟨otherStored, otherDroppable⟩) with rfl | later
  · exact Int.le_refl _
  · rcases List.rel_of_pairwise_cons sorted later with less | ⟨same, _⟩
    · exact Int.le_of_lt less
    · exact Int.le_of_eq same.symm

/-- A row stays when a new row does not have its id. -/
theorem mem_insertOutbox
    (other : record.id ≠ input.id)
    (stored : record ∈ records) : record ∈ records.insertOutbox input := by
  apply Table.mem_of_find?
  rw [OutboxRecords.insertOutbox, Table.find?_insertOrUpdate, if_neg other]
  exact Table.find?_of_mem stored

theorem mem_removeOutboxEvent
    {id : OutboxEventId} :
    record ∈ records.removeOutboxEvent id ↔
      record ∈ records ∧ record.id ≠ id := by
  simp [OutboxRecords.removeOutboxEvent, Table.mem_def, Table.deleteWhere]

/-- What an accepted row displaced. -/
theorem enqueueOutbox_cases
    (records : OutboxRecords)
    (input : OutboxRecord) :
    records.enqueueOutbox input = records ∨
      (∀ record ∈ records, record.id ≠ input.id) ∧
      (records.enqueueOutbox input = records.insertOutbox input ∨
        ∃ worst ∈ records, worst.droppable = true ∧
          (∀ other ∈ records, other.droppable = true →
            other.priority ≤ worst.priority) ∧
          input.priority < worst.priority ∧
          records.enqueueOutbox input =
            (records.removeOutboxEvent worst.id).insertOutbox input) := by
  unfold OutboxRecords.enqueueOutbox
  cases found : records.find? input.id with
  | some _ => exact Or.inl rfl
  | none =>
    have fresh := Table.find?_eq_none_iff.mp found
    dsimp only
    split
    · exact Or.inr ⟨fresh, Or.inl rfl⟩
    · split
      · exact Or.inl rfl
      · rename_i worst isWorst
        obtain ⟨stored, droppable, isMost⟩ := worst_spec isWorst
        split
        · rename_i urgent
          exact Or.inr ⟨fresh, Or.inr
            ⟨worst, stored, droppable, isMost, urgent, rfl⟩⟩
        · exact Or.inl rfl

theorem displaced_spec
    (stored : record ∈ records)
    (gone : record ∉ records.enqueueOutbox input) :
    record.droppable = true ∧ input.priority < record.priority ∧
      ∀ other ∈ records, other.droppable = true →
        other.priority ≤ record.priority := by
  rcases enqueueOutbox_cases records input with
    same | ⟨fresh, same | ⟨worst, isStored, droppable, isMost, urgent, same⟩⟩
  · rw [same] at gone
    exact absurd stored gone
  · rw [same] at gone
    exact absurd (mem_insertOutbox (fresh record stored) stored) gone
  · by_cases isWorst : record.id = worst.id
    · obtain rfl := Table.eq_of_key_eq stored isStored isWorst
      exact ⟨droppable, urgent, isMost⟩
    · rw [same] at gone
      exact absurd (mem_insertOutbox (fresh record stored)
        (mem_removeOutboxEvent.mpr ⟨stored, isWorst⟩)) gone

theorem mem_pruneExpired
    {now : MqttTime}
    (stored : record ∈ records)
    (gone : record ∉ records.pruneExpired now) :
    record.droppable = true := by
  by_contra kept
  apply gone
  have isFalse := Bool.eq_false_iff.mpr kept
  exact List.mem_filter.mpr ⟨stored, by simp [isFalse]⟩

/-- What is dropped for size was sorted behind what is kept. -/
theorem droppedForSize_spec
    (stored : record ∈ records)
    (gone : record ∉ records.pruneOversize) :
    record.droppable = true ∧
      ∀ other ∈ records.pruneOversize, other.droppable = true →
        other.priority ≤ record.priority := by
  have isMember : ∀ row,
      row ∈ (records.rows.filter OutboxRecord.droppable).insertionSort
        OutboxRecord.keptBefore ↔ row ∈ records ∧ row.droppable = true :=
    fun row => (List.mem_insertionSort _).trans List.mem_filter
  have sorted := List.pairwise_insertionSort OutboxRecord.keptBefore
    (records.rows.filter OutboxRecord.droppable)
  have isKept : ∀ row, row ∈ records.pruneOversize ↔ row ∈ records ∧
      ∀ dropped ∈ ((records.rows.filter
        OutboxRecord.droppable).insertionSort
          OutboxRecord.keptBefore).drop outboxMaxEvents,
        dropped.id ≠ row.id := by
    intro row
    simp [OutboxRecords.pruneOversize, Table.mem_def, Table.deleteWhere]
  generalize (records.rows.filter OutboxRecord.droppable).insertionSort
    OutboxRecord.keptBefore = ranked at isMember sorted isKept
  rw [← List.take_append_drop outboxMaxEvents ranked] at sorted isMember
  obtain ⟨_, _, ordered⟩ := List.pairwise_append.mp sorted
  have dropped : record ∈ ranked.drop outboxMaxEvents := by
    by_contra notDropped
    refine gone ((isKept record).mpr ⟨stored, fun row isRow same => ?_⟩)
    have rowStored :=
      ((isMember row).mp (List.mem_append_right _ isRow)).1
    rw [Table.eq_of_key_eq rowStored stored same] at isRow
    exact notDropped isRow
  refine ⟨((isMember record).mp (List.mem_append_right _ dropped)).2,
    fun other otherKept droppable => ?_⟩
  obtain ⟨otherStored, notDropped⟩ := (isKept other).mp otherKept
  rcases List.mem_append.mp ((isMember other).mpr ⟨otherStored, droppable⟩)
    with before | after
  · rcases ordered other before record dropped with less | ⟨same, _⟩
    · exact Int.le_of_lt less
    · exact Int.le_of_eq same
  · exact absurd rfl (notDropped other after)

def secureDecommissionResultTopic (machineCode : String) : String :=
  "vem/machines/" ++ machineCode ++ secureDecommissionResultSuffix

theorem isSecureDecommissionResult_topic (machineCode : String) :
    isSecureDecommissionResult
      (secureDecommissionResultTopic machineCode) = true := by
  have lowered : secureDecommissionResultSuffix.toList.map Char.toLower =
      secureDecommissionResultSuffix.toList := by
    decide
  simp only [isSecureDecommissionResult, secureDecommissionResultTopic,
    toAsciiLowercase, String.toList_append, List.map_append, lowered]
  exact List.isSuffixOf_iff_suffix.mpr (List.suffix_append _ _)

/-- An upload, or a result of a decommissioning. -/
def OutboxRecord.IsProtected (record : OutboxRecord) : Prop :=
  record.kind = .stockMovementUpload ∨
    ∃ machineCode,
      record.topic = some (secureDecommissionResultTopic machineCode)

theorem OutboxRecord.IsProtected.not_droppable
    (isProtected : record.IsProtected) : record.droppable ≠ true := by
  rcases isProtected with isUpload | ⟨machineCode, isTopic⟩
  · simp [OutboxRecord.droppable, isUpload]
  · simp [OutboxRecord.droppable, isTopic, isSecureDecommissionResult_topic]

/-- What a capacity limit never sacrifices, in a given outbox. -/
structure OutboxRecords.SparesUrgent (records : OutboxRecords) : Prop where
  /-- Uploads and decommission results stay. -/
  protectedKept : ∀ record ∈ records, record.IsProtected →
    (∀ input, record ∈ records.enqueueOutbox input) ∧
      (∀ now, record ∈ records.pruneExpired now) ∧
      record ∈ records.pruneOversize
  /-- A displaced row is less urgent than the new one and than the others. -/
  displaced : ∀ record ∈ records, ∀ input,
    record ∉ records.enqueueOutbox input →
      input.priority < record.priority ∧
        ∀ other ∈ records, other.droppable = true →
          other.priority ≤ record.priority
  refused : ∀ input, records.tryEnqueueOutbox input = .error .outboxCapacity →
    records.enqueueOutbox input = records
  /-- A row that is there is accepted again and nothing changes. -/
  repeated : ∀ record ∈ records, ∀ input : OutboxRecord,
    input.id = record.id →
      records.tryEnqueueOutbox input = .ok records
  droppedForSize : ∀ record ∈ records, record ∉ records.pruneOversize →
    ∀ other ∈ records.pruneOversize, other.droppable = true →
      other.priority ≤ record.priority

theorem sparesUrgent (records : OutboxRecords) : records.SparesUrgent where
  protectedKept record stored isProtected := by
    have notDroppable := isProtected.not_droppable
    refine ⟨fun input => ?_, fun now => ?_, ?_⟩
    · by_contra gone
      exact notDroppable (displaced_spec stored gone).1
    · by_contra gone
      exact notDroppable (mem_pruneExpired stored gone)
    · by_contra gone
      exact notDroppable (droppedForSize_spec stored gone).1
  displaced record stored input gone := (displaced_spec stored gone).2
  refused input isRefused := by rw [enqueueOutbox_eq, isRefused]
  repeated record stored input same := by
    rw [OutboxRecords.tryEnqueueOutbox, same, Table.find?_of_mem stored]
  droppedForSize record stored gone := (droppedForSize_spec stored gone).2

/--
Whatever was enqueued, inserted, pruned and removed before: the limit drops no
upload and no decommission result, and no row that is more urgent than one
that it keeps.
-/
theorem outbox_spares_urgent
    (first : OutboxRecords)
    (changes : List OutboxChange) :
    (OutboxChange.applyAll first changes).SparesUrgent :=
  sparesUrgent _

end VendingSystem.Daemon
