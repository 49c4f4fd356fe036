import VendingSystem.DaemonMediaInterest

namespace VendingSystem.Daemon

/-!
# The objects of an interest set

Each object is described by one of the descriptors, and no two objects have
one digest.
-/

def sameDigest (first second : MediaDescriptor) : Bool :=
  first.digest == second.digest

/-- The groups follow each other in the order of their digests. -/
def DigestsIncrease (groups : List (List MediaDescriptor)) : Prop :=
  groups.Pairwise fun earlier later =>
    ∀ first ∈ earlier, ∀ second ∈ later, first.digest < second.digest

theorem digest_le_of_sortKey_le
    {first second : MediaDescriptor}
    (le : first.sortKey ≤ second.sortKey) :
    first.digest ≤ second.digest := by
  rcases Prod.Lex.toLex_le_toLex.mp le with less | ⟨same, -⟩
  · exact less.le
  · exact same.le

theorem pairwise_digest_sortCandidates (candidates : List MediaDescriptor) :
    (sortCandidates candidates).Pairwise fun first second =>
      first.digest ≤ second.digest :=
  (pairwise_sortCandidates candidates).imp fun le =>
    digest_le_of_sortKey_le (of_decide_eq_true le)

variable {groups : List (List MediaDescriptor)}

theorem digestsIncrease_of_sorted
    (sorted : groups.flatten.Pairwise fun first second =>
      first.digest ≤ second.digest)
    (split : groups.IsChain fun earlier later =>
      ∃ isFirst isSecond,
        sameDigest (earlier.getLast isFirst) (later.head isSecond) = false) :
    DigestsIncrease groups := by
  induction groups with
  | nil => exact .nil
  | cons group rest inductionHypothesis =>
    rw [List.flatten_cons, List.pairwise_append] at sorted
    obtain ⟨inGroup, inRest, between⟩ := sorted
    refine List.pairwise_cons.mpr ⟨?_, inductionHypothesis inRest split.tail⟩
    intro later isLater first isFirst second isSecond
    cases rest with
    | nil => cases isLater
    | cons next others =>
      obtain ⟨nonempty, nextNonempty, differ⟩ :=
        (List.isChain_cons_cons.mp split).1
      have lastLe : first.digest ≤ (group.getLast nonempty).digest := by
        rw [← List.dropLast_append_getLast nonempty] at inGroup isFirst
        rcases List.mem_append.mp isFirst with before | last
        · exact (List.pairwise_append.mp inGroup).2.2 first before _
            (List.mem_singleton_self _)
        · rw [List.mem_singleton.mp last]
      have isNext : next.head nextNonempty ∈ (next :: others).flatten :=
        List.mem_flatten_of_mem List.mem_cons_self (List.head_mem _)
      have less : (group.getLast nonempty).digest <
          (next.head nextNonempty).digest := by
        refine lt_of_le_of_ne
          (between _ (List.getLast_mem nonempty) _ isNext) ?_
        simpa [sameDigest] using differ
      have headLe : (next.head nextNonempty).digest ≤ second.digest := by
        have member : second ∈ (next :: others).flatten :=
          List.mem_flatten_of_mem isLater isSecond
        rw [← List.cons_head_tail nextNonempty, List.flatten_cons,
          List.cons_append] at inRest member
        rcases List.mem_cons.mp member with rfl | tail
        · exact le_rfl
        · exact (List.pairwise_cons.mp inRest).1 second tail
      exact lastLe.trans_lt (less.trans_le headLe)

private theorem map_eq_ok
    {Error Value Result : Type}
    {answer : Except Error Value}
    {translate : Value → Result}
    {result : Result}
    (mapped : answer.map translate = .ok result) :
    ∃ value, answer = .ok value ∧ translate value = result := by
  cases answer with
  | error error => cases mapped
  | ok value =>
    cases mapped
    exact ⟨value, rfl, rfl⟩

/-- Each object is described in one of the groups, in their order. -/
theorem collectObjects_increase
    {aggregateBytes : Nat}
    {objects : List MediaObject}
    (increase : DigestsIncrease groups)
    (collected : collectObjects aggregateBytes groups = .ok objects) :
    (∀ object ∈ objects, object.descriptor ∈ groups.flatten) ∧
      objects.Pairwise fun earlier later =>
        earlier.descriptor.digest < later.descriptor.digest := by
  induction groups generalizing aggregateBytes objects with
  | nil =>
    cases collected
    exact ⟨nofun, .nil⟩
  | cons group rest inductionHypothesis =>
    obtain ⟨first, others⟩ := List.pairwise_cons.mp increase
    cases group with
    | nil =>
      rw [collectObjects] at collected
      simpa using inductionHypothesis others collected
    | cons descriptor sources =>
      simp only [collectObjects] at collected
      split at collected
      · cases collected
      · split at collected
        · cases collected
        · obtain ⟨later, isLater, rfl⟩ := map_eq_ok collected
          obtain ⟨inRest, sorted⟩ := inductionHypothesis others isLater
          refine ⟨?_, List.pairwise_cons.mpr ⟨?_, sorted⟩⟩
          · intro object member
            rcases List.mem_cons.mp member with rfl | isLater
            · exact List.mem_cons_self
            · exact List.mem_append_right _ (inRest object isLater)
          · intro object isLater
            obtain ⟨group, isGroup, inGroup⟩ :=
              List.mem_flatten.mp (inRest object isLater)
            exact first group isGroup descriptor List.mem_cons_self _ inGroup

theorem objects_of_normalizeInterestSet
    {validate : MediaDescriptor → Option String}
    {candidates : List MediaDescriptor}
    {interest : InterestSet}
    (normal : normalizeInterestSet validate candidates = .ok interest) :
    (∀ object ∈ interest.objects, object.descriptor ∈ candidates) ∧
      interest.objects.Pairwise fun earlier later =>
        earlier.descriptor.digest < later.descriptor.digest := by
  simp only [normalizeInterestSet] at normal
  split at normal
  · cases normal
  · split at normal
    · cases normal
    · obtain ⟨objects, collected, rfl⟩ := map_eq_ok normal
      have increase : DigestsIncrease
          ((sortCandidates candidates).splitBy sameDigest) := by
        refine digestsIncrease_of_sorted ?_
          (List.isChain_getLast_head_splitBy sameDigest _)
        rw [List.flatten_splitBy]
        exact pairwise_digest_sortCandidates candidates
      obtain ⟨described, sorted⟩ := collectObjects_increase increase collected
      refine ⟨fun object member => ?_, sorted⟩
      have inSorted := described object member
      rw [List.flatten_splitBy] at inSorted
      exact mem_of_mem_sortCandidates inSorted

end VendingSystem.Daemon
