import Mathlib.Data.List.Destutter
import Mathlib.Data.List.SplitBy
import Mathlib.Data.Prod.Lex
import Mathlib.Data.String.Basic
import Mathlib.Order.WithBot

namespace VendingSystem.Daemon

/-!
# The interest of a catalog in media

A catalog names its media by descriptors.  They are sorted and stripped of
repetitions; those of one digest are the sources of one object.
-/

structure MediaDescriptor where
  id : String
  reference : String
  digest : String
  contentType : String
  byteSize : Nat
  purpose : String
  catalogRevision : String
  assetRevision : Option String
  deriving Repr, DecidableEq

/-- What tells one object from another, whatever its sources. -/
structure MediaIdentity where
  digest : String
  contentType : String
  byteSize : Nat
  deriving Repr, DecidableEq

def mediaIdentity (descriptor : MediaDescriptor) : MediaIdentity where
  digest := descriptor.digest
  contentType := descriptor.contentType
  byteSize := descriptor.byteSize

/-- The order of the candidates; no revision of the asset comes first. -/
def MediaDescriptor.sortKey (descriptor : MediaDescriptor) :
    String ×ₗ String ×ₗ Nat ×ₗ String ×ₗ String ×ₗ String ×ₗ String ×ₗ
      WithBot String :=
  toLex (descriptor.digest, toLex (descriptor.contentType,
    toLex (descriptor.byteSize, toLex (descriptor.id,
      toLex (descriptor.reference, toLex (descriptor.purpose,
        toLex (descriptor.catalogRevision, descriptor.assetRevision)))))))

structure MediaObject where
  descriptor : MediaDescriptor
  candidates : List MediaDescriptor
  deriving Repr, DecidableEq

structure InterestSet where
  candidates : List MediaDescriptor
  objects : List MediaObject
  deriving Repr, DecidableEq

def maxMediaObjects : Nat := 256

/-- The largest cache less what is reserved of it. -/
def mediaByteBudget : Nat := 100000000 - 5000000

def sortCandidates (candidates : List MediaDescriptor) :
    List MediaDescriptor :=
  (candidates.mergeSort fun first second =>
    decide (first.sortKey ≤ second.sortKey)).destutter (· ≠ ·)

/-- One object for each run of descriptors with one digest. -/
def collectObjects :
    Nat → List (List MediaDescriptor) → Except String (List MediaObject)
  | _, [] => .ok []
  | aggregateBytes, [] :: rest => collectObjects aggregateBytes rest
  | aggregateBytes, (descriptor :: others) :: rest =>
    if others.any fun other =>
        mediaIdentity other ≠ mediaIdentity descriptor then
      .error "managed media digest has inconsistent immutable facts"
    else
      let aggregateBytes :=
        min (aggregateBytes + descriptor.byteSize) (2 ^ 64 - 1)
      if aggregateBytes > mediaByteBudget then
        .error "managed media cache byte budget exceeded"
      else
        (collectObjects aggregateBytes rest).map fun objects =>
          { descriptor, candidates := descriptor :: others } :: objects

/-- `validate` gives the error of a descriptor that is not valid. -/
def normalizeInterestSet
    (validate : MediaDescriptor → Option String)
    (candidates : List MediaDescriptor) : Except String InterestSet :=
  if candidates.length > maxMediaObjects then
    .error "managed media interest object limit exceeded"
  else
    match candidates.findSome? validate with
    | some error => .error error
    | none =>
      let sorted := sortCandidates candidates
      (collectObjects 0
        (sorted.splitBy fun first second =>
          first.digest == second.digest)).map fun objects =>
        { candidates := sorted, objects }

theorem pairwise_sortCandidates (candidates : List MediaDescriptor) :
    (sortCandidates candidates).Pairwise fun first second =>
      decide (first.sortKey ≤ second.sortKey) = true := by
  refine List.Pairwise.sublist (List.destutter_sublist _ _) ?_
  refine List.pairwise_mergeSort ?_ ?_ _
  · intro first second third before after
    simp only [decide_eq_true_eq] at before after ⊢
    exact before.trans after
  · intro first second
    simp only [Bool.or_eq_true, decide_eq_true_eq]
    exact le_total _ _

theorem sortCandidates_idem (candidates : List MediaDescriptor) :
    sortCandidates (sortCandidates candidates) =
      sortCandidates candidates := by
  have sorted := List.mergeSort_of_pairwise (pairwise_sortCandidates candidates)
  conv_lhs => rw [sortCandidates, sorted]
  exact List.destutter_of_isChain _ _ (List.isChain_destutter _ _)

variable {candidates : List MediaDescriptor}

theorem mem_of_mem_sortCandidates
    {descriptor : MediaDescriptor}
    (member : descriptor ∈ sortCandidates candidates) :
    descriptor ∈ candidates :=
  List.mem_mergeSort.mp ((List.destutter_sublist _ _).subset member)

theorem length_sortCandidates_le (candidates : List MediaDescriptor) :
    (sortCandidates candidates).length ≤ candidates.length := by
  have sublist := (List.destutter_sublist (· ≠ ·)
    (candidates.mergeSort fun first second =>
      decide (first.sortKey ≤ second.sortKey))).length_le
  simpa [sortCandidates] using sublist

/-- The interest set that was stored is read back as it was. -/
theorem normalizeInterestSet_candidates
    {validate : MediaDescriptor → Option String}
    {interest : InterestSet}
    (normal : normalizeInterestSet validate candidates = .ok interest) :
    normalizeInterestSet validate interest.candidates = .ok interest := by
  have short : ¬ candidates.length > maxMediaObjects := by
    intro long
    simp [normalizeInterestSet, long] at normal
  have valid : candidates.findSome? validate = none := by
    cases found : candidates.findSome? validate with
    | none => rfl
    | some error => simp [normalizeInterestSet, short, found] at normal
  simp only [normalizeInterestSet, if_neg short, valid] at normal
  cases collected : collectObjects 0
      ((sortCandidates candidates).splitBy fun first second =>
        first.digest == second.digest) with
  | error error =>
    rw [collected] at normal
    cases normal
  | ok objects =>
    rw [collected] at normal
    cases normal
    have sortedShort :
        ¬ (sortCandidates candidates).length > maxMediaObjects := by
      have := length_sortCandidates_le candidates
      omega
    have sortedValid :
        (sortCandidates candidates).findSome? validate = none := by
      rw [List.findSome?_eq_none_iff] at valid ⊢
      exact fun descriptor member =>
        valid descriptor (mem_of_mem_sortCandidates member)
    simp only [normalizeInterestSet, if_neg sortedShort, sortedValid,
      sortCandidates_idem, collected]
    rfl

end VendingSystem.Daemon
