import Mathlib.Logic.Function.Basic

namespace VendingSystem

/-!
# Tables keyed by bits

A finite map that is searched and changed along the bits of its keys, so that
one lookup takes as many steps as a key has bits.
-/

/-- A table keyed by bits; finding and changing an entry walks along its key. -/
inductive Trie (Entry : Type) where
  | leaf
  | node (here : Option Entry) (zero one : Trie Entry)

/-- A type whose members have different keys. -/
class Keyed (Name : Type) where
  key : Name → List Bool
  key_injective : Function.Injective key

namespace Trie

variable {Entry : Type}

def find : Trie Entry → List Bool → Option Entry
  | .leaf, _ => none
  | .node here _ _, [] => here
  | .node _ zero _, false :: rest => zero.find rest
  | .node _ _ one, true :: rest => one.find rest

def put : Trie Entry → List Bool → Entry → Trie Entry
  | .leaf, [], entry => .node (some entry) .leaf .leaf
  | .node _ zero one, [], entry => .node (some entry) zero one
  | .leaf, false :: rest, entry => .node none (put .leaf rest entry) .leaf
  | .leaf, true :: rest, entry => .node none .leaf (put .leaf rest entry)
  | .node here zero one, false :: rest, entry =>
    .node here (zero.put rest entry) one
  | .node here zero one, true :: rest, entry =>
    .node here zero (one.put rest entry)

/-- Every entry satisfies a test. -/
def all (test : Entry → Bool) : Trie Entry → Bool
  | .leaf => true
  | .node here zero one => here.all test && zero.all test && one.all test

@[simp] theorem find_leaf (key : List Bool) :
    (leaf : Trie Entry).find key = none := by
  cases key <;> rfl

theorem find_put
    (trie : Trie Entry)
    (key other : List Bool)
    (entry : Entry) :
    (trie.put key entry).find other =
      if other = key then some entry else trie.find other := by
  induction key generalizing trie other with
  | nil =>
    cases trie <;> rcases other with _ | ⟨_ | _, later⟩ <;> simp [put, find]
  | cons bit rest inductionHypothesis =>
    cases trie <;> cases bit <;> rcases other with _ | ⟨_ | _, later⟩ <;>
      simp [put, find, inductionHypothesis]

theorem all_find
    {test : Entry → Bool}
    {trie : Trie Entry}
    (passes : trie.all test = true)
    {key : List Bool}
    {entry : Entry}
    (found : trie.find key = some entry) :
    test entry = true := by
  induction trie generalizing key with
  | leaf => simp at found
  | node here zero one zeroHypothesis oneHypothesis =>
    simp only [all, Bool.and_eq_true] at passes
    obtain ⟨⟨herePasses, zeroPasses⟩, onePasses⟩ := passes
    rcases key with _ | ⟨_ | _, rest⟩
    · have present : here = some entry := found
      simpa [present] using herePasses
    · exact zeroHypothesis zeroPasses found
    · exact oneHypothesis onePasses found

end Trie

end VendingSystem
