import Mathlib.Logic.Function.Basic

namespace VendingSystem

/-!
# Threads over a shared state

Every thread is at a phase of its own, and a step moves one thread and changes
the shared state.  What a thread knows of the shared state at its phase holds
in every run when each move establishes what the moved thread knows next, and
does not interfere with what any other thread knows.
-/

structure Threads (Shared Phase : Type) where
  shared : Shared
  phase : Nat → Phase

namespace Threads

variable {Shared Phase : Type}

/-- A thread is at a new phase, over a new shared state. -/
def moved
    (threads : Threads Shared Phase)
    (thread : Nat)
    (shared : Shared)
    (phase : Phase) : Threads Shared Phase where
  shared := shared
  phase := Function.update threads.phase thread phase

section Moved

variable
  (threads : Threads Shared Phase)
  (thread : Nat)
  (shared : Shared)
  (phase : Phase)

@[simp] theorem moved_shared :
    (threads.moved thread shared phase).shared = shared := rfl

@[simp] theorem moved_phase_self :
    (threads.moved thread shared phase).phase thread = phase :=
  Function.update_self _ _ _

theorem moved_phase_of_ne
    {thread other : Nat}
    (different : other ≠ thread) :
    (threads.moved thread shared phase).phase other = threads.phase other :=
  Function.update_of_ne different _ _

end Moved

/-- The shared state meets its invariant, and every thread knows its part. -/
structure Knowing
    (valid : Shared → Prop)
    (knows : Shared → Nat → Phase → Prop)
    (threads : Threads Shared Phase) : Prop where
  valid : valid threads.shared
  knows : ∀ thread, knows threads.shared thread (threads.phase thread)

theorem Knowing.moved
    {valid : Shared → Prop}
    {knows : Shared → Nat → Phase → Prop}
    {threads : Threads Shared Phase}
    {thread : Nat}
    {shared : Shared}
    {phase : Phase}
    (knowing : threads.Knowing valid knows)
    (stillValid : valid shared)
    (mover : knows shared thread phase)
    (others : ∀ other otherPhase, other ≠ thread →
      knows threads.shared other otherPhase →
      knows shared other otherPhase) :
    (threads.moved thread shared phase).Knowing valid knows where
  valid := stillValid
  knows other := by
    by_cases same : other = thread
    · subst other
      rw [moved_shared, moved_phase_self]
      exact mover
    · rw [moved_shared, moved_phase_of_ne _ _ _ same]
      exact others other _ same (knowing.knows other)

end Threads

end VendingSystem
