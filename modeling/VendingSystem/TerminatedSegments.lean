import Mathlib.Data.List.Basic

namespace VendingSystem

/-!
# Segments of a stream that end with a terminator

A stream of symbols is cut behind each terminator.  What follows the last
terminator is still open, and is no segment.
-/

section

variable {Symbol : Type}
variable {ends : Symbol → Bool}

/-- Each segment with the symbol that has ended it. -/
def terminated (ends : Symbol → Bool) :
    List Symbol → List (List Symbol × Symbol)
  | [] => []
  | symbol :: rest =>
    if ends symbol then ([], symbol) :: terminated ends rest
    else
      match terminated ends rest with
      | [] => []
      | (segment, terminator) :: later =>
        (symbol :: segment, terminator) :: later

variable {terminator : Symbol}

theorem terminated_append
    {segment : List Symbol}
    (isOpen : ∀ symbol ∈ segment, ends symbol = false)
    (isEnd : ends terminator = true)
    (rest : List Symbol) :
    terminated ends (segment ++ terminator :: rest) =
      (segment, terminator) :: terminated ends rest := by
  induction segment with
  | nil => simp [terminated, isEnd]
  | cons symbol others inductionHypothesis =>
    have goesOn := inductionHypothesis fun other member =>
      isOpen other (List.mem_cons_of_mem _ member)
    have notEnd := isOpen symbol List.mem_cons_self
    simp [terminated, notEnd, goesOn]

/-- A stream without a terminator has no segment. -/
theorem terminated_open
    {symbols : List Symbol}
    (isOpen : ∀ symbol ∈ symbols, ends symbol = false) :
    terminated ends symbols = [] := by
  induction symbols with
  | nil => rfl
  | cons symbol rest inductionHypothesis =>
    have goesOn := inductionHypothesis fun other member =>
      isOpen other (List.mem_cons_of_mem _ member)
    have notEnd := isOpen symbol List.mem_cons_self
    simp [terminated, notEnd, goesOn]

variable {leading : List Symbol}

theorem terminated_ne_nil
    (isEnd : ends terminator = true) :
    terminated ends (leading ++ [terminator]) ≠ [] := by
  induction leading with
  | nil => simp [terminated, isEnd]
  | cons symbol rest inductionHypothesis =>
    rw [List.cons_append, terminated]
    split
    · exact List.cons_ne_nil _ _
    · split
      · rename_i none
        exact absurd none inductionHypothesis
      · exact List.cons_ne_nil _ _

theorem terminated_behind
    (ends : Symbol → Bool)
    (isEnd : ends terminator = true)
    (trailing : List Symbol) :
    terminated ends (leading ++ terminator :: trailing) =
      terminated ends (leading ++ [terminator]) ++
        terminated ends trailing := by
  induction leading with
  | nil => simp [terminated, isEnd]
  | cons symbol rest inductionHypothesis =>
    simp only [List.cons_append, terminated, inductionHypothesis]
    cases segments : terminated ends (rest ++ [terminator]) with
    | nil => exact absurd segments (terminated_ne_nil isEnd)
    | cons first later =>
      split
      · rfl
      · rfl

end

end VendingSystem
