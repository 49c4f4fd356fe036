import Mathlib.Logic.Basic
import Mathlib.Order.Defs.Unbundled

namespace VendingSystem

/-!
# Transactions that commit or roll back

A transaction returns the next state with an answer, or an error, and then
nothing it wrote is kept.  The rules of `Within` bound, for a preorder on
states, what a transaction can change, from what its statements can.
-/

/-- A computation over a database that commits or fails. -/
abbrev Transaction (State Error Answer : Type) : Type :=
  StateT State (Except Error) Answer

namespace Transaction

variable {Error First Second State Answer Item : Type}

variable {result : Except Error First}

variable {value : Second}

theorem map_eq_ok_iff
    {change : First → Second} :
    result.map change = .ok value ↔
      ∃ inner, result = .ok inner ∧ change inner = value := by
  cases result with
  | error refusal => simp [Except.map]
  | ok inner => simp [Except.map]

theorem mapError_eq_ok_iff
    {OtherError : Type}
    {translate : Error → OtherError}
    {value : First} :
    result.mapError translate = .ok value ↔ result = .ok value := by
  cases result with
  | error refusal =>
    change Except.error (translate refusal) = .ok value ↔ _
    simp
  | ok inner =>
    change Except.ok inner = .ok value ↔ _
    simp

/-- A sequence of two steps succeeds exactly when both steps do. -/
theorem bind_eq_ok_iff
    {later : First → Except Error Second} :
    result.bind later = .ok value ↔
      ∃ inner, result = .ok inner ∧ later inner = .ok value := by
  cases result with
  | error refusal => simp [Except.bind]
  | ok inner => simp [Except.bind]

variable {compute : First → Except Error Second} {items : List First}
  {answers : List Second}

theorem mem_of_mapM_eq_ok
    (computed : items.mapM compute = .ok answers)
    {answer : Second}
    (member : answer ∈ answers) :
    ∃ item ∈ items, compute item = .ok answer := by
  induction items generalizing answers with
  | nil =>
    cases computed
    cases member
  | cons item rest inductionHypothesis =>
    rw [List.mapM_cons] at computed
    obtain ⟨first, firstComputed, later⟩ := bind_eq_ok_iff.mp computed
    obtain ⟨others, othersComputed, same⟩ := bind_eq_ok_iff.mp later
    cases same
    rcases List.mem_cons.mp member with rfl | other
    · exact ⟨item, List.mem_cons_self, firstComputed⟩
    · obtain ⟨source, inRest, sourceComputed⟩ :=
        inductionHypothesis othersComputed other
      exact ⟨source, List.mem_cons_of_mem _ inRest, sourceComputed⟩

theorem map_eq_map_of_mapM_eq_ok
    {Shared : Type}
    {ofItem : First → Shared}
    {ofAnswer : Second → Shared}
    (shares : ∀ {item answer}, compute item = .ok answer →
      ofAnswer answer = ofItem item)
    (computed : items.mapM compute = .ok answers) :
    answers.map ofAnswer = items.map ofItem := by
  induction items generalizing answers with
  | nil =>
    cases computed
    rfl
  | cons item rest inductionHypothesis =>
    rw [List.mapM_cons] at computed
    obtain ⟨first, firstComputed, later⟩ := bind_eq_ok_iff.mp computed
    obtain ⟨others, othersComputed, same⟩ := bind_eq_ok_iff.mp later
    cases same
    rw [List.map_cons, List.map_cons, shares firstComputed,
      inductionHypothesis othersComputed]

/-- The transaction commits with an answer. -/
def Commits
    (transaction : Transaction State Error Answer)
    (before : State)
    (answer : Answer)
    (after : State) : Prop :=
  transaction.run before = .ok (answer, after)

/-- What a caller sees: the answer or the error, and the kept state. -/
def execute
    (transaction : Transaction State Error Answer)
    (before : State) : Except Error Answer × State :=
  match transaction.run before with
  | .ok (answer, after) => (.ok answer, after)
  | .error refusal => (.error refusal, before)

theorem execute_cases
    (transaction : Transaction State Error Answer)
    (before : State) :
    (∃ refusal, transaction.execute before = (.error refusal, before)) ∨
      ∃ answer after, transaction.Commits before answer after ∧
        transaction.execute before = (.ok answer, after) := by
  unfold execute Commits
  cases transaction.run before with
  | error refusal => exact Or.inl ⟨refusal, rfl⟩
  | ok result => exact Or.inr ⟨result.1, result.2, rfl, rfl⟩

theorem execute_of_commits
    {transaction : Transaction State Error Answer}
    {before after : State}
    {answer : Answer}
    (committed : transaction.Commits before answer after) :
    transaction.execute before = (.ok answer, after) := by
  unfold Commits at committed
  simp [execute, committed]

/-- Refuse unless a condition holds. -/
def require
    (condition : Bool)
    (refusal : Error) : Transaction State Error Unit :=
  if condition then pure () else throw refusal

/-- Refuse when a lookup is empty. -/
def requireSome
    (lookup : Option Answer)
    (refusal : Error) : Transaction State Error Answer :=
  match lookup with
  | some answer => pure answer
  | none => throw refusal

/-- Run a state change that may refuse as one statement. -/
def statement
    (change : State → Except Error State) :
    Transaction State Error Unit :=
  fun before => (change before).map fun after => ((), after)

@[simp] theorem commits_statement
    {change : State → Except Error State}
    {answer : Unit}
    {before after : State} :
    Commits (statement change) before answer after ↔
      change before = .ok after := by
  simp [Commits, statement, StateT.run, map_eq_ok_iff]

/-- The value of a computation that may refuse and reads no state. -/
def ofExcept (result : Except Error Answer) :
    Transaction State Error Answer :=
  fun before => result.map fun answer => (answer, before)

@[simp] theorem commits_ofExcept
    {result : Except Error Answer}
    {answer : Answer}
    {before after : State} :
    Commits (ofExcept result) before answer after ↔
      result = .ok answer ∧ after = before := by
  simp only [Commits, ofExcept, StateT.run, map_eq_ok_iff]
  constructor
  · rintro ⟨value, computed, same⟩
    cases same
    exact ⟨computed, rfl⟩
  · rintro ⟨computed, rfl⟩
    exact ⟨answer, computed, rfl⟩

@[simp] theorem commits_pure
    {value answer : Answer}
    {before after : State} :
    Commits (pure value : Transaction State Error Answer)
        before answer after ↔
      answer = value ∧ after = before := by
  constructor
  · intro commits
    cases commits
    exact ⟨rfl, rfl⟩
  · rintro ⟨rfl, rfl⟩
    rfl

variable {first : Transaction State Error First}

theorem commits_bind
    {later : First → Transaction State Error Answer}
    {answer : Answer}
    {before after : State} :
    Commits (first >>= later) before answer after ↔
      ∃ value middle, Commits first before value middle ∧
        Commits (later value) middle answer after := by
  simp only [Commits, StateT.run_bind]
  cases first.run before with
  | error refusal => simp [bind, Except.bind]
  | ok result =>
    obtain ⟨value, middle⟩ := result
    simp [bind, Except.bind, and_assoc]

@[simp] theorem commits_get
    {answer before after : State} :
    Commits (get : Transaction State Error State) before answer after ↔
      answer = before ∧ after = before := by
  constructor
  · intro commits
    cases commits
    exact ⟨rfl, rfl⟩
  · rintro ⟨rfl, rfl⟩
    rfl

@[simp] theorem commits_modify
    {change : State → State}
    {answer : Unit}
    {before after : State} :
    Commits (modify change : Transaction State Error Unit)
        before answer after ↔
      after = change before := by
  constructor
  · intro commits
    cases commits
    rfl
  · rintro rfl
    rfl

variable {refusal : Error}

@[simp] theorem commits_throw
    {answer : Answer}
    {before after : State} :
    ¬ Commits (throw refusal : Transaction State Error Answer)
        before answer after := by
  intro commits
  cases commits

@[simp] theorem commits_require
    {condition : Bool}
    {answer : Unit}
    {before after : State} :
    Commits (require condition refusal) before answer after ↔
      condition = true ∧ after = before := by
  cases condition with
  | true => simp [require]
  | false => simp [require]

@[simp] theorem commits_requireSome
    {lookup : Option Answer}
    {answer : Answer}
    {before after : State} :
    Commits (requireSome lookup refusal) before answer after ↔
      lookup = some answer ∧ after = before := by
  cases lookup with
  | none => simp [requireSome]
  | some value => simp [requireSome, eq_comm]

@[simp] theorem commits_map
    {change : First → Answer}
    {answer : Answer}
    {before after : State} :
    Commits (change <$> first) before answer after ↔
      ∃ value, Commits first before value after ∧ answer = change value := by
  rw [map_eq_pure_bind, commits_bind]
  simp only [commits_pure]
  constructor
  · rintro ⟨value, middle, leading, rfl, rfl⟩
    exact ⟨value, leading, rfl⟩
  · rintro ⟨value, leading, rfl⟩
    exact ⟨value, after, leading, rfl, rfl⟩

section Sequences

variable
  {answer : Answer}
  {before after : State}

@[simp] theorem commits_get_bind
    {later : State → Transaction State Error Answer} :
    Commits (get >>= later) before answer after ↔
      Commits (later before) before answer after := by
  simp only [commits_bind, commits_get]
  constructor
  · rintro ⟨_, _, ⟨rfl, rfl⟩, trailing⟩
    exact trailing
  · exact fun trailing => ⟨before, before, ⟨rfl, rfl⟩, trailing⟩

variable {later : Unit → Transaction State Error Answer}

@[simp] theorem commits_modify_bind
    {change : State → State} :
    Commits (modify change >>= later) before answer after ↔
      Commits (later ()) (change before) answer after := by
  simp only [commits_bind, commits_modify]
  constructor
  · rintro ⟨_, _, rfl, trailing⟩
    exact trailing
  · exact fun trailing => ⟨(), change before, rfl, trailing⟩

@[simp] theorem commits_require_bind
    {condition : Bool} :
    Commits (require condition refusal >>= later) before answer after ↔
      condition = true ∧ Commits (later ()) before answer after := by
  simp only [commits_bind, commits_require]
  constructor
  · rintro ⟨_, _, ⟨holds, rfl⟩, trailing⟩
    exact ⟨holds, trailing⟩
  · exact fun ⟨holds, trailing⟩ => ⟨(), before, ⟨holds, rfl⟩, trailing⟩

@[simp] theorem commits_statement_bind
    {change : State → Except Error State} :
    Commits (statement change >>= later) before answer after ↔
      ∃ middle, change before = .ok middle ∧
        Commits (later ()) middle answer after := by
  simp only [commits_bind, commits_statement]
  constructor
  · rintro ⟨_, middle, changed, trailing⟩
    exact ⟨middle, changed, trailing⟩
  · exact fun ⟨middle, changed, trailing⟩ => ⟨(), middle, changed, trailing⟩

@[simp] theorem commits_ofExcept_bind
    {later : First → Transaction State Error Answer} :
    Commits (ofExcept result >>= later) before answer after ↔
      ∃ value, result = .ok value ∧
        Commits (later value) before answer after := by
  simp [commits_bind, and_assoc]

@[simp] theorem commits_requireSome_bind
    {lookup : Option First}
    {later : First → Transaction State Error Answer} :
    Commits (requireSome lookup refusal >>= later) before answer after ↔
      ∃ value, lookup = some value ∧
        Commits (later value) before answer after := by
  simp [commits_bind, and_assoc]

end Sequences

variable {body : Item → Transaction State Error PUnit}

@[simp] theorem commits_forM_nil
    {answer : PUnit}
    {before after : State} :
    Commits (forM ([] : List Item) body) before answer after ↔
      after = before := by
  simp

@[simp] theorem commits_forM_cons
    {item : Item}
    {rest : List Item}
    {answer : PUnit}
    {before after : State} :
    Commits (forM (item :: rest) body) before answer after ↔
      ∃ middle, Commits (body item) before PUnit.unit middle ∧
        Commits (forM rest body) middle answer after := by
  rw [List.forM_cons, commits_bind]
  constructor
  · rintro ⟨_, middle, leading, trailing⟩
    exact ⟨middle, leading, trailing⟩
  · exact fun ⟨middle, leading, trailing⟩ =>
      ⟨PUnit.unit, middle, leading, trailing⟩

theorem forM_keeps
    (invariant : List Item → State → Prop)
    (roundKeeps :
      ∀ {item rest before after},
        invariant (item :: rest) before →
        Commits (body item) before PUnit.unit after →
        invariant rest after)
    {items : List Item}
    {before after : State}
    {answer : PUnit}
    (start : invariant items before)
    (commits : Commits (forM items body) before answer after) :
    invariant [] after := by
  induction items generalizing before with
  | nil =>
    rw [commits_forM_nil] at commits
    subst commits
    exact start
  | cons item rest inductionHypothesis =>
    obtain ⟨middle, round, later⟩ := commits_forM_cons.mp commits
    exact inductionHypothesis (roundKeeps start round) later

/-- Each item of a loop has a committed round and each answer comes from one. -/
theorem mapM_commits
    {body : Item → Transaction State Error Answer}
    {items : List Item}
    {before after : State}
    {answers : List Answer}
    (commits : Commits (items.mapM body) before answers after) :
    (∀ item ∈ items, ∃ answer first last,
      Commits (body item) first answer last) ∧
    ∀ answer ∈ answers, ∃ item ∈ items, ∃ first last,
      Commits (body item) first answer last := by
  induction items generalizing before answers with
  | nil =>
    rw [List.mapM_nil] at commits
    obtain ⟨rfl, _⟩ := commits_pure.mp commits
    exact ⟨fun _ member => absurd member List.not_mem_nil,
      fun _ member => absurd member List.not_mem_nil⟩
  | cons item rest inductionHypothesis =>
    rw [List.mapM_cons] at commits
    obtain ⟨answer, middle, round, later⟩ := commits_bind.mp commits
    obtain ⟨others, last, rounds, returned⟩ := commits_bind.mp later
    obtain ⟨rfl, rfl⟩ := commits_pure.mp returned
    obtain ⟨itemRounds, answerRounds⟩ := inductionHypothesis rounds
    refine ⟨fun other member => ?_, fun other member => ?_⟩
    · rcases List.mem_cons.mp member with rfl | inRest
      · exact ⟨answer, before, middle, round⟩
      · exact itemRounds other inRest
    · rcases List.mem_cons.mp member with rfl | inOthers
      · exact ⟨item, List.mem_cons_self, before, middle, round⟩
      · obtain ⟨source, inRest, first, final, sourceRound⟩ :=
          answerRounds other inOthers
        exact ⟨source, List.mem_cons_of_mem _ inRest, first, final,
          sourceRound⟩

/-- Every commit relates the state before to the state after. -/
def Within
    (relation : State → State → Prop)
    (transaction : Transaction State Error Answer) : Prop :=
  ∀ {before after : State} {answer : Answer},
    transaction.Commits before answer after → relation before after

namespace Within

variable {relation : State → State → Prop}

theorem mono
    {wider : State → State → Prop}
    {transaction : Transaction State Error Answer}
    (within : Within relation transaction)
    (weaker : ∀ {before after}, relation before after → wider before after) :
    Within wider transaction :=
  fun commits => weaker (within commits)

protected theorem throw (refusal : Error) :
    Within relation
      (throw refusal : Transaction State Error Answer) :=
  fun commits => (commits_throw commits).elim

protected theorem modify
    {change : State → State}
    (changes : ∀ state, relation state (change state)) :
    Within relation (modify change : Transaction State Error PUnit) := by
  intro before after answer commits
  rw [commits_modify] at commits
  subst commits
  exact changes before

protected theorem statement
    {change : State → Except Error State}
    (changes : ∀ {before after}, change before = .ok after →
      relation before after) :
    Within relation (statement change) := by
  intro before after answer commits
  exact changes (commits_statement.mp commits)

section Preorder

variable [IsPreorder State relation]

protected theorem pure (answer : Answer) :
    Within relation (pure answer : Transaction State Error Answer) := by
  intro before after other commits
  obtain ⟨_, rfl⟩ := commits_pure.mp commits
  exact refl after

protected theorem get :
    Within relation (get : Transaction State Error State) := by
  intro before after answer commits
  obtain ⟨_, rfl⟩ := commits_get.mp commits
  exact refl after

protected theorem require (condition : Bool) (refusal : Error) :
    Within relation
      (require condition refusal : Transaction State Error Unit) := by
  intro before after answer commits
  obtain ⟨_, rfl⟩ := commits_require.mp commits
  exact refl after

protected theorem requireSome (lookup : Option Answer) (refusal : Error) :
    Within relation
      (requireSome lookup refusal : Transaction State Error Answer) := by
  intro before after answer commits
  obtain ⟨_, rfl⟩ := commits_requireSome.mp commits
  exact refl after

protected theorem ofExcept (result : Except Error Answer) :
    Within relation
      (Transaction.ofExcept result : Transaction State Error Answer) := by
  intro before after answer commits
  obtain ⟨_, rfl⟩ := commits_ofExcept.mp commits
  exact refl after

protected theorem bind
    {first : Transaction State Error First}
    {later : First → Transaction State Error Answer}
    (firstWithin : Within relation first)
    (laterWithin : ∀ value, Within relation (later value)) :
    Within relation (first >>= later) := by
  intro before after answer commits
  obtain ⟨value, middle, leading, trailing⟩ := commits_bind.mp commits
  exact IsTrans.trans _ _ _ (firstWithin leading) (laterWithin value trailing)

protected theorem forM
    {Item : Type}
    {body : Item → Transaction State Error PUnit}
    (bodyWithin : ∀ item, Within relation (body item))
    (items : List Item) :
    Within relation (forM items body) := by
  induction items with
  | nil => exact Within.pure _
  | cons item rest inductionHypothesis =>
    exact Within.bind (bodyWithin item) (fun _ => inductionHypothesis)

protected theorem mapM
    {Item : Type}
    {body : Item → Transaction State Error Answer}
    (bodyWithin : ∀ item, Within relation (body item))
    (items : List Item) :
    Within relation (items.mapM body) := by
  induction items with
  | nil =>
    rw [List.mapM_nil]
    exact Within.pure _
  | cons item rest inductionHypothesis =>
    rw [List.mapM_cons]
    apply Within.bind (bodyWithin item)
    intro answer
    apply Within.bind inductionHypothesis
    intro answers
    exact Within.pure _

end Preorder

end Within

/-- Every commit answers what the predicate admits. -/
def Answers
    (admits : Answer → Prop)
    (transaction : Transaction State Error Answer) : Prop :=
  ∀ before answer after,
    transaction.Commits before answer after → admits answer

namespace Answers

protected theorem pure
    {admits : Answer → Prop}
    {answer : Answer}
    (admitted : admits answer) :
    Answers admits (pure answer : Transaction State Error Answer) := by
  intro before other after commits
  obtain ⟨rfl, _⟩ := commits_pure.mp commits
  exact admitted

protected theorem throw
    {admits : Answer → Prop}
    (refusal : Error) :
    Answers admits (throw refusal : Transaction State Error Answer) :=
  fun _ _ _ commits => (commits_throw commits).elim

protected theorem bind
    {admits : Answer → Prop}
    {first : Transaction State Error First}
    {later : First → Transaction State Error Answer}
    (laterAnswers : ∀ value, Answers admits (later value)) :
    Answers admits (first >>= later) := by
  intro before answer after commits
  obtain ⟨value, middle, _, trailing⟩ := commits_bind.mp commits
  exact laterAnswers value middle answer after trailing

end Answers

end Transaction

end VendingSystem
