universe u v w

/-!
# Executions that consume outside results

Code that calls the operating system can finish, can wait for a result that
has not come, or can leave the memory it owns.  The three ends are kept apart:
waiting is not a failure, and a memory fault is not a result.

A receive loop takes one outside result per round until its guard fails or a
round decides.  Two such loops are compared round by round: when the rounds
correspond, the whole runs correspond, for every sequence of results.
-/

/-- What becomes of an execution. -/
inductive Exec (α : Type u) where
  | done (value : α)
  | waiting
  | fault
deriving Repr, DecidableEq

namespace Exec

variable {α : Type u} {β : Type u}

def bind (run : Exec α) (next : α → Exec β) : Exec β :=
  match run with
  | done value => next value
  | waiting => waiting
  | fault => fault

instance : Monad Exec where
  pure := done
  bind := bind

@[simp] theorem pure_eq (value : α) : (pure value : Exec α) = done value := rfl

@[simp] theorem done_bind (value : α) (next : α → Exec β) : done value >>= next = next value := rfl

@[simp] theorem waiting_bind (next : α → Exec β) : (waiting : Exec α) >>= next = waiting := rfl

@[simp] theorem fault_bind (next : α → Exec β) : (fault : Exec α) >>= next = fault := rfl

/-- A block goes on behind a block inside it. -/
theorem bind_assoc {γ : Type u} (run : Exec α) (first : α → Exec β) (second : β → Exec γ) :
    run >>= first >>= second = run >>= fun value => first value >>= second := by
  cases run <;> rfl

theorem bind_eq_done_iff {run : Exec α} {next : α → Exec β} {result : β} :
    run >>= next = done result ↔ ∃ value, run = done value ∧ next value = done result := by
  cases run with
  | done value =>
      rw [done_bind]
      constructor
      · intro finished
        exact ⟨value, rfl, finished⟩
      · rintro ⟨other, same, finished⟩
        cases same
        exact finished
  | waiting => simp
  | fault => simp

/-- What is shown of two executions tells them apart when it tells their values
apart. -/
theorem bind_done_injective {show_ : α → β}
    (injective : ∀ first second, show_ first = show_ second → first = second)
    {left right : Exec α}
    (same : (left >>= fun value => done (show_ value)) = right >>= fun value => done (show_ value)) :
    left = right := by
  cases left with
  | done first =>
      cases right with
      | done second => rw [injective first second (Exec.done.inj same)]
      | waiting => cases same
      | fault => cases same
  | waiting =>
      cases right with
      | done second => cases same
      | waiting => rfl
      | fault => cases same
  | fault =>
      cases right with
      | done second => cases same
      | waiting => cases same
      | fault => rfl

/-- An execution that does not wait, and that faults under a condition and
nowhere else. -/
inductive FaultsIff (run : Exec α) (condition : Prop) : Prop where
  | faults (fault : run = fault) (holds : condition)
  | finishes (value : α) (done : run = done value) (fails : ¬ condition)

theorem FaultsIff.finishes_iff {run : Exec α} {condition : Prop} (faults : FaultsIff run condition) :
    (∃ value, run = done value) ↔ ¬ condition := by
  cases faults with
  | faults fault holds =>
      rw [fault]
      exact iff_of_false nofun (not_not_intro holds)
  | finishes value done fails => exact iff_of_true ⟨value, done⟩ fails

theorem FaultsIff.congr {run : Exec α} {condition other : Prop} (faults : FaultsIff run condition)
    (same : condition ↔ other) : FaultsIff run other := by
  rwa [propext same] at faults

theorem faultsIff_done (value : α) : FaultsIff (done value) False :=
  .finishes value rfl id

/-- A block faults in its first part, or behind it. -/
theorem FaultsIff.bind {run : Exec α} {next : α → Exec β} {condition : Prop} {then_ : α → Prop}
    (first : FaultsIff run condition)
    (second : ∀ value, run = done value → FaultsIff (next value) (then_ value)) :
    FaultsIff (run >>= next) (condition ∨ ∃ value, run = done value ∧ then_ value) := by
  cases first with
  | faults fault holds =>
      rw [fault]
      exact .faults rfl (Or.inl holds)
  | finishes value done fails =>
      have alone : (condition ∨ ∃ other, run = .done other ∧ then_ other) ↔ then_ value := by
        rw [or_iff_right fails, done]
        constructor
        · rintro ⟨other, same, holds⟩
          cases same
          exact holds
        · intro holds
          exact ⟨value, rfl, holds⟩
      rw [propext alone, done, done_bind]
      exact second value done

/-- One execution finishes with a related value exactly when the other does,
and both wait or fault together. -/
inductive Related {α : Type u} {β : Type v} (relation : α → β → Prop) : Exec α → Exec β → Prop where
  | done {left : α} {right : β} (related : relation left right) :
      Related relation (done left) (done right)
  | waiting : Related relation waiting waiting
  | fault : Related relation fault fault

/-- Continuations that agree on related values turn related executions into
equal ones. -/
theorem Related.bind_eq {α β γ : Type u} {relation : α → β → Prop} {left : Exec α} {right : Exec β}
    (related : Related relation left right) {leftNext : α → Exec γ} {rightNext : β → Exec γ}
    (agree : ∀ first second, relation first second → leftNext first = rightNext second) :
    left >>= leftNext = right >>= rightNext := by
  cases related with
  | done related => exact agree _ _ related
  | waiting => rfl
  | fault => rfl

end Exec

/-- The end of one round of a loop: another round, or a decision. -/
inductive Round (σ : Type u) (β : Type v) where
  | again (state : σ)
  | stop (result : β)
deriving Repr, DecidableEq

namespace Round

variable {σ : Type u} {β : Type v} {τ : Type w} {γ : Type v}

/-- Corresponding ends of two rounds. -/
inductive Related (states : σ → τ → Prop) (results : β → γ → Prop) :
    Round σ β → Round τ γ → Prop where
  | again {left : σ} {right : τ} (related : states left right) :
      Related states results (again left) (again right)
  | stop {left : β} {right : γ} (related : results left right) :
      Related states results (stop left) (stop right)

/-- A round with its decision written another way. -/
def map (put : β → γ) : Round σ β → Round σ γ
  | again state => again state
  | stop result => stop (put result)

theorem map_id (round : Round σ β) : round.map id = round := by
  cases round <;> rfl

end Round

namespace Exec

variable {σ τ : Type u} {ι : Type v} {β γ : Type u}

/-- Run rounds while the guard holds, one outside result for each round.  A
guarded loop with no result left waits. -/
def loop (guard : σ → Bool) (round : σ → ι → Exec (Round σ β)) (leave : σ → β) :
    List ι → σ → Exec β
  | [], state => if guard state then waiting else done (leave state)
  | input :: rest, state =>
      if guard state then
        match round state input with
        | done (.again next) => loop guard round leave rest next
        | done (.stop result) => done result
        | waiting => waiting
        | fault => fault
      else done (leave state)

/-- Corresponding rounds give corresponding runs on every sequence of
outside results. -/
theorem loop_related {states : σ → τ → Prop} {results : β → γ → Prop}
    {guard : σ → Bool} {round : σ → ι → Exec (Round σ β)} {leave : σ → β}
    {otherGuard : τ → Bool} {otherRound : τ → ι → Exec (Round τ γ)} {otherLeave : τ → γ}
    (guards : ∀ left right, states left right → guard left = otherGuard right)
    (leaves : ∀ left right, states left right → guard left = false →
      results (leave left) (otherLeave right))
    (rounds : ∀ left right input, states left right → guard left = true →
      Related (Round.Related states results) (round left input) (otherRound right input))
    (inputs : List ι) (left : σ) (right : τ) (related : states left right) :
    Related results (loop guard round leave inputs left)
      (loop otherGuard otherRound otherLeave inputs right) := by
  induction inputs generalizing left right with
  | nil =>
      cases open_ : guard left with
      | true =>
          simp only [loop, ← guards left right related, open_, if_true]
          exact .waiting
      | false =>
          simp only [loop, ← guards left right related, open_, Bool.false_eq_true, if_false]
          exact .done (leaves left right related open_)
  | cons input rest inductionHypothesis =>
      cases open_ : guard left with
      | true =>
          simp only [loop, ← guards left right related, open_, if_true]
          have step := rounds left right input related open_
          cases leftRound : round left input <;> cases rightRound : otherRound right input <;>
            rw [leftRound, rightRound] at step <;> cases step
          case done.done.done ends =>
            cases ends with
            | again next => exact inductionHypothesis _ _ next
            | stop decided => exact .done decided
          case waiting.waiting.waiting => exact .waiting
          case fault.fault.fault => exact .fault
      | false =>
          simp only [loop, ← guards left right related, open_, Bool.false_eq_true, if_false]
          exact .done (leaves left right related open_)

theorem bind_done {α : Type u} (run : Exec α) : (run >>= fun value => done value) = run := by
  cases run <;> rfl

/-- Two loops run alike when their rounds are alike as long as an invariant
holds, with the decisions written another way. -/
theorem loop_map (holds : σ → Prop) (put : β → γ) {guard : σ → Bool}
    {round : σ → ι → Exec (Round σ β)} {leave : σ → β} {other : σ → ι → Exec (Round σ γ)}
    {otherLeave : σ → γ}
    (leaves : ∀ state, holds state → guard state = false → otherLeave state = put (leave state))
    (rounds : ∀ state input, holds state → guard state = true →
      other state input = round state input >>= fun round => done (round.map put))
    (keeps : ∀ state input next, holds state → guard state = true →
      round state input = done (.again next) → holds next)
    (inputs : List ι) (state : σ) (start : holds state) :
    loop guard other otherLeave inputs state =
      loop guard round leave inputs state >>= fun result => done (put result) := by
  induction inputs generalizing state with
  | nil =>
      cases open_ : guard state with
      | true => simp only [loop, open_, if_true, waiting_bind]
      | false =>
          simp only [loop, open_, Bool.false_eq_true, if_false, done_bind,
            leaves state start open_]
  | cons input rest inductionHypothesis =>
      cases open_ : guard state with
      | false =>
          simp only [loop, open_, Bool.false_eq_true, if_false, done_bind,
            leaves state start open_]
      | true =>
          simp only [loop, open_, if_true, rounds state input start open_]
          cases ends : round state input with
          | waiting => rfl
          | fault => rfl
          | done next =>
              cases next with
              | stop result => rfl
              | again next => exact inductionHypothesis next (keeps state input next start open_ ends)

/-- What holds as long as a loop goes on, and what its last round makes of it,
hold of the result. -/
theorem loop_done {holds : σ → Prop} {ends : β → Prop} {guard : σ → Bool}
    {round : σ → ι → Exec (Round σ β)} {leave : σ → β}
    (leaves : ∀ state, holds state → guard state = false → ends (leave state))
    (keeps : ∀ state input next, holds state → guard state = true →
      round state input = done (.again next) → holds next)
    (stops : ∀ state input result, holds state → guard state = true →
      round state input = done (.stop result) → ends result)
    {inputs : List ι} {state : σ} {result : β} (start : holds state)
    (finished : loop guard round leave inputs state = done result) : ends result := by
  induction inputs generalizing state with
  | nil =>
      cases open_ : guard state with
      | true =>
          simp only [loop, open_, if_true] at finished
          cases finished
      | false =>
          simp only [loop, open_, Bool.false_eq_true, if_false] at finished
          cases finished
          exact leaves state start open_
  | cons input rest inductionHypothesis =>
      cases open_ : guard state with
      | false =>
          simp only [loop, open_, Bool.false_eq_true, if_false] at finished
          cases finished
          exact leaves state start open_
      | true =>
          simp only [loop, open_, if_true] at finished
          cases round_ : round state input with
          | waiting =>
              rw [round_] at finished
              cases finished
          | fault =>
              rw [round_] at finished
              cases finished
          | done next =>
              rw [round_] at finished
              cases next with
              | stop decided =>
                  cases finished
                  exact stops state input result start open_ round_
              | again next =>
                  exact inductionHypothesis (keeps state input next start open_ round_) finished

end Exec
