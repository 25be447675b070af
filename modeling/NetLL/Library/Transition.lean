import NetLL.Library.Exec

universe u v w w'

/-!
# Systems that take labelled steps

A system is a step function that says which actions are possible in a state and
where they lead.  Its runs are lists of actions.  A guard is a condition on an
action and the state in which it is taken, and a run is guarded when all its
actions meet the condition.  Whatever the guarded steps preserve holds in every
state that a guarded run reaches.

A loop that takes outside results is such a system too, as long as it goes on.
-/

namespace Transition

variable {σ : Type u} {α : Type v}

/-- The state after some actions, when all of them are possible. -/
def run (step : σ → α → Option σ) : σ → List α → Option σ
  | state, [] => some state
  | state, action :: rest =>
      match step state action with
      | none => none
      | some next => run step next rest

/-- Every action is taken in a state that meets the guard. -/
def Guarded (step : σ → α → Option σ) (guard : σ → α → Prop) : σ → List α → Prop
  | _, [] => True
  | state, action :: rest =>
      guard state action ∧
        match step state action with
        | none => True
        | some next => Guarded step guard next rest

instance decidableGuarded (step : σ → α → Option σ) (guard : σ → α → Prop)
    [∀ state action, Decidable (guard state action)] (state : σ) (actions : List α) :
    Decidable (Guarded step guard state actions) :=
  match actions with
  | [] => isTrue trivial
  | action :: rest =>
      match result : step state action with
      | none => decidable_of_iff (guard state action) (by simp [Guarded, result])
      | some next =>
          have := decidableGuarded step guard next rest
          decidable_of_iff (guard state action ∧ Guarded step guard next rest)
            (by simp [Guarded, result])

variable {step : σ → α → Option σ} {guard : σ → α → Prop}

/-- An invariant of the guarded steps holds at the end of a guarded run. -/
theorem invariant_run {invariant : σ → Prop}
    (preserved : ∀ state action next, invariant state → guard state action →
      step state action = some next → invariant next)
    {start final : σ} {actions : List α} (initially : invariant start)
    (guarded : Guarded step guard start actions) (reached : run step start actions = some final) :
    invariant final := by
  induction actions generalizing start with
  | nil =>
      cases reached
      exact initially
  | cons action rest inductionHypothesis =>
      rw [run] at reached
      rcases guarded with ⟨allowed, guarded⟩
      cases taken : step start action with
      | none =>
          rw [taken] at reached
          cases reached
      | some next =>
          rw [taken] at reached guarded
          exact inductionHypothesis (preserved start action next initially allowed taken)
            guarded reached

/-- Without a guard, an invariant holds at the end of every run. -/
theorem invariant_reached {invariant : σ → Prop}
    (preserved : ∀ state action next, invariant state → step state action = some next →
      invariant next)
    {start final : σ} {actions : List α} (initially : invariant start)
    (reached : run step start actions = some final) : invariant final := by
  have guarded : Guarded step (fun _ _ => True) start actions := by
    induction actions generalizing start with
    | nil => trivial
    | cons action rest inductionHypothesis =>
        refine ⟨trivial, ?_⟩
        rw [run] at reached
        cases taken : step start action with
        | none => trivial
        | some next =>
            rw [taken] at reached
            exact inductionHypothesis (preserved start action next initially taken) reached
  exact invariant_run (fun state action next holds _ taken => preserved state action next holds taken)
    initially guarded reached

/-- When the guard says which steps are possible, it says which runs are. -/
theorem run_possible_iff_guarded
    (possible : ∀ state action, (∃ next, step state action = some next) ↔ guard state action)
    (start : σ) (actions : List α) :
    (∃ final, run step start actions = some final) ↔ Guarded step guard start actions := by
  induction actions generalizing start with
  | nil => exact iff_of_true ⟨start, rfl⟩ trivial
  | cons action rest inductionHypothesis =>
      rw [run, Guarded, ← possible]
      cases step start action with
      | none => exact iff_of_false nofun nofun
      | some next => exact (inductionHypothesis next).trans (and_iff_right ⟨next, rfl⟩).symm

theorem run_snoc (start : σ) (actions : List α) (action : α) :
    run step start (actions ++ [action]) =
      (run step start actions).bind fun state => step state action := by
  induction actions generalizing start with
  | nil =>
      change (match step start action with
        | none => none
        | some next => some next) = step start action
      cases step start action <;> rfl
  | cons first rest inductionHypothesis =>
      rw [List.cons_append, run, run]
      cases step start first with
      | none => rfl
      | some next => exact inductionHypothesis next

theorem run_append (start : σ) (first second : List α) :
    run step start (first ++ second) =
      (run step start first).bind fun state => run step state second := by
  induction first generalizing start with
  | nil => rfl
  | cons action rest inductionHypothesis =>
      rw [List.cons_append, run, run]
      cases step start action with
      | none => rfl
      | some next => exact inductionHypothesis next

/-- Some run ends in the state. -/
def Reached (step : σ → α → Option σ) (start state : σ) : Prop :=
  ∃ actions, run step start actions = some state

theorem Reached.next {start state after : σ} {action : α} (reached : Reached step start state)
    (taken : step state action = some after) : Reached step start after := by
  rcases reached with ⟨actions, led⟩
  refine ⟨actions ++ [action], ?_⟩
  rw [run_snoc, led, Option.bind_some, taken]

theorem Reached.invariant {invariant : σ → Prop}
    (preserved : ∀ state action next, invariant state → step state action = some next →
      invariant next)
    {start state : σ} (initially : invariant start) (reached : Reached step start state) :
    invariant state := by
  rcases reached with ⟨actions, led⟩
  exact invariant_reached preserved initially led

/-- When every step adds to what a state shows, a run adds it all, in order. -/
theorem shown_run {γ : Type w} (shows_ : σ → List γ) {adds : α → List γ}
    (steps : ∀ state action next, step state action = some next →
      shows_ next = shows_ state ++ adds action)
    {start final : σ} {actions : List α} (reached : run step start actions = some final) :
    shows_ final = shows_ start ++ actions.flatMap adds := by
  induction actions generalizing start with
  | nil =>
      cases reached
      exact (List.append_nil _).symm
  | cons action rest inductionHypothesis =>
      rw [run] at reached
      cases taken : step start action with
      | none =>
          rw [taken] at reached
          cases reached
      | some next =>
          rw [taken] at reached
          rw [inductionHypothesis reached, steps start action next taken, List.flatMap_cons,
            List.append_assoc]

/-- Two systems that take related steps take related runs. -/
theorem run_related {τ : Type w} {β : Type w'} {other : τ → β → Option τ} {states : σ → τ → Prop}
    {translate : α → β}
    (steps : ∀ state mate action, states state mate →
      Option.Rel states (step state action) (other mate (translate action)))
    {start : σ} {mate : τ} (related : states start mate) (actions : List α) :
    Option.Rel states (run step start actions) (run other mate (actions.map translate)) := by
  induction actions generalizing start mate with
  | nil => exact .some related
  | cons action rest inductionHypothesis =>
      rw [List.map_cons, run, run]
      have together := steps start mate action related
      cases taken : step start action with
      | none =>
          cases answer : other mate (translate action) with
          | none => exact .none
          | some => rw [taken, answer] at together; cases together
      | some next =>
          cases answer : other mate (translate action) with
          | none => rw [taken, answer] at together; cases together
          | some after =>
              rw [taken, answer] at together
              cases together with
              | some relatedNext => exact inductionHypothesis relatedNext

/-- Two systems with the same states and steps take the same runs. -/
theorem run_map {β : Type w} {other : σ → β → Option σ} {translate : α → β}
    (steps : ∀ state action, other state (translate action) = step state action) (start : σ)
    (actions : List α) : run other start (actions.map translate) = run step start actions := by
  induction actions generalizing start with
  | nil => rfl
  | cons action rest inductionHypothesis =>
      rw [List.map_cons, run, run, steps]
      cases step start action with
      | none => rfl
      | some next => exact inductionHypothesis next

/-- Every state of the run is good, the first one included. -/
def Always (step : σ → α → Option σ) (good : σ → Prop) : σ → List α → Prop
  | state, [] => good state
  | state, action :: rest =>
      good state ∧
        match step state action with
        | none => True
        | some next => Always step good next rest

/-- An invariant of all steps holds in every state of every run. -/
theorem always_of_preserved {invariant good : σ → Prop}
    (holds : ∀ state, invariant state → good state)
    (preserved : ∀ state action next, invariant state → step state action = some next →
      invariant next)
    {start : σ} {actions : List α} (initially : invariant start) :
    Always step good start actions := by
  induction actions generalizing start with
  | nil => exact holds start initially
  | cons action rest inductionHypothesis =>
      rw [Always]
      refine ⟨holds start initially, ?_⟩
      cases taken : step start action with
      | none => trivial
      | some next => exact inductionHypothesis (preserved start action next initially taken)

/-- A rank that no step raises, and that the steps of one party lower, has come
to zero on the way, or it is lower by all these steps. -/
theorem passes_zero {rank : σ → Nat} {inside : σ → Prop} {own : α → Bool}
    (descends : ∀ state action next, inside state → 0 < rank state →
      step state action = some next →
        inside next ∧ rank next ≤ rank state ∧ (own action = true → rank next < rank state))
    {start final : σ} {actions : List α} (initially : inside start)
    (reached : run step start actions = some final) :
    (∃ front middle, front <+: actions ∧ run step start front = some middle ∧ inside middle ∧
        rank middle = 0) ∨
      inside final ∧ 0 < rank final ∧ rank final + actions.countP own ≤ rank start := by
  induction actions generalizing start with
  | nil =>
      cases reached
      rcases Nat.eq_zero_or_pos (rank final) with zero | positive
      · exact Or.inl ⟨[], final, List.nil_prefix, rfl, initially, zero⟩
      · exact Or.inr ⟨initially, positive, Nat.le_refl _⟩
  | cons action rest inductionHypothesis =>
      rcases Nat.eq_zero_or_pos (rank start) with zero | positive
      · exact Or.inl ⟨[], start, List.nil_prefix, rfl, initially, zero⟩
      · rw [run] at reached
        cases taken : step start action with
        | none =>
            rw [taken] at reached
            cases reached
        | some next =>
            rw [taken] at reached
            rcases descends start action next initially positive taken with ⟨still, le, lt⟩
            rcases inductionHypothesis still reached with
              ⟨front, middle, within, led, zero⟩ | ⟨there, going, left_⟩
            · refine Or.inl ⟨action :: front, middle, List.cons_prefix_cons.mpr ⟨rfl, within⟩,
                ?_, zero⟩
              rw [run, taken]
              exact led
            · refine Or.inr ⟨there, going, ?_⟩
              rw [List.countP_cons]
              split
              · rename_i owned
                exact Nat.lt_of_le_of_lt left_ (lt owned)
              · exact Nat.le_trans left_ le

/-- When the guard is exactly what keeps the next state good, the good runs are
the guarded ones.  An action that is not possible meets the guard. -/
theorem always_iff_guarded {invariant good : σ → Prop}
    (holds : ∀ state, invariant state → good state)
    (preserved : ∀ state action next, invariant state → guard state action →
      step state action = some next → invariant next)
    (exact_ : ∀ state action next, invariant state → step state action = some next →
      good next → guard state action)
    (stuck : ∀ state action, step state action = none → guard state action)
    {start : σ} {actions : List α} (initially : invariant start) :
    Always step good start actions ↔ Guarded step guard start actions := by
  induction actions generalizing start with
  | nil => exact ⟨fun _ => trivial, fun _ => holds start initially⟩
  | cons action rest inductionHypothesis =>
      rw [Always, Guarded]
      cases taken : step start action with
      | none =>
          exact ⟨fun _ => ⟨stuck start action taken, trivial⟩, fun _ => ⟨holds start initially, trivial⟩⟩
      | some next =>
          constructor
          · rintro ⟨_, always⟩
            have goodNext : good next := by
              cases rest with
              | nil => exact always
              | cons => exact always.1
            have allowed := exact_ start action next initially taken goodNext
            exact ⟨allowed,
              (inductionHypothesis (preserved start action next initially allowed taken)).mp always⟩
          · rintro ⟨allowed, guarded⟩
            exact ⟨holds start initially,
              (inductionHypothesis (preserved start action next initially allowed taken)).mpr guarded⟩

/-- When a step keeps what is good exactly if it meets the guard, and nothing is
made good again, the end of a run shows whether the run was guarded. -/
theorem good_iff_guarded {invariant good : σ → Prop}
    (preserved : ∀ state action next, invariant state → step state action = some next →
      invariant next)
    (keeps : ∀ state action next, invariant state → step state action = some next →
      (good next ↔ good state ∧ guard state action))
    {start final : σ} {actions : List α} (initially : invariant start)
    (reached : run step start actions = some final) :
    good final ↔ good start ∧ Guarded step guard start actions := by
  induction actions generalizing start with
  | nil =>
      cases reached
      exact (and_iff_left trivial).symm
  | cons action rest inductionHypothesis =>
      rw [run] at reached
      rw [Guarded]
      cases taken : step start action with
      | none =>
          rw [taken] at reached
          cases reached
      | some next =>
          rw [taken] at reached
          rw [inductionHypothesis (preserved start action next initially taken) reached,
            keeps start action next initially taken, and_assoc]

/-- The step of a loop that is not over after the round. -/
def roundStep {β : Type w} (round : σ → α → Exec (Round σ β)) (state : σ) (input : α) : Option σ :=
  match round state input with
  | .done (.again next) => some next
  | _ => none

theorem roundStep_eq_some_iff {β : Type w} {round : σ → α → Exec (Round σ β)} {state next : σ}
    {input : α} : roundStep round state input = some next ↔
      round state input = .done (.again next) := by
  unfold roundStep
  split
  · rename_i other equal
    rw [equal, Option.some.injEq, Exec.done.injEq, Round.again.injEq]
  · rename_i different
    constructor
    · intro impossible
      cases impossible
    · intro equal
      exact absurd equal (different next)

end Transition
