import Mathlib.Data.List.Basic
import NetLL.Library.Exec

universe u v

/-!
# Waiting by polls

A wait polls until a poll is accepted, or until its time is up.  The state of
the wait says whether there is time for one more poll, and what is polled is an
outside input.  The polls that were made are part of the result.

The polls that a wait makes when none is accepted are its window.  The wait
stops at the first accepted poll of its window, so what a returned true says of
the polls is what is known of that one.
-/

namespace Polling

variable {σ : Type u} {ι : Type v}

/-- Whether a poll was accepted, and the polls that were made. -/
structure Outcome (ι : Type u) where
  accepted : Bool
  polls : List ι

/-- The outcome with a poll in front that was not accepted. -/
def Outcome.later (input : ι) (outcome : Outcome ι) : Outcome ι :=
  { outcome with polls := input :: outcome.polls }

/-- Poll while there is time.  A wait that has no input left goes on. -/
def poll (inTime : σ → Bool) (next : σ → ι → σ) (accepts : ι → Bool) :
    List ι → σ → Exec (Outcome ι)
  | [], state => if inTime state then .waiting else .done { accepted := false, polls := [] }
  | input :: rest, state =>
      if inTime state then
        if accepts input then .done { accepted := true, polls := [input] }
        else do
          let outcome ← poll inTime next accepts rest (next state input)
          .done (outcome.later input)
      else .done { accepted := false, polls := [] }

/-- The inputs that are polled when none is accepted. -/
def window (inTime : σ → Bool) (next : σ → ι → σ) : List ι → σ → List ι
  | [], _ => []
  | input :: rest, state =>
      if inTime state then input :: window inTime next rest (next state input) else []

/-- The outcome of polling these inputs, up to the first that is accepted. -/
def settle (accepts : ι → Bool) : List ι → Outcome ι
  | [] => { accepted := false, polls := [] }
  | input :: rest =>
      if accepts input then { accepted := true, polls := [input] }
      else (settle accepts rest).later input

variable {inTime : σ → Bool} {next : σ → ι → σ} {accepts : ι → Bool}

/-- A wait that is over has settled its window. -/
theorem poll_done {inputs : List ι} {state : σ} {outcome : Outcome ι}
    (finished : poll inTime next accepts inputs state = .done outcome) :
    outcome = settle accepts (window inTime next inputs state) := by
  induction inputs generalizing state outcome with
  | nil =>
      rw [poll] at finished
      split at finished <;> cases finished
      rfl
  | cons input rest inductionHypothesis =>
      rw [poll] at finished
      rw [window]
      split at finished
      · rename_i time
        rw [if_pos time, settle]
        split at finished
        · rename_i accepted
          cases finished
          exact (if_pos accepted).symm
        · rename_i refused
          rcases Exec.bind_eq_done_iff.mp finished with ⟨later, waited, whole⟩
          cases whole
          rw [if_neg refused, inductionHypothesis waited]
      · rename_i expired
        rw [if_neg expired]
        cases finished
        rfl

/-- A wait whose time runs out before its inputs is over. -/
theorem exists_poll_done {inputs : List ι} {state : σ}
    (short : (window inTime next inputs state).length < inputs.length) :
    ∃ outcome, poll inTime next accepts inputs state = .done outcome := by
  induction inputs generalizing state with
  | nil => cases short
  | cons input rest inductionHypothesis =>
      rw [window] at short
      rw [poll]
      split
      · rename_i time
        rw [if_pos time, List.length_cons, List.length_cons] at short
        split
        · exact ⟨_, rfl⟩
        · rcases inductionHypothesis (Nat.lt_of_succ_lt_succ short) with ⟨outcome, waited⟩
          rw [waited]
          exact ⟨_, rfl⟩
      · exact ⟨_, rfl⟩

/-- A wait that accepts nothing polls all of its window. -/
theorem settle_of_refuses (refuses : ∀ input, accepts input = false) (inputs : List ι) :
    settle accepts inputs = { accepted := false, polls := inputs } := by
  induction inputs with
  | nil => rfl
  | cons input rest inductionHypothesis =>
      rw [settle, refuses input, inductionHypothesis]
      rfl

/-! ## What a wait tells -/

/-- A wait returns true exactly when a poll that was made found what it waits
for. -/
def Honest (right : ι → Prop) (outcome : Outcome ι) : Prop :=
  outcome.accepted = true ↔ ∃ polled ∈ outcome.polls, right polled

/-- A poll that is not right changes nothing. -/
theorem honest_later {right : ι → Prop} {input : ι} (wrong : ¬ right input)
    (outcome : Outcome ι) : Honest right (outcome.later input) ↔ Honest right outcome := by
  have same : (∃ polled ∈ (outcome.later input).polls, right polled) ↔
      ∃ polled ∈ outcome.polls, right polled := by
    change (∃ polled ∈ input :: outcome.polls, right polled) ↔ _
    rw [List.exists_mem_cons_iff, or_iff_right wrong]
  unfold Honest
  rw [same]
  rfl

/-- When every right input is accepted, a wait is honest if and only if the
first accepted input, if there is one, is right. -/
theorem honest_settle_iff {right : ι → Prop}
    (complete : ∀ input, right input → accepts input = true) (inputs : List ι) :
    Honest right (settle accepts inputs) ↔
      ∀ input, inputs.find? accepts = some input → right input := by
  induction inputs with
  | nil =>
      constructor
      · rintro _ _ ⟨⟩
      · intro _
        refine ⟨Bool.noConfusion, ?_⟩
        rintro ⟨_, ⟨⟩, _⟩
  | cons input rest inductionHypothesis =>
      rw [settle]
      split
      · rename_i accepted
        rw [List.find?_cons_of_pos accepted]
        constructor
        · intro honest other same
          cases same
          rcases honest.mp rfl with ⟨polled, member, right_⟩
          rw [List.mem_singleton] at member
          exact member ▸ right_
        · intro first
          exact ⟨fun _ => ⟨input, List.mem_singleton_self input, first input rfl⟩, fun _ => rfl⟩
      · rename_i refused
        rw [List.find?_cons_of_neg refused,
          honest_later (fun right_ => refused (complete input right_)), inductionHypothesis]

/-! ## Waits of a given time -/

/-- With steps of one width, as many inputs are polled as there are steps. -/
theorem window_counter {limit width : Nat} (positive : 0 < width) (inputs : List ι)
    {waited rounds : Nat} (ahead : waited + rounds * width = limit) :
    window (fun waited => decide (waited < limit)) (fun waited _ => waited + width) inputs waited =
      inputs.take rounds := by
  induction inputs generalizing waited rounds with
  | nil => rw [window, List.take_nil]
  | cons input rest inductionHypothesis =>
      rw [window]
      cases rounds with
      | zero =>
          rw [Nat.zero_mul] at ahead
          rw [if_neg (by rw [decide_eq_true_eq]; omega), List.take_zero]
      | succ rounds =>
          rw [Nat.succ_mul] at ahead
          have behind : waited + width + rounds * width = limit := by omega
          rw [if_pos (by rw [decide_eq_true_eq]; omega), List.take_succ_cons,
            inductionHypothesis behind]

/-- With steps of at least one width, no more inputs are polled than that. -/
theorem length_window_le {limit width : Nat} {step : Nat → ι → Nat}
    (advances : ∀ waited input, waited + width ≤ step waited input) (inputs : List ι)
    {waited rounds : Nat} (ahead : limit ≤ waited + rounds * width) :
    (window (fun waited => decide (waited < limit)) step inputs waited).length ≤ rounds := by
  induction inputs generalizing waited rounds with
  | nil => exact Nat.zero_le _
  | cons input rest inductionHypothesis =>
      rw [window]
      split
      · rename_i time
        rw [decide_eq_true_eq] at time
        cases rounds with
        | zero => omega
        | succ rounds =>
            have later := advances waited input
            rw [Nat.succ_mul] at ahead
            exact Nat.succ_le_succ (inductionHypothesis (by omega))
      · exact Nat.zero_le _

end Polling
