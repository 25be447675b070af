import Mathlib.Algebra.Order.Ring.Nat
import NetLL.Client.Transfer

namespace NetLL
namespace Client
namespace RP2040

/-!
# The end of a download

The loop of `WaitForTransfer` has no count.  It ends because a sleep lasts for
one poll at least, and the deadline was set once.  Callbacks come in between as
lwIP likes, and time passes at every point, but neither of them makes the call
longer.
-/

/-- The sleeps that are left before the deadline. -/
def sleepsLeft (deadline clock : Nat) : Nat :=
  (deadline - clock + (downloadPoll - 1)) / downloadPoll

theorem sleepsLeft_le {deadline clock later : Nat} (le : clock ≤ later) :
    sleepsLeft deadline later ≤ sleepsLeft deadline clock := by
  unfold sleepsLeft
  refine Nat.div_le_div_right ?_
  omega

theorem sleepsLeft_of_lt {deadline clock : Nat} (early : clock < deadline) :
    sleepsLeft deadline clock = sleepsLeft deadline (clock + downloadPoll) + 1 := by
  unfold sleepsLeft downloadPoll
  omega

theorem sleepsLeft_start (clock : Nat) : sleepsLeft (clock + downloadTimeout) clock = 3000 := by
  unfold sleepsLeft downloadTimeout downloadPoll
  omega

/-- The most steps that are left to a call, at some time. -/
def Stage.remaining (clock : Nat) : Stage → Nat
  | .entered => 9005
  | .opening _ => 9004
  | .starting _ => 9003
  | .testing deadline => 3 * sleepsLeft deadline clock + 2
  | .polling deadline => 3 * sleepsLeft deadline (clock + downloadPoll) + 4
  | .sleeping deadline => 3 * sleepsLeft deadline (clock + downloadPoll) + 3
  | .closing _ => 1
  | .returned _ => 0

theorem Stage.remaining_eq_zero_iff {stage : Stage} {clock : Nat} :
    stage.remaining clock = 0 ↔ ∃ success, stage = .returned success := by
  cases stage <;> simp [Stage.remaining]

theorem Stage.remaining_le {stage : Stage} {clock later : Nat} (le : clock ≤ later) :
    stage.remaining later ≤ stage.remaining clock := by
  cases stage with
  | testing deadline =>
      exact Nat.add_le_add_right (Nat.mul_le_mul_left 3 (sleepsLeft_le le)) 2
  | polling deadline =>
      have asleep : clock + downloadPoll ≤ later + downloadPoll := Nat.add_le_add_right le _
      exact Nat.add_le_add_right (Nat.mul_le_mul_left 3 (sleepsLeft_le asleep)) 4
  | sleeping deadline =>
      have asleep : clock + downloadPoll ≤ later + downloadPoll := Nat.add_le_add_right le _
      exact Nat.add_le_add_right (Nat.mul_le_mul_left 3 (sleepsLeft_le asleep)) 3
  | _ => exact Nat.le_refl _

def Transfer.remaining (transfer : Transfer) : Nat :=
  transfer.stage.remaining transfer.clock

/-- A step of the call itself. -/
def Action.isOwn : Action → Bool
  | .bodyReceived _ _ => false
  | .transferFinished _ _ _ => false
  | .advance _ => false
  | _ => true

/-- Every step of the call brings it nearer to its end. -/
theorem call_lowers {transfer next : Transfer} {action : Action}
    (taken : httpDownloadFile transfer action = some next) :
    next.remaining < transfer.remaining := by
  unfold Transfer.remaining
  cases callStep_of_taken taken with
  | refuse early =>
      rcases early with stage | ⟨target, stage⟩
      · rw [stage]
        exact Nat.zero_lt_succ _
      · rw [stage]
        exact Nat.zero_lt_succ _
  | parse stage =>
      rw [stage]
      exact Nat.lt_succ_self _
  | «open» stage =>
      rw [stage]
      exact Nat.lt_succ_self _
  | start stage =>
      rw [stage]
      change 3 * sleepsLeft (transfer.clock + downloadTimeout) transfer.clock + 2 < 9003
      rw [sleepsLeft_start]
      omega
  | startFails stage =>
      rw [stage]
      change 1 < 9003
      omega
  | finish stage done =>
      rw [stage]
      exact Nat.le_add_left _ _
  | giveUp stage running late =>
      rw [stage]
      exact Nat.le_add_left _ _
  | @poll deadline stage early =>
      rw [stage]
      change 3 * sleepsLeft deadline (transfer.clock + downloadPoll) + 4 <
        3 * sleepsLeft deadline transfer.clock + 2
      rw [sleepsLeft_of_lt early]
      omega
  | endPoll stage =>
      rw [stage]
      exact Nat.lt_succ_self _
  | @wake deadline late stage =>
      rw [stage]
      change 3 * sleepsLeft deadline (transfer.clock + downloadPoll + late) + 2 <
        3 * sleepsLeft deadline (transfer.clock + downloadPoll) + 3
      have fewer := @sleepsLeft_le deadline _ _
        (Nat.le_add_right (transfer.clock + downloadPoll) late)
      omega
  | close stage =>
      rw [stage]
      exact Nat.zero_lt_one

theorem bodyReceived_remaining (transfer : Transfer) (buffer : Option (List (List UInt8)))
    (error : Err) : (bodyReceived transfer buffer error).remaining = transfer.remaining := by
  cases buffer with
  | none => rfl
  | some segments => cases error <;> rfl

/-- Nothing that happens makes the call longer. -/
theorem step_descends {transfer next : Transfer} {action : Action}
    (taken : step transfer action = some next) :
    next.remaining ≤ transfer.remaining ∧
      (action.isOwn = true → next.remaining < transfer.remaining) := by
  have own (called : httpDownloadFile transfer action = some next) :
      next.remaining ≤ transfer.remaining ∧
        (action.isOwn = true → next.remaining < transfer.remaining) :=
    ⟨Nat.le_of_lt (call_lowers called), fun _ => call_lowers called⟩
  cases action with
  | bodyReceived buffer error =>
      refine ⟨?_, fun impossible => absurd impossible Bool.false_ne_true⟩
      rw [step] at taken
      split at taken
      · cases taken
        exact Nat.le_of_eq (bodyReceived_remaining transfer buffer error)
      · cases taken
  | transferFinished result serverStatus error =>
      refine ⟨?_, fun impossible => absurd impossible Bool.false_ne_true⟩
      rw [step] at taken
      split at taken
      · cases taken
        exact Nat.le_refl _
      · cases taken
  | advance time =>
      refine ⟨?_, fun impossible => absurd impossible Bool.false_ne_true⟩
      cases taken
      exact Stage.remaining_le (Nat.le_add_right transfer.clock time)
  | _ => exact own taken

/-- A call that has not returned can take its next step. -/
theorem exists_own_step {transfer : Transfer}
    (going : ∀ success, transfer.stage ≠ .returned success) :
    ∃ action next, action.isOwn = true ∧ step transfer action = some next := by
  cases stage : transfer.stage with
  | entered =>
      refine ⟨.parse, ?_⟩
      simp only [step, httpDownloadFile, stage]
      split
      · split <;> exact ⟨_, rfl, rfl⟩
      · exact ⟨_, rfl, rfl⟩
  | opening target =>
      refine ⟨.open true, ?_⟩
      simp only [step, httpDownloadFile, stage]
      exact ⟨_, rfl, rfl⟩
  | starting target =>
      refine ⟨.start .ok, ?_⟩
      simp only [step, httpDownloadFile, stage]
      exact ⟨_, rfl, rfl⟩
  | testing deadline =>
      refine ⟨.check, ?_⟩
      simp only [step, httpDownloadFile, stage]
      split
      · exact ⟨_, rfl, rfl⟩
      · split <;> exact ⟨_, rfl, rfl⟩
  | polling deadline =>
      refine ⟨.endPoll, ?_⟩
      simp only [step, httpDownloadFile, stage]
      exact ⟨_, rfl, rfl⟩
  | sleeping deadline =>
      refine ⟨.wake 0, ?_⟩
      simp only [step, httpDownloadFile, stage]
      exact ⟨_, rfl, rfl⟩
  | closing success =>
      refine ⟨.close, ?_⟩
      simp only [step, httpDownloadFile, stage]
      exact ⟨_, rfl, rfl⟩
  | returned success => exact absurd stage (going success)

/-- Whatever lwIP does with the callbacks, and however the time passes, a call
returns within 9005 of its own steps, and is never held up before. -/
theorem download_returns {url filePath : Option CString} {clock : Nat} {actions : List Action}
    {last : Transfer}
    (reached : Transition.run step (.initial url filePath clock) actions = some last) :
    (∃ front middle success, front <+: actions ∧
        Transition.run step (.initial url filePath clock) front = some middle ∧
        middle.stage = .returned success) ∨
      actions.countP Action.isOwn < 9005 ∧
        ∃ action next, action.isOwn = true ∧ step last action = some next := by
  rcases @Transition.passes_zero Transfer Action step Transfer.remaining (fun _ => True)
      Action.isOwn (fun _ _ _ _ _ taken => ⟨trivial, step_descends taken⟩) _ _ _ trivial
      reached with
    ⟨front, middle, within, led, _, zero⟩ | ⟨_, going, left_⟩
  · rcases Stage.remaining_eq_zero_iff.mp zero with ⟨success, stage⟩
    exact Or.inl ⟨front, middle, success, within, led, stage⟩
  · refine Or.inr ⟨?_, exists_own_step fun success stage => ?_⟩
    · change last.remaining + actions.countP Action.isOwn ≤ 9005 at left_
      omega
    · have over_ : last.remaining = 0 := Stage.remaining_eq_zero_iff.mpr ⟨success, stage⟩
      omega

/-- A call that lwIP never answers. -/
def unanswered : List Action :=
  [.parse, .open true, .start .ok, .check, .endPoll, .wake downloadTimeout, .check, .close]

theorem download_returns_unanswered : ∃ last,
    Transition.run step (.initial (some (.literal "http://host/page")) (some (.literal "page")) 7)
      unanswered = some last ∧ last.stage = .returned false ∧
    ((∃ front middle success, front <+: unanswered ∧
        Transition.run step (.initial (some (.literal "http://host/page"))
          (some (.literal "page")) 7) front = some middle ∧ middle.stage = .returned success) ∨
      unanswered.countP Action.isOwn < 9005 ∧
        ∃ action next, action.isOwn = true ∧ step last action = some next) := by
  have runs : (Transition.run step (.initial (some (.literal "http://host/page"))
      (some (.literal "page")) 7) unanswered).map (·.stage) = some (.returned false) := by
    decide +kernel
  rcases Option.map_eq_some_iff.mp runs with ⟨last, reached, stage⟩
  exact ⟨last, reached, stage, download_returns reached⟩

end RP2040
end Client
end NetLL
