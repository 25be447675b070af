universe u v

/-!
# Updates on their way

One party posts updates, and another one applies them later, one by one and in
the order of posting.  A state with its pending updates settles in the state
where all of them have been applied.  Applying the next update does not move
that state, and posting one moves it by the update, so the posting party can
reason about the settled state as if its posts took effect at once.
-/

namespace Mailbox

variable {σ : Type u} {α : Type v}

/-- The state when every pending update has been applied. -/
def settled (apply : σ → α → σ) (state : σ) (pending : List α) : σ :=
  pending.foldl apply state

/-- Every pending update is allowed in the state that it will find. -/
def Allowed (apply : σ → α → σ) (allowed : σ → α → Prop) : σ → List α → Prop
  | _, [] => True
  | state, update :: rest =>
      allowed state update ∧ Allowed apply allowed (apply state update) rest

variable {apply : σ → α → σ} {allowed : σ → α → Prop} {state : σ} {pending : List α}

@[simp] theorem settled_nil : settled apply state [] = state := rfl

theorem settled_cons (update : α) :
    settled apply state (update :: pending) = settled apply (apply state update) pending := rfl

/-- A post takes effect on the settled state at once. -/
theorem settled_post (update : α) :
    settled apply state (pending ++ [update]) = apply (settled apply state pending) update := by
  unfold settled
  rw [List.foldl_append]
  rfl

/-- A post that the settled state allows is allowed when its turn comes. -/
theorem Allowed.post (ready : Allowed apply allowed state pending) {update : α}
    (now : allowed (settled apply state pending) update) :
    Allowed apply allowed state (pending ++ [update]) := by
  induction pending generalizing state with
  | nil => exact ⟨now, trivial⟩
  | cons first rest inductionHypothesis =>
      rw [settled_cons] at now
      exact ⟨ready.1, inductionHypothesis ready.2 now⟩

end Mailbox
