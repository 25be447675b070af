import Mathlib.Algebra.Order.Monoid.Defs
import Mathlib.Order.Lattice
import Mathlib.Logic.Function.Basic
import NetLL.Library.Transition

universe u v w

/-!
# Leases of addresses

A pool gives addresses to keys, each for the same length of time.  An address
that is held is given to its holder only, and is taken back when its time is
over.  Time does not go back.  So an address that was given to one key is not
given to another one, and not offered to it either, before the time is over.
-/

namespace Leases

/-- The holder of every address, and until when; and the time of the last act. -/
structure Pool (κ : Type u) (α : Type v) (τ : Type w) where
  holder : α → Option (κ × τ)
  now : τ

/-- An address is given to a key, offered to it, or taken back. -/
inductive Act (κ : Type u) (α : Type v) (τ : Type w) where
  | give (key : κ) (address : α) (time : τ)
  | offer (key : κ) (address : α) (time : τ)
  | takeBack (address : α) (time : τ)

section

variable {κ : Type u} {α : Type v} {τ : Type w}

def Act.time : Act κ α τ → τ
  | .give _ _ time => time
  | .offer _ _ time => time
  | .takeBack _ time => time

/-- The key that an address is given or offered to. -/
def Act.Assigns (key : κ) (address : α) : Act κ α τ → Prop
  | .give other place _ => other = key ∧ place = address
  | .offer other place _ => other = key ∧ place = address
  | .takeBack _ _ => False

/-- The pool behind an act, where every lease has this length. -/
def Pool.after [DecidableEq α] [Add τ] (length : τ) (pool : Pool κ α τ) : Act κ α τ → Pool κ α τ
  | .give key address time =>
      { holder := Function.update pool.holder address (some (key, time + length)), now := time }
  | .offer _ _ time => { pool with now := time }
  | .takeBack address time =>
      { holder := Function.update pool.holder address none, now := time }

@[simp] theorem now_after [DecidableEq α] [Add τ] (length : τ) (pool : Pool κ α τ)
    (act : Act κ α τ) : (pool.after length act).now = act.time := by
  cases act <;> rfl

section

variable [DecidableEq α] [Add τ] (length : τ) (pool : Pool κ α τ)

theorem holder_give_self (key : κ) (address : α) (time : τ) :
    (pool.after length (.give key address time)).holder address = some (key, time + length) :=
  Function.update_self address _ pool.holder

theorem holder_give_of_ne {address other : α} (different : other ≠ address) (key : κ) (time : τ) :
    (pool.after length (.give key address time)).holder other = pool.holder other :=
  Function.update_of_ne different _ pool.holder

theorem holder_takeBack_self (address : α) (time : τ) :
    (pool.after length (.takeBack address time)).holder address = none :=
  Function.update_self address _ pool.holder

theorem holder_takeBack_of_ne {address other : α} (different : other ≠ address) (time : τ) :
    (pool.after length (.takeBack address time)).holder other = pool.holder other :=
  Function.update_of_ne different _ pool.holder

end

variable [LinearOrder τ]

/-- What the pool may do: an address that is held goes to its holder, and one
that is taken back has run out. -/
def Pool.Allows (pool : Pool κ α τ) : Act κ α τ → Prop
  | .give key address _ => ∀ held ∈ pool.holder address, held.1 = key
  | .offer key address _ => ∀ held ∈ pool.holder address, held.1 = key
  | .takeBack address time => ∀ held ∈ pool.holder address, held.2 < time

/-- The key holds the address at least until then, or the time is over. -/
def Pool.Reserved (pool : Pool κ α τ) (key : κ) (address : α) (until_ : τ) : Prop :=
  (∃ end_, pool.holder address = some (key, end_) ∧ until_ ≤ end_) ∨ until_ < pool.now

/-- Another key gets a reserved address only when its time is over. -/
theorem Pool.Reserved.lt_of_allows {pool : Pool κ α τ} {key other : κ} {address : α} {until_ : τ}
    (reserved : pool.Reserved key address until_) (different : other ≠ key) {act : Act κ α τ}
    (later : pool.now ≤ act.time) (allowed : pool.Allows act)
    (assigns : act.Assigns other address) : until_ < act.time := by
  rcases reserved with ⟨end_, held, _⟩ | over_
  · cases act with
    | give key_ place time =>
        rcases assigns with ⟨rfl, rfl⟩
        exact absurd (allowed _ held).symm different
    | offer key_ place time =>
        rcases assigns with ⟨rfl, rfl⟩
        exact absurd (allowed _ held).symm different
    | takeBack place time => exact assigns.elim
  · exact lt_of_lt_of_le over_ later

variable [DecidableEq α] [Add τ]

/-- Acts that the pool may do, one after the other. -/
inductive Run (length : τ) : Pool κ α τ → List (Act κ α τ) → Pool κ α τ → Prop where
  | nil (pool : Pool κ α τ) : Run length pool [] pool
  | cons {pool final : Pool κ α τ} {act : Act κ α τ} {acts : List (Act κ α τ)}
      (later : pool.now ≤ act.time) (allowed : pool.Allows act)
      (rest : Run length (pool.after length act) acts final) :
      Run length pool (act :: acts) final

theorem Run.append {length : τ} {first second final : Pool κ α τ} {acts more : List (Act κ α τ)}
    (run : Run length first acts second) (next : Run length second more final) :
    Run length first (acts ++ more) final := by
  induction run with
  | nil => exact next
  | cons later allowed _ inductionHypothesis =>
      exact .cons later allowed (inductionHypothesis next)

/-! ## An address that was given -/

/-- What was just given is reserved for its length. -/
theorem reserved_give (length : τ) (pool : Pool κ α τ) (key : κ) (address : α) (time : τ) :
    (pool.after length (.give key address time)).Reserved key address (time + length) :=
  Or.inl ⟨time + length, holder_give_self length pool key address time, le_refl _⟩

end

variable {κ : Type u} {α : Type v} {τ : Type w} [LinearOrder τ] [DecidableEq α]
  [AddCommMonoid τ] [IsOrderedAddMonoid τ] {length : τ}

theorem Pool.Reserved.after {pool : Pool κ α τ} {key : κ} {address : α} {until_ : τ}
    (reserved : pool.Reserved key address until_) (until_le : until_ ≤ pool.now + length)
    {act : Act κ α τ} (later : pool.now ≤ act.time) (allowed : pool.Allows act) :
    (pool.after length act).Reserved key address until_ := by
  rcases reserved with ⟨end_, held, least⟩ | over_
  · cases act with
    | offer other place time => exact Or.inl ⟨end_, held, least⟩
    | give other place time =>
        left
        by_cases here : place = address
        · subst here
          have same : key = other := allowed _ held
          refine ⟨time + length, ?_, le_trans until_le (add_le_add_left later length)⟩
          rw [same]
          exact holder_give_self length pool other place time
        · refine ⟨end_, ?_, least⟩
          rw [holder_give_of_ne length pool (Ne.symm here), held]
    | takeBack place time =>
        by_cases here : place = address
        · subst here
          exact Or.inr (lt_of_le_of_lt least (allowed _ held))
        · refine Or.inl ⟨end_, ?_, least⟩
          rw [holder_takeBack_of_ne length pool (Ne.symm here), held]
  · right
    rw [now_after]
    exact lt_of_lt_of_le over_ later

/-- In a run, another key gets a reserved address only when its time is over. -/
theorem Run.lt_of_reserved {pool final : Pool κ α τ} {acts : List (Act κ α τ)}
    (run : Run length pool acts final) {key other : κ} {address : α} {until_ : τ}
    (reserved : pool.Reserved key address until_) (until_le : until_ ≤ pool.now + length)
    (different : other ≠ key) {act : Act κ α τ} (member : act ∈ acts)
    (assigns : act.Assigns other address) : until_ < act.time := by
  induction run with
  | nil => cases member
  | @cons pool final first acts later allowed _ inductionHypothesis =>
      rcases List.mem_cons.mp member with rfl | member
      · exact reserved.lt_of_allows different later allowed assigns
      · refine inductionHypothesis (reserved.after until_le later allowed) ?_ member
        rw [now_after]
        exact le_trans until_le (add_le_add_left later length)

theorem Run.reserved {pool final : Pool κ α τ} {acts : List (Act κ α τ)}
    (run : Run length pool acts final) {key : κ} {address : α} {until_ : τ}
    (reserved : pool.Reserved key address until_) (until_le : until_ ≤ pool.now + length) :
    final.Reserved key address until_ := by
  induction run with
  | nil => exact reserved
  | @cons pool final first acts later allowed _ inductionHypothesis =>
      refine inductionHypothesis (reserved.after until_le later allowed) ?_
      rw [now_after]
      exact le_trans until_le (add_le_add_left later length)

/-- What a run has given stays reserved. -/
theorem Run.reserved_of_mem {pool final : Pool κ α τ} {acts : List (Act κ α τ)}
    (run : Run length pool acts final) {key : κ} {address : α} {time : τ}
    (member : .give key address time ∈ acts) : final.Reserved key address (time + length) := by
  induction run with
  | nil => cases member
  | @cons pool final first acts later allowed rest inductionHypothesis =>
      rcases List.mem_cons.mp member with rfl | member
      · exact rest.reserved (reserved_give length pool key address time) (le_refl _)
      · exact inductionHypothesis member

/-- An act gives an address for its time: until it is over, no other key gets
the address. -/
def Act.Excludes (length : τ) (first second : Act κ α τ) : Prop :=
  ∀ key address time other, first = .give key address time → other ≠ key →
    second.Assigns other address → time + length < second.time

/-- The acts of a run exclude one another. -/
theorem Run.pairwise_excludes {pool final : Pool κ α τ} {acts : List (Act κ α τ)}
    (run : Run length pool acts final) : acts.Pairwise (Act.Excludes length) := by
  induction run with
  | nil => exact List.Pairwise.nil
  | @cons pool final first acts later allowed rest inductionHypothesis =>
      refine List.pairwise_cons.mpr ⟨?_, inductionHypothesis⟩
      rintro second member key address time other rfl different assigns
      exact rest.lt_of_reserved (reserved_give length pool key address time) (le_refl _)
        different member assigns

end Leases
