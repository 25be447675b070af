import Mathlib.Data.List.Basic

universe u

/-!
# Files that are written piece by piece

A file is given one piece after the other, and stores the front of each.  How
much it stores is up to the file: the number of the write decides.  The file
holds the pieces, one behind the other, exactly when it has stored every one of
them whole; nothing that is stored later makes up for what is missing.
-/

namespace Writer

variable {α : Type u}

/-- What the file holds after these pieces. -/
def contents (stored : Nat → Nat) : List (List α) → List α
  | [] => []
  | piece :: rest => piece.take (stored 0) ++ contents (fun number => stored (number + 1)) rest

/-- Every write stores its piece whole. -/
def StoresAll (stored : Nat → Nat) (pieces : List (List α)) : Prop :=
  ∀ number piece, pieces[number]? = some piece → piece.length ≤ stored number

variable {stored : Nat → Nat}

theorem storesAll_cons {piece : List α} {rest : List (List α)} :
    StoresAll stored (piece :: rest) ↔
      piece.length ≤ stored 0 ∧ StoresAll (fun number => stored (number + 1)) rest := by
  constructor
  · intro all
    exact ⟨all 0 piece rfl, fun number later here => all (number + 1) later here⟩
  · rintro ⟨first, later⟩ number other here
    cases number with
    | zero =>
        cases here
        exact first
    | succ number => exact later number other here

theorem length_contents_le (stored : Nat → Nat) (pieces : List (List α)) :
    (contents stored pieces).length ≤ pieces.flatten.length := by
  induction pieces generalizing stored with
  | nil => exact Nat.le_refl 0
  | cons piece rest inductionHypothesis =>
      rw [contents, List.flatten_cons, List.length_append, List.length_append]
      exact Nat.add_le_add (List.length_take_le' _ _) (inductionHypothesis _)

theorem length_contents_iff (stored : Nat → Nat) (pieces : List (List α)) :
    pieces.flatten.length ≤ (contents stored pieces).length ↔ StoresAll stored pieces := by
  induction pieces generalizing stored with
  | nil =>
      refine iff_of_true (Nat.le_refl 0) ?_
      intro number piece impossible
      cases impossible
  | cons piece rest inductionHypothesis =>
      have later := length_contents_le (fun number => stored (number + 1)) rest
      rw [storesAll_cons, ← inductionHypothesis, contents, List.flatten_cons, List.length_append,
        List.length_append, List.length_take]
      omega

theorem contents_of_storesAll {pieces : List (List α)} (all : StoresAll stored pieces) :
    contents stored pieces = pieces.flatten := by
  induction pieces generalizing stored with
  | nil => rfl
  | cons piece rest inductionHypothesis =>
      rcases storesAll_cons.mp all with ⟨first, later⟩
      rw [contents, List.take_of_length_le first, inductionHypothesis later, List.flatten_cons]

/-- A file that is given no more than was received holds what was received
exactly when it has been given all of it and has stored it whole. -/
theorem contents_eq_iff {pieces : List (List α)} {received : List α}
    (given : pieces.flatten.length ≤ received.length) :
    contents stored pieces = received ↔ pieces.flatten = received ∧ StoresAll stored pieces := by
  constructor
  · intro same
    have sizes := congrArg List.length same
    have all := (length_contents_iff stored pieces).mp (by omega)
    exact ⟨(contents_of_storesAll all).symm.trans same, all⟩
  · rintro ⟨whole, all⟩
    rw [contents_of_storesAll all, whole]

end Writer
