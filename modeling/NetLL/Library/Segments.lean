import Mathlib.Data.List.TakeWhile

universe u

/-!
# Streams delivered in segments

A stream arrives as a list of segments, and a reader looks at what it has only
at the ends of segments.  When it waits for a number of bytes, it sees them at
the first segment end at or after that number.  Every fact about such a reader
is a fact about these ends, and a stream can be cut so that any chosen position
is one.
-/

namespace Segments

variable {α : Type u}

/-- The first segment end at or after a position of the stream. -/
def boundary : List (List α) → Nat → Nat
  | [], _ => 0
  | segment :: rest, position =>
      if position ≤ segment.length then segment.length
      else segment.length + boundary rest (position - segment.length)

theorem boundary_le_length (segments : List (List α)) (position : Nat) :
    boundary segments position ≤ segments.flatten.length := by
  induction segments generalizing position with
  | nil => simp [boundary]
  | cons segment rest inductionHypothesis =>
      rw [boundary, List.flatten_cons, List.length_append]
      split
      · omega
      · have later := inductionHypothesis (position - segment.length)
        omega

theorem le_boundary (segments : List (List α)) (position : Nat)
    (inside : position ≤ segments.flatten.length) :
    position ≤ boundary segments position := by
  induction segments generalizing position with
  | nil => simpa [boundary] using inside
  | cons segment rest inductionHypothesis =>
      rw [List.flatten_cons, List.length_append] at inside
      rw [boundary]
      split
      · assumption
      · have later := inductionHypothesis (position - segment.length) (by omega)
        omega

/-- Waiting for the whole stream reads the whole stream. -/
theorem boundary_length (segments : List (List α)) :
    boundary segments segments.flatten.length = segments.flatten.length :=
  Nat.le_antisymm (boundary_le_length _ _) (le_boundary _ _ (Nat.le_refl _))

/-- Later segments do not move an end inside the earlier ones. -/
theorem boundary_append (segments more : List (List α)) {position : Nat}
    (inside : position ≤ segments.flatten.length) :
    boundary (segments ++ more) position =
      if segments = [] then boundary more position else boundary segments position := by
  induction segments generalizing position with
  | nil => rfl
  | cons segment rest inductionHypothesis =>
      rw [List.flatten_cons, List.length_append] at inside
      rw [List.cons_append, if_neg (List.cons_ne_nil segment rest), boundary, boundary]
      split
      · rfl
      · have remaining : position - segment.length ≤ rest.flatten.length := by omega
        rw [inductionHypothesis remaining]
        split
        · rename_i empty past
          subst past
          simp at remaining
          omega
        · rfl

theorem boundary_singleton (stream : List α) {position : Nat} (inside : position ≤ stream.length) :
    boundary [stream] position = stream.length := by
  rw [boundary, if_pos inside]

/-- A stream cut once has the cut as an end for what lies before it. -/
theorem boundary_cut (stream : List α) {cut position : Nat} (inside : cut ≤ stream.length)
    (before : position ≤ cut) :
    boundary [stream.take cut, stream.drop cut] position = cut := by
  have size : (stream.take cut).length = cut := by
    rw [List.length_take]
    omega
  rw [boundary, size, if_pos before]

end Segments
