import Mathlib.Tactic.Conv
import NetLL.Library.Memory

/-!
# Cursors in a block of memory

A loop that moves a pointer reads one byte for each step.  It stays inside the
block as long as it stops at the terminator of the string it started in, and
it then passes over what the same loop passes over in that string.
-/

namespace Memory

/-- `while (wanted(*cursor)) cursor++`, over the bytes from the cursor on. -/
def advance (wanted : UInt8 → Bool) : List UInt8 → Nat → Exec Nat
  | [], _ => .fault
  | byte :: rest, cursor =>
      if wanted byte then advance wanted rest (cursor + 1) else .done cursor

/-- The loop from a cursor in a block. -/
def passOver (wanted : UInt8 → Bool) (memory : List UInt8) (cursor : Nat) : Exec Nat :=
  advance wanted (memory.drop cursor) cursor

theorem advance_eq {wanted : UInt8 → Bool} (stops : wanted 0 = false) {bytes : List UInt8}
    (terminated : 0 ∈ bytes) (cursor : Nat) :
    advance wanted bytes cursor =
      .done (cursor + ((text bytes).takeWhile wanted).length) := by
  induction bytes generalizing cursor with
  | nil => cases terminated
  | cons byte rest inductionHypothesis =>
      by_cases zero : byte = 0
      · subst zero
        rw [advance, if_neg (by rw [stops]; exact Bool.false_ne_true), text_zero_cons]
        rfl
      · have later : 0 ∈ rest := by
          rcases List.mem_cons.mp terminated with same | later
          · exact absurd same.symm zero
          · exact later
        have shown : text (byte :: rest) = byte :: text rest := by
          simp [text, zero]
        rw [advance, shown]
        by_cases passed : wanted byte = true
        · rw [if_pos passed, inductionHypothesis later, List.takeWhile_cons_of_pos passed,
            List.length_cons]
          congr 1
          omega
        · rw [if_neg passed, List.takeWhile_cons_of_neg passed]
          rfl

/-- Inside a string, the bytes behind a place are the rest of the string. -/
theorem text_drop {bytes : List UInt8} {place : Nat} (inside : place ≤ (text bytes).length) :
    text (bytes.drop place) = (text bytes).drop place := by
  induction place generalizing bytes with
  | zero => rfl
  | succ place inductionHypothesis =>
      cases bytes with
      | nil => exact absurd inside (by simp)
      | cons byte rest =>
          by_cases zero : byte = 0
          · subst zero
            exact absurd inside (by simp [text_zero_cons])
          · have shown : text (byte :: rest) = byte :: text rest := by
              simp [text, zero]
            rw [shown, List.length_cons] at inside
            rw [shown, List.drop_succ_cons, List.drop_succ_cons]
            exact inductionHypothesis (by omega)

theorem terminated_drop {bytes : List UInt8} (terminated : 0 ∈ bytes) {place : Nat}
    (inside : place ≤ (text bytes).length) : 0 ∈ bytes.drop place := by
  rcases split_at_zero terminated with ⟨back, split⟩
  rw [split, List.drop_append_of_le_length inside]
  exact List.mem_append_right _ List.mem_cons_self

theorem drop_add (memory : List UInt8) (cursor place : Nat) :
    memory.drop (cursor + place) = (memory.drop cursor).drop place :=
  (List.drop_drop).symm

theorem slice_text {memory : List UInt8} {cursor size : Nat}
    (terminated : 0 ∈ memory.drop cursor) (inside : size ≤ (text (memory.drop cursor)).length) :
    slice memory cursor size = .done ((text (memory.drop cursor)).take size) := by
  rcases split_at_zero terminated with ⟨back, split⟩
  have sizes := congrArg List.length split
  rw [List.length_drop, List.length_append, List.length_cons] at sizes
  have front : (memory.drop cursor).take size = (text (memory.drop cursor)).take size := by
    conv_lhs => rw [split]
    exact List.take_append_of_le_length inside
  rw [slice, if_pos (by omega), front]

/-- A loop that stops at the terminator stays in its string.  It leaves the
cursor at the rest of that string, and what it passed over is in the block. -/
theorem passOver_spec (wanted : UInt8 → Bool) (stops : wanted 0 = false) {memory : List UInt8}
    {cursor : Nat} (terminated : 0 ∈ memory.drop cursor) :
    ∃ next, passOver wanted memory cursor = .done next ∧ 0 ∈ memory.drop next ∧
      text (memory.drop next) = (text (memory.drop cursor)).dropWhile wanted ∧
      slice memory cursor (next - cursor) =
        .done ((text (memory.drop cursor)).takeWhile wanted) := by
  have split : (text (memory.drop cursor)).takeWhile wanted ++
      (text (memory.drop cursor)).dropWhile wanted = text (memory.drop cursor) :=
    List.takeWhile_append_dropWhile
  have inside : ((text (memory.drop cursor)).takeWhile wanted).length ≤
      (text (memory.drop cursor)).length := (List.takeWhile_prefix _).length_le
  refine ⟨cursor + ((text (memory.drop cursor)).takeWhile wanted).length,
    advance_eq stops terminated cursor, ?_, ?_, ?_⟩
  · rw [drop_add]
    exact terminated_drop terminated inside
  · rw [drop_add, text_drop inside]
    exact (congrArg (List.drop _) split).symm.trans List.drop_left
  · rw [Nat.add_sub_cancel_left, slice_text terminated inside]
    congr 1
    exact List.prefix_iff_eq_take.mp (List.takeWhile_prefix _) |>.symm

end Memory
