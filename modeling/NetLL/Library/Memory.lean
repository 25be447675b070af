import Mathlib.Data.List.TakeWhile
import NetLL.Library.Exec

/-!
# Byte memory and the strings in it

A block of memory is its bytes.  Writing and reading past its end is a fault,
and so is reading a string whose terminator is not inside the block.  A string
is read up to the first zero byte.

Every operation is local.  Bytes added behind a block change no operation that
succeeded on the block, and bytes in front of a position are kept by a write
at or after it.  These framing laws are what lets a program be studied on the
bytes it uses, whatever else its block holds.
-/

namespace Memory

/-- The bytes in front of the first zero byte. -/
def text (bytes : List UInt8) : List UInt8 :=
  bytes.takeWhile (· ≠ 0)

/-- Store bytes at an offset, inside the block. -/
def write (memory : List UInt8) (offset : Nat) (bytes : List UInt8) : Exec (List UInt8) :=
  if offset + bytes.length ≤ memory.length then
    .done (memory.take offset ++ bytes ++ memory.drop (offset + bytes.length))
  else .fault

/-- Read the string that starts at an offset. -/
def cstring (memory : List UInt8) (offset : Nat) : Exec (List UInt8) :=
  if 0 ∈ memory.drop offset then .done (text (memory.drop offset)) else .fault

/-- Read a number of bytes from an offset, inside the block. -/
def slice (memory : List UInt8) (offset size : Nat) : Exec (List UInt8) :=
  if offset + size ≤ memory.length then .done ((memory.drop offset).take size) else .fault

/-! ## Texts -/

@[simp] theorem text_nil : text [] = [] := rfl

theorem text_zero_cons (rest : List UInt8) : text (0 :: rest) = [] := rfl

theorem zero_not_mem_text (bytes : List UInt8) : 0 ∉ text bytes := by
  intro member
  have kept := List.mem_takeWhile_imp member
  simp at kept

theorem text_of_zero_not_mem {bytes : List UInt8} (clean : 0 ∉ bytes) : text bytes = bytes := by
  unfold text
  rw [List.takeWhile_eq_self_iff]
  intro byte member
  have different : byte ≠ 0 := fun equal => clean (equal ▸ member)
  simpa using different

/-- Bytes without a zero stay in front of the text of what follows them. -/
theorem text_append {front : List UInt8} (clean : 0 ∉ front) (back : List UInt8) :
    text (front ++ back) = front ++ text back := by
  induction front with
  | nil => rfl
  | cons byte rest inductionHypothesis =>
      rw [List.mem_cons, not_or] at clean
      have different : byte ≠ 0 := fun equal => clean.1 equal.symm
      have step : text (byte :: (rest ++ back)) = byte :: text (rest ++ back) := by
        simp [text, different]
      rw [List.cons_append, step, inductionHypothesis clean.2, List.cons_append]

theorem text_append_cons {front : List UInt8} (clean : 0 ∉ front) {byte : UInt8}
    (nonzero : byte ≠ 0) (back : List UInt8) :
    text (front ++ byte :: back) = front ++ byte :: text back := by
  have step : text (byte :: back) = byte :: text back := by
    simp [text, nonzero]
  rw [text_append clean, step]

/-- Nothing behind a zero byte belongs to the text. -/
theorem text_append_of_mem {front : List UInt8} (terminated : 0 ∈ front) (back : List UInt8) :
    text (front ++ back) = text front := by
  induction front with
  | nil => cases terminated
  | cons byte rest inductionHypothesis =>
      by_cases zero : byte = 0
      · subst zero
        rfl
      · have later : 0 ∈ rest := by
          rcases List.mem_cons.mp terminated with equal | later
          · exact absurd equal.symm zero
          · exact later
        have step (tail : List UInt8) : text (byte :: tail) = byte :: text tail := by
          simp [text, zero]
        rw [List.cons_append, step, step, inductionHypothesis later]

theorem text_append_zero (front back : List UInt8) : text (front ++ 0 :: back) = text front := by
  by_cases terminated : 0 ∈ front
  · exact text_append_of_mem terminated _
  · rw [text_append terminated, text_zero_cons, List.append_nil, text_of_zero_not_mem terminated]

/-- The text of an initial piece is the initial piece of the text. -/
theorem text_take (bytes : List UInt8) (size : Nat) :
    text (bytes.take size) = (text bytes).take size := by
  induction bytes generalizing size with
  | nil => simp
  | cons byte rest inductionHypothesis =>
      cases size with
      | zero => rfl
      | succ size =>
          by_cases zero : byte = 0
          · subst zero
            rfl
          · have step (tail : List UInt8) : text (byte :: tail) = byte :: text tail := by
              simp [text, zero]
            rw [List.take_succ_cons, step, step, List.take_succ_cons, inductionHypothesis]

theorem text_length_le (bytes : List UInt8) : (text bytes).length ≤ bytes.length :=
  (List.takeWhile_prefix _).length_le

/-- A block that holds a zero byte is its text, that byte, and the rest. -/
theorem split_at_zero {bytes : List UInt8} (terminated : 0 ∈ bytes) :
    ∃ back, bytes = text bytes ++ 0 :: back := by
  induction bytes with
  | nil => cases terminated
  | cons byte rest inductionHypothesis =>
      by_cases zero : byte = 0
      · subst zero
        exact ⟨rest, rfl⟩
      · have later : 0 ∈ rest := by
          rcases List.mem_cons.mp terminated with equal | later
          · exact absurd equal.symm zero
          · exact later
        rcases inductionHypothesis later with ⟨back, split⟩
        refine ⟨back, ?_⟩
        have step : text (byte :: rest) = byte :: text rest := by
          simp [text, zero]
        rw [step, List.cons_append, ← split]

/-! ## Writes -/

theorem write_length {memory bytes after : List UInt8} {offset : Nat}
    (written : write memory offset bytes = .done after) : after.length = memory.length := by
  unfold write at written
  split at written
  · rename_i inside
    cases written
    simp only [List.length_append, List.length_take, List.length_drop]
    omega
  · cases written

theorem write_middle (front old back bytes : List UInt8) (sizes : old.length = bytes.length) :
    write (front ++ old ++ back) front.length bytes = .done (front ++ bytes ++ back) := by
  have inside : front.length + bytes.length ≤ (front ++ old ++ back).length := by
    simp only [List.length_append]
    omega
  have kept : (front ++ old ++ back).drop (front.length + bytes.length) = back := by
    rw [← sizes, ← List.length_append, List.drop_left]
  rw [write, if_pos inside, kept, List.append_assoc front old back, List.take_left]

theorem write_byte (front : List UInt8) (old byte : UInt8) (back : List UInt8) :
    write (front ++ old :: back) front.length [byte] = .done (front ++ byte :: back) := by
  have written := write_middle front [old] back [byte] rfl
  simpa only [List.append_assoc, List.singleton_append] using written

/-- Bytes behind the block are kept by a write inside it. -/
theorem write_append {memory bytes after : List UInt8} {offset : Nat}
    (written : write memory offset bytes = .done after) (back : List UInt8) :
    write (memory ++ back) offset bytes = .done (after ++ back) := by
  unfold write at written
  split at written
  · rename_i inside
    cases written
    have room : offset + bytes.length ≤ (memory ++ back).length := by
      rw [List.length_append]
      omega
    rw [write, if_pos room, List.take_append_of_le_length (by omega),
      List.drop_append_of_le_length inside]
    simp only [List.append_assoc]
  · cases written

/-! ## Reads -/

theorem cstring_append_left (front : List UInt8) {back : List UInt8} (terminated : 0 ∈ back) :
    cstring (front ++ back) front.length = .done (text back) := by
  rw [cstring, List.drop_left, if_pos terminated]

/-- Bytes behind the block do not change a string inside it. -/
theorem cstring_append {memory string : List UInt8} {offset : Nat}
    (read : cstring memory offset = .done string) (back : List UInt8) :
    cstring (memory ++ back) offset = .done string := by
  unfold cstring at read
  split at read
  · rename_i terminated
    cases read
    have inside : offset ≤ memory.length := by
      by_contra past
      rw [List.drop_eq_nil_of_le (by omega)] at terminated
      cases terminated
    rw [cstring, List.drop_append_of_le_length inside,
      if_pos (List.mem_append_left back terminated), text_append_of_mem terminated]
  · cases read

theorem slice_append {memory bytes : List UInt8} {offset size : Nat}
    (read : slice memory offset size = .done bytes) (back : List UInt8) :
    slice (memory ++ back) offset size = .done bytes := by
  unfold slice at read
  split at read
  · rename_i inside
    cases read
    have room : offset + size ≤ (memory ++ back).length := by
      rw [List.length_append]
      omega
    rw [slice, if_pos room, List.drop_append_of_le_length (by omega),
      List.take_append_of_le_length (by rw [List.length_drop]; omega)]
  · cases read

theorem slice_middle (front bytes back : List UInt8) :
    slice (front ++ bytes ++ back) front.length bytes.length = .done bytes := by
  have inside : front.length + bytes.length ≤ (front ++ bytes ++ back).length := by
    simp only [List.length_append]
    omega
  rw [slice, if_pos inside, List.append_assoc, List.drop_left, List.take_left]

end Memory
