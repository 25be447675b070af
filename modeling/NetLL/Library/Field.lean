import NetLL.Library.Memory

/-!
# Texts in fields of a fixed size

A text is printed into a field of zeros with a terminator behind it, so it can
fill the field up to the last byte but one, and is cut there.  A reader takes
the field up to its first zero byte, or all of it.

The two conventions differ by one byte.  A field that is read whole has room
for a text of its own size, and a printed text of that size has lost its end.
-/

namespace Field

/-- `snprintf` of a text into a field of zeros. -/
def store (size : Nat) (text : List UInt8) : List UInt8 :=
  text.take (size - 1) ++ List.replicate (size - (text.take (size - 1)).length) 0

/-- The text in a field. -/
def read (field : List UInt8) : List UInt8 :=
  Memory.text field

theorem length_store (size : Nat) (text : List UInt8) : (store size text).length = size := by
  rw [store, List.length_append, List.length_replicate, List.length_take]
  omega

theorem zero_mem_store {size : Nat} (positive : 0 < size) (text : List UInt8) :
    0 ∈ store size text := by
  have short := List.length_take_le (size - 1) text
  refine List.mem_append_right _ (List.mem_replicate.mpr ⟨?_, rfl⟩)
  omega

/-- A text that is cut is read back without its end. -/
theorem read_store {size : Nat} {text : List UInt8} (clean : 0 ∉ text) :
    read (store size text) = text.take (size - 1) := by
  have cleanFront : 0 ∉ text.take (size - 1) := fun member => clean (List.mem_of_mem_take member)
  have zeros : ∀ count, Memory.text (List.replicate count 0) = [] := by
    intro count
    cases count with
    | zero => rfl
    | succ count => rw [List.replicate_succ, Memory.text_zero_cons]
  rw [read, store, Memory.text_append cleanFront, zeros, List.append_nil]

/-- A text is read back exactly when its terminator fits. -/
theorem read_store_eq_iff {size : Nat} {text : List UInt8} (clean : 0 ∉ text)
    (positive : 0 < size) : read (store size text) = text ↔ text.length < size := by
  rw [read_store clean]
  constructor
  · intro whole
    have kept := List.length_take_le (size - 1) text
    rw [whole] at kept
    omega
  · intro fits
    exact List.take_of_length_le (by omega)

end Field
