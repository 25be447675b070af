import NetLL.Library.Memory
import NetLL.Library.Search

/-!
# A block filled from the front

A program that gathers bytes into a block it has not cleared holds the bytes
it stored and, behind them, whatever the block held before.  A search that
stops at a zero byte can walk from the former into the latter.  What it finds
depends on the stored bytes alone exactly when they hold a zero byte or the
word that is searched for.
-/

namespace Memory

/-- A block whose first bytes were stored, over what it held initially. -/
def overlay (stored initial : List UInt8) : List UInt8 :=
  stored ++ initial.drop stored.length

/-- `strstr` from the start of a block.  The scan stops at the word or at the
terminator, and it runs out of a block that has neither. -/
def strstr (memory word : List UInt8) : Exec (Option Nat) :=
  match Search.find word (text memory) with
  | some position => .done (some position)
  | none => if 0 ∈ memory then .done none else .fault

/-- The bytes decide a search on their own. -/
def Decides (word stored : List UInt8) : Prop :=
  0 ∈ stored ∨ Search.find word stored ≠ none

instance (word stored : List UInt8) : Decidable (Decides word stored) :=
  inferInstanceAs (Decidable (0 ∈ stored ∨ Search.find word stored ≠ none))

/-! ## Storing and reading back -/

theorem write_overlay {stored initial : List UInt8} (bytes : List UInt8)
    (fits : stored.length + bytes.length ≤ initial.length) :
    write (overlay stored initial) stored.length bytes =
      .done (overlay (stored ++ bytes) initial) := by
  have split : overlay stored initial =
      stored ++ (initial.drop stored.length).take bytes.length ++
        initial.drop (stored.length + bytes.length) := by
    rw [overlay, List.append_assoc, ← List.drop_drop, List.take_append_drop]
  have size : ((initial.drop stored.length).take bytes.length).length = bytes.length := by
    rw [List.length_take, List.length_drop]
    omega
  rw [split, write_middle _ _ _ _ size, overlay, List.length_append]

theorem slice_overlay {stored : List UInt8} {offset : Nat} (inside : offset ≤ stored.length)
    (initial : List UInt8) :
    slice (overlay stored initial) offset (stored.length - offset) =
      .done (stored.drop offset) := by
  have front : (stored.take offset).length = offset := by
    rw [List.length_take]
    omega
  have whole : overlay stored initial =
      stored.take offset ++ stored.drop offset ++ initial.drop stored.length := by
    rw [List.take_append_drop, overlay]
  have read := slice_middle (stored.take offset) (stored.drop offset)
    (initial.drop stored.length)
  rwa [← whole, front, List.length_drop] at read

/-! ## Searching -/

variable {word : List UInt8}

/-- A word found among the stored bytes is found in the block. -/
theorem strstr_of_found (nonempty : word ≠ []) {stored : List UInt8} {position : Nat}
    (found : Search.find word (text stored) = some position) (initial : List UInt8) :
    strstr (overlay stored initial) word = .done (some position) := by
  have inBlock : Search.find word (text (overlay stored initial)) = some position := by
    by_cases terminated : 0 ∈ stored
    · rw [overlay, text_append_of_mem terminated]
      exact found
    · rw [text_of_zero_not_mem terminated] at found
      rw [overlay, text_append terminated]
      exact Search.find_append nonempty found _
  rw [strstr, inBlock]

/-- A word that is found inside the stored bytes is the first one there. -/
theorem find_of_strstr (nonempty : word ≠ []) {stored initial : List UInt8} {position : Nat}
    (found : strstr (overlay stored initial) word = .done (some position))
    (inside : position + word.length ≤ stored.length) :
    Search.find word stored = some position := by
  have shown : Search.find word (text (overlay stored initial)) = some position := by
    unfold strstr at found
    split at found
    · rename_i other here
      cases found
      exact here
    · split at found <;> cases found
  have front : text (overlay stored initial) =
      (overlay stored initial).take (text (overlay stored initial)).length :=
    List.prefix_iff_eq_take.mp (List.takeWhile_prefix _)
  rw [front] at shown
  have inMemory := ((Search.find_take_eq_some_iff nonempty _ _ _).mp shown).1
  have again := (Search.find_take_eq_some_iff nonempty _ _ _).mpr ⟨inMemory, inside⟩
  rwa [overlay, List.take_left] at again

/-- A terminator among the stored bytes ends the scan there. -/
theorem strstr_of_zero_mem {stored : List UInt8} (terminated : 0 ∈ stored)
    (initial : List UInt8) :
    strstr (overlay stored initial) word = .done (Search.find word (text stored)) := by
  rw [strstr, overlay, text_append_of_mem terminated]
  cases Search.find word (text stored) with
  | some position => rfl
  | none => exact if_pos (List.mem_append_left _ terminated)

theorem strstr_of_zero_next {stored initial back : List UInt8}
    (next : initial.drop stored.length = 0 :: back) :
    strstr (overlay stored initial) word = .done (Search.find word (text stored)) := by
  rw [strstr, overlay, next, text_append_zero]
  cases Search.find word (text stored) with
  | some position => rfl
  | none => exact if_pos (List.mem_append_right _ List.mem_cons_self)

/-- The word behind the stored bytes is found there when they do not decide. -/
theorem strstr_of_stale (nonempty : word ≠ []) (clean : 0 ∉ word) {stored initial back : List UInt8}
    (undecided : ¬ Decides word stored) (next : initial.drop stored.length = word ++ back) :
    ∃ position, strstr (overlay stored initial) word = .done (some position) ∧
      stored.length < position + word.length := by
  rw [Decides, not_or, not_not] at undecided
  have visible : text (overlay stored initial) = stored ++ (word ++ text back) := by
    rw [overlay, next, text_append undecided.1, text_append clean]
  cases found : Search.find word (text (overlay stored initial)) with
  | none =>
      have nowhere := (Search.find_eq_none_iff nonempty _).mp found stored.length
      rw [visible] at nowhere
      refine absurd ?_ nowhere
      rw [Search.StandsAt, List.drop_left]
      exact List.prefix_append _ _
  | some position =>
      refine ⟨position, by rw [strstr, found], ?_⟩
      by_contra inside
      have early : Search.find word ((text (overlay stored initial)).take stored.length) =
          some position :=
        (Search.find_take_eq_some_iff nonempty _ _ _).mpr ⟨found, by omega⟩
      rw [visible, List.take_left, undecided.2] at early
      cases early

theorem Decides.append {stored : List UInt8} (nonempty : word ≠ [])
    (decides : Decides word stored) (bytes : List UInt8) : Decides word (stored ++ bytes) := by
  rcases decides with terminated | found
  · exact Or.inl (List.mem_append_left _ terminated)
  · rcases Option.ne_none_iff_exists'.mp found with ⟨position, found⟩
    refine Or.inr ?_
    rw [Search.find_append nonempty found]
    exact Option.some_ne_none _

/-- Bytes that decide are searched as if the block held nothing else. -/
theorem Decides.strstr_eq {stored : List UInt8} (nonempty : word ≠ [])
    (decides : Decides word stored) (initial : List UInt8) :
    strstr (overlay stored initial) word = .done (Search.find word (text stored)) := by
  by_cases terminated : 0 ∈ stored
  · exact strstr_of_zero_mem terminated initial
  · rcases decides with inside | found
    · exact absurd inside terminated
    · rcases Option.ne_none_iff_exists'.mp found with ⟨position, found⟩
      rw [text_of_zero_not_mem terminated, found]
      refine strstr_of_found nonempty ?_ initial
      rw [text_of_zero_not_mem terminated]
      exact found

end Memory
