import Mathlib.Data.List.Dedup

universe u

/-!
# Tables with a fixed number of slots

A table is filled from its front.  An entry that finds a slot takes the first
free one, and an entry that finds none is dropped.  Whatever the entries, the
table holds as many of them as fit, in their order, and no other slot changes.
-/

/-- The slots, and how many of them are filled. -/
@[ext]
structure Table (α : Type u) (capacity : Nat) where
  slots : Vector α capacity
  count : Nat

namespace Table

variable {α : Type u} {capacity : Nat}

/-- Put an entry into the first free slot. -/
def push (table : Table α capacity) (entry : α) : Table α capacity :=
  if room : table.count < capacity then
    { slots := table.slots.set table.count entry room, count := table.count + 1 }
  else table

/-- Put entries into the table, one after the other. -/
def fill (table : Table α capacity) (entries : List α) : Table α capacity :=
  entries.foldl push table

theorem fill_append (table : Table α capacity) (first second : List α) :
    table.fill (first ++ second) = (table.fill first).fill second :=
  List.foldl_append

theorem count_fill (table : Table α capacity) (within : table.count ≤ capacity)
    (entries : List α) :
    (table.fill entries).count = min capacity (table.count + entries.length) := by
  induction entries generalizing table with
  | nil =>
      change table.count = min capacity (table.count + 0)
      omega
  | cons entry rest inductionHypothesis =>
      change ((table.push entry).fill rest).count = _
      rw [List.length_cons]
      by_cases room : table.count < capacity
      · have pushed : (table.push entry).count = table.count + 1 := by rw [push, dif_pos room]
        rw [inductionHypothesis (table.push entry) (by omega), pushed]
        omega
      · have full : table.push entry = table := dif_neg room
        rw [full, inductionHypothesis table within]
        omega

/-- Every slot behind the filled ones holds the entry for it, if there is one,
and otherwise what it held before. -/
theorem getElem_fill (table : Table α capacity) (entries : List α) {index : Nat}
    (inside : index < capacity) :
    (table.fill entries).slots[index] =
      if index < table.count then table.slots[index]
      else (entries[index - table.count]?).getD table.slots[index] := by
  induction entries generalizing table with
  | nil =>
      change table.slots[index] = _
      split <;> rfl
  | cons entry rest inductionHypothesis =>
      change ((table.push entry).fill rest).slots[index] = _
      rw [inductionHypothesis]
      by_cases room : table.count < capacity
      · have pushed : table.push entry =
            { slots := table.slots.set table.count entry room, count := table.count + 1 } :=
          dif_pos room
        simp only [pushed]
        rcases Nat.lt_trichotomy index table.count with before | here | behind
        · rw [if_pos before, if_pos (by omega), Vector.getElem_set_ne room inside (by omega)]
        · subst here
          rw [if_pos (Nat.lt_succ_self _), if_neg (Nat.lt_irrefl _), Vector.getElem_set_self,
            Nat.sub_self]
          rfl
        · have next : index - table.count = index - (table.count + 1) + 1 := by omega
          rw [if_neg (by omega), if_neg (by omega), Vector.getElem_set_ne room inside (by omega),
            next, List.getElem?_cons_succ]
      · have full : table.push entry = table := dif_neg room
        rw [full, if_pos (by omega), if_pos (by omega)]

/-- The filled slots of a table that was empty are the entries, in their order. -/
theorem slots_fill_empty (slots : Vector α capacity) (entries : List α) {index : Nat}
    (stored : index < min capacity entries.length) :
    ((Table.mk slots 0).fill entries).slots.toList[index]? = entries[index]? := by
  have inside : index < capacity := Nat.lt_of_lt_of_le stored (Nat.min_le_left _ _)
  have entry : index < entries.length := Nat.lt_of_lt_of_le stored (Nat.min_le_right _ _)
  have sized : index < ((Table.mk slots 0).fill entries).slots.toList.length := by
    rw [Vector.length_toList]
    exact inside
  rw [List.getElem?_eq_getElem sized, Vector.getElem_toList, getElem_fill _ _ inside,
    if_neg (Nat.not_lt_zero index), Nat.sub_zero, List.getElem?_eq_getElem entry, Option.getD_some]

/-- A front without repetition holds every key, or as many different ones as it
has room for. -/
theorem take_dedup_full {κ : Type u} [DecidableEq κ] {keys : List κ} {room : Nat}
    (distinct : (keys.take room).Nodup) {key : κ} (given : key ∈ keys)
    (missing : key ∉ keys.take room) : room ≤ (keys.take room).dedup.length := by
  rw [distinct.dedup, List.length_take]
  by_contra less
  have all : keys.take room = keys := List.take_of_length_le (by omega)
  rw [all] at missing
  exact missing given

end Table
