import Mathlib.Data.List.Infix
import Mathlib.Data.Nat.Find

universe u

/-!
# First occurrences in a list

A text is scanned from its front for a word, as `strstr` scans a string for a
needle.  The scan is executable, and its results are characterized by the
positions at which the word really stands, so that a caller reasons about
positions and never about the scan.

A scan of an initial piece of a text agrees with the scan of the whole text
as long as the found word lies inside the piece.  This is what makes repeated
scans of a growing text consistent with one scan of all of it.
-/

namespace Search

variable {α : Type u}

/-- The word stands at this position of the text. -/
def StandsAt (word text : List α) (position : Nat) : Prop :=
  word <+: text.drop position

theorem StandsAt.fits {word text : List α} {position : Nat}
    (stands : StandsAt word text position) (nonempty : word ≠ []) :
    position + word.length ≤ text.length := by
  have lengths := List.IsPrefix.length_le stands
  have positive := List.length_pos_of_ne_nil nonempty
  rw [List.length_drop] at lengths
  omega

theorem StandsAt.append {word text : List α} {position : Nat}
    (stands : StandsAt word text position) (nonempty : word ≠ []) (more : List α) :
    StandsAt word (text ++ more) position := by
  have inside := stands.fits nonempty
  unfold StandsAt
  rw [List.drop_append_of_le_length (by omega)]
  exact stands.trans (List.prefix_append _ _)

/-- Standing inside an initial piece is standing in the text, with room for
the whole word before the piece ends. -/
theorem standsAt_take {word text : List α} (nonempty : word ≠ []) (size position : Nat) :
    StandsAt word (text.take size) position ↔
      StandsAt word text position ∧ position + word.length ≤ size := by
  constructor
  · intro stands
    have inside := stands.fits nonempty
    rw [List.length_take] at inside
    refine ⟨?_, by omega⟩
    have extended := stands.append nonempty (text.drop size)
    rwa [List.take_append_drop] at extended
  · rintro ⟨stands, inside⟩
    unfold StandsAt at stands ⊢
    rw [List.drop_take]
    exact List.prefix_take_iff.mpr ⟨stands, by omega⟩

theorem standsAt_cons_succ (word : List α) (first : α) (rest : List α) (position : Nat) :
    StandsAt word (first :: rest) (position + 1) ↔ StandsAt word rest position := by
  rfl

/-- Symbols that the word does not hold may be left out in front of a text. -/
theorem infix_append_left_iff {word front : List α} (nonempty : word ≠ [])
    (absent : ∀ symbol ∈ front, symbol ∉ word) (text : List α) :
    word <:+: front ++ text ↔ word <:+: text := by
  induction front with
  | nil => rfl
  | cons symbol rest inductionHypothesis =>
      have later := inductionHypothesis fun other member =>
        absent other (List.mem_cons_of_mem _ member)
      have elsewhere : ¬ word <+: symbol :: (rest ++ text) := by
        cases word with
        | nil => exact absurd rfl nonempty
        | cons first others =>
            intro begins
            apply absent symbol List.mem_cons_self
            rw [(List.cons_prefix_cons.mp begins).1]
            exact List.mem_cons_self
      rw [List.cons_append, List.infix_cons_iff, later]
      exact or_iff_right elsewhere

/-- And so may symbols behind it. -/
theorem infix_append_right_iff {word back : List α} (nonempty : word ≠ [])
    (absent : ∀ symbol ∈ back, symbol ∉ word) (text : List α) :
    word <:+: text ++ back ↔ word <:+: text := by
  rw [← List.reverse_infix, List.reverse_append, infix_append_left_iff (by simpa using nonempty),
    List.reverse_infix]
  intro symbol member
  simpa using absent symbol (List.mem_reverse.mp member)

variable [DecidableEq α]

instance (word text : List α) (position : Nat) : Decidable (StandsAt word text position) :=
  inferInstanceAs (Decidable (word <+: text.drop position))

/-- Index of the first occurrence of `word`, read from the front. -/
def find (word : List α) : List α → Option Nat
  | [] => if word = [] then some 0 else none
  | first :: rest =>
      if word <+: first :: rest then some 0 else (find word rest).map (· + 1)

/-- The scan reports exactly the least position at which the word stands. -/
theorem find_eq_some_iff {word : List α} (nonempty : word ≠ []) (text : List α) (position : Nat) :
    find word text = some position ↔
      StandsAt word text position ∧ ∀ earlier < position, ¬ StandsAt word text earlier := by
  induction text generalizing position with
  | nil =>
      constructor
      · intro found
        simp only [find, if_neg nonempty] at found
        exact absurd found (by simp)
      · rintro ⟨stands, _⟩
        have inside := stands.fits nonempty
        have positive := List.length_pos_of_ne_nil nonempty
        simp only [List.length_nil] at inside
        omega
  | cons first rest inductionHypothesis =>
      by_cases here : word <+: first :: rest
      · simp only [find, if_pos here, Option.some.injEq]
        constructor
        · intro equal
          subst equal
          exact ⟨here, fun earlier impossible => absurd impossible (Nat.not_lt_zero earlier)⟩
        · rintro ⟨_, least⟩
          rcases Nat.eq_zero_or_pos position with zero | positive
          · exact zero.symm
          · exact absurd here (least 0 positive)
      · simp only [find, if_neg here, Option.map_eq_some_iff]
        constructor
        · rintro ⟨later, found, equal⟩
          subst equal
          rcases (inductionHypothesis later).mp found with ⟨stands, least⟩
          refine ⟨stands, fun earlier before => ?_⟩
          cases earlier with
          | zero => exact here
          | succ earlier =>
              rw [standsAt_cons_succ]
              exact least earlier (by omega)
        · rintro ⟨stands, least⟩
          cases position with
          | zero => exact absurd stands here
          | succ position =>
              refine ⟨position, (inductionHypothesis position).mpr ⟨stands, ?_⟩, rfl⟩
              intro earlier before
              have shifted := least (earlier + 1) (by omega)
              rwa [standsAt_cons_succ] at shifted

/-- The scan fails exactly when the word stands nowhere. -/
theorem find_eq_none_iff {word : List α} (nonempty : word ≠ []) (text : List α) :
    find word text = none ↔ ∀ position, ¬ StandsAt word text position := by
  constructor
  · intro missing position stands
    have exists_least : ∃ position, StandsAt word text position := ⟨position, stands⟩
    have found := (find_eq_some_iff nonempty text (Nat.find exists_least)).mpr
      ⟨Nat.find_spec exists_least, fun earlier before => Nat.find_min exists_least before⟩
    rw [missing] at found
    cases found
  · intro nowhere
    cases found : find word text with
    | none => rfl
    | some position =>
        exact absurd ((find_eq_some_iff nonempty text position).mp found).1 (nowhere position)

/-- The scan finds a word exactly when the text holds it. -/
theorem isSome_find_iff {word : List α} (nonempty : word ≠ []) (text : List α) :
    (find word text).isSome = true ↔ word <:+: text := by
  constructor
  · intro found
    rcases Option.isSome_iff_exists.mp found with ⟨position, found⟩
    have stands := ((find_eq_some_iff nonempty text position).mp found).1
    exact stands.isInfix.trans (List.drop_suffix position text).isInfix
  · rintro ⟨front, back, split⟩
    cases found : find word text with
    | some position => rfl
    | none =>
        apply absurd _ ((find_eq_none_iff nonempty text).mp found front.length)
        rw [StandsAt, ← split, List.append_assoc, List.drop_left]
        exact List.prefix_append _ _

theorem find_fits {word text : List α} {position : Nat} (nonempty : word ≠ [])
    (found : find word text = some position) : position + word.length ≤ text.length :=
  ((find_eq_some_iff nonempty text position).mp found).1.fits nonempty

/-- The scan of an initial piece succeeds exactly when the first occurrence
in the whole text lies inside the piece, and then finds that occurrence. -/
theorem find_take_eq_some_iff {word : List α} (nonempty : word ≠ []) (text : List α)
    (size position : Nat) :
    find word (text.take size) = some position ↔
      find word text = some position ∧ position + word.length ≤ size := by
  rw [find_eq_some_iff nonempty, find_eq_some_iff nonempty, standsAt_take nonempty]
  constructor
  · rintro ⟨⟨stands, inside⟩, least⟩
    refine ⟨⟨stands, fun earlier before earlierStands => ?_⟩, inside⟩
    exact least earlier before ((standsAt_take nonempty _ _).mpr ⟨earlierStands, by omega⟩)
  · rintro ⟨⟨stands, least⟩, inside⟩
    refine ⟨⟨stands, inside⟩, fun earlier before earlierStands => ?_⟩
    exact least earlier before ((standsAt_take nonempty _ _).mp earlierStands).1

/-- A first occurrence stays the first one when the text grows. -/
theorem find_append {word text : List α} {position : Nat} (nonempty : word ≠ [])
    (found : find word text = some position) (more : List α) :
    find word (text ++ more) = some position := by
  have piece : find word ((text ++ more).take text.length) = some position := by
    rw [List.take_left]
    exact found
  exact ((find_take_eq_some_iff nonempty _ _ _).mp piece).1

theorem find_skip {first : α} (word : List α) {front : List α} (absent : first ∉ front)
    (back : List α) : find (first :: word) (front ++ back) =
      (find (first :: word) back).map (front.length + ·) := by
  induction front with
  | nil => simp
  | cons symbol rest inductionHypothesis =>
      rw [List.mem_cons, not_or] at absent
      have elsewhere : ¬ first :: word <+: symbol :: (rest ++ back) :=
        fun begins => absent.1 (List.cons_prefix_cons.mp begins).1
      rw [List.cons_append, find, if_neg elsewhere, inductionHypothesis absent.2, Option.map_map]
      congr 1
      funext position
      simp only [Function.comp_apply, List.length_cons]
      omega

/-- The text before the first occurrence, the word, and what follows it. -/
theorem find_split {word text : List α} {position : Nat} (nonempty : word ≠ [])
    (found : find word text = some position) :
    text = text.take position ++ word ++ text.drop (position + word.length) := by
  have stands := ((find_eq_some_iff nonempty text position).mp found).1
  rcases stands with ⟨after, split⟩
  have rest : text.drop (position + word.length) = after := by
    rw [← List.drop_drop, ← split, List.drop_left]
  rw [rest, List.append_assoc, split, List.take_append_drop]

end Search
