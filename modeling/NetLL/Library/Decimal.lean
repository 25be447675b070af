import Mathlib.Data.Nat.Digits.Defs

/-!
# Machine words and decimal numerals

Unsigned machine arithmetic is arithmetic modulo the size of the word.  A
numeral is a list of digit bytes.  Its value is a natural number, whatever
its length.  A program that folds the digits in a machine word reduces after
every digit; the fold computes the value modulo the word, no more and no less.
-/

namespace Word

/-- The sum of two words. -/
def add (modulus left right : Nat) : Nat :=
  (left + right) % modulus

/-- The difference of two words, which wraps below zero. -/
def sub (modulus left right : Nat) : Nat :=
  (left + (modulus - right % modulus)) % modulus

theorem add_of_lt {modulus left right : Nat} (small : left + right < modulus) :
    add modulus left right = left + right :=
  Nat.mod_eq_of_lt small

theorem sub_of_le {modulus left right : Nat} (ordered : right ≤ left) (small : left < modulus) :
    sub modulus left right = left - right := by
  unfold sub
  rw [Nat.mod_eq_of_lt (Nat.lt_of_le_of_lt ordered small)]
  have whole : left + (modulus - right) = left - right + modulus := by omega
  rw [whole, Nat.add_mod_right, Nat.mod_eq_of_lt (by omega)]

end Word

namespace Decimal

/-- The bytes of the ten ASCII digits. -/
def IsDigit (byte : UInt8) : Prop :=
  48 ≤ byte ∧ byte ≤ 57

instance : DecidablePred IsDigit := fun byte =>
  inferInstanceAs (Decidable (48 ≤ byte ∧ byte ≤ 57))

/-- The number a digit byte stands for. -/
def digit (byte : UInt8) : Nat :=
  byte.toNat - 48

/-- The mathematical value of a numeral, most significant digit first. -/
def value (digits : List UInt8) : Nat :=
  digits.foldl (fun total byte => total * 10 + digit byte) 0

/-- The same fold in a machine word of the given modulus. -/
def accumulate (modulus : Nat) (digits : List UInt8) : Nat :=
  digits.foldl (fun total byte => (total * 10 + digit byte) % modulus) 0

/-- The numeral of a number, as `%u` prints it. -/
def render (number : Nat) : List UInt8 :=
  if number = 0 then [48]
  else (Nat.digits 10 number).reverse.map (fun place => (48 + place).toUInt8)

/-- Reducing after every digit is reducing once at the end. -/
theorem accumulate_eq (modulus : Nat) (digits : List UInt8) :
    accumulate modulus digits = value digits % modulus := by
  have general (total : Nat) :
      digits.foldl (fun sum byte => (sum * 10 + digit byte) % modulus) (total % modulus) =
        digits.foldl (fun sum byte => sum * 10 + digit byte) total % modulus := by
    induction digits generalizing total with
    | nil => rfl
    | cons byte rest inductionHypothesis =>
        have step : (total % modulus * 10 + digit byte) % modulus =
            (total * 10 + digit byte) % modulus := by
          rw [Nat.add_mod, Nat.mod_mul_mod, ← Nat.add_mod]
        rw [List.foldl_cons, List.foldl_cons, step, inductionHypothesis]
  have start := general 0
  rwa [Nat.zero_mod] at start

/-- A fold only grows the total it starts from. -/
theorem le_foldl (digits : List UInt8) (total : Nat) :
    total ≤ digits.foldl (fun sum byte => sum * 10 + digit byte) total := by
  induction digits generalizing total with
  | nil => exact Nat.le_refl total
  | cons byte rest inductionHypothesis =>
      rw [List.foldl_cons]
      exact Nat.le_trans (by omega) (inductionHypothesis _)

theorem value_eq_zero_iff (digits : List UInt8) :
    value digits = 0 ↔ ∀ byte ∈ digits, digit byte = 0 := by
  unfold value
  induction digits with
  | nil => simp
  | cons byte rest inductionHypothesis =>
      rw [List.foldl_cons, Nat.zero_mul, Nat.zero_add, List.forall_mem_cons]
      constructor
      · intro zero
        have first : digit byte = 0 := by
          have grows := le_foldl rest (digit byte)
          omega
        rw [first] at zero
        exact ⟨first, inductionHypothesis.mp zero⟩
      · rintro ⟨first, later⟩
        rw [first]
        exact inductionHypothesis.mpr later

/-- A numeral has at least the value of its front with the next digit. -/
theorem value_take_mul_ten_le (digits : List UInt8) {size : Nat} (inside : size < digits.length) :
    value (digits.take size) * 10 + digit digits[size] ≤ value digits := by
  have split : value digits =
      value (digits.take size ++ digits[size] :: digits.drop (size + 1)) := by
    rw [← List.drop_eq_getElem_cons inside, List.take_append_drop]
  rw [split]
  unfold value
  rw [List.foldl_append, List.foldl_cons]
  exact le_foldl _ _

theorem value_take_le (digits : List UInt8) (size : Nat) :
    value (digits.take size) ≤ value digits := by
  by_cases whole : digits.length ≤ size
  · rw [List.take_of_length_le whole]
  · have grows := value_take_mul_ten_le digits (Nat.lt_of_not_le whole)
    omega

/-- A numeral that is cut keeps its value only when the value is zero. -/
theorem value_take_eq_iff (digits : List UInt8) (size : Nat) :
    value (digits.take size) = value digits ↔ digits.length ≤ size ∨ value digits = 0 := by
  constructor
  · intro same
    by_cases whole : digits.length ≤ size
    · exact Or.inl whole
    · right
      have grows := value_take_mul_ten_le digits (Nat.lt_of_not_le whole)
      omega
  · rintro (whole | zero)
    · rw [List.take_of_length_le whole]
    · rw [zero, value_eq_zero_iff]
      intro byte member
      exact (value_eq_zero_iff digits).mp zero byte (List.mem_of_mem_take member)

/-! ## Numerals of numbers -/

theorem value_append_digit (digits : List UInt8) (byte : UInt8) :
    value (digits ++ [byte]) = value digits * 10 + digit byte := by
  rw [value, List.foldl_append]
  rfl

theorem isDigit_place {place : Nat} (small : place < 10) :
    IsDigit (48 + place).toUInt8 ∧ digit (48 + place).toUInt8 = place := by
  have all : ∀ place < 10, IsDigit (48 + place).toUInt8 ∧ digit (48 + place).toUInt8 = place := by
    decide
  exact all place small

theorem isDigit_render (number : Nat) : ∀ byte ∈ render number, IsDigit byte := by
  intro byte member
  rw [render] at member
  split at member
  · rw [List.mem_singleton.mp member]
    decide
  · rcases List.mem_map.mp member with ⟨place, places, rfl⟩
    exact (isDigit_place (Nat.digits_lt_base (by decide) (List.mem_reverse.mp places))).1

theorem render_ne_nil (number : Nat) : render number ≠ [] := by
  rw [render]
  split
  · exact List.cons_ne_nil _ _
  · rename_i nonzero
    simp [Nat.digits_ne_nil_iff_ne_zero.mpr nonzero]

/-- The numeral of a number has that number as its value. -/
theorem value_render (number : Nat) : value (render number) = number := by
  have general (number : Nat) :
      value ((Nat.digits 10 number).reverse.map (fun place => (48 + place).toUInt8)) = number := by
    induction number using Nat.strongRecOn with
    | ind number inductionHypothesis =>
        rcases Nat.eq_zero_or_pos number with zero | positive
        · rw [zero, Nat.digits_zero]
          rfl
        · have last : number % 10 < 10 := Nat.mod_lt number (by decide)
          rw [Nat.digits_def' (by decide) positive, List.reverse_cons, List.map_append,
            List.map_singleton, value_append_digit, (isDigit_place last).2,
            inductionHypothesis (number / 10) (Nat.div_lt_self positive (by decide))]
          omega
  rw [render]
  split
  · rename_i zero
    rw [zero]
    rfl
  · exact general number

end Decimal
