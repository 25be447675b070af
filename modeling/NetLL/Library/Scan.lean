import NetLL.Library.Decimal

/-!
# Numerals as the C library reads them

`atoi` and the `%x` of `sscanf` pass over white space, take a sign, and read
as many digits as there are.  They stop at the first byte that is no digit, and
a number that is too large for the type is cut to its limit first and to its
low bits then.
-/

namespace Scan

/-- The white space of `isspace`. -/
def isSpace (byte : UInt8) : Bool :=
  byte == 32 || (9 ≤ byte && byte ≤ 13)

/-- Whether there is a minus sign, and the text behind the sign. -/
def sign (text : List UInt8) : Bool × List UInt8 :=
  match text with
  | 45 :: rest => (true, rest)
  | 43 :: rest => (false, rest)
  | _ => (false, text)

/-- `strtol` with base ten, for a `long` of 64 bits. -/
def strtol (text : List UInt8) : Int :=
  let (negative, text) := sign (text.dropWhile isSpace)
  let value : Int := Decimal.value (text.takeWhile (Decimal.IsDigit ·))
  max (-2 ^ 63) (min (2 ^ 63 - 1) (if negative then -value else value))

/-- `atoi`: what `strtol` gives, as an `int` of 32 bits. -/
def atoi (text : List UInt8) : Int :=
  (strtol text).bmod (2 ^ 32)

/-- The value of a hexadecimal digit. -/
def hexDigit (byte : UInt8) : Option Nat :=
  if 48 ≤ byte ∧ byte ≤ 57 then some (byte.toNat - 48)
  else if 65 ≤ byte ∧ byte ≤ 70 then some (byte.toNat - 55)
  else if 97 ≤ byte ∧ byte ≤ 102 then some (byte.toNat - 87)
  else none

/-- The value of hexadecimal digits. -/
def hexValue (digits : List UInt8) : Nat :=
  digits.foldl (fun total byte => total * 16 + (hexDigit byte).getD 0) 0

/-- A `%x` of `sscanf`: the `unsigned int`, and the text behind the digits. -/
def scanHex (text : List UInt8) : Option (UInt32 × List UInt8) :=
  let (negative, text) := sign (text.dropWhile isSpace)
  let text := match text with
    | 48 :: letter :: rest => if letter = 120 ∨ letter = 88 then rest else text
    | _ => text
  let digits := text.takeWhile fun byte => (hexDigit byte).isSome
  if digits = [] then none
  else
    let value : Int := hexValue digits
    let word := if 2 ^ 64 ≤ value then 2 ^ 64 - 1 else if negative then -value else value
    some (UInt32.ofInt word, text.drop digits.length)

/-! ## Numerals in front of other text -/

theorem sign_of_ne {byte : UInt8} (minus : byte ≠ 45) (plus : byte ≠ 43) (rest : List UInt8) :
    sign (byte :: rest) = (false, byte :: rest) := by
  unfold sign
  split
  · rename_i same
    exact absurd (List.cons.inj same).1 minus
  · rename_i same
    exact absurd (List.cons.inj same).1 plus
  · rfl

theorem all_bytes {holds : UInt8 → Prop} (every : ∀ number < 256, holds (UInt8.ofNat number))
    (byte : UInt8) : holds byte := by
  have shown := every byte.toNat byte.toNat_lt
  rwa [UInt8.ofNat_toNat] at shown

/-- A digit is no white space and no sign. -/
theorem digit_begins {byte : UInt8} (digit : Decimal.IsDigit byte) :
    isSpace byte = false ∧ byte ≠ 45 ∧ byte ≠ 43 := by
  have all : ∀ byte, Decimal.IsDigit byte → isSpace byte = false ∧ byte ≠ 45 ∧ byte ≠ 43 :=
    all_bytes (by decide +kernel)
  exact all byte digit

/-- A hexadecimal digit is no white space, no sign and no letter of a prefix. -/
theorem hexDigit_begins {byte : UInt8} {value : Nat} (digit : hexDigit byte = some value) :
    isSpace byte = false ∧ byte ≠ 45 ∧ byte ≠ 43 ∧ byte ≠ 120 ∧ byte ≠ 88 ∧ value < 16 := by
  have all : ∀ byte, ∀ value ∈ hexDigit byte, isSpace byte = false ∧ byte ≠ 45 ∧ byte ≠ 43 ∧
      byte ≠ 120 ∧ byte ≠ 88 ∧ value < 16 :=
    all_bytes (by decide +kernel)
  exact all byte value digit

/-- The numeral of a number that fits is read back, whatever stops it. -/
theorem atoi_render {number : Nat} (small : number < 2 ^ 31) {back : List UInt8}
    (stops : ∀ byte ∈ back.head?, ¬ Decimal.IsDigit byte) :
    atoi (Decimal.render number ++ back) = number := by
  have digits : ∀ byte ∈ Decimal.render number, decide (Decimal.IsDigit byte) = true :=
    fun byte member => decide_eq_true (Decimal.isDigit_render number byte member)
  have stopped : back.takeWhile (Decimal.IsDigit ·) = [] := by
    cases back with
    | nil => rfl
    | cons byte rest => exact List.takeWhile_cons_of_neg (by simpa using stops byte rfl)
  have begins : sign ((Decimal.render number ++ back).dropWhile isSpace) =
      (false, Decimal.render number ++ back) := by
    cases shown : Decimal.render number with
    | nil => exact absurd shown (Decimal.render_ne_nil number)
    | cons first rest =>
        have digit := Decimal.isDigit_render number first (by rw [shown]; exact List.mem_cons_self)
        rcases digit_begins digit with ⟨noSpace, minus, plus⟩
        rw [List.cons_append, List.dropWhile_cons_of_neg (by simp [noSpace]), sign_of_ne minus plus]
  have whole : strtol (Decimal.render number ++ back) = number := by
    rw [strtol, begins]
    simp only [List.takeWhile_append_of_pos digits, stopped, List.append_nil, Decimal.value_render,
      Bool.false_eq_true, if_false]
    omega
  rw [atoi, whole]
  exact Int.bmod_eq_of_le (by omega) (by omega)

/-- Two hexadecimal digits are read as one octet, whatever stops them. -/
theorem scanHex_pair {high low : UInt8} {first second : Nat} (isHigh : hexDigit high = some first)
    (isLow : hexDigit low = some second) {back : List UInt8}
    (stops : ∀ byte ∈ back.head?, hexDigit byte = none) :
    scanHex (high :: low :: back) = some (UInt32.ofNat (16 * first + second), back) := by
  rcases hexDigit_begins isHigh with ⟨noSpace, minus, plus, _, _, highSmall⟩
  rcases hexDigit_begins isLow with ⟨_, _, _, lower, upper, lowSmall⟩
  have stopped : back.takeWhile (fun byte => (hexDigit byte).isSome) = [] := by
    cases back with
    | nil => rfl
    | cons byte rest => exact List.takeWhile_cons_of_neg (by simp [stops byte rfl])
  have begins : sign ((high :: low :: back).dropWhile isSpace) = (false, high :: low :: back) := by
    rw [List.dropWhile_cons_of_neg (by simp [noSpace]), sign_of_ne minus plus]
  have kept : (match high :: low :: back with
      | 48 :: letter :: rest => if letter = 120 ∨ letter = 88 then rest else high :: low :: back
      | _ => high :: low :: back) = high :: low :: back := by
    split
    · rename_i same
      rw [← (List.cons.inj (List.cons.inj same).2).1, if_neg (not_or.mpr ⟨lower, upper⟩)]
    · rfl
  have digits : (high :: low :: back).takeWhile (fun byte => (hexDigit byte).isSome) =
      [high, low] := by
    rw [List.takeWhile_cons_of_pos (by simp [isHigh]), List.takeWhile_cons_of_pos (by simp [isLow]),
      stopped]
  have number : hexValue [high, low] = 16 * first + second := by
    simp only [hexValue, List.foldl_cons, List.foldl_nil, isHigh, isLow, Option.getD_some]
    omega
  have small : ¬ (2 : Int) ^ 64 ≤ ((16 * first + second : Nat) : Int) := by omega
  have word : UInt32.ofInt ((16 * first + second : Nat) : Int) =
      UInt32.ofNat (16 * first + second) := by
    have same : (((16 * first + second : Nat) : Int) % 2 ^ 32).toNat = 16 * first + second := by
      omega
    rw [UInt32.ofInt, same]
  rw [scanHex, begins]
  simp only [kept, digits, List.cons_ne_nil, number, small, word, Bool.false_eq_true, if_false]
  rfl

end Scan
