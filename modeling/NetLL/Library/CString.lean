import NetLL.Library.Memory

/-!
# Strings held by the program

A string the program owns, as opposed to one it reads out of a buffer, carries
the proof that it has no zero byte, so the bytes before its terminator are all
of it.  Literals are ASCII.
-/

/-- The bytes of an ASCII literal. -/
def ascii (literal : String) : List UInt8 :=
  literal.toList.map (fun character => character.toNat.toUInt8)

/-- A string with its terminator left out. -/
@[ext]
structure CString where
  bytes : List UInt8
  clean : 0 ∉ bytes
deriving DecidableEq

namespace CString

/-- The string that a block of bytes begins with. -/
def ofBytes (bytes : List UInt8) : CString :=
  ⟨Memory.text bytes, Memory.zero_not_mem_text _⟩

def literal (string : String) : CString :=
  ofBytes (ascii string)

/-- The first bytes of a string, as `strncpy` copies them. -/
def take (string : CString) (size : Nat) : CString where
  bytes := string.bytes.take size
  clean := fun member => string.clean (List.mem_of_mem_take member)

/-- The string that starts at an offset of another one. -/
def drop (string : CString) (offset : Nat) : CString where
  bytes := string.bytes.drop offset
  clean := fun member => string.clean (List.mem_of_mem_drop member)

def length (string : CString) : Nat :=
  string.bytes.length

/-- `strchr`, as an offset. -/
def strchr (string : CString) (byte : UInt8) : Option Nat :=
  string.bytes.findIdx? (· == byte)

theorem strchr_of_split {string : CString} (front back : List UInt8) {byte : UInt8}
    (split : string.bytes = front ++ byte :: back) (absent : byte ∉ front) :
    string.strchr byte = some front.length := by
  have nowhere : front.findIdx? (· == byte) = none := by
    rw [List.findIdx?_eq_none_iff]
    intro other member
    exact beq_false_of_ne fun same => absent (same ▸ member)
  rw [strchr, split, List.findIdx?_append, nowhere, List.findIdx?_cons, if_pos (beq_self_eq_true _)]
  simp

/-- `strchr` finds nothing before a byte that is absent from the front. -/
theorem le_of_strchr {string : CString} (front back : List UInt8) {byte : UInt8}
    (split : string.bytes = front ++ back) (absent : byte ∉ front) {position : Nat}
    (found : string.strchr byte = some position) : front.length ≤ position := by
  rw [strchr, List.findIdx?_eq_some_iff_getElem] at found
  rcases found with ⟨inside, here, _⟩
  by_contra early
  have small : position < front.length := Nat.lt_of_not_le early
  simp only [split, List.getElem_append_left small, beq_iff_eq] at here
  exact absent (here ▸ List.getElem_mem small)

/-- The string falls apart at the byte that `strchr` finds. -/
theorem split_of_strchr {string : CString} {byte : UInt8} {position : Nat}
    (found : string.strchr byte = some position) :
    position < string.length ∧ byte ∉ string.bytes.take position ∧
      string.bytes.drop position = byte :: string.bytes.drop (position + 1) := by
  rw [strchr, List.findIdx?_eq_some_iff_getElem] at found
  rcases found with ⟨inside, here, first⟩
  refine ⟨inside, fun early => ?_, ?_⟩
  · rcases List.mem_take_iff_getElem.mp early with ⟨index, below, same⟩
    refine first index (Nat.lt_of_lt_of_le below (Nat.min_le_left _ _)) ?_
    rw [same]
    exact beq_self_eq_true byte
  · rw [List.drop_eq_getElem_cons inside, beq_iff_eq.mp here]

theorem strchr_eq_none_iff {string : CString} {byte : UInt8} :
    string.strchr byte = none ↔ byte ∉ string.bytes := by
  rw [strchr, List.findIdx?_eq_none_iff]
  constructor
  · intro absent member
    exact absurd (absent byte member) (by rw [beq_self_eq_true]; exact Bool.noConfusion)
  · intro absent other member
    exact beq_false_of_ne fun same => absent (same ▸ member)

theorem length_take_le (string : CString) (size : Nat) : (string.take size).length ≤ size :=
  List.length_take_le _ _

end CString

/-! ## Comparing without case -/

/-- The lower-case form of an ASCII letter; every other byte is kept. -/
def lowerCase (byte : UInt8) : UInt8 :=
  if 65 ≤ byte ∧ byte ≤ 90 then byte + 32 else byte

/-- The line begins with the label when letter case is ignored. -/
def BeginsWith (label line : List UInt8) : Prop :=
  (line.take label.length).map lowerCase = label.map lowerCase

instance (label line : List UInt8) : Decidable (BeginsWith label line) :=
  inferInstanceAs (Decidable ((line.take label.length).map lowerCase = label.map lowerCase))

namespace BeginsWith

variable {label line : List UInt8}

theorem length_le (begins : BeginsWith label line) : label.length ≤ line.length := by
  have lengths := congrArg List.length begins
  rw [List.length_map, List.length_map, List.length_take] at lengths
  omega

/-- Only the first bytes of a line decide, so a longer line that still shows
them begins with the same labels. -/
theorem append_iff (front back : List UInt8) (enough : label.length ≤ front.length) :
    BeginsWith label (front ++ back) ↔ BeginsWith label front := by
  unfold BeginsWith
  rw [List.take_append_of_le_length enough]

theorem append (begins : BeginsWith label line) (back : List UInt8) :
    BeginsWith label (line ++ back) :=
  (append_iff line back begins.length_le).mpr begins

/-- A byte of the line inside the label's length is, up to case, a byte of
the label. -/
theorem lowerCase_mem (begins : BeginsWith label line) {byte : UInt8}
    (member : byte ∈ line.take label.length) : lowerCase byte ∈ label.map lowerCase := by
  have image := List.mem_map_of_mem (f := lowerCase) member
  rwa [begins] at image

end BeginsWith
