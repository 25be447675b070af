import Mathlib.Data.List.Basic

/-!
# Names that are made of labels

A name in a message is its labels, each behind its length, with a zero byte
behind the last one.  In place of the rest of a name, a pointer can stand to a
place in the message where that rest is written.
-/

namespace Labels

/-- A label is not empty, and its length leaves two bits of a byte. -/
structure Label where
  bytes : List UInt8
  nonempty : bytes ≠ []
  short : bytes.length ≤ 63
deriving DecidableEq

def Label.wire (label : Label) : List UInt8 :=
  UInt8.ofNat label.bytes.length :: label.bytes

/-- The bytes of a name. -/
def wire (labels : List Label) : List UInt8 :=
  labels.flatMap Label.wire ++ [0]

/-- The length of the name at the front of these bytes.  A name that is cut off
has the length that it would have with its last label whole, and a label that is
too long is no label. -/
def skip : List UInt8 → Option Nat
  | [] => some 0
  | size :: rest =>
      if size = 0 then some 1
      else if 63 < size.toNat then none
      else (skip (rest.drop size.toNat)).map (1 + size.toNat + ·)
termination_by bytes => bytes.length
decreasing_by
  simp only [List.length_cons, List.length_drop]
  omega

/-- The name at a place of a message, and the place behind it.  The number of
labels and pointers is bounded by the first argument. -/
def read (message : List UInt8) : Nat → Nat → Option (List (List UInt8) × Nat)
  | 0, _ => none
  | steps + 1, place =>
      match message[place]? with
      | none => none
      | some size =>
          if size = 0 then some ([], place + 1)
          else if 0xc0 ≤ size.toNat then
            match message[place + 1]? with
            | none => none
            | some low =>
                match read message steps ((size.toNat - 0xc0) * 256 + low.toNat) with
                | none => none
                | some (labels, _) => some (labels, place + 2)
          else if 63 < size.toNat then none
          else
            match read message steps (place + 1 + size.toNat) with
            | none => none
            | some (labels, next) =>
                some ((message.drop (place + 1)).take size.toNat :: labels, next)

variable {label : Label} {labels : List Label}

theorem toNat_size (label : Label) :
    (UInt8.ofNat label.bytes.length).toNat = label.bytes.length := by
  have short := label.short
  rw [UInt8.toNat_ofNat']
  omega

theorem size_ne_zero (label : Label) : UInt8.ofNat label.bytes.length ≠ 0 := by
  have size := toNat_size label
  have positive := List.length_pos_of_ne_nil label.nonempty
  intro zero
  rw [zero] at size
  change 0 = _ at size
  omega

theorem length_label (label : Label) : label.wire.length = label.bytes.length + 1 := rfl

theorem wire_cons (label : Label) (labels : List Label) :
    wire (label :: labels) = label.wire ++ wire labels := by
  rw [wire, List.flatMap_cons, List.append_assoc]
  rfl

theorem wire_nil : wire [] = [0] := rfl

theorem skip_wire (labels : List Label) (rest : List UInt8) :
    skip (wire labels ++ rest) = some (wire labels).length := by
  induction labels with
  | nil =>
      rw [wire_nil, List.singleton_append, skip.eq_def]
      exact if_pos rfl
  | cons label labels inductionHypothesis =>
      have size := toNat_size label
      have short := label.short
      have displayed : wire (label :: labels) ++ rest =
          UInt8.ofNat label.bytes.length :: (label.bytes ++ (wire labels ++ rest)) := by
        rw [wire_cons, Label.wire, List.cons_append, List.cons_append, List.append_assoc]
      rw [displayed, skip.eq_def]
      simp only [if_neg (size_ne_zero label), size]
      rw [if_neg (by omega), List.drop_left, inductionHypothesis, Option.map_some, wire_cons,
        List.length_append, length_label, Nat.add_comm 1]

/-- A name that is whole is read as it was written. -/
theorem read_wire {message : List UInt8} {place steps : Nat} {rest : List UInt8}
    (enough : labels.length < steps) (here : message.drop place = wire labels ++ rest) :
    read message steps place =
      some (labels.map Label.bytes, place + (wire labels).length) := by
  induction labels generalizing place steps with
  | nil =>
      cases steps with
      | zero => cases enough
      | succ steps =>
          have byte : message[place]? = some 0 := by
            rw [← Nat.add_zero place, ← List.getElem?_drop, here]
            rfl
          rw [read, byte]
          exact if_pos rfl
  | cons label labels inductionHypothesis =>
      cases steps with
      | zero => cases enough
      | succ steps =>
          have size := toNat_size label
          have short := label.short
          rw [wire_cons, Label.wire, List.cons_append, List.cons_append, List.append_assoc] at here
          have byte : message[place]? = some (UInt8.ofNat label.bytes.length) := by
            rw [← Nat.add_zero place, ← List.getElem?_drop, here]
            rfl
          have data : message.drop (place + 1) = label.bytes ++ (wire labels ++ rest) := by
            rw [← List.drop_drop, here, List.drop_succ_cons, List.drop_zero]
          have onward : message.drop (place + 1 + label.bytes.length) = wire labels ++ rest := by
            rw [← List.drop_drop, data, List.drop_left]
          rw [read, byte]
          simp only [if_neg (size_ne_zero label), size]
          rw [if_neg (by omega), if_neg (by omega),
            inductionHypothesis (Nat.lt_of_succ_lt_succ enough) onward]
          simp only [data, List.take_left, List.map_cons, wire_cons, List.length_append,
            length_label]
          congr 2
          omega

/-- A pointer stands for the name at its target. -/
theorem read_pointer {message : List UInt8} {place steps next : Nat} {high low : UInt8}
    {name : List (List UInt8)} (pointer : 0xc0 ≤ high.toNat) (first : message[place]? = some high)
    (second : message[place + 1]? = some low)
    (target : read message steps ((high.toNat - 0xc0) * 256 + low.toNat) = some (name, next)) :
    read message (steps + 1) place = some (name, place + 2) := by
  have nonzero : high ≠ 0 := by
    rintro rfl
    exact absurd pointer (by decide)
  rw [read, first]
  simp only [if_neg nonzero, if_pos pointer, second, target]

theorem length_lt_wire (labels : List Label) : labels.length < (wire labels).length := by
  induction labels with
  | nil => exact Nat.zero_lt_one
  | cons label labels inductionHypothesis =>
      rw [wire_cons, List.length_append, length_label, List.length_cons]
      omega

end Labels
