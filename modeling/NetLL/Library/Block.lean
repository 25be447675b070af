import NetLL.Library.Memory

/-!
# Arrays of a fixed size

A local array has its size from the start and never another.  Bytes that are
received into it replace its front, and what stood behind them stays.  Reading
and writing at a computed place can leave the array, which is a fault; the
parts at fixed places are in it.
-/

/-- An array of bytes. -/
structure Block (size : Nat) where
  bytes : List UInt8
  length_bytes : bytes.length = size
deriving DecidableEq

namespace Block

variable {size : Nat}

theorem eq_of_bytes {first second : Block size} (same : first.bytes = second.bytes) :
    first = second := by
  cases first
  cases second
  cases same
  rfl

/-- An array of zeros. -/
def zero (size : Nat) : Block size where
  bytes := List.replicate size 0
  length_bytes := List.length_replicate

/-- Bytes received into the array, as many as there is room for. -/
def receive (stale : Block size) (packet : List UInt8) : Block size where
  bytes := packet.take size ++ stale.bytes.drop packet.length
  length_bytes := by
    rw [List.length_append, List.length_take, List.length_drop, stale.length_bytes]
    omega

/-- The bytes at a fixed place. -/
def part (block : Block size) (offset width : Nat) (inside : offset + width ≤ size) :
    Block width where
  bytes := (block.bytes.drop offset).take width
  length_bytes := by
    rw [List.length_take, List.length_drop, block.length_bytes]
    omega

/-- The byte at a fixed place. -/
def at_ (block : Block size) (offset : Nat) (inside : offset < size) : UInt8 :=
  block.bytes.get ⟨offset, block.length_bytes.symm ▸ inside⟩

/-- The array with another byte at a fixed place. -/
def put (block : Block size) (offset : Nat) (_inside : offset < size) (byte : UInt8) :
    Block size where
  bytes := block.bytes.set offset byte
  length_bytes := by rw [List.length_set, block.length_bytes]

/-- Read one byte. -/
def load (block : Block size) (offset : Nat) : Exec UInt8 :=
  match block.bytes[offset]? with
  | some byte => .done byte
  | none => .fault

/-- Store bytes, inside the array. -/
def store (block : Block size) (offset : Nat) (bytes : List UInt8) : Exec (Block size) :=
  if inside : offset + bytes.length ≤ size then
    .done {
      bytes := block.bytes.take offset ++ bytes ++ block.bytes.drop (offset + bytes.length)
      length_bytes := by
        rw [List.length_append, List.length_append, List.length_take, List.length_drop,
          block.length_bytes]
        omega }
  else .fault

/-- Read a number of bytes. -/
def slice (block : Block size) (offset width : Nat) : Exec (List UInt8) :=
  Memory.slice block.bytes offset width

/-! ## Reading -/

theorem load_eq_done_iff {block : Block size} {offset : Nat} {byte : UInt8} :
    block.load offset = .done byte ↔ block.bytes[offset]? = some byte := by
  unfold load
  cases block.bytes[offset]? with
  | none => simp
  | some found => simp

theorem load_eq_fault_iff {block : Block size} {offset : Nat} :
    block.load offset = .fault ↔ size ≤ offset := by
  have outside : block.bytes[offset]? = none ↔ size ≤ offset := by
    rw [List.getElem?_eq_none_iff, block.length_bytes]
  rw [← outside]
  unfold load
  cases block.bytes[offset]? with
  | none => simp
  | some found => simp

/-- Within the bytes that were received, the array is the packet. -/
theorem getElem?_receive {stale : Block size} {packet : List UInt8} {offset : Nat}
    (inside : offset < min size packet.length) :
    (stale.receive packet).bytes[offset]? = packet[offset]? := by
  have front : offset < (packet.take size).length := by
    rw [List.length_take]
    exact inside
  change (packet.take size ++ stale.bytes.drop packet.length)[offset]? = _
  rw [List.getElem?_append_left front, List.getElem?_take_of_lt (by omega)]

theorem load_receive {stale : Block size} {packet : List UInt8} {offset : Nat}
    (inside : offset < min size packet.length) :
    (stale.receive packet).load offset = .done (packet.getD offset 0) := by
  have within : offset < packet.length := by omega
  rw [load_eq_done_iff, getElem?_receive inside, List.getD_eq_getElem?_getD,
    List.getElem?_eq_getElem within]
  rfl

/-- Behind them it is what it was. -/
theorem getElem?_receive_stale {stale : Block size} {packet : List UInt8} {offset : Nat}
    (behind : packet.length ≤ offset) :
    (stale.receive packet).bytes[offset]? = stale.bytes[offset]? := by
  have size_ := stale.length_bytes
  change (packet.take size ++ stale.bytes.drop packet.length)[offset]? = _
  by_cases fits : packet.length ≤ size
  · have front : (packet.take size).length = packet.length := by
      rw [List.length_take]
      omega
    rw [List.getElem?_append_right (by omega), front, List.getElem?_drop,
      Nat.add_sub_cancel' behind]
  · have nothing : stale.bytes.drop packet.length = [] := List.drop_eq_nil_of_le (by omega)
    rw [nothing, List.append_nil, List.getElem?_eq_none (by rw [List.length_take]; omega),
      List.getElem?_eq_none (by omega)]

/-- What fits the array is received whole. -/
theorem exists_receive_append (stale : Block size) {front : List UInt8}
    (fits : front.length ≤ size) (rest : List UInt8) :
    ∃ tail, (stale.receive (front ++ rest)).bytes = front ++ tail := by
  refine ⟨rest.take (size - front.length) ++ stale.bytes.drop (front ++ rest).length, ?_⟩
  change (front ++ rest).take size ++ _ = _
  rw [List.take_append, List.take_of_length_le fits, List.append_assoc]

theorem take_receive (stale : Block size) (packet : List UInt8) :
    (stale.receive packet).bytes.take (min size packet.length) = packet.take size := by
  change (packet.take size ++ stale.bytes.drop packet.length).take _ = _
  rw [← List.length_take, List.take_left]

theorem drop_take_receive {stale : Block size} {packet : List UInt8} {offset width : Nat}
    (inside : offset + width ≤ min size packet.length) :
    ((stale.receive packet).bytes.drop offset).take width = (packet.drop offset).take width := by
  have front : (packet.take size).length = min size packet.length := List.length_take
  change ((packet.take size ++ stale.bytes.drop packet.length).drop offset).take width = _
  rw [List.take_drop, List.take_drop, List.take_append_of_le_length (by omega), List.take_take,
    Nat.min_eq_left (by omega)]

/-! ## Parts -/

theorem part_append_drop (block : Block size) (offset width : Nat)
    (inside : offset + width ≤ size) :
    (block.part offset width inside).bytes ++ block.bytes.drop (offset + width) =
      block.bytes.drop offset := by
  change (block.bytes.drop offset).take width ++ _ = _
  rw [← List.drop_drop, List.take_append_drop]

theorem at_cons_drop (block : Block size) (offset : Nat) (inside : offset < size) :
    block.at_ offset inside :: block.bytes.drop (offset + 1) = block.bytes.drop offset :=
  List.getElem_cons_drop (block.length_bytes.symm ▸ inside)

/-! ## Storing -/

theorem store_eq_done_iff {block after : Block size} {offset : Nat} {bytes : List UInt8} :
    block.store offset bytes = .done after ↔
      offset + bytes.length ≤ size ∧
        after.bytes = block.bytes.take offset ++ bytes ++
          block.bytes.drop (offset + bytes.length) := by
  unfold store
  split
  · rename_i inside
    rw [Exec.done.injEq]
    constructor
    · intro same
      exact ⟨inside, same ▸ rfl⟩
    · rintro ⟨_, same⟩
      exact eq_of_bytes same.symm
  · rename_i outside
    constructor
    · intro impossible
      cases impossible
    · rintro ⟨inside, _⟩
      exact absurd inside outside

theorem take_store {block after : Block size} {offset : Nat} {bytes : List UInt8}
    (stored : block.store offset bytes = .done after) :
    after.bytes.take (offset + bytes.length) = block.bytes.take offset ++ bytes := by
  rcases store_eq_done_iff.mp stored with ⟨inside, same⟩
  have size_ := block.length_bytes
  have front : (block.bytes.take offset ++ bytes).length = offset + bytes.length := by
    rw [List.length_append, List.length_take]
    omega
  rw [same, List.take_append_of_le_length (Nat.le_of_eq front.symm),
    List.take_of_length_le (Nat.le_of_eq front)]

theorem exists_store (block : Block size) {offset : Nat} {bytes : List UInt8}
    (inside : offset + bytes.length ≤ size) : ∃ after, block.store offset bytes = .done after :=
  ⟨_, dif_pos inside⟩

end Block
