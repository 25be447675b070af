import NetLL.Library.Block
import NetLL.Library.Options

namespace NetLL
namespace Dhcp

/-!
# DHCP messages

`dhcp_msg_t` of the RP2040 port is the layout of a received packet, of which the
last field holds the options.  `opt_find` walks over them, from a code to the
next by the length that stands behind the code, up to the code of the end or to
place 308 behind the cookie.  The functions that write options write them one
behind the other from a place on.
-/

def dhcpDiscover : UInt8 := 1
def dhcpOffer : UInt8 := 2
def dhcpRequest : UInt8 := 3
def dhcpAck : UInt8 := 5

def dhcpOptSubnetMask : UInt8 := 1
def dhcpOptRouter : UInt8 := 3
def dhcpOptDns : UInt8 := 6
def dhcpOptHostName : UInt8 := 12
def dhcpOptRequestedIp : UInt8 := 50
def dhcpOptIpLeaseTime : UInt8 := 51
def dhcpOptMsgType : UInt8 := 53
def dhcpOptServerId : UInt8 := 54
def dhcpOptEnd : UInt8 := 255

/-- `dhcp_msg_t`.  The transaction id, the seconds and the flags are never
computed with, and stand as their bytes. -/
structure DhcpMsg where
  op : UInt8
  htype : UInt8
  hlen : UInt8
  hops : UInt8
  xid : Block 4
  secs : Block 2
  flags : Block 2
  ciaddr : Block 4
  yiaddr : Block 4
  siaddr : Block 4
  giaddr : Block 4
  chaddr : Block 16
  sname : Block 64
  file : Block 128
  options : Block 312
deriving DecidableEq

/-- `sizeof(dhcp_msg_t)`. -/
def sizeofDhcpMsg : Nat := 548

namespace DhcpMsg

/-- The fields of a block of bytes. -/
def ofBlock (block : Block sizeofDhcpMsg) : DhcpMsg where
  op := block.at_ 0 (by decide)
  htype := block.at_ 1 (by decide)
  hlen := block.at_ 2 (by decide)
  hops := block.at_ 3 (by decide)
  xid := block.part 4 4 (by decide)
  secs := block.part 8 2 (by decide)
  flags := block.part 10 2 (by decide)
  ciaddr := block.part 12 4 (by decide)
  yiaddr := block.part 16 4 (by decide)
  siaddr := block.part 20 4 (by decide)
  giaddr := block.part 24 4 (by decide)
  chaddr := block.part 28 16 (by decide)
  sname := block.part 44 64 (by decide)
  file := block.part 108 128 (by decide)
  options := block.part 236 312 (by decide)

/-- The fields between the opcode and the client's address. -/
def before (message : DhcpMsg) : List UInt8 :=
  message.htype :: message.hlen :: message.hops ::
    (message.xid.bytes ++ (message.secs.bytes ++ (message.flags.bytes ++ message.ciaddr.bytes)))

/-- The fields between the client's address and the options. -/
def behind (message : DhcpMsg) : List UInt8 :=
  message.siaddr.bytes ++ (message.giaddr.bytes ++ (message.chaddr.bytes ++
    (message.sname.bytes ++ message.file.bytes)))

/-- The message in memory. -/
def bytes (message : DhcpMsg) : List UInt8 :=
  message.op :: (message.before ++ (message.yiaddr.bytes ++
    (message.behind ++ message.options.bytes)))

theorem length_before (message : DhcpMsg) : message.before.length = 15 := by
  simp only [before, List.length_cons, List.length_append, Block.length_bytes]

theorem length_behind (message : DhcpMsg) : message.behind.length = 216 := by
  simp only [behind, List.length_append, Block.length_bytes]

theorem bytes_ofBlock (block : Block sizeofDhcpMsg) : (ofBlock block).bytes = block.bytes := by
  have nothing : block.bytes.drop 548 = [] :=
    List.drop_eq_nil_of_le (Nat.le_of_eq block.length_bytes)
  have options := block.part_append_drop 236 312 (by decide)
  rw [nothing, List.append_nil] at options
  unfold bytes before behind ofBlock
  simp only [List.append_assoc, List.cons_append]
  rw [options, Block.part_append_drop block 108 128, Block.part_append_drop block 44 64,
    Block.part_append_drop block 28 16, Block.part_append_drop block 24 4,
    Block.part_append_drop block 20 4, Block.part_append_drop block 16 4,
    Block.part_append_drop block 12 4, Block.part_append_drop block 10 2,
    Block.part_append_drop block 8 2, Block.part_append_drop block 4 4,
    Block.at_cons_drop, Block.at_cons_drop, Block.at_cons_drop, Block.at_cons_drop,
    List.drop_zero]

theorem before_ofBlock (block : Block sizeofDhcpMsg) :
    (ofBlock block).before = (block.bytes.drop 1).take 15 := by
  rw [← bytes_ofBlock block, bytes, List.drop_succ_cons, List.drop_zero,
    ← (ofBlock block).length_before, List.take_left]

theorem behind_ofBlock (block : Block sizeofDhcpMsg) :
    (ofBlock block).behind = (block.bytes.drop 20).take 216 := by
  have front : ((ofBlock block).op :: ((ofBlock block).before ++
      (ofBlock block).yiaddr.bytes)).length = 20 := by
    rw [List.length_cons, List.length_append, length_before, Block.length_bytes]
  rw [← bytes_ofBlock block, bytes, ← List.append_assoc, ← List.cons_append, ← front,
    List.drop_left, ← (ofBlock block).length_behind, List.take_left]

end DhcpMsg

/-- The fields of a message that a client sends by broadcast, and the cookie. -/
def clientHeader (mac : Block 6) : List UInt8 :=
  [1, 1, 6, 0] ++ List.replicate 24 0 ++ mac.bytes ++ List.replicate 202 0 ++ [99, 130, 83, 99]

theorem length_clientHeader (mac : Block 6) : (clientHeader mac).length = 240 := by
  simp only [clientHeader, List.length_append, List.length_replicate, mac.length_bytes]
  rfl

/-- The hardware address of a station. -/
def station (number : UInt8) : Block 6 where
  bytes := [2, 0, 0, 0, 0, number]
  length_bytes := rfl

/-! ## Options -/

/-- The walk of `opt_find` from place `i` behind the cookie.  A step is at least
two places long, so that 308 rounds are never used up. -/
def optFindFrom (options : Block 312) (cmd : UInt8) : Nat → Nat → Exec (Option Nat)
  | 0, _ => .done none
  | rounds + 1, i =>
      if i < 308 then do
        let code ← options.load (4 + i)
        if code = dhcpOptEnd then
          .done none
        else if code = cmd then
          .done (some (4 + i))
        else
          let size ← options.load (4 + i + 1)
          optFindFrom options cmd rounds (i + (2 + size.toNat))
      else
        .done none

/-- `opt_find`: the place of an option in the field. -/
def optFind (options : Block 312) (cmd : UInt8) : Exec (Option Nat) :=
  optFindFrom options cmd 308 0

/-- `opt_write_n`: the field with the option, and the place behind it. -/
def optWriteN (cmd : UInt8) (data : List UInt8) (opt : Block 312 × Nat) :
    Exec (Block 312 × Nat) := do
  let options ← opt.1.store opt.2 (cmd :: UInt8.ofNat data.length :: data)
  .done (options, opt.2 + (data.length + 2))

/-- `opt_write_u8`. -/
def optWriteU8 (cmd val : UInt8) (opt : Block 312 × Nat) : Exec (Block 312 × Nat) := do
  let options ← opt.1.store opt.2 [cmd, 1, val]
  .done (options, opt.2 + 3)

/-- `opt_write_u32`: the highest byte first. -/
def optWriteU32 (cmd : UInt8) (val : UInt32) (opt : Block 312 × Nat) :
    Exec (Block 312 × Nat) := do
  let options ← opt.1.store opt.2
    [cmd, 4, (val >>> 24).toUInt8, (val >>> 16).toUInt8, (val >>> 8).toUInt8, val.toUInt8]
  .done (options, opt.2 + 6)

/-! ## A walk over whole options -/

section

variable {options : Block 312} {front tail rest : List UInt8} {i : Nat}

theorem within_of_displayed (place : front.length = 4 + i)
    (displayed : options.bytes = front ++ (tail ++ Options.end_ :: rest)) : i < 308 := by
  have size := congrArg List.length displayed
  rw [options.length_bytes] at size
  simp only [List.length_append, List.length_cons] at size
  omega

theorem ahead_of_displayed (place : front.length = 4 + i)
    (displayed : options.bytes = front ++ tail) (offset : Nat) :
    options.bytes[4 + i + offset]? = tail[offset]? := by
  rw [displayed, ← place, List.getElem?_append_right (by omega), Nat.add_sub_cancel_left]

end

/-- Over options that are whole and have an end behind them, the walk finds the
first one with the code, and looks at nothing behind the end. -/
theorem optFindFrom_render {options : Block 312} {cmd : UInt8} {entries : List Options.Entry}
    {front rest : List UInt8} {i rounds : Nat} (place : front.length = 4 + i)
    (enough : 308 ≤ rounds + i)
    (displayed : options.bytes = front ++ (Options.render entries ++ Options.end_ :: rest)) :
    optFindFrom options cmd rounds i =
      .done ((Options.first cmd entries).map fun _ =>
        4 + i + (Options.render (Options.before cmd entries)).length) := by
  induction entries generalizing front i rounds with
  | nil =>
      cases rounds with
      | zero => exact absurd (within_of_displayed place displayed) (by omega)
      | succ rounds =>
          have code : options.load (4 + i) = .done dhcpOptEnd :=
            Block.load_eq_done_iff.mpr (ahead_of_displayed place displayed 0)
          rw [optFindFrom, if_pos (within_of_displayed place displayed), code, Exec.done_bind,
            if_pos rfl]
          rfl
  | cons entry entries inductionHypothesis =>
      cases rounds with
      | zero => exact absurd (within_of_displayed place displayed) (by omega)
      | succ rounds =>
          have code : options.load (4 + i) = .done entry.code :=
            Block.load_eq_done_iff.mpr (ahead_of_displayed place displayed 0)
          have length : options.load (4 + i + 1) = .done (UInt8.ofNat entry.data.length) :=
            Block.load_eq_done_iff.mpr (ahead_of_displayed place displayed 1)
          have notEnd : entry.code ≠ dhcpOptEnd := entry.notEnd
          rw [optFindFrom, if_pos (within_of_displayed place displayed), code, Exec.done_bind,
            if_neg notEnd]
          by_cases same : entry.code = cmd
          · rw [if_pos same, Options.first_cons_of_eq same, Options.before_cons_of_eq same]
            rfl
          · have onward : (front ++ entry.bytes).length = 4 + (i + (2 + entry.data.length)) := by
              rw [List.length_append, Options.length_bytes, place]
              omega
            have behind : options.bytes =
                (front ++ entry.bytes) ++ (Options.render entries ++ Options.end_ :: rest) := by
              rw [displayed, Options.render_cons, List.append_assoc, List.append_assoc]
            rw [if_neg same, length, Exec.done_bind, Options.toNat_size,
              inductionHypothesis onward (by omega) behind, Options.first_cons_of_ne same,
              Options.before_cons_of_ne same, Options.render_cons, List.length_append,
              Options.length_bytes]
            have places : 4 + (i + (2 + entry.data.length)) +
                (Options.render (Options.before cmd entries)).length =
                4 + i + (entry.data.length + 2 +
                  (Options.render (Options.before cmd entries)).length) := by
              omega
            rw [places]

end Dhcp
end NetLL
