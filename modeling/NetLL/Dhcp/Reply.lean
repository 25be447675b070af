import NetLL.Dhcp.Discovery

namespace NetLL
namespace Dhcp

/-!
# What the DHCP server sends

A reply is the packet it answers, with another opcode, another address for the
client, and other options behind the cookie.  None of its bytes is one that the
memory held before, because a packet that is answered is longer than what is
kept of it.
-/

/-! ## Writing options -/

/-- The bytes up to the place of the next option. -/
structure Written (bytes : List UInt8) (opt : Block 312 × Nat) : Prop where
  place : opt.2 = bytes.length
  front : opt.1.bytes.take opt.2 = bytes

section

variable {bytes : List UInt8} {opt : Block 312 × Nat}

theorem Written.store (written : Written bytes opt) (more : List UInt8)
    (room : bytes.length + more.length ≤ 312) :
    ∃ options, opt.1.store opt.2 more = .done options ∧
      Written (bytes ++ more) (options, opt.2 + more.length) := by
  have inside : opt.2 + more.length ≤ 312 := by rwa [written.place]
  rcases opt.1.exists_store inside with ⟨options, stored⟩
  refine ⟨options, stored, ?_, ?_⟩
  · change opt.2 + more.length = _
    rw [List.length_append, written.place]
  · change options.bytes.take (opt.2 + more.length) = _
    rw [Block.take_store stored, written.front]

theorem Written.optWriteN (written : Written bytes opt) (entry : Options.Entry)
    (room : bytes.length + entry.bytes.length ≤ 312) :
    ∃ after, optWriteN entry.code entry.data opt = .done after ∧
      Written (bytes ++ entry.bytes) after := by
  rcases written.store entry.bytes room with ⟨options, stored, next⟩
  refine ⟨(options, opt.2 + (entry.data.length + 2)), ?_, next⟩
  change (opt.1.store opt.2 entry.bytes >>= _) = _
  rw [stored]
  rfl

end

/-- Options that are written one behind the other, and what is done behind them. -/
def optWriteAll {β : Type} (next : Block 312 × Nat → Exec β) :
    List Options.Entry → Block 312 × Nat → Exec β
  | [], opt => next opt
  | entry :: entries, opt =>
      optWriteN entry.code entry.data opt >>= fun opt => optWriteAll next entries opt

theorem Written.optWriteAll {β : Type} (next : Block 312 × Nat → Exec β)
    (entries : List Options.Entry) {bytes : List UInt8} {opt : Block 312 × Nat}
    (written : Written bytes opt)
    (room : bytes.length + (Options.render entries).length ≤ 312) :
    ∃ after, optWriteAll next entries opt = next after ∧
      Written (bytes ++ Options.render entries) after := by
  induction entries generalizing bytes opt with
  | nil => exact ⟨opt, rfl, (List.append_nil bytes).symm ▸ written⟩
  | cons entry entries inductionHypothesis =>
      rw [Options.render_cons, List.length_append] at room
      rcases written.optWriteN entry (by omega) with ⟨middle, first, written⟩
      rcases inductionHypothesis written (by rw [List.length_append]; omega) with
        ⟨after, rest, written⟩
      refine ⟨after, ?_, ?_⟩
      · rw [Dhcp.optWriteAll, first, Exec.done_bind, rest]
      · rwa [Options.render_cons, ← List.append_assoc]

/-- An option with an address. -/
def addressEntry (code : UInt8) (notPad : code ≠ Options.pad) (notEnd : code ≠ Options.end_)
    (address : Block 4) : Options.Entry where
  code := code
  data := address.bytes
  notPad := notPad
  notEnd := notEnd
  short := by
    rw [address.length_bytes]
    decide

/-- The option with the type of a message. -/
def typeEntry (type : UInt8) : Options.Entry where
  code := dhcpOptMsgType
  data := [type]
  notPad := by decide
  notEnd := by decide
  short := Nat.one_lt_succ_succ 254

/-- The option with the time of a lease, in seconds. -/
def leaseTimeEntry : Options.Entry where
  code := dhcpOptIpLeaseTime
  data := [0, 1, 81, 128]
  notPad := by decide
  notEnd := by decide
  short := by decide

/-- The options of a reply. -/
def replyEntries (server : DhcpServer) (type : UInt8) : List Options.Entry :=
  [typeEntry type,
   addressEntry dhcpOptServerId (by decide) (by decide) server.ip,
   addressEntry dhcpOptSubnetMask (by decide) (by decide) server.nm,
   addressEntry dhcpOptRouter (by decide) (by decide) server.ip,
   addressEntry dhcpOptDns (by decide) (by decide) server.ip,
   leaseTimeEntry]

/-- The options behind the cookie, and their end. -/
def replyOptions (server : DhcpServer) (type : UInt8) : List UInt8 :=
  Options.render (replyEntries server type) ++ [dhcpOptEnd]

theorem length_addressEntry {code : UInt8} {notPad : code ≠ Options.pad}
    {notEnd : code ≠ Options.end_} (address : Block 4) :
    (addressEntry code notPad notEnd address).bytes.length = 6 := by
  rw [Options.length_bytes]
  exact congrArg (· + 2) address.length_bytes

theorem length_render_replyEntries (server : DhcpServer) (type : UInt8) :
    (Options.render (replyEntries server type)).length = 33 := by
  simp only [Options.render, replyEntries, List.flatMap_cons, List.flatMap_nil,
    List.length_append, length_addressEntry, List.length_nil]
  rfl

theorem length_replyOptions (server : DhcpServer) (type : UInt8) :
    (replyOptions server type).length = 34 := by
  rw [replyOptions, List.length_append, length_render_replyEntries]
  rfl

/-! ## Sending -/

/-- The bytes of a message in front of the options. -/
def DhcpMsg.front (dhcpMsg : DhcpMsg) : List UInt8 :=
  dhcpMsg.op :: (dhcpMsg.before ++ (dhcpMsg.yiaddr.bytes ++ dhcpMsg.behind))

theorem DhcpMsg.length_front (dhcpMsg : DhcpMsg) : dhcpMsg.front.length = 236 := by
  rw [front, List.length_cons, List.length_append, List.length_append, length_before,
    length_behind, Block.length_bytes]

theorem DhcpMsg.bytes_eq_front (dhcpMsg : DhcpMsg) :
    dhcpMsg.bytes = dhcpMsg.front ++ dhcpMsg.options.bytes := by
  rw [bytes, front, List.cons_append, List.append_assoc, List.append_assoc]

/-- A datagram to every client, when there was memory for it. -/
def sent (allocated : Bool) (buf : List UInt8) : List DhcpEvent :=
  if allocated then [.sendto buf 0xffffffff portDhcpClient] else []

/-- The options of a reply are written into the message, and it is sent up to
their end. -/
theorem sendReply_eq (server : DhcpServer) (allocated : Bool) (dhcpMsg : DhcpMsg) (type : UInt8) :
    (optWriteU8 dhcpOptMsgType type (dhcpMsg.options, 4) >>=
        fun opt => sendReply server allocated dhcpMsg opt) =
      .done (sent allocated
        (dhcpMsg.front ++ (dhcpMsg.options.bytes.take 4 ++ replyOptions server type))) := by
  have cookie : (dhcpMsg.options.bytes.take 4).length = 4 := by
    rw [List.length_take, Block.length_bytes]
    rfl
  have start : Written (dhcpMsg.options.bytes.take 4) (dhcpMsg.options, 4) := ⟨cookie.symm, rfl⟩
  let finish (opt : Block 312 × Nat) : Exec (List DhcpEvent) :=
    opt.1.store opt.2 [dhcpOptEnd] >>= fun options =>
      dhcpSocketSendto allocated { dhcpMsg with options }.bytes (236 + (opt.2 + 1)) 0xffffffff
        portDhcpClient
  have entries := length_render_replyEntries server type
  rcases start.optWriteAll finish (replyEntries server type) (by omega) with
    ⟨opt, chain, written⟩
  rcases written.store [dhcpOptEnd] (by simp [cookie, entries]) with ⟨options, stored, ended⟩
  have place : opt.2 = 37 := by
    rw [written.place, List.length_append, cookie, entries]
  have front : ({ dhcpMsg with options } : DhcpMsg).bytes.take 274 =
      dhcpMsg.front ++ (dhcpMsg.options.bytes.take 4 ++ replyOptions server type) := by
    have ended_ := ended.front
    rw [place, List.append_assoc] at ended_
    rw [DhcpMsg.bytes_eq_front]
    change (dhcpMsg.front ++ options.bytes).take 274 = _
    rw [List.take_append, dhcpMsg.length_front,
      List.take_of_length_le (by rw [dhcpMsg.length_front]; decide)]
    exact congrArg (dhcpMsg.front ++ ·) ended_
  have size : ({ dhcpMsg with options } : DhcpMsg).bytes.length = 548 := by
    rw [DhcpMsg.bytes_eq_front, List.length_append, DhcpMsg.length_front, Block.length_bytes]
  change optWriteAll finish (replyEntries server type) (dhcpMsg.options, 4) = _
  rw [chain]
  change (opt.1.store opt.2 [dhcpOptEnd] >>= _) = _
  rw [stored, Exec.done_bind, place]
  cases allocated with
  | false => rfl
  | true =>
      change (Memory.slice ({ dhcpMsg with options } : DhcpMsg).bytes 0 274 >>= _) = _
      rw [Memory.slice, if_pos (by rw [size]; decide), Exec.done_bind, List.drop_zero, front]
      rfl

/-! ## Replies -/

/-- The address of a lease. -/
def leaseAddress (server : DhcpServer) (yi : Fin dhcpsMaxIp) : Block 4 :=
  server.ip.put 3 (Nat.lt_succ_self 3) (dhcpsBaseIp + UInt8.ofNat yi)

theorem bytes_leaseAddress (server : DhcpServer) (yi : Fin dhcpsMaxIp) :
    (leaseAddress server yi).bytes =
      server.ip.bytes.take 3 ++ [dhcpsBaseIp + UInt8.ofNat yi] := by
  have size := server.ip.length_bytes
  change server.ip.bytes.set 3 (dhcpsBaseIp + UInt8.ofNat yi) = _
  rw [List.set_eq_take_append_cons_drop, if_pos (by omega), List.drop_eq_nil_of_le (by omega)]

/-- The reply to a packet. -/
def replyTo (server : DhcpServer) (packet : List UInt8) (type : UInt8) (yi : Fin dhcpsMaxIp) :
    List UInt8 :=
  dhcpOffer :: ((packet.drop 1).take 15 ++ ((leaseAddress server yi).bytes ++
    ((packet.drop 20).take 220 ++ replyOptions server type)))

section

variable {server : DhcpServer} {stale : Block sizeofDhcpMsg} {packet : List UInt8}

theorem mac_receivedMsg (enough : dhcpMinSize ≤ packet.length) :
    (receivedMsg server stale packet).mac.bytes = (packet.drop 28).take 6 := by
  have inside : 28 + 6 ≤ min sizeofDhcpMsg packet.length :=
    Nat.le_min.mpr ⟨by decide, Nat.le_trans (by decide) enough⟩
  have received : ((stale.receive packet).bytes.drop 28).take 6 = (packet.drop 28).take 6 :=
    Block.drop_take_receive inside
  rw [← received]
  change ((((stale.receive packet).bytes.drop 28).take 16).drop 0).take 6 = _
  rw [List.drop_zero, List.take_take]
  rfl

/-- All that is kept of the received message is in the packet. -/
theorem front_receivedMsg (enough : dhcpMinSize ≤ packet.length) (type : UInt8)
    (yi : Fin dhcpsMaxIp) :
    ((receivedMsg server stale packet).withAddress yi).front ++
        ((receivedMsg server stale packet).options.bytes.take 4 ++ replyOptions server type) =
      replyTo server packet type yi := by
  have within (offset width : Nat) (small : offset + width ≤ dhcpMinSize) :
      ((stale.receive packet).bytes.drop offset).take width = (packet.drop offset).take width :=
    Block.drop_take_receive
      (Nat.le_min.mpr ⟨Nat.le_trans small (by decide), Nat.le_trans small enough⟩)
  have before : ((receivedMsg server stale packet).withAddress yi).before =
      (packet.drop 1).take 15 := by
    rw [← within 1 15 (by decide)]
    exact DhcpMsg.before_ofBlock (stale.receive packet)
  have behind : ((receivedMsg server stale packet).withAddress yi).behind =
      (packet.drop 20).take 216 := by
    rw [← within 20 216 (by decide)]
    exact DhcpMsg.behind_ofBlock (stale.receive packet)
  have cookie : (receivedMsg server stale packet).options.bytes.take 4 =
      (packet.drop 236).take 4 := by
    rw [← within 236 4 (by decide)]
    change (((stale.receive packet).bytes.drop 236).take 312).take 4 = _
    rw [List.take_take]
    rfl
  have kept : (packet.drop 20).take 220 = (packet.drop 20).take 216 ++ (packet.drop 236).take 4 := by
    change (packet.drop 20).take (216 + 4) = _
    rw [List.take_add, List.drop_drop]
  rw [DhcpMsg.front, before, behind, cookie, replyTo, kept, List.cons_append]
  simp only [List.append_assoc]
  rfl

end

/-! ## Reading a reply -/

section

variable {server : DhcpServer} {packet : List UInt8} {type : UInt8} {yi : Fin dhcpsMaxIp}
  (enough : dhcpMinSize ≤ packet.length)

include enough

theorem length_kept : (dhcpOffer :: (packet.drop 1).take 15).length = 16 ∧
    ((packet.drop 20).take 220).length = 220 := by
  have long : 240 ≤ packet.length := Nat.le_trans (by decide) enough
  constructor
  · rw [List.length_cons, List.length_take, List.length_drop]
    omega
  · rw [List.length_take, List.length_drop]
    omega

theorem length_replyTo : (replyTo server packet type yi).length = 274 := by
  rcases length_kept enough with ⟨front, kept⟩
  rw [replyTo, ← List.cons_append, List.length_append, List.length_append, List.length_append,
    front, kept, Block.length_bytes, length_replyOptions]

theorem take_replyTo :
    (replyTo server packet type yi).take 16 = dhcpOffer :: (packet.drop 1).take 15 := by
  rw [replyTo, ← List.cons_append]
  exact List.take_left' (length_kept enough).1

theorem address_replyTo :
    ((replyTo server packet type yi).drop 16).take 4 = (leaseAddress server yi).bytes := by
  rw [replyTo, ← List.cons_append, List.drop_left' (length_kept enough).1]
  exact List.take_left' (leaseAddress server yi).length_bytes

theorem drop_replyTo : (replyTo server packet type yi).drop 20 =
    (packet.drop 20).take 220 ++ replyOptions server type := by
  have front : (dhcpOffer :: (packet.drop 1).take 15 ++ (leaseAddress server yi).bytes).length =
      20 := by
    rw [List.length_append, (length_kept enough).1, Block.length_bytes]
  rw [replyTo, ← List.cons_append, ← List.append_assoc]
  exact List.drop_left' front

theorem kept_replyTo :
    ((replyTo server packet type yi).drop 20).take 220 = (packet.drop 20).take 220 := by
  rw [drop_replyTo enough]
  exact List.take_left' (length_kept enough).2

theorem mac_replyTo :
    ((replyTo server packet type yi).drop 28).take 6 = (packet.drop 28).take 6 := by
  have inner (bytes : List UInt8) :
      (((bytes.drop 20).take 220).drop 8).take 6 = (bytes.drop 28).take 6 := by
    rw [List.drop_take, List.take_take, List.drop_drop]
    rfl
  rw [← inner, kept_replyTo enough, inner]

/-- The options are read back as they were written. -/
theorem parse_replyTo : Options.parse ((replyTo server packet type yi).drop 240) =
    [(dhcpOptMsgType, [type]), (dhcpOptServerId, server.ip.bytes),
      (dhcpOptSubnetMask, server.nm.bytes), (dhcpOptRouter, server.ip.bytes),
      (dhcpOptDns, server.ip.bytes), (dhcpOptIpLeaseTime, [0, 1, 81, 128])] := by
  have options : (replyTo server packet type yi).drop 240 = replyOptions server type := by
    change (replyTo server packet type yi).drop (20 + 220) = _
    rw [← List.drop_drop, drop_replyTo enough]
    exact List.drop_left' (length_kept enough).2
  rw [options]
  exact Options.parse_render (replyEntries server type) []

end

/-- What becomes of the leases, and what is sent. -/
inductive Outcome (server : DhcpServer) (ticks : Nat → UInt32) (allocated : Bool)
    (packet : List UInt8) : DhcpServer → List DhcpEvent → Prop where
  | ignored : Outcome server ticks allocated packet server []
  | offered {mac : Block 6} {lease : Fin dhcpsMaxIp → Lease} {yi : Fin dhcpsMaxIp}
      (enough : dhcpMinSize ≤ packet.length) (hardware : mac.bytes = (packet.drop 28).take 6)
      (chosen : discoverLoop mac ticks (List.finRange dhcpsMaxIp) server.lease none =
        (lease, some yi)) :
      Outcome server ticks allocated packet { server with lease }
        (sent allocated (replyTo server packet dhcpOffer yi))
  | acknowledged {mac : Block 6} {yi : Fin dhcpsMaxIp} {host : List UInt8}
      (enough : dhcpMinSize ≤ packet.length) (hardware : mac.bytes = (packet.drop 28).take 6)
      (free : (server.lease yi).mac = mac ∨ (server.lease yi).mac = .zero 6) :
      Outcome server ticks allocated packet
        { server with
          lease := Function.update server.lease yi { mac, expiry := expiryFrom (ticks 0) } }
        (.clientConnected mac (leaseAddress server yi) host ::
          sent allocated (replyTo server packet dhcpAck yi))

section

variable {server after : DhcpServer} {stale : Block sizeofDhcpMsg} {ticks : Nat → UInt32}
  {allocated : Bool} {packet : List UInt8} {events : List DhcpEvent}

theorem outcome_of_discover (enough : dhcpMinSize ≤ packet.length)
    (finished : processDiscover server ticks allocated (receivedMsg server stale packet) =
      .done (after, events)) : Outcome server ticks allocated packet after events := by
  unfold processDiscover at finished
  split at finished
  · rename_i lease nothing
    cases finished
    have kept : lease = server.lease := lease_of_discoverLoop_none nothing
    rw [kept]
    exact .ignored
  · rename_i lease yi chosen
    have sending := sendReply_eq server allocated
      ((receivedMsg server stale packet).withAddress yi) dhcpOffer
    rw [← Exec.bind_assoc] at finished
    change (optWriteU8 dhcpOptMsgType dhcpOffer
      (((receivedMsg server stale packet).withAddress yi).options, 4) >>= _) >>= _ = _ at finished
    rw [sending, Exec.done_bind] at finished
    cases finished
    change Outcome server ticks allocated packet _ (sent allocated (_ ++
      ((receivedMsg server stale packet).options.bytes.take 4 ++ _)))
    rw [front_receivedMsg enough]
    exact .offered enough (mac_receivedMsg enough) chosen

theorem outcome_of_request (enough : dhcpMinSize ≤ packet.length)
    (finished : processRequest server ticks allocated (receivedMsg server stale packet) =
      .done (after, events)) : Outcome server ticks allocated packet after events := by
  unfold processRequest at finished
  rcases Exec.bind_eq_done_iff.mp finished with ⟨requested, _, finished⟩
  cases requested with
  | none =>
      cases finished
      exact .ignored
  | some yi =>
      change (if _ then _ else _) = _ at finished
      split at finished
      · rename_i free
        rcases Exec.bind_eq_done_iff.mp finished with ⟨host, _, finished⟩
        have sending := sendReply_eq server allocated
          ((receivedMsg server stale packet).withAddress yi) dhcpAck
        rw [← Exec.bind_assoc] at finished
        change (optWriteU8 dhcpOptMsgType dhcpAck
          (((receivedMsg server stale packet).withAddress yi).options, 4) >>= _) >>= _ = _
          at finished
        rw [sending, Exec.done_bind] at finished
        cases finished
        change Outcome server ticks allocated packet _ (_ :: sent allocated (_ ++
          ((receivedMsg server stale packet).options.bytes.take 4 ++ _)))
        rw [front_receivedMsg enough]
        exact .acknowledged enough (mac_receivedMsg enough) free
      · cases finished
        exact .ignored

end

/-- Whatever the server does is one of the three. -/
theorem outcome_of_done {server after : DhcpServer} {stale : Block sizeofDhcpMsg}
    {ticks : Nat → UInt32} {allocated : Bool} {packet : List UInt8} {events : List DhcpEvent}
    (finished : dhcpServerProcess server stale ticks allocated packet = .done (after, events)) :
    Outcome server ticks allocated packet after events := by
  unfold dhcpServerProcess at finished
  split at finished
  · cases finished
    exact .ignored
  · rename_i long
    have enough : dhcpMinSize ≤ packet.length := Nat.le_of_not_lt long
    split at finished
    · cases finished
      exact .ignored
    · rcases Exec.bind_eq_done_iff.mp finished with ⟨found, _, finished⟩
      cases found with
      | none =>
          cases finished
          exact .ignored
      | some msgtype =>
          rcases Exec.bind_eq_done_iff.mp finished with ⟨type, _, finished⟩
          split at finished
          · exact outcome_of_discover enough finished
          · split at finished
            · exact outcome_of_request enough finished
            · cases finished
              exact .ignored

theorem mem_sent {allocated : Bool} {buf other : List UInt8} {ip : UInt32} {port : UInt16}
    (member : DhcpEvent.sendto buf ip port ∈ sent allocated other) :
    buf = other ∧ ip = 0xffffffff ∧ port = portDhcpClient := by
  cases allocated with
  | false => cases member
  | true =>
      cases List.mem_singleton.mp member
      exact ⟨rfl, rfl, rfl⟩

/-- Every datagram is a reply to the packet. -/
theorem replyTo_of_mem {server after : DhcpServer} {ticks : Nat → UInt32} {allocated : Bool}
    {packet : List UInt8} {events : List DhcpEvent}
    (outcome : Outcome server ticks allocated packet after events)
    {buf : List UInt8} {ip : UInt32} {port : UInt16} (member : .sendto buf ip port ∈ events) :
    dhcpMinSize ≤ packet.length ∧ ip = 0xffffffff ∧ port = portDhcpClient ∧
      ∃ type yi, (type = dhcpOffer ∨ type = dhcpAck) ∧ buf = replyTo server packet type yi := by
  cases outcome with
  | ignored => cases member
  | offered enough hardware chosen =>
      rcases mem_sent member with ⟨same, everyone, client⟩
      exact ⟨enough, everyone, client, _, _, Or.inl rfl, same⟩
  | acknowledged enough hardware free =>
      have later := (List.mem_cons.mp member).resolve_left (by intro impossible; cases impossible)
      rcases mem_sent later with ⟨same, everyone, client⟩
      exact ⟨enough, everyone, client, _, _, Or.inr rfl, same⟩

/-- What is sent in answer to a packet, field by field.  Nothing of it is left
over from what the memory held before. -/
theorem reply_fields {server after : DhcpServer} {stale : Block sizeofDhcpMsg}
    {ticks : Nat → UInt32} {allocated : Bool} {packet : List UInt8} {events : List DhcpEvent}
    (finished : dhcpServerProcess server stale ticks allocated packet = .done (after, events))
    {buf : List UInt8} {ip : UInt32} {port : UInt16} (member : .sendto buf ip port ∈ events) :
    ip = 0xffffffff ∧ port = portDhcpClient ∧ buf.length = 274 ∧
      buf.take 16 = dhcpOffer :: (packet.drop 1).take 15 ∧
      (buf.drop 20).take 220 = (packet.drop 20).take 220 ∧
      ∃ type yi, (type = dhcpOffer ∨ type = dhcpAck) ∧
        (buf.drop 16).take 4 = (leaseAddress server yi).bytes ∧
        Options.parse (buf.drop 240) =
          [(dhcpOptMsgType, [type]), (dhcpOptServerId, server.ip.bytes),
            (dhcpOptSubnetMask, server.nm.bytes), (dhcpOptRouter, server.ip.bytes),
            (dhcpOptDns, server.ip.bytes), (dhcpOptIpLeaseTime, [0, 1, 81, 128])] := by
  rcases replyTo_of_mem (outcome_of_done finished) member with
    ⟨enough, everyone, client, type, yi, known, same⟩
  rw [same]
  exact ⟨everyone, client, length_replyTo enough, take_replyTo enough, kept_replyTo enough,
    type, yi, known, address_replyTo enough, parse_replyTo enough⟩

theorem reply_fields_of_discovery : ∃ buf,
    dhcpServerProcess (dhcpServerInit gateway netmask) (.zero sizeofDhcpMsg) (fun _ => 0) true
        (clientHeader (station 1) ++ [53, 1, 1, 255]) =
      .done (dhcpServerInit gateway netmask, [.sendto buf 0xffffffff portDhcpClient]) ∧
    buf.length = 274 := by
  have finished : dhcpServerProcess (dhcpServerInit gateway netmask) (.zero sizeofDhcpMsg)
      (fun _ => 0) true (clientHeader (station 1) ++ [53, 1, 1, 255]) =
        .done (dhcpServerInit gateway netmask, [.sendto (replyTo (dhcpServerInit gateway netmask)
          (clientHeader (station 1) ++ [53, 1, 1, 255]) dhcpOffer ⟨0, by decide⟩) 0xffffffff
          portDhcpClient]) := by
    decide +kernel
  exact ⟨_, finished, (reply_fields finished (List.mem_singleton_self _)).2.2.1⟩

end Dhcp
end NetLL
