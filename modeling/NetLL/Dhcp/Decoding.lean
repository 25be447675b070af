import NetLL.Dhcp.Reply

namespace NetLL
namespace Dhcp

/-!
# Messages whose options are whole

A client writes its options one behind the other, with an end behind the last
one.  Such a message is understood as it was meant, with whatever stands behind
the end, and the memory that it is received in plays no part.  A message that is
not of this form can lead the walk over the options out of the message.  Two
forms that the protocol allows are not among these messages: padding between the
options, which the walk takes for an option with a length, and more options than
the 308 bytes that the field has room for.
-/

/-- A message that a client writes, without padding between its options, and with
the end inside of the field.  The type has a byte, and an address that is asked
for has four. -/
structure Message where
  /-- The fields in front of the options, and the cookie. -/
  header : List UInt8
  entries : List Options.Entry
  rest : List UInt8
  length_header : header.length = 240
  fits : (Options.render entries).length < 308
  typed : ∀ entry, Options.first dhcpOptMsgType entries = some entry → entry.data ≠ []
  addressed : ∀ entry, Options.first dhcpOptRequestedIp entries = some entry →
    4 ≤ entry.data.length

namespace Message

def packet (message : Message) : List UInt8 :=
  message.header ++ (Options.render message.entries ++ Options.end_ :: message.rest)

/-- The hardware address of the client. -/
def mac (message : Message) : Block 6 where
  bytes := (message.header.drop 28).take 6
  length_bytes := by
    rw [List.length_take, List.length_drop, message.length_header]
    rfl

/-- The data of the first option with a code. -/
def option (message : Message) (code : UInt8) : Option (List UInt8) :=
  (Options.first code message.entries).map Options.Entry.data

/-- The lease whose address is asked for. -/
def requested (message : Message) (server : DhcpServer) : Option (Fin dhcpsMaxIp) :=
  (message.option dhcpOptRequestedIp).bind fun address =>
    (List.finRange dhcpsMaxIp).find? fun yi => address.take 4 = (leaseAddress server yi).bytes

/-- The name that the client gives itself, cut off behind 31 bytes. -/
def host (message : Message) : List UInt8 :=
  Memory.text (((message.option dhcpOptHostName).getD []).take 31)

/-- A discovery is offered the client's own lease, or else one that is spare. -/
def serveDiscover (message : Message) (server : DhcpServer) (ticks : Nat → UInt32)
    (allocated : Bool) : DhcpServer × List DhcpEvent :=
  let indices := List.finRange dhcpsMaxIp
  let own := ownLease message.mac indices server.lease
  let spare := spareLease message.mac ticks indices server.lease
  match own.or spare with
  | none => (server, [])
  | some yi =>
      ({ server with lease := (spare.map (release server.lease)).getD server.lease },
        sent allocated (replyTo server message.packet dhcpOffer yi))

/-- A request is acknowledged when nobody else holds the lease. -/
def serveRequest (message : Message) (server : DhcpServer) (ticks : Nat → UInt32)
    (allocated : Bool) : DhcpServer × List DhcpEvent :=
  match message.requested server with
  | none => (server, [])
  | some yi =>
      if (server.lease yi).mac = message.mac ∨ (server.lease yi).mac = .zero 6 then
        ({ server with
            lease := Function.update server.lease yi
              { mac := message.mac, expiry := expiryFrom (ticks 0) } },
          .clientConnected message.mac (leaseAddress server yi) message.host ::
            sent allocated (replyTo server message.packet dhcpAck yi))
      else (server, [])

/-- What the server does with a message. -/
def serve (message : Message) (server : DhcpServer) (ticks : Nat → UInt32) (allocated : Bool) :
    DhcpServer × List DhcpEvent :=
  match (message.option dhcpOptMsgType).bind List.head? with
  | none => (server, [])
  | some type =>
      if type = dhcpDiscover then message.serveDiscover server ticks allocated
      else if type = dhcpRequest then message.serveRequest server ticks allocated
      else (server, [])

end Message

/-! ## Messages of a client -/

/-- The option with an address that is asked for. -/
def requestedEntry (address : Block 4) : Options.Entry :=
  addressEntry dhcpOptRequestedIp (by decide) (by decide) address

namespace Message

/-- `DHCPDISCOVER`. -/
def discover (mac : Block 6) : Message where
  header := clientHeader mac
  entries := [typeEntry dhcpDiscover]
  rest := []
  length_header := length_clientHeader mac
  fits := by decide
  typed := by
    rintro entry ⟨⟩
    exact List.cons_ne_nil _ _
  addressed := by
    rintro entry ⟨⟩

/-- `DHCPREQUEST` for an address. -/
def request (mac : Block 6) (address : Block 4) : Message where
  header := clientHeader mac
  entries := [typeEntry dhcpRequest, requestedEntry address]
  rest := []
  length_header := length_clientHeader mac
  fits := by
    rw [Options.render_cons, Options.render_cons, List.length_append, List.length_append,
      requestedEntry, length_addressEntry]
    decide
  typed := by
    rintro entry ⟨⟩
    exact List.cons_ne_nil _ _
  addressed := by
    rintro entry ⟨⟩
    exact Nat.le_of_eq address.length_bytes.symm

end Message

/-! ## Options in the field -/

section

variable {options : Block 312} {cookie rest : List UInt8} {entries : List Options.Entry}
  {code : UInt8}

theorem optFind_none (length_cookie : cookie.length = 4)
    (displayed : options.bytes = cookie ++ (Options.render entries ++ Options.end_ :: rest))
    (absent : Options.first code entries = none) : optFind options code = .done none := by
  rw [optFind, optFindFrom_render length_cookie (Nat.le_refl 308) displayed, absent]
  rfl

/-- The place of an option that is found, and what stands there. -/
theorem optFind_some (length_cookie : cookie.length = 4)
    (displayed : options.bytes = cookie ++ (Options.render entries ++ Options.end_ :: rest))
    {entry : Options.Entry} (found : Options.first code entries = some entry) :
    ∃ front back, optFind options code = .done (some front.length) ∧
      options.bytes = front ++ (entry.bytes ++ back) := by
  rcases Options.split_of_first found with ⟨_, after, split⟩
  refine ⟨cookie ++ Options.render (Options.before code entries),
    Options.render after ++ Options.end_ :: rest, ?_, ?_⟩
  · rw [optFind, optFindFrom_render length_cookie (Nat.le_refl 308) displayed, found,
      List.length_append, length_cookie]
    rfl
  · have whole : Options.render entries =
        Options.render (Options.before code entries) ++ (entry.bytes ++ Options.render after) := by
      rw [← Options.render_cons, ← Options.render_append, ← split]
    rw [displayed, whole]
    simp only [List.append_assoc]

theorem load_data {front back : List UInt8} {entry : Options.Entry} {offset : Nat} {byte : UInt8}
    (displayed : options.bytes = front ++ (entry.bytes ++ back))
    (here : entry.data[offset]? = some byte) :
    options.load (front.length + (2 + offset)) = .done byte := by
  have inside : offset < entry.data.length := (List.getElem?_eq_some_iff.mp here).1
  rw [Block.load_eq_done_iff, displayed, List.getElem?_append_right (by omega),
    Nat.add_sub_cancel_left, List.getElem?_append_left (by rw [Options.length_bytes]; omega),
    Nat.add_comm]
  exact here

theorem slice_data {front back : List UInt8} {entry : Options.Entry} {width : Nat}
    (displayed : options.bytes = front ++ (entry.bytes ++ back))
    (short : width ≤ entry.data.length) :
    options.slice (front.length + 2) width = .done (entry.data.take width) := by
  have parts : options.bytes = (front ++ [entry.code, UInt8.ofNat entry.data.length]) ++
      entry.data.take width ++ (entry.data.drop width ++ back) := by
    rw [displayed, List.append_assoc, ← List.append_assoc (entry.data.take width),
      List.take_append_drop, List.append_assoc]
    rfl
  have size : (entry.data.take width).length = width := List.length_take_of_le short
  have read := Memory.slice_middle (front ++ [entry.code, UInt8.ofNat entry.data.length])
    (entry.data.take width) (entry.data.drop width ++ back)
  rw [size, List.length_append] at read
  rw [Block.slice, parts]
  exact read

theorem load_size {front back : List UInt8} {entry : Options.Entry}
    (displayed : options.bytes = front ++ (entry.bytes ++ back)) :
    options.load (front.length + 1) = .done (UInt8.ofNat entry.data.length) := by
  rw [Block.load_eq_done_iff, displayed, List.getElem?_append_right (by omega),
    Nat.add_sub_cancel_left]
  rfl

theorem hostname_eq (length_cookie : cookie.length = 4)
    (displayed : options.bytes = cookie ++ (Options.render entries ++ Options.end_ :: rest)) :
    hostname options = .done (Memory.text
      ((((Options.first dhcpOptHostName entries).map Options.Entry.data).getD []).take 31)) := by
  cases found : Options.first dhcpOptHostName entries with
  | none =>
      rw [hostname, optFind_none length_cookie displayed found]
      rfl
  | some entry =>
      rcases optFind_some length_cookie displayed found with ⟨front, back, walked, parts⟩
      have cut : (if 31 < entry.data.length then 31 else entry.data.length) =
          min 31 entry.data.length := by
        split <;> omega
      rw [hostname, walked, Exec.done_bind]
      change (options.load (front.length + 1) >>= _) = _
      rw [load_size parts, Exec.done_bind, Options.toNat_size]
      change (options.slice (front.length + 2)
        (if 31 < entry.data.length then 31 else entry.data.length) >>= _) = _
      rw [cut, slice_data parts (Nat.min_le_right _ _), Exec.done_bind, ← List.take_eq_take_min]
      rfl

end

/-! ## The lease that is asked for -/

section

variable {server : DhcpServer} {options : Block 312}

/-- The last byte of an address tells the lease. -/
theorem sub_base_eq_iff {host : UInt8} (yi : Fin dhcpsMaxIp) :
    (host - dhcpsBaseIp).toNat = yi ↔ host = dhcpsBaseIp + UInt8.ofNat yi := by
  have few : (yi : Nat) < 8 := yi.isLt
  have wide := host.toNat_lt
  have base : dhcpsBaseIp.toNat = 16 := rfl
  rw [← UInt8.toNat_inj, UInt8.toNat_sub, UInt8.toNat_add, UInt8.toNat_ofNat', base]
  omega

/-- An address is that of a lease when it has its network and its host. -/
theorem eq_leaseAddress_iff {network : List UInt8} {host : UInt8} (width : network.length = 3)
    (yi : Fin dhcpsMaxIp) :
    network ++ [host] = (leaseAddress server yi).bytes ↔
      network = server.ip.bytes.take 3 ∧ (host - dhcpsBaseIp).toNat = yi := by
  have size : (server.ip.bytes.take 3).length = 3 := by
    rw [List.length_take, server.ip.length_bytes]
    rfl
  rw [bytes_leaseAddress, sub_base_eq_iff]
  constructor
  · intro same
    rcases List.append_inj same (width.trans size.symm) with ⟨networks, hosts⟩
    exact ⟨networks, List.singleton_inj.mp hosts⟩
  · rintro ⟨rfl, rfl⟩
    rfl

/-- The only place that meets a test is the one that a search finds. -/
theorem find?_finRange {size : Nat} {test : Fin size → Bool} (place : Fin size)
    (meets : test place = true) (only : ∀ other, test other = true → other = place) :
    (List.finRange size).find? test = some place := by
  cases found : (List.finRange size).find? test with
  | none =>
      exact absurd meets (List.find?_eq_none.mp found place (List.mem_finRange place))
  | some other => rw [only other (List.find?_some found)]

theorem requestedLease_eq {cookie rest : List UInt8} {entries : List Options.Entry}
    (length_cookie : cookie.length = 4)
    (displayed : options.bytes = cookie ++ (Options.render entries ++ Options.end_ :: rest))
    (addressed : ∀ entry, Options.first dhcpOptRequestedIp entries = some entry →
      4 ≤ entry.data.length) :
    requestedLease server options =
      .done (((Options.first dhcpOptRequestedIp entries).map Options.Entry.data).bind
        fun address => (List.finRange dhcpsMaxIp).find? fun yi =>
          address.take 4 = (leaseAddress server yi).bytes) := by
  cases found : Options.first dhcpOptRequestedIp entries with
  | none =>
      rw [requestedLease, optFind_none length_cookie displayed found]
      rfl
  | some entry =>
      rcases optFind_some length_cookie displayed found with ⟨front, back, walked, parts⟩
      have long := addressed entry found
      have width : (entry.data.take 3).length = 3 := List.length_take_of_le (by omega)
      have last : 3 < entry.data.length := by omega
      have host : options.load (front.length + 5) = .done entry.data[3] :=
        load_data parts (List.getElem?_eq_getElem last)
      have whole : entry.data.take 4 = entry.data.take 3 ++ [entry.data[3]] :=
        List.take_succ_eq_append_getElem last
      have address (yi : Fin dhcpsMaxIp) : entry.data.take 4 = (leaseAddress server yi).bytes ↔
          entry.data.take 3 = server.ip.bytes.take 3 ∧
            (entry.data[3] - dhcpsBaseIp).toNat = yi := by
        rw [whole]
        exact eq_leaseAddress_iff width yi
      rw [requestedLease, walked, Exec.done_bind]
      change (options.slice (front.length + 2) 3 >>= _) = _
      rw [slice_data parts (by omega), Exec.done_bind, Option.map_some, Option.bind_some]
      by_cases network : entry.data.take 3 = server.ip.bytes.take 3
      · rw [if_neg (not_not_intro network), host, Exec.done_bind]
        change (dite _ _ _) = _
        by_cases inside : (entry.data[3] - dhcpsBaseIp).toNat < dhcpsMaxIp
        · rw [dif_pos inside, find?_finRange ⟨_, inside⟩]
          · exact decide_eq_true ((address _).mpr ⟨network, rfl⟩)
          · intro other meets
            exact Fin.ext ((address other).mp (of_decide_eq_true meets)).2.symm
        · rw [dif_neg inside]
          refine congrArg Exec.done (List.find?_eq_none.mpr ?_).symm
          intro yi _ meets
          have same := ((address yi).mp (of_decide_eq_true meets)).2
          exact inside (same ▸ yi.isLt)
      · rw [if_pos network]
        refine congrArg Exec.done (List.find?_eq_none.mpr ?_).symm
        intro yi _ meets
        exact network ((address yi).mp (of_decide_eq_true meets)).1

end

/-! ## Whole messages -/

namespace Message

variable {server : DhcpServer} {stale : Block sizeofDhcpMsg} {ticks : Nat → UInt32}
  {allocated : Bool}

theorem length_cookie (message : Message) : (message.header.drop 236).length = 4 := by
  rw [List.length_drop, message.length_header]

theorem length_packet (message : Message) :
    message.packet.length = 241 + (Options.render message.entries).length + message.rest.length := by
  rw [packet, List.length_append, List.length_append, List.length_cons, message.length_header]
  omega

theorem exists_options (message : Message) (server : DhcpServer) (stale : Block sizeofDhcpMsg) :
    ∃ tail, (receivedMsg server stale message.packet).options.bytes =
      message.header.drop 236 ++ (Options.render message.entries ++ Options.end_ :: tail) := by
  have header := message.length_header
  have fits := message.fits
  have parts : message.packet = (message.header ++ (Options.render message.entries ++
      [Options.end_])) ++ message.rest := by
    rw [packet, List.append_assoc, List.append_assoc]
    rfl
  have small : (message.header ++ (Options.render message.entries ++
      [Options.end_])).length ≤ sizeofDhcpMsg := by
    rw [List.length_append, List.length_append, header, List.length_singleton, sizeofDhcpMsg]
    omega
  rcases stale.exists_receive_append small message.rest with ⟨tail, received⟩
  refine ⟨tail, ?_⟩
  have whole : (receivedMsg server stale message.packet).options.bytes =
      (stale.receive message.packet).bytes.drop 236 := by
    refine List.take_of_length_le ?_
    rw [List.length_drop, Block.length_bytes]
    decide
  rw [whole, parts, received, List.append_assoc, List.drop_append_of_le_length (by omega),
    List.append_assoc]
  rfl

theorem mac_packet (message : Message) : message.mac.bytes = (message.packet.drop 28).take 6 := by
  have header := message.length_header
  rw [packet, List.drop_append_of_le_length (by omega),
    List.take_append_of_le_length (by rw [List.length_drop]; omega)]
  rfl

theorem mac_received (message : Message) (enough : dhcpMinSize ≤ message.packet.length) :
    (receivedMsg server stale message.packet).mac = message.mac := by
  apply Block.eq_of_bytes
  rw [mac_receivedMsg enough, mac_packet]

theorem type_of_short (message : Message) (short : message.packet.length < dhcpMinSize) :
    (message.option dhcpOptMsgType).bind List.head? = none := by
  have size := message.length_packet
  unfold option
  cases found : Options.first dhcpOptMsgType message.entries with
  | none => rfl
  | some entry =>
      rcases Options.split_of_first found with ⟨_, after, split⟩
      have typed := List.length_pos_of_ne_nil (message.typed entry found)
      have inside := congrArg (List.length ∘ Options.render) split
      simp only [Function.comp_apply, Options.render_append, Options.render_cons,
        List.length_append, Options.length_bytes] at inside
      unfold dhcpMinSize at short
      omega

theorem reply_received (message : Message) (enough : dhcpMinSize ≤ message.packet.length)
    (type : UInt8) (yi : Fin dhcpsMaxIp) :
    (optWriteU8 dhcpOptMsgType type
        (((receivedMsg server stale message.packet).withAddress yi).options, 4) >>= fun opt =>
      sendReply server allocated ((receivedMsg server stale message.packet).withAddress yi) opt) =
      .done (sent allocated (replyTo server message.packet type yi)) := by
  rw [sendReply_eq]
  exact congrArg (fun buf => Exec.done (sent allocated buf)) (front_receivedMsg enough type yi)

theorem processDiscover_eq (message : Message) (enough : dhcpMinSize ≤ message.packet.length) :
    processDiscover server ticks allocated (receivedMsg server stale message.packet) =
      .done (message.serveDiscover server ticks allocated) := by
  unfold processDiscover serveDiscover
  rw [message.mac_received enough, discoverLoop_none (List.nodup_finRange dhcpsMaxIp)]
  cases chosen : (ownLease message.mac (List.finRange dhcpsMaxIp) server.lease).or
      (spareLease message.mac ticks (List.finRange dhcpsMaxIp) server.lease) with
  | none =>
      simp only [chosen]
      rw [(Option.or_eq_none_iff.mp chosen).2]
      rfl
  | some yi =>
      simp only [chosen]
      rw [← Exec.bind_assoc]
      change (_ >>= fun opt => sendReply server allocated
        ((receivedMsg server stale message.packet).withAddress yi) opt) >>= _ = _
      rw [message.reply_received enough]
      rfl

theorem processRequest_eq (message : Message) (enough : dhcpMinSize ≤ message.packet.length) :
    processRequest server ticks allocated (receivedMsg server stale message.packet) =
      .done (message.serveRequest server ticks allocated) := by
  rcases message.exists_options server stale with ⟨tail, displayed⟩
  unfold processRequest serveRequest
  rw [requestedLease_eq message.length_cookie displayed message.addressed, Exec.done_bind]
  change (match message.requested server with | none => _ | some yi => _) = _
  cases message.requested server with
  | none => rfl
  | some yi =>
      change (if _ then _ else _) = Exec.done (if _ then _ else _)
      rw [message.mac_received enough]
      split
      · change (hostname (receivedMsg server stale message.packet).options >>= _) = _
        rw [hostname_eq message.length_cookie displayed, Exec.done_bind, ← Exec.bind_assoc]
        change (_ >>= fun opt => sendReply server allocated
          ((receivedMsg server stale message.packet).withAddress yi) opt) >>= _ = _
        rw [message.reply_received enough, Exec.done_bind]
        change Exec.done (_, DhcpEvent.clientConnected (receivedMsg server stale
          message.packet).mac _ _ :: _) = _
        rw [message.mac_received enough]
        rfl
      · rfl

/-- The server does with a message what is meant, whatever its memory held. -/
theorem dhcpServerProcess_eq (message : Message) (server : DhcpServer)
    (stale : Block sizeofDhcpMsg) (ticks : Nat → UInt32) (allocated : Bool) :
    dhcpServerProcess server stale ticks allocated message.packet =
      .done (message.serve server ticks allocated) := by
  rw [dhcpServerProcess]
  split
  · rename_i short
    rw [serve, message.type_of_short short]
  · rename_i long
    have enough : dhcpMinSize ≤ message.packet.length := Nat.le_of_not_lt long
    have kept : ¬ min sizeofDhcpMsg message.packet.length < dhcpMinSize :=
      Nat.not_lt.mpr (Nat.le_min.mpr ⟨by decide, enough⟩)
    rcases message.exists_options server stale with ⟨tail, displayed⟩
    rw [if_neg kept, serve, option]
    cases found : Options.first dhcpOptMsgType message.entries with
    | none =>
        change (optFind (receivedMsg server stale message.packet).options dhcpOptMsgType >>= _) = _
        rw [optFind_none message.length_cookie displayed found]
        rfl
    | some entry =>
        rcases optFind_some message.length_cookie displayed found with
          ⟨front, back, walked, parts⟩
        cases data : entry.data with
        | nil => exact absurd data (message.typed entry found)
        | cons type more =>
            have here : entry.data[0]? = some type := by rw [data]; rfl
            have loaded : (receivedMsg server stale message.packet).options.load
                (front.length + 2) = .done type := load_data parts here
            change (optFind (receivedMsg server stale message.packet).options dhcpOptMsgType >>=
              _) = _
            rw [walked, Exec.done_bind]
            change ((receivedMsg server stale message.packet).options.load (front.length + 2) >>=
              _) = _
            rw [loaded, Exec.done_bind, Option.map_some, Option.bind_some, data, List.head?_cons,
              processDiscover_eq message enough, processRequest_eq message enough]
            change _ = Exec.done (if _ then _ else if _ then _ else _)
            split
            · rfl
            · split <;> rfl

/-- A byte of padding in front of the type of a discovery is taken for an option
of 53 bytes.  The discovery is not answered, or what is read lies behind the
message, as the memory behind the packet has it. -/
example :
    let server := dhcpServerInit gateway netmask
    let ends : Block sizeofDhcpMsg := ⟨List.replicate sizeofDhcpMsg 255, List.length_replicate⟩
    let packet := clientHeader (station 1) ++ [Options.pad, dhcpOptMsgType, 1, dhcpDiscover, 255]
    dhcpServerProcess server ends (fun _ => 0) true packet = .done (server, []) ∧
      dhcpServerProcess server (.zero sizeofDhcpMsg) (fun _ => 0) true packet = .fault := by
  decide +kernel

end Message

end Dhcp
end NetLL
