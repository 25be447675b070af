import NetLL.Dhcp.Decoding
import NetLL.Dhcp.Exclusivity

namespace NetLL
namespace Dhcp

/-!
# Requests that are acknowledged

What the server has offered or acknowledged to a client is acknowledged when the
client asks for it, unless another client has been given it in the meantime.
While the time of a lease is running no other client can be given it, so that a
client that asks for it again in time is never turned down.  It has to name the
address in the option for it.  A client that renews its lease as a bound client
does, with the address in `ciaddr` alone, is not answered, since
`dhcp_server_process` does not look at that field.
-/

variable {host middle last : Host} {delivery : Delivery}

/-- Nobody but the client has the lease. -/
def Free (server : DhcpServer) (mac : Block 6) (yi : Fin dhcpsMaxIp) : Prop :=
  (server.lease yi).mac = mac ∨ (server.lease yi).mac = .zero 6

/-! ## Free leases -/

section

variable {server after : DhcpServer} {ticks : Nat → UInt32} {allocated : Bool}
  {packet : List UInt8} {events : List DhcpEvent}

theorem ip_of_outcome (outcome : Outcome server ticks allocated packet after events) :
    after.ip = server.ip := by
  cases outcome with
  | ignored => rfl
  | offered => rfl
  | acknowledged => rfl

/-- A lease stays free for a client when nobody else is connected with its
address. -/
theorem free_of_outcome (outcome : Outcome server ticks allocated packet after events)
    {mac : Block 6} {yi : Fin dhcpsMaxIp} (free : Free server mac yi)
    (unclaimed : ∀ line ∈ connected events, line.2 = leaseAddress server yi → line.1 = mac) :
    Free after mac yi := by
  unfold Free
  cases outcome with
  | ignored => exact free
  | @offered other lease place enough hardware chosen =>
      rcases lease_of_discoverLoop chosen with rfl | ⟨i, _, rfl⟩
      · exact free
      · by_cases same : yi = i
        · subst same
          exact Or.inr (mac_release server.lease yi)
        · change (release server.lease i yi).mac = mac ∨ (release server.lease i yi).mac = .zero 6
          rw [release_of_ne same]
          exact free
  | @acknowledged other place name enough hardware allowed =>
      change (Function.update server.lease place _ yi).mac = mac ∨
        (Function.update server.lease place _ yi).mac = .zero 6
      by_cases same : yi = place
      · subst same
        rw [Function.update_self]
        exact Or.inl (unclaimed (other, leaseAddress server yi) List.mem_cons_self rfl)
      · rw [Function.update_of_ne same]
        exact free

end

theorem console_of_run {deliveries : List Delivery}
    (reached : Transition.run step host deliveries = some last) :
    ∃ lines, last.console = host.console ++ lines := by
  induction deliveries generalizing host with
  | nil =>
      cases reached
      exact ⟨[], (List.append_nil _).symm⟩
  | cons delivery rest inductionHypothesis =>
      rw [Transition.run] at reached
      cases taken : step host delivery with
      | none =>
          rw [taken] at reached
          cases reached
      | some next =>
          rw [taken] at reached
          rcases step_cases taken with ⟨_, events, _, _, _, printed⟩
          rcases inductionHypothesis reached with ⟨lines, console⟩
          exact ⟨connected events ++ lines, by rw [console, printed, List.append_assoc]⟩

/-- So does a run. -/
theorem free_of_run {mac : Block 6} {yi : Fin dhcpsMaxIp} {deliveries : List Delivery}
    (reached : Transition.run step host deliveries = some last)
    (free : Free host.server mac yi) {lines : List (Block 6 × Block 4)}
    (console : last.console = host.console ++ lines)
    (unclaimed : ∀ line ∈ lines, line.2 = leaseAddress host.server yi → line.1 = mac) :
    Free last.server mac yi ∧ last.server.ip = host.server.ip := by
  induction deliveries generalizing host lines with
  | nil =>
      cases reached
      exact ⟨free, rfl⟩
  | cons delivery rest inductionHypothesis =>
      rw [Transition.run] at reached
      cases taken : step host delivery with
      | none =>
          rw [taken] at reached
          cases reached
      | some next =>
          rw [taken] at reached
          rcases step_cases taken with ⟨_, events, outcome, _, _, printed⟩
          rcases console_of_run reached with ⟨more, continued⟩
          have split : connected events ++ more = lines := by
            rw [continued, printed, List.append_assoc] at console
            exact List.append_cancel_left console
          have sameIp := ip_of_outcome outcome
          have sameAddress : leaseAddress next.server yi = leaseAddress host.server yi := by
            rw [leaseAddress, leaseAddress, sameIp]
          have kept : Free next.server mac yi := by
            refine free_of_outcome outcome free ?_
            intro line member
            exact unclaimed line (split ▸ List.mem_append_left more member)
          have later : ∀ line ∈ more, line.2 = leaseAddress next.server yi → line.1 = mac := by
            intro line member
            rw [sameAddress]
            exact unclaimed line (split ▸ List.mem_append_right _ member)
          rcases inductionHypothesis reached kept continued later with ⟨free, ip⟩
          exact ⟨free, ip.trans sameIp⟩

/-! ## Requests -/

/-- A message of a client that asks for an address. -/
structure Asks (message : Message) (mac address : List UInt8) : Prop where
  type : message.option dhcpOptMsgType = some [dhcpRequest]
  requested : message.option dhcpOptRequestedIp = some address
  mac : message.mac.bytes = mac

variable {message : Message}

theorem enough_of_type {type : UInt8} {more : List UInt8}
    (typed : message.option dhcpOptMsgType = some (type :: more)) :
    dhcpMinSize ≤ message.packet.length := by
  by_contra short
  have nothing := message.type_of_short (Nat.lt_of_not_le short)
  rw [typed] at nothing
  cases nothing

theorem requested_of_address {server : DhcpServer} {yi : Fin dhcpsMaxIp}
    (address : message.option dhcpOptRequestedIp = some (leaseAddress server yi).bytes) :
    message.requested server = some yi := by
  have short : (leaseAddress server yi).bytes.take 4 = (leaseAddress server yi).bytes :=
    List.take_of_length_le (Nat.le_of_eq (leaseAddress server yi).length_bytes)
  rw [Message.requested, address, Option.bind_some, short]
  refine find?_finRange yi (decide_eq_true rfl) ?_
  intro other same
  have bytes := of_decide_eq_true same
  rw [bytes_leaseAddress, bytes_leaseAddress] at bytes
  exact lease_injective (List.singleton_inj.mp (List.append_cancel_left bytes)).symm

/-- A request for a lease that is free for the client is acknowledged. -/
theorem step_request {host : Host} (request : Delivery) {yi : Fin dhcpsMaxIp}
    {mac : List UInt8} (asks : Asks message mac (leaseAddress host.server yi).bytes)
    (free : Free host.server message.mac yi) (packet : request.packet = message.packet)
    (memory : request.allocated = true) (later : host.now ≤ request.readings 0) :
    ∃ next ack, step host request = some next ∧ next.log = host.log ++ [ack] ∧
      ack.type = some dhcpAck ∧ ack.mac = mac ∧
      ack.address = (leaseAddress host.server yi).bytes := by
  have enough : dhcpMinSize ≤ request.packet.length := by
    rw [packet]
    exact enough_of_type asks.type
  have hardware : message.mac.bytes = (request.packet.drop 28).take 6 := by
    rw [packet, message.mac_packet]
  have answered : dhcpServerProcess host.server request.stale request.ticks request.allocated
      request.packet = .done (message.serveRequest host.server request.ticks true) := by
    rw [packet, message.dhcpServerProcess_eq, Message.serve, asks.type, memory]
    rfl
  rw [Message.serveRequest, requested_of_address asks.requested] at answered
  unfold Free at free
  change _ = Exec.done (if _ then _ else _) at answered
  rw [if_pos free] at answered
  have reply : request.reply (replyTo host.server message.packet dhcpAck yi) = some
      { buf := replyTo host.server message.packet dhcpAck yi, started := request.readings 0
        time := request.ended } := by
    rw [Delivery.reply, if_pos memory]
  rw [← packet] at reply
  rcases reply_read enough hardware (Option.mem_def.mpr reply) with
    ⟨macs, addresses, typed, _, _⟩
  refine ⟨_, _, step_of_done later answered, ?_, typed, macs.trans asks.mac, ?_⟩
  · refine congrArg (host.log ++ ·) ?_
    have sending := request.datagrams_sent (replyTo host.server request.packet dhcpAck yi)
    rw [reply, memory, packet] at sending
    rw [packet]
    exact sending
  · rw [addresses, bytes_leaseAddress]

/-! ## Offers and running leases -/

/-- What a reply gives or offers is free for its client. -/
theorem free_of_reply (taken : step host delivery = some middle) {reply : Sent}
    (log : middle.log = host.log ++ [reply]) :
    ∃ mac yi, reply.mac = mac.bytes ∧ reply.address = (leaseAddress middle.server yi).bytes ∧
      Free middle.server mac yi := by
  rcases step_cases taken with ⟨_, events, outcome, _, sending, _⟩
  have here : delivery.datagrams events = [reply] :=
    List.append_cancel_left (sending.symm.trans log)
  have read {type : UInt8} {yi : Fin dhcpsMaxIp} {mac : Block 6}
      (enough : dhcpMinSize ≤ delivery.packet.length)
      (hardware : mac.bytes = (delivery.packet.drop 28).take 6)
      (replied : (delivery.reply (replyTo host.server delivery.packet type yi)).toList = [reply]) :
      reply.mac = mac.bytes ∧ reply.address = (leaseAddress middle.server yi).bytes := by
    have member : reply ∈ delivery.reply (replyTo host.server delivery.packet type yi) := by
      refine Option.mem_toList.mp ?_
      rw [replied]
      exact List.mem_singleton_self reply
    rcases reply_read enough hardware member with ⟨macs, addresses, _⟩
    rw [bytes_leaseAddress, ip_of_outcome outcome]
    exact ⟨macs, addresses⟩
  generalize middle.server = after at outcome read ⊢
  cases outcome with
  | ignored => cases here
  | @offered mac lease yi enough hardware chosen =>
      rw [delivery.datagrams_sent] at here
      rcases read enough hardware here with ⟨macs, addresses⟩
      exact ⟨mac, yi, macs, addresses, free_of_discoverLoop chosen⟩
  | @acknowledged mac yi name enough hardware allowed =>
      have replied := (delivery.datagrams_sent _).symm.trans here
      rcases read enough hardware replied with ⟨macs, addresses⟩
      refine ⟨mac, yi, macs, addresses, Or.inl ?_⟩
      change (Function.update host.server.lease yi _ yi).mac = mac
      rw [Function.update_self]

/-- A client that asks for what it was offered or given gets it, when nobody
else was connected with the address in between. -/
theorem offer_honoured {deliveries : List Delivery} (offered : step host delivery = some middle)
    {reply : Sent} (log : middle.log = host.log ++ [reply])
    (continued : Transition.run step middle deliveries = some last)
    {lines : List (Block 6 × Block 4)} (console : last.console = middle.console ++ lines)
    (unclaimed : ∀ line ∈ lines, line.2.bytes = reply.address → line.1.bytes = reply.mac)
    (asks : Asks message reply.mac reply.address) (request : Delivery)
    (packet : request.packet = message.packet) (memory : request.allocated = true)
    (later : last.now ≤ request.readings 0) :
    ∃ next ack, step last request = some next ∧ next.log = last.log ++ [ack] ∧
      ack.type = some dhcpAck ∧ ack.mac = reply.mac ∧ ack.address = reply.address := by
  rcases free_of_reply offered log with ⟨mac, yi, macs, addresses, free⟩
  have kept : ∀ line ∈ lines, line.2 = leaseAddress middle.server yi → line.1 = mac := by
    intro line member same
    apply Block.eq_of_bytes
    rw [← macs]
    exact unclaimed line member ((congrArg Block.bytes same).trans addresses.symm)
  rcases free_of_run continued free console kept with ⟨free, ip⟩
  have address : (leaseAddress last.server yi).bytes = reply.address := by
    rw [addresses, bytes_leaseAddress, bytes_leaseAddress, ip]
  have client : message.mac = mac := Block.eq_of_bytes (asks.mac.trans macs)
  rw [← client] at free
  rw [← address] at asks ⊢
  exact step_request request asks free packet memory later

theorem asks_request (mac : Block 6) (address : Block 4) :
    Asks (Message.request mac address) mac.bytes address.bytes where
  type := rfl
  requested := rfl
  mac := by
    have front : ([1, 1, 6, 0] ++ List.replicate 24 0 : List UInt8).length = 28 := rfl
    change ((clientHeader mac).drop 28).take 6 = mac.bytes
    rw [clientHeader, List.append_assoc, List.append_assoc, List.drop_left' front]
    exact List.take_left' mac.length_bytes

/-- A server that has just started acknowledges the first request. -/
theorem run_firstRequest (ip nm : Block 4) (now : Nat) (mac : Block 6) {address : Block 4}
    {yi : Fin dhcpsMaxIp} (lease : (leaseAddress (dhcpServerInit ip nm) yi).bytes = address.bytes) :
    ∃ host ack, Transition.run step (Host.start ip nm now)
        [.at_ (Message.request mac address).packet now] = some host ∧
      host.log = [ack] ∧ host.now = now ∧ ack.type = some dhcpAck ∧ ack.mac = mac.bytes ∧
      ack.address = address.bytes := by
  let request := Delivery.at_ (Message.request mac address).packet now
  have asks := asks_request mac address
  rw [← lease] at asks
  rcases @step_request (Message.request mac address) (Host.start ip nm now) request yi mac.bytes
    asks (Or.inr rfl) rfl rfl (Nat.le_refl now) with ⟨host, ack, taken, log, typed, own, given⟩
  rcases step_cases taken with ⟨_, _, _, ended, _, _⟩
  refine ⟨host, ack, ?_, log, ended, typed, own, given.trans lease⟩
  rw [Transition.run, taken]
  rfl

/-- The server of the access point behind its start. -/
abbrev started : Host :=
  Host.start gateway netmask 0

/-- The address of the second lease. -/
def nextAddress : Block 4 where
  bytes := [192, 168, 33, 17]
  length_bytes := rfl

/-- One station is offered an address and asks for it, when another one has been
offered the same address and has asked for the next. -/
theorem offer_honoured_of_first : ∃ middle last next ack,
    step started (.at_ (Message.discover (station 1)).packet 5) = some middle ∧
      Transition.run step middle
        [.at_ (Message.discover (station 2)).packet 6,
          .at_ (Message.request (station 2) nextAddress).packet 7] = some last ∧
      last.log.map (fun sent => (sent.mac, sent.address)) =
        [((station 1).bytes, firstAddress.bytes), ((station 2).bytes, firstAddress.bytes),
          ((station 2).bytes, nextAddress.bytes)] ∧
      step last (.at_ (Message.request (station 1) firstAddress).packet 9) = some next ∧
      next.log = last.log ++ [ack] ∧ ack.type = some dhcpAck ∧
      ack.mac = (station 1).bytes ∧ ack.address = firstAddress.bytes := by
  let discovery := Delivery.at_ (Message.discover (station 1)).packet 5
  let others : List Delivery := [.at_ (Message.discover (station 2)).packet 6,
    .at_ (Message.request (station 2) nextAddress).packet 7]
  have offers : (step started discovery).map (fun host =>
      host.log.map fun sent => (sent.mac, sent.address)) =
        some [((station 1).bytes, firstAddress.bytes)] := by
    decide +kernel
  have runs : (Transition.run step started (discovery :: others)).map (fun host =>
      (host.now, host.console)) = some (7, [(station 2, nextAddress)]) := by
    decide +kernel
  have sends : (Transition.run step started (discovery :: others)).map (fun host =>
      host.log.map fun sent => (sent.mac, sent.address)) =
        some [((station 1).bytes, firstAddress.bytes), ((station 2).bytes, firstAddress.bytes),
          ((station 2).bytes, nextAddress.bytes)] := by
    decide +kernel
  rcases Option.map_eq_some_iff.mp offers with ⟨middle, offered, sent⟩
  rcases List.map_eq_singleton_iff.mp sent with ⟨reply, log, read⟩
  rcases Prod.mk.inj read with ⟨mac, address⟩
  have onward : Transition.run step started (discovery :: others) =
      Transition.run step middle others := by
    rw [Transition.run, offered]
  rw [onward] at runs sends
  rcases Option.map_eq_some_iff.mp runs with ⟨last, continued, seen⟩
  rcases Prod.mk.inj seen with ⟨now, lines⟩
  rw [continued] at sends
  rcases console_of_run continued with ⟨more, console⟩
  have unclaimed : ∀ line ∈ more, line.2.bytes = reply.address → line.1.bytes = reply.mac := by
    intro line member own
    have inside : line ∈ last.console := by
      rw [console]
      exact List.mem_append_right _ member
    rw [lines] at inside
    rw [List.mem_singleton.mp inside, address] at own
    exact absurd own (by decide)
  have asks := asks_request (station 1) firstAddress
  rw [← mac, ← address] at asks
  let request := Delivery.at_ (Message.request (station 1) firstAddress).packet 9
  have later : last.now ≤ request.readings 0 := by
    rw [now]
    exact Nat.le_add_right 7 2
  rcases offer_honoured offered (log.trans (List.nil_append _).symm) continued console unclaimed
    asks request rfl rfl later with ⟨next, ack, taken, logged, typed, own, same⟩
  exact ⟨middle, last, next, ack, offered, continued, Option.some.inj sends, taken, logged, typed,
    own.trans mac, same.trans address⟩

/-- A client whose hardware address is not zero, and that asks for its lease in the
option for it, is given it again as long as the time of the lease is running. -/
theorem renewal_acknowledged {ip nm : Block 4} {now : Nat} {deliveries : List Delivery}
    (reached : Transition.run step (Host.start ip nm now) deliveries = some host)
    {ack : Sent} (member : ack ∈ host.log) (acknowledged : ack.type = some dhcpAck)
    (nonzero : ack.mac ≠ (Block.zero 6).bytes) (asks : Asks message ack.mac ack.address)
    (request : Delivery) (packet : request.packet = message.packet)
    (memory : request.allocated = true) (later : host.now ≤ request.readings 0)
    (running : request.readings 0 ≤ ack.started + leaseMs) :
    ∃ next again, step host request = some next ∧ next.log = host.log ++ [again] ∧
      again.type = some dhcpAck ∧ again.mac = ack.mac ∧ again.address = ack.address := by
  rcases run_simulates (represents_start ip nm now) reached with
    ⟨trace, final, sent, simulated, log, sameIp, represented⟩
  have seen : ack ∈ trace.filterMap Prod.snd := by
    rw [log] at member
    rw [simulated.shown]
    exact member
  rcases List.mem_filterMap.mp seen with ⟨pair, inTrace, shown⟩
  rcases simulated.faithful pair inTrace ack shown with ⟨mac, yi, _, macs, addresses, _, gives⟩
  have real : mac ≠ .zero 6 := by
    rintro rfl
    exact nonzero macs
  have given : .give mac yi ack.started ∈ trace.map Prod.fst := by
    rw [← gives acknowledged real]
    exact List.mem_map_of_mem inTrace
  have client : message.mac = mac := Block.eq_of_bytes (asks.mac.trans macs)
  have address : (leaseAddress host.server yi).bytes = ack.address := by
    rw [addresses, bytes_leaseAddress, sameIp]
  rcases simulated.run.reserved_of_mem given with ⟨until_, held, _⟩ | over_
  · have free : Free host.server message.mac yi :=
      Or.inl ((represented.held yi mac until_ held).2.1.trans client.symm)
    rw [← address] at asks ⊢
    exact step_request request asks free packet memory later
  · have ended := represented.now_le
    omega

/-- A station renews its lease in the last moment. -/
theorem renewal_acknowledged_of_first : ∃ host next ack,
    Transition.run step started [.at_ (Message.request (station 1) firstAddress).packet 0] =
      some host ∧
    step host (.at_ (Message.request (station 1) firstAddress).packet 86400000) = some next ∧
      next.log = host.log ++ [ack] ∧ ack.type = some dhcpAck ∧
      ack.address = firstAddress.bytes := by
  let again := Delivery.at_ (Message.request (station 1) firstAddress).packet 86400000
  rcases @run_firstRequest gateway netmask 0 (station 1) firstAddress ⟨0, Nat.zero_lt_succ 7⟩ rfl
    with ⟨host, first, reached, log, now, typed, mac, address⟩
  have member : first ∈ host.log := by
    rw [log]
    exact List.mem_singleton_self first
  have nonzero : first.mac ≠ (Block.zero 6).bytes := by
    rw [mac]
    decide
  have later : host.now ≤ again.readings 0 := by
    rw [now]
    exact Nat.zero_le _
  have asks := asks_request (station 1) firstAddress
  rw [← mac, ← address] at asks
  rcases renewal_acknowledged reached member typed nonzero asks again rfl rfl later
    (Nat.le_add_left _ _) with ⟨next, ack, renewed, logged, acknowledged, _, same⟩
  exact ⟨host, next, ack, reached, renewed, logged, acknowledged, same.trans address⟩

/-! ## Discoveries that are not answered -/

theorem serveDiscover_silent_iff {server : DhcpServer} :
    delivery.datagrams (message.serveDiscover server delivery.ticks true).2 = [] ↔
      (ownLease message.mac (List.finRange dhcpsMaxIp) server.lease).or
        (spareLease message.mac delivery.ticks (List.finRange dhcpsMaxIp) server.lease) = none := by
  unfold Message.serveDiscover
  cases chosen : (ownLease message.mac (List.finRange dhcpsMaxIp) server.lease).or
      (spareLease message.mac delivery.ticks (List.finRange dhcpsMaxIp) server.lease) with
  | none =>
      simp only [chosen]
      exact iff_of_true rfl trivial
  | some yi =>
      simp only [chosen]
      refine iff_of_false ?_ ?_
      · intro impossible
        cases impossible
      · intro impossible
        cases impossible

/-- A lease that is another client's and not spare has been given at some time. -/
theorem Represents.foreign_iff {lease : Fin dhcpsMaxIp → Lease} {now : Nat} {pool : Pool}
    (represents : Represents lease now pool) {i : Fin dhcpsMaxIp} {client : Block 6}
    {reading : Nat} (later : now ≤ reading) :
    ((lease i).mac ≠ client ∧ ¬ (lease i).Spare (UInt32.ofNat reading)) ↔
      ∃ mac given, (lease i).mac = mac ∧ mac ≠ client ∧ mac ≠ .zero 6 ∧ given ≤ now ∧
        (lease i).expiry = expiryFrom (UInt32.ofNat given) ∧
        ¬ ∃ cycles, leaseEnd given + cycles * 2 ^ 32 < reading ∧
          reading ≤ leaseEnd given + cycles * 2 ^ 32 + 2 ^ 31 := by
  constructor
  · rintro ⟨foreign, kept⟩
    have held : (lease i).mac ≠ .zero 6 := fun free => kept (Or.inl free)
    cases holder : pool.holder i with
    | none => exact absurd (represents.free i holder) held
    | some entry =>
        rcases represents.held i entry.1 entry.2 holder with ⟨_, _, given, before, _, since⟩
        refine ⟨_, given, rfl, foreign, held, before, since, ?_⟩
        intro window
        exact kept (Or.inr
          ((expired_iff_window since (Nat.le_trans before later)).mpr window))
  · rintro ⟨mac, given, rfl, foreign, held, before, since, outside⟩
    refine ⟨foreign, ?_⟩
    rintro (free | over_)
    · exact held free
    · exact outside ((expired_iff_window since (Nat.le_trans before later)).mp over_)

/-- A discovery goes without an answer exactly when every lease is held by
another client and does not look expired.  A lease that is over looks expired
for half of the cycle of the clock, and then does not for the other half. -/
theorem discovery_unanswered_iff {ip nm : Block 4} {now : Nat} {deliveries : List Delivery}
    (reached : Transition.run step (Host.start ip nm now) deliveries = some host)
    (discovery : Delivery) (packet : discovery.packet = message.packet)
    (type : message.option dhcpOptMsgType = some [dhcpDiscover])
    (memory : discovery.allocated = true) (later : host.now ≤ discovery.readings 0) :
    ∃ next, step host discovery = some next ∧
      (next.log = host.log ↔ ∀ i, ∃ mac given, (host.server.lease i).mac = mac ∧
        mac ≠ message.mac ∧ mac ≠ .zero 6 ∧ given ≤ host.now ∧
        (host.server.lease i).expiry = expiryFrom (UInt32.ofNat given) ∧
        ¬ ∃ cycles, leaseEnd given + cycles * 2 ^ 32 < discovery.readings i ∧
          discovery.readings i ≤ leaseEnd given + cycles * 2 ^ 32 + 2 ^ 31) := by
  rcases run_simulates (represents_start ip nm now) reached with
    ⟨_, final, _, _, _, _, represented⟩
  have answered : dhcpServerProcess host.server discovery.stale discovery.ticks
      discovery.allocated discovery.packet =
        .done (message.serveDiscover host.server discovery.ticks true) := by
    rw [packet, message.dhcpServerProcess_eq, Message.serve, type, memory]
    rfl
  refine ⟨_, step_of_done later answered, ?_⟩
  change host.log ++ discovery.datagrams
    (message.serveDiscover host.server discovery.ticks true).2 = host.log ↔ _
  rw [List.append_right_eq_self, serveDiscover_silent_iff, choice_none_iff]
  constructor
  · intro every i
    have read : host.now ≤ discovery.readings i :=
      Nat.le_trans later (discovery.monotone (Nat.zero_le i))
    exact (represented.foreign_iff read).mp (every i (List.mem_finRange i))
  · intro every i _
    have read : host.now ≤ discovery.readings i :=
      Nat.le_trans later (discovery.monotone (Nat.zero_le i))
    exact (represented.foreign_iff read).mpr (every i)

/-- A station asks for the lease with its number. -/
def requestOwn (yi : Fin dhcpsMaxIp) : Delivery :=
  .at_ (Message.request (station (UInt8.ofNat (yi + 1))) (leaseAddress started.server yi)).packet yi

/-- Eight stations have the leases.  A ninth one is not answered while their time
is running, and not either when it asks 24 days behind their ends. -/
theorem discovery_unanswered_of_eight : ∃ host next last,
    Transition.run step started ((List.finRange dhcpsMaxIp).map requestOwn) = some host ∧
      host.log.length = 8 ∧
      step host (.at_ (Message.discover (station 9)).packet 8) = some next ∧
      next.log = host.log ∧
      step host (.at_ (Message.discover (station 9)).packet 2233925632) = some last ∧
      last.log = host.log := by
  have runs : (Transition.run step started ((List.finRange dhcpsMaxIp).map requestOwn)).map
      (fun host => (host.now, host.log.length,
        (List.finRange dhcpsMaxIp).map host.server.lease)) =
      some (7, 8, (List.finRange dhcpsMaxIp).map fun yi =>
        { mac := station (UInt8.ofNat (yi + 1)), expiry := expiryFrom (UInt32.ofNat yi) }) := by
    decide +kernel
  rcases Option.map_eq_some_iff.mp runs with ⟨host, reached, seen⟩
  rcases Prod.mk.inj seen with ⟨now, seen⟩
  rcases Prod.mk.inj seen with ⟨sent, held⟩
  have lease (i : Fin dhcpsMaxIp) : host.server.lease i =
      { mac := station (UInt8.ofNat (i + 1)), expiry := expiryFrom (UInt32.ofNat i) } :=
    List.map_inj_left.mp held i (List.mem_finRange i)
  have foreign : ∀ i : Fin dhcpsMaxIp, station (UInt8.ofNat (i + 1)) ≠ station 9 ∧
      station (UInt8.ofNat (i + 1)) ≠ .zero 6 ∧ leaseEnd i = 86441983 := by
    decide
  have silent (time : Nat) (later : 7 ≤ time)
      (outside : ∀ cycles, 86441983 + cycles * 2 ^ 32 < time →
        86441983 + cycles * 2 ^ 32 + 2 ^ 31 < time) :
      ∃ next, step host (.at_ (Message.discover (station 9)).packet time) = some next ∧
        next.log = host.log := by
    rcases discovery_unanswered_iff reached (.at_ (Message.discover (station 9)).packet time)
      rfl rfl rfl (now.trans_le later) with ⟨next, taken, silent⟩
    refine ⟨next, taken, silent.mpr ?_⟩
    intro i
    rcases foreign i with ⟨other, nonzero, ended⟩
    refine ⟨_, i, rfl, ?_, ?_, ?_, ?_, ?_⟩
    · rw [lease]
      exact other
    · rw [lease]
      exact nonzero
    · rw [now]
      exact Nat.le_of_lt_succ i.isLt
    · rw [lease]
    · rw [ended]
      rintro ⟨cycles, behind, inside⟩
      exact absurd inside (Nat.not_le.mpr (outside cycles behind))
  rcases silent 8 (by decide) (by omega) with ⟨next, taken, same⟩
  rcases silent 2233925632 (by decide) (by omega) with ⟨last, takenLate, sameLate⟩
  exact ⟨host, next, last, reached, sent, taken, same, takenLate, sameLate⟩

end Dhcp
end NetLL
