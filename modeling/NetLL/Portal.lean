import NetLL.Dhcp.Renewal
import NetLL.Dns.RoundTrip

namespace NetLL

/-!
# The way to the access point

`StartAccessPointDhcpDns` starts the two servers side by side with one address.
A station that joins knows nothing but what the DHCP server tells it, and asks
the DNS server that it was told about.  Whatever name it asks for, and whatever
has happened before, it is led to the access point.

The address can be set by the build.  Its last byte does not keep it out of the
range that the leases are taken from.
-/

namespace Dhcp

/-- An option of a datagram, as a client reads it. -/
def Sent.option (sent : Sent) (code : UInt8) : Option (List UInt8) :=
  Options.lookup code (Options.parse (sent.buf.drop 240))

end Dhcp

namespace Portal

open Dhcp Dns

/-- What `StartAccessPointDhcpDns` starts, with the DHCP server at some time. -/
structure Services where
  dhcpServer : Host
  dnsServer : DnsServer

/-- `StartAccessPointDhcpDns`, with the address of the access point. -/
def startAccessPointDhcpDns (address : Block 4) (now : Nat) : Services where
  dhcpServer := Host.start address netmask now
  dnsServer := { ip := address }

/-- The part of an address that the mask covers. -/
def network (address mask : List UInt8) : List UInt8 :=
  List.zipWith (· &&& ·) address mask

/-- The station is in the network of the access point, and takes it for the
router and for the server of names. -/
structure Joins (address : Block 4) (sent : Sent) : Prop where
  subnet : ∃ mask, sent.option dhcpOptSubnetMask = some mask ∧
    network sent.address mask = network address.bytes mask
  router : sent.option dhcpOptRouter = some address.bytes
  dns : sent.option dhcpOptDns = some address.bytes

/-! ## What the DHCP server tells -/

/-- The address of a datagram is that of a lease beside the access point. -/
def Leased (address : Block 4) (sent : Sent) : Prop :=
  ∃ yi : Fin dhcpsMaxIp, sent.address = address.bytes.take 3 ++ [dhcpsBaseIp + UInt8.ofNat yi]

/-- The server keeps its addresses, and everything that it sent names them. -/
structure Tells (address : Block 4) (host : Host) : Prop where
  ip : host.server.ip = address
  nm : host.server.nm = netmask
  log : ∀ sent ∈ host.log, Joins address sent ∧ Leased address sent

theorem network_leased {address : Block 4} {host : UInt8} :
    network (address.bytes.take 3 ++ [host]) netmask.bytes =
      network address.bytes netmask.bytes := by
  rcases address with ⟨bytes, size⟩
  rcases bytes with _ | ⟨first, _ | ⟨second, _ | ⟨third, _ | ⟨last, _ | _⟩⟩⟩⟩ <;> try cases size
  simp [network, netmask]

theorem joins_replyTo {server : DhcpServer} {packet : List UInt8} {type : UInt8}
    {yi : Fin dhcpsMaxIp} (enough : dhcpMinSize ≤ packet.length) (nm : server.nm = netmask)
    {sent : Sent} (buf : sent.buf = replyTo server packet type yi) :
    Joins server.ip sent ∧ Leased server.ip sent := by
  have address : sent.address = server.ip.bytes.take 3 ++ [dhcpsBaseIp + UInt8.ofNat yi] := by
    rw [Sent.address, buf]
    exact (address_replyTo enough).trans (bytes_leaseAddress server yi)
  have options := @parse_replyTo server packet type yi enough
  rw [← buf, nm] at options
  refine ⟨⟨⟨netmask.bytes, ?_, ?_⟩, ?_, ?_⟩, yi, address⟩
  · rw [Sent.option, options]
    rfl
  · rw [address]
    exact network_leased
  · rw [Sent.option, options]
    rfl
  · rw [Sent.option, options]
    rfl

theorem nm_of_outcome {server after : DhcpServer} {ticks : Nat → UInt32} {allocated : Bool}
    {packet : List UInt8} {events : List DhcpEvent}
    (outcome : Outcome server ticks allocated packet after events) : after.nm = server.nm := by
  cases outcome with
  | ignored => rfl
  | offered => rfl
  | acknowledged => rfl

theorem mem_datagrams {delivery : Delivery} {events : List DhcpEvent} {sent : Sent}
    (member : sent ∈ delivery.datagrams events) : ∃ ip port, .sendto sent.buf ip port ∈ events := by
  rcases List.mem_filterMap.mp member with ⟨event, among, shown⟩
  cases event with
  | clientConnected => cases shown
  | sendto buf ip port =>
      cases shown
      exact ⟨ip, port, among⟩

theorem step_tells {address : Block 4} {host next : Host} {delivery : Delivery}
    (tells : Tells address host) (taken : step host delivery = some next) :
    Tells address next := by
  rcases step_cases taken with ⟨_, events, outcome, _, log, _⟩
  refine ⟨(ip_of_outcome outcome).trans tells.ip, (nm_of_outcome outcome).trans tells.nm, ?_⟩
  intro sent member
  rw [log] at member
  rcases List.mem_append.mp member with before | now
  · exact tells.log sent before
  · rcases mem_datagrams now with ⟨ip, port, among⟩
    rcases replyTo_of_mem outcome among with ⟨enough, _, _, type, yi, _, buf⟩
    have joins := joins_replyTo enough tells.nm buf
    rwa [tells.ip] at joins

theorem run_tells {address : Block 4} {now : Nat} {deliveries : List Delivery} {host : Host}
    (reached : Transition.run step (startAccessPointDhcpDns address now).dhcpServer deliveries =
      some host) : Tells address host := by
  refine Transition.invariant_reached (fun _ _ _ => step_tells) ?_ reached
  exact ⟨rfl, rfl, fun _ impossible => nomatch impossible⟩

/-- Everything that the DHCP server sends, in whatever order the packets come,
puts its reader into the network of the access point with a DNS server that
answers every query for a name with the address of that DNS server itself. -/
theorem leads_to_access_point {address : Block 4} {now : Nat} {deliveries : List Delivery}
    {host : Host}
    (reached : Transition.run step (startAccessPointDhcpDns address now).dhcpServer deliveries =
      some host) {sent : Sent} (member : sent ∈ host.log) :
    Joins address sent ∧
      ∀ (query : Query) (stale : Block maxDnsMsgSize) (station : Block 4) (port : UInt16),
        ∃ answer, dnsServerProcess (startAccessPointDhcpDns address now).dnsServer stale true
            query.packet station port = .done [{ buf := answer, dest := station, port }] ∧
          (decode answer).map Response.name = some (query.labels.map Labels.Label.bytes) ∧
          (decode answer).map Response.data = sent.option dhcpOptDns := by
  have joins := ((run_tells reached).log sent member).1
  refine ⟨joins, ?_⟩
  intro query stale station port
  refine ⟨answerTo (startAccessPointDhcpDns address now).dnsServer stale query.packet
    query.question.length, ?_, ?_, ?_⟩
  · rw [dnsServerProcess_eq, query.answered_packet]
    rfl
  · rw [query.decode_answerTo]
    rfl
  · rw [query.decode_answerTo, joins.dns]
    rfl

/-- The first station asks for the first address, and is told the way.  Then it
asks for `net.ll`. -/
theorem leads_to_access_point_first : ∃ host sent answer,
    Transition.run step (startAccessPointDhcpDns gateway 0).dhcpServer
      [.at_ (Message.request (station 1) firstAddress).packet 0] = some host ∧
    host.log = [sent] ∧ Joins gateway sent ∧
    dnsServerProcess (startAccessPointDhcpDns gateway 0).dnsServer (.zero maxDnsMsgSize) true
      Query.netLl.packet firstAddress 49152 =
        .done [{ buf := answer, dest := firstAddress, port := 49152 }] ∧
    (decode answer).map Response.name = some [[110, 101, 116], [108, 108]] ∧
    (decode answer).map Response.data = some [192, 168, 33, 1] := by
  rcases @run_firstRequest gateway netmask 0 (station 1) firstAddress ⟨0, Nat.zero_lt_succ 7⟩ rfl
    with ⟨host, sent, reached, log, _⟩
  have member : sent ∈ host.log := by
    rw [log]
    exact List.mem_singleton_self sent
  rcases leads_to_access_point reached member with ⟨joins, answers⟩
  rcases answers Query.netLl (.zero maxDnsMsgSize) firstAddress 49152 with
    ⟨answer, answered, name, data⟩
  exact ⟨host, sent, answer, reached, log, joins, answered, name, data.trans joins.dns⟩

/-! ## The address of the access point itself -/

/-- The last byte is one that the leases have. -/
def InRange (address : Block 4) : Prop :=
  dhcpsBaseIp.toNat ≤ (address.bytes.getD 3 0).toNat ∧
    (address.bytes.getD 3 0).toNat < dhcpsBaseIp.toNat + dhcpsMaxIp

theorem inRange_iff {address : Block 4} : InRange address ↔ ∃ yi : Fin dhcpsMaxIp,
    address.bytes.take 3 ++ [dhcpsBaseIp + UInt8.ofNat yi] = address.bytes := by
  have last (yi : Fin dhcpsMaxIp) : (dhcpsBaseIp + UInt8.ofNat yi).toNat = 16 + yi := by
    have small : yi.val < 8 := yi.isLt
    rw [UInt8.toNat_add, UInt8.toNat_ofNat']
    change (16 + yi.val % 256) % 256 = 16 + yi.val
    omega
  rcases address with ⟨bytes, size⟩
  rcases bytes with _ | ⟨first, _ | ⟨second, _ | ⟨third, _ | ⟨own, _ | _⟩⟩⟩⟩ <;> try cases size
  change 16 ≤ own.toNat ∧ own.toNat < 16 + 8 ↔ ∃ yi : Fin dhcpsMaxIp,
    [first, second, third, dhcpsBaseIp + UInt8.ofNat yi] = [first, second, third, own]
  constructor
  · rintro ⟨enough, small⟩
    have inside : own.toNat - 16 < 8 := by omega
    refine ⟨⟨own.toNat - 16, inside⟩, ?_⟩
    have same : dhcpsBaseIp + UInt8.ofNat (own.toNat - 16) = own := by
      apply UInt8.toNat_inj.mp
      rw [last ⟨own.toNat - 16, inside⟩]
      exact Nat.add_sub_cancel' enough
    exact congrArg (fun byte => [first, second, third, byte]) same
  · rintro ⟨yi, same⟩
    injection same with _ same
    injection same with _ same
    injection same with _ same
    injection same with same
    have small : yi.val < 8 := yi.isLt
    rw [← same, last]
    omega

/-- Some station can be given the address of the access point itself exactly
when that address ends with one of the bytes that the leases have. -/
theorem own_address_leased_iff {address : Block 4} {now : Nat} :
    (∃ deliveries host sent, Transition.run step
        (startAccessPointDhcpDns address now).dhcpServer deliveries = some host ∧
      sent ∈ host.log ∧ sent.address = address.bytes) ↔ InRange address := by
  rw [inRange_iff]
  constructor
  · rintro ⟨deliveries, host, sent, reached, member, own⟩
    rcases ((run_tells reached).log sent member).2 with ⟨yi, leased⟩
    exact ⟨yi, leased.symm.trans own⟩
  · rintro ⟨yi, own⟩
    have lease := (bytes_leaseAddress (dhcpServerInit address netmask) yi).trans own
    rcases run_firstRequest address netmask now (station 1) lease with
      ⟨host, sent, reached, log, _, _, _, given⟩
    refine ⟨_, host, sent, reached, ?_, given⟩
    rw [log]
    exact List.mem_singleton_self sent

end Portal
end NetLL
