import Mathlib.Data.Fintype.Basic
import Mathlib.Logic.Function.Basic
import NetLL.Dhcp.Message

namespace NetLL
namespace Dhcp

/-!
# The DHCP server on RP2040

`dhcp_server_process` answers a packet in the memory it was received in, a
local `dhcp_msg_t` that holds what the stack held before.  The server keeps
eight leases, a hardware address and an expiry each, where the address of zeros
stands for none.  A packet that is not answered is dropped.

The clock is read by every test for an expired lease and when a lease is given.
Its readings are parameters here, in the order of the calls, and so is whether
there is memory for the reply.
-/

def dhcpsBaseIp : UInt8 := 16
def dhcpsMaxIp : Nat := 8
def dhcpMinSize : Nat := 240 + 3
def defaultLeaseTimeS : UInt32 := 24 * 60 * 60
def portDhcpClient : UInt16 := 68

/-- `dhcp_server_lease_t`. -/
structure Lease where
  mac : Block 6
  expiry : UInt16
deriving DecidableEq

/-- `dhcp_server_t`, without its socket. -/
structure DhcpServer where
  ip : Block 4
  nm : Block 4
  lease : Fin dhcpsMaxIp → Lease
deriving DecidableEq

/-- `dhcp_server_init`. -/
def dhcpServerInit (ip nm : Block 4) : DhcpServer where
  ip := ip
  nm := nm
  lease := fun _ => { mac := .zero 6, expiry := 0 }

/-- The addresses of the access point. -/
def gateway : Block 4 where
  bytes := [192, 168, 33, 1]
  length_bytes := rfl

def netmask : Block 4 where
  bytes := [255, 255, 255, 0]
  length_bytes := rfl

/-- What the server does outside of its memory. -/
inductive DhcpEvent where
  /-- The line about a client that has connected. -/
  | clientConnected (mac : Block 6) (address : Block 4) (host : List UInt8)
  | sendto (buf : List UInt8) (ip : UInt32) (port : UInt16)
deriving DecidableEq

/-- The expiry of a lease is in units of 2¹⁶ milliseconds, and the end of its
unit counts. -/
def Lease.expired (lease : Lease) (ticks : UInt32) : Bool :=
  let expiry := lease.expiry.toUInt32 <<< 16 ||| 0xffff
  decide ((expiry - ticks).toInt32 < 0)

/-- The expiry of a lease that is given now. -/
def expiryFrom (ticks : UInt32) : UInt16 :=
  ((ticks + defaultLeaseTimeS * 1000) >>> 16).toUInt16

/-- A lease without a holder. -/
def Lease.cleared (lease : Lease) : Lease :=
  { lease with mac := .zero 6 }

/-- The loop of a discovery, from the leases that are left and with the one
that it has chosen.  All leases in front of a choice have read the clock. -/
def discoverLoop (chaddr : Block 6) (ticks : Nat → UInt32) :
    List (Fin dhcpsMaxIp) → (Fin dhcpsMaxIp → Lease) → Option (Fin dhcpsMaxIp) →
      (Fin dhcpsMaxIp → Lease) × Option (Fin dhcpsMaxIp)
  | [], lease, yi => (lease, yi)
  | i :: rest, lease, yi =>
      if (lease i).mac = chaddr then
        (lease, some i)
      else
        match yi with
        | some yi => discoverLoop chaddr ticks rest lease (some yi)
        | none =>
            let yi := if (lease i).mac = .zero 6 then some i else none
            if (lease i).expired (ticks i) then
              discoverLoop chaddr ticks rest (Function.update lease i (lease i).cleared) (some i)
            else
              discoverLoop chaddr ticks rest lease yi

/-- `dhcp_socket_sendto`. -/
def dhcpSocketSendto (allocated : Bool) (buf : List UInt8) (len : Nat) (ip : UInt32)
    (port : UInt16) : Exec (List DhcpEvent) :=
  let len := if 0xffff < len then 0xffff else len
  if allocated then do
    let payload ← Memory.slice buf 0 len
    .done [.sendto payload ip port]
  else
    .done []

/-- The options of a reply behind its type, and its sending. -/
def sendReply (server : DhcpServer) (allocated : Bool) (dhcpMsg : DhcpMsg)
    (opt : Block 312 × Nat) : Exec (List DhcpEvent) := do
  let opt ← optWriteN dhcpOptServerId server.ip.bytes opt
  let opt ← optWriteN dhcpOptSubnetMask server.nm.bytes opt
  let opt ← optWriteN dhcpOptRouter server.ip.bytes opt
  let opt ← optWriteN dhcpOptDns server.ip.bytes opt
  let opt ← optWriteU32 dhcpOptIpLeaseTime defaultLeaseTimeS opt
  let options ← opt.1.store opt.2 [dhcpOptEnd]
  -- The options begin at place 236 of the message.
  dhcpSocketSendto allocated { dhcpMsg with options }.bytes (236 + (opt.2 + 1)) 0xffffffff
    portDhcpClient

/-- The hardware address, in the first bytes of its field. -/
def DhcpMsg.mac (dhcpMsg : DhcpMsg) : Block 6 :=
  dhcpMsg.chaddr.part 0 6 (by decide)

/-- The message with the last byte of the client's address. -/
def DhcpMsg.withAddress (dhcpMsg : DhcpMsg) (yi : Fin dhcpsMaxIp) : DhcpMsg :=
  { dhcpMsg with
    yiaddr := dhcpMsg.yiaddr.put 3 (by decide) (dhcpsBaseIp + UInt8.ofNat yi) }

/-- The host name in the options, or the empty string. -/
def hostname (options : Block 312) : Exec (List UInt8) := do
  match ← optFind options dhcpOptHostName with
  | none => .done []
  | some hn =>
      let size ← options.load (hn + 1)
      let hnLen := if 31 < size.toNat then 31 else size.toNat
      let name ← options.slice (hn + 2) hnLen
      .done (Memory.text name)

/-- The case of `DHCPDISCOVER`. -/
def processDiscover (server : DhcpServer) (ticks : Nat → UInt32) (allocated : Bool)
    (dhcpMsg : DhcpMsg) : Exec (DhcpServer × List DhcpEvent) :=
  match discoverLoop dhcpMsg.mac ticks (List.finRange dhcpsMaxIp) server.lease none with
  | (lease, none) => .done ({ server with lease }, [])
  | (lease, some yi) => do
      let dhcpMsg := dhcpMsg.withAddress yi
      let opt ← optWriteU8 dhcpOptMsgType dhcpOffer (dhcpMsg.options, 4)
      let sent ← sendReply server allocated dhcpMsg opt
      .done ({ server with lease }, sent)

/-- The lease that a request asks for, when it is one of the server's. -/
def requestedLease (server : DhcpServer) (options : Block 312) :
    Exec (Option (Fin dhcpsMaxIp)) := do
  match ← optFind options dhcpOptRequestedIp with
  | none => .done none
  | some o =>
      let network ← options.slice (o + 2) 3
      if network ≠ server.ip.bytes.take 3 then
        .done none
      else
        let host ← options.load (o + 5)
        let yi := host - dhcpsBaseIp
        if inside : yi.toNat < dhcpsMaxIp then
          .done (some ⟨yi.toNat, inside⟩)
        else
          .done none

/-- The case of `DHCPREQUEST`. -/
def processRequest (server : DhcpServer) (ticks : Nat → UInt32) (allocated : Bool)
    (dhcpMsg : DhcpMsg) : Exec (DhcpServer × List DhcpEvent) := do
  match ← requestedLease server dhcpMsg.options with
  | none => .done (server, [])
  | some yi =>
      -- A lease with this address keeps it, and a free one takes it over.
      if (server.lease yi).mac = dhcpMsg.mac ∨ (server.lease yi).mac = .zero 6 then
        let lease := Function.update server.lease yi
          { mac := dhcpMsg.mac, expiry := expiryFrom (ticks 0) }
        let dhcpMsg := dhcpMsg.withAddress yi
        let host ← hostname dhcpMsg.options
        let opt ← optWriteU8 dhcpOptMsgType dhcpAck (dhcpMsg.options, 4)
        let sent ← sendReply server allocated dhcpMsg opt
        .done ({ server with lease },
          .clientConnected dhcpMsg.mac dhcpMsg.yiaddr host :: sent)
      else
        .done (server, [])

/-- The message in memory that a packet is answered in. -/
def receivedMsg (server : DhcpServer) (stale : Block sizeofDhcpMsg) (packet : List UInt8) :
    DhcpMsg :=
  { DhcpMsg.ofBlock (stale.receive packet) with op := dhcpOffer, yiaddr := server.ip }

/-- `dhcp_server_process`. -/
def dhcpServerProcess (server : DhcpServer) (stale : Block sizeofDhcpMsg) (ticks : Nat → UInt32)
    (allocated : Bool) (packet : List UInt8) : Exec (DhcpServer × List DhcpEvent) :=
  if packet.length < dhcpMinSize then
    .done (server, [])
  else if min sizeofDhcpMsg packet.length < dhcpMinSize then
    .done (server, [])
  else do
    let dhcpMsg := receivedMsg server stale packet
    match ← optFind dhcpMsg.options dhcpOptMsgType with
    | none => .done (server, [])
    | some msgtype =>
        let type ← dhcpMsg.options.load (msgtype + 2)
        if type = dhcpDiscover then
          processDiscover server ticks allocated dhcpMsg
        else if type = dhcpRequest then
          processRequest server ticks allocated dhcpMsg
        else
          .done (server, [])

end Dhcp
end NetLL
