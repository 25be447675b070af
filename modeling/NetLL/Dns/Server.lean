import NetLL.Library.Block

namespace NetLL
namespace Dns

/-!
# The DNS server on RP2040

`dns_server_process` answers every standard query with the address of the
access point.  It receives the query into a local array of 300 bytes, which
holds what the stack held before, finds the end of the first question, and
writes an answer behind it.  The pointers into the array are places here.
-/

def maxDnsMsgSize : Nat := 300

/-- `sizeof(dns_header_t)`. -/
def sizeofDnsHeader : Nat := 12

/-- `dns_server_t`, without its socket. -/
structure DnsServer where
  ip : Block 4
deriving DecidableEq

/-- A datagram, with its destination. -/
structure Datagram where
  buf : List UInt8
  dest : Block 4
  port : UInt16
deriving DecidableEq

/-- `lwip_ntohs` of a field of the header. -/
def loadNtohs (dnsMsg : Block maxDnsMsgSize) (place : Nat) : Exec UInt16 := do
  let high ← dnsMsg.load place
  let low ← dnsMsg.load (place + 1)
  .done (high.toUInt16 <<< 8 ||| low.toUInt16)

/-- The loop over the labels of the question, up to the place behind its end, or
to a label that is too long.  A round goes on by one place at least, so that 300
of them are never used up. -/
def questionLoop (dnsMsg : Block maxDnsMsgSize) (questionPtrEnd : Nat) :
    Nat → Nat → Exec (Option Nat)
  | 0, questionPtr => .done (some questionPtr)
  | rounds + 1, questionPtr =>
      if questionPtr < questionPtrEnd then do
        let labelLen ← dnsMsg.load questionPtr
        if labelLen = 0 then
          .done (some (questionPtr + 1))
        else if 63 < labelLen.toNat then
          .done none
        else
          questionLoop dnsMsg questionPtrEnd rounds (questionPtr + 1 + labelLen.toNat)
      else
        .done (some questionPtr)

/-- `dns_socket_sendto`. -/
def dnsSocketSendto (allocated : Bool) (buf : List UInt8) (len : Nat) (dest : Block 4)
    (port : UInt16) : Exec (List Datagram) :=
  let len := if 0xffff < len then 0xffff else len
  if allocated then do
    let payload ← Memory.slice buf 0 len
    .done [{ buf := payload, dest, port }]
  else
    .done []

/-- The answer behind the question: a pointer to the name, a host address of the
Internet, one minute, and four bytes of address. -/
def answerBytes (server : DnsServer) : List UInt8 :=
  [0xc0, 12, 0, 1, 0, 1, 0, 0, 0, 60, 0, 4] ++ server.ip.bytes

/-- `lwip_htons`, as the bytes in memory. -/
def htons (value : UInt16) : List UInt8 :=
  [(value >>> 8).toUInt8, value.toUInt8]

/-- The fields of the header behind the id: a response, authoritative, with the
bit `RA`, and one question and one answer. -/
def answerHeader : List UInt8 :=
  htons ((0x1 : UInt16) <<< 15 ||| (0x1 : UInt16) <<< 10 ||| (0x1 : UInt16) <<< 7) ++
    htons 1 ++ htons 1 ++ htons 0 ++ htons 0

/-- `dns_server_process`. -/
def dnsServerProcess (server : DnsServer) (stale : Block maxDnsMsgSize) (allocated : Bool)
    (packet : List UInt8) (srcAddr : Block 4) (srcPort : UInt16) : Exec (List Datagram) :=
  let dnsMsg := stale.receive packet
  let msgLen := min maxDnsMsgSize packet.length
  if msgLen < sizeofDnsHeader then
    .done []
  else do
    let flags ← loadNtohs dnsMsg 2
    let questionCount ← loadNtohs dnsMsg 4
    if flags >>> 15 &&& 0x1 ≠ 0 then
      .done []
    else if flags >>> 11 &&& 0xf ≠ 0 then
      .done []
    else if questionCount < 1 then
      .done []
    else
      match ← questionLoop dnsMsg msgLen maxDnsMsgSize sizeofDnsHeader with
      | none => .done []
      | some questionPtr =>
          if 255 < questionPtr - sizeofDnsHeader then
            .done []
          else
            -- The type and the class of the question are passed over.
            let answerPtr := questionPtr + 4
            let dnsMsg ← dnsMsg.store answerPtr (answerBytes server)
            let dnsMsg ← dnsMsg.store 2 answerHeader
            dnsSocketSendto allocated dnsMsg.bytes (answerPtr + 16) srcAddr srcPort

end Dns
end NetLL
