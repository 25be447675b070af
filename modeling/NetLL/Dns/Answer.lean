import Mathlib.Algebra.Order.Ring.Nat
import NetLL.Dns.Server
import NetLL.Library.Labels

namespace NetLL
namespace Dns

/-!
# What the DNS server answers

Which packets are answered depends on the packet alone, and the server never
leaves its array, whatever comes.  The answer repeats the question from the
array, and where a packet ends in the middle of its question, the rest of it is
what the array held before.
-/

/-! ## The header -/

theorem toNat_ntohs (high low : UInt8) :
    (high.toUInt16 <<< 8 ||| low.toUInt16).toNat = high.toNat * 256 + low.toNat := by
  have wide := high.toNat_lt
  have small := low.toNat_lt
  have shifted : (high.toUInt16 <<< 8).toNat = high.toNat <<< 8 := by
    rw [UInt16.toNat_shiftLeft, UInt8.toNat_toUInt16]
    change high.toNat <<< 8 % 2 ^ 16 = high.toNat <<< 8
    rw [Nat.mod_eq_of_lt]
    rw [Nat.shiftLeft_eq]
    omega
  rw [UInt16.toNat_or, shifted, UInt8.toNat_toUInt16, ← Nat.shiftLeft_add_eq_or_of_lt small,
    Nat.shiftLeft_eq]

theorem toNat_shift_and (flags shift mask : UInt16) (width : Nat)
    (masks : mask.toNat = 2 ^ width - 1) :
    (flags >>> shift &&& mask).toNat = flags.toNat / 2 ^ (shift.toNat % 16) % 2 ^ width := by
  rw [UInt16.toNat_and, UInt16.toNat_shiftRight, masks, Nat.and_two_pow_sub_one_eq_mod,
    Nat.shiftRight_eq_div_pow]

/-- A standard query has none of the five high bits of its flags. -/
theorem standard_iff (high low : UInt8) :
    ((high.toUInt16 <<< 8 ||| low.toUInt16) >>> 15 &&& 0x1 = 0 ∧
      (high.toUInt16 <<< 8 ||| low.toUInt16) >>> 11 &&& 0xf = 0) ↔ high.toNat < 8 := by
  have response := toNat_shift_and (high.toUInt16 <<< 8 ||| low.toUInt16) 15 0x1 1 rfl
  have opcode := toNat_shift_and (high.toUInt16 <<< 8 ||| low.toUInt16) 11 0xf 4 rfl
  have wide := high.toNat_lt
  have small := low.toNat_lt
  rw [toNat_ntohs] at response opcode
  rw [← UInt16.toNat_inj, ← UInt16.toNat_inj, response, opcode]
  change (high.toNat * 256 + low.toNat) / 2 ^ 15 % 2 ^ 1 = 0 ∧
    (high.toNat * 256 + low.toNat) / 2 ^ 11 % 2 ^ 4 = 0 ↔ _
  omega

theorem count_lt_one_iff (high low : UInt8) :
    high.toUInt16 <<< 8 ||| low.toUInt16 < 1 ↔ high = 0 ∧ low = 0 := by
  rw [UInt16.lt_iff_toNat_lt, toNat_ntohs, ← UInt8.toNat_inj, ← UInt8.toNat_inj]
  change high.toNat * 256 + low.toNat < 1 ↔ high.toNat = 0 ∧ low.toNat = 0
  omega

/-- A whole header of a standard query with a question. -/
def StandardQuery (packet : List UInt8) : Prop :=
  sizeofDnsHeader ≤ packet.length ∧ (packet.getD 2 0).toNat < 8 ∧
    ¬ (packet.getD 4 0 = 0 ∧ packet.getD 5 0 = 0)

instance (packet : List UInt8) : Decidable (StandardQuery packet) :=
  inferInstanceAs (Decidable (_ ∧ _))

/-! ## The question -/

/-- The walk over the question is the walk over the labels of the packet. -/
theorem questionLoop_eq {dnsMsg : Block maxDnsMsgSize} {questionPtrEnd : Nat}
    (inside : questionPtrEnd ≤ maxDnsMsgSize) {rounds questionPtr : Nat}
    (enough : questionPtrEnd ≤ rounds + questionPtr) :
    questionLoop dnsMsg questionPtrEnd rounds questionPtr =
      .done ((Labels.skip ((dnsMsg.bytes.take questionPtrEnd).drop questionPtr)).map
        (questionPtr + ·)) := by
  have size : (dnsMsg.bytes.take questionPtrEnd).length = questionPtrEnd :=
    List.length_take_of_le (by rwa [dnsMsg.length_bytes])
  induction rounds generalizing questionPtr with
  | zero =>
      rw [List.drop_eq_nil_of_le (by omega), Labels.skip.eq_def, questionLoop]
      rfl
  | succ rounds inductionHypothesis =>
      rw [questionLoop]
      by_cases within : questionPtr < questionPtrEnd
      · have ahead : questionPtr < (dnsMsg.bytes.take questionPtrEnd).length := by rwa [size]
        have here : dnsMsg.load questionPtr =
            .done (dnsMsg.bytes.take questionPtrEnd)[questionPtr] := by
          rw [Block.load_eq_done_iff, List.getElem_take, List.getElem?_eq_getElem]
        rw [if_pos within, here, Exec.done_bind, List.drop_eq_getElem_cons ahead,
          Labels.skip.eq_def]
        generalize (dnsMsg.bytes.take questionPtrEnd)[questionPtr] = labelLen
        by_cases zero : labelLen = 0
        · simp only [if_pos zero, Option.map_some]
        · by_cases long : 63 < labelLen.toNat
          · simp only [if_neg zero, if_pos long, Option.map_none]
          · simp only [if_neg zero, if_neg long, Option.map_map]
            rw [inductionHypothesis (by omega), List.drop_drop]
            refine congrArg Exec.done (congrArg (Option.map · _) ?_)
            funext length
            simp only [Function.comp_apply]
            omega
      · rw [if_neg within, List.drop_eq_nil_of_le (by omega), Labels.skip.eq_def]
        rfl

/-- The length of the question of a packet that is answered, with its type and
its class.  The question may be longer than the packet. -/
def answered (packet : List UInt8) : Option Nat :=
  if StandardQuery packet then
    (Labels.skip ((packet.take maxDnsMsgSize).drop sizeofDnsHeader)).bind fun length =>
      if length ≤ 255 then some (length + 4) else none
  else none

theorem answered_le {packet : List UInt8} {length : Nat} (here : answered packet = some length) :
    length ≤ 259 := by
  unfold answered at here
  split at here
  · rcases Option.bind_eq_some_iff.mp here with ⟨name, _, kept⟩
    split at kept
    · cases kept
      omega
    · cases kept
  · cases here

theorem standard_of_answered {packet : List UInt8} {length : Nat}
    (here : answered packet = some length) : StandardQuery packet := by
  unfold answered at here
  split at here
  · assumption
  · cases here

/-! ## The answer -/

/-- What is sent: the id, a new header, the question, and the answer. -/
def answerTo (server : DnsServer) (stale : Block maxDnsMsgSize) (packet : List UInt8)
    (length : Nat) : List UInt8 :=
  packet.take 2 ++ (answerHeader ++
    ((((stale.receive packet).bytes.drop sizeofDnsHeader).take length) ++ answerBytes server))

theorem length_answerBytes (server : DnsServer) : (answerBytes server).length = 16 := by
  rw [answerBytes, List.length_append, server.ip.length_bytes]
  rfl

theorem length_answerTo {server : DnsServer} {stale : Block maxDnsMsgSize} {packet : List UInt8}
    {length : Nat} (enough : 2 ≤ packet.length) (inside : sizeofDnsHeader + length ≤ 300) :
    (answerTo server stale packet length).length = length + 28 := by
  have fields : answerHeader.length = 10 := rfl
  unfold sizeofDnsHeader at inside
  rw [answerTo, List.length_append, List.length_append, List.length_append, List.length_take,
    List.length_take, List.length_drop, Block.length_bytes, length_answerBytes, fields,
    sizeofDnsHeader, maxDnsMsgSize]
  omega

theorem stores_eq (server : DnsServer) (stale : Block maxDnsMsgSize) {packet : List UInt8}
    {length : Nat} (enough : sizeofDnsHeader ≤ packet.length) (short : length ≤ 259) :
    ∃ dnsMsg, ((stale.receive packet).store (sizeofDnsHeader + length) (answerBytes server) >>=
        fun dnsMsg => dnsMsg.store 2 answerHeader) = .done dnsMsg ∧
      dnsMsg.bytes.take (sizeofDnsHeader + length + 16) =
        answerTo server stale packet length := by
  have fields : answerHeader.length = 10 := rfl
  have size := length_answerBytes server
  have room : sizeofDnsHeader + length + (answerBytes server).length ≤ maxDnsMsgSize := by
    rw [size, sizeofDnsHeader, maxDnsMsgSize]
    omega
  rcases (stale.receive packet).exists_store room with ⟨first, stored⟩
  have front := Block.take_store stored
  rcases first.exists_store (show 2 + answerHeader.length ≤ maxDnsMsgSize by decide) with
    ⟨second, storedHeader⟩
  refine ⟨second, ?_, ?_⟩
  · rw [stored, Exec.done_bind, storedHeader]
  · rw [size] at front
    unfold sizeofDnsHeader at *
    have received : (stale.receive packet).bytes.take 2 = packet.take 2 := by
      have slice : ((stale.receive packet).bytes.drop 0).take 2 = (packet.drop 0).take 2 :=
        Block.drop_take_receive (by rw [maxDnsMsgSize]; omega)
      rwa [List.drop_zero, List.drop_zero] at slice
    have long : ((stale.receive packet).bytes.take (12 + length)).length = 12 + length := by
      rw [List.length_take, Block.length_bytes, maxDnsMsgSize]
      omega
    -- The id is in front of both writes, and the question is between them.
    have id : first.bytes.take 2 = packet.take 2 := by
      have inner := congrArg (List.take 2) front
      rw [List.take_take, Nat.min_eq_left (by omega),
        List.take_append_of_le_length (by omega), List.take_take, Nat.min_eq_left (by omega),
        received] at inner
      exact inner
    have behind : (first.bytes.drop 12).take (length + 16) =
        ((stale.receive packet).bytes.drop 12).take length ++ answerBytes server := by
      have inner := congrArg (List.drop 12) front
      rw [List.drop_take, List.drop_append_of_le_length (by omega), List.drop_take] at inner
      have count : 12 + length + 16 - 12 = length + 16 := by omega
      have count_ : 12 + length - 12 = length := by omega
      rwa [count, count_] at inner
    have header : (first.bytes.take 2 ++ answerHeader).length = 12 := by
      rw [id, List.length_append, fields, List.length_take]
      omega
    have total : 12 + length + 16 = 12 + (length + 16) := by omega
    rw [(Block.store_eq_done_iff.mp storedHeader).2, total, ← header, List.take_length_add_append,
      fields]
    change _ ++ (first.bytes.drop 12).take (length + 16) = _
    rw [behind, id, answerTo, List.append_assoc]
    rfl

theorem sendto_eq (allocated : Bool) {dnsMsg : Block maxDnsMsgSize} {buf : List UInt8}
    {length : Nat} (front : dnsMsg.bytes.take (sizeofDnsHeader + length + 16) = buf)
    (short : length ≤ 259) (dest : Block 4) (port : UInt16) :
    dnsSocketSendto allocated dnsMsg.bytes (sizeofDnsHeader + length + 16) dest port =
      .done (if allocated then [{ buf, dest, port }] else []) := by
  have inside : 0 + (sizeofDnsHeader + length + 16) ≤ dnsMsg.bytes.length := by
    rw [dnsMsg.length_bytes, sizeofDnsHeader, maxDnsMsgSize]
    omega
  have count : ¬ 0xffff < sizeofDnsHeader + length + 16 := by
    rw [sizeofDnsHeader]
    omega
  cases allocated with
  | false => rfl
  | true =>
      simp only [dnsSocketSendto, if_neg count, if_true]
      rw [Memory.slice, if_pos inside, Exec.done_bind, List.drop_zero, front]

/-- The server answers the packets that have a question it can find the end of,
and leaves its array for none. -/
theorem dnsServerProcess_eq (server : DnsServer) (stale : Block maxDnsMsgSize) (allocated : Bool)
    (packet : List UInt8) (srcAddr : Block 4) (srcPort : UInt16) :
    dnsServerProcess server stale allocated packet srcAddr srcPort =
      .done (match answered packet with
        | some length =>
            if allocated then
              [{ buf := answerTo server stale packet length, dest := srcAddr, port := srcPort }]
            else []
        | none => []) := by
  rw [dnsServerProcess, answered]
  by_cases short : packet.length < sizeofDnsHeader
  · have cut : min maxDnsMsgSize packet.length < sizeofDnsHeader :=
      Nat.lt_of_le_of_lt (Nat.min_le_right _ _) short
    have nothing : ¬ StandardQuery packet := fun query => absurd query.1 (Nat.not_le.mpr short)
    rw [if_pos cut, if_neg nothing]
  · have enough : sizeofDnsHeader ≤ packet.length := Nat.le_of_not_lt short
    have whole : ¬ min maxDnsMsgSize packet.length < sizeofDnsHeader :=
      Nat.not_lt.mpr (Nat.le_min.mpr ⟨by decide, enough⟩)
    have read (place : Nat) (inside : place < sizeofDnsHeader) :
        (stale.receive packet).load place = .done (packet.getD place 0) :=
      Block.load_receive (Nat.lt_of_lt_of_le inside (Nat.le_of_not_lt whole))
    have ntohs (place : Nat) (inside : place + 1 < sizeofDnsHeader) :
        loadNtohs (stale.receive packet) place =
          .done ((packet.getD place 0).toUInt16 <<< 8 ||| (packet.getD (place + 1) 0).toUInt16) := by
      rw [loadNtohs, read place (Nat.lt_of_succ_lt inside), Exec.done_bind, read _ inside]
      rfl
    have query : StandardQuery packet ↔
        ((((packet.getD 2 0).toUInt16 <<< 8 ||| (packet.getD 3 0).toUInt16) >>> 15 &&& 0x1 = 0 ∧
          ((packet.getD 2 0).toUInt16 <<< 8 ||| (packet.getD 3 0).toUInt16) >>> 11 &&& 0xf = 0) ∧
          ¬ (packet.getD 4 0).toUInt16 <<< 8 ||| (packet.getD 5 0).toUInt16 < 1) := by
      rw [standard_iff, count_lt_one_iff, StandardQuery, and_iff_right enough]
    have window : (stale.receive packet).bytes.take (min maxDnsMsgSize packet.length) =
        packet.take maxDnsMsgSize := stale.take_receive packet
    rw [if_neg whole, ntohs 2 (by decide), Exec.done_bind, ntohs 4 (by decide), Exec.done_bind]
    by_cases standard : StandardQuery packet
    · rcases query.mp standard with ⟨⟨response, opcode⟩, count⟩
      rw [if_neg (not_not_intro response), if_neg (not_not_intro opcode), if_neg count,
        if_pos standard, questionLoop_eq (Nat.min_le_left _ _)
          (Nat.le_trans (Nat.min_le_left _ _) (Nat.le_add_right _ _)), Exec.done_bind, window]
      cases Labels.skip ((packet.take maxDnsMsgSize).drop sizeofDnsHeader) with
      | none => rfl
      | some length =>
          simp only [Option.map_some, Option.bind_some, Nat.add_sub_cancel_left]
          by_cases fits : length ≤ 255
          · rcases stores_eq server stale enough (Nat.add_le_add_right fits 4) with
              ⟨dnsMsg, stored, sending⟩
            rw [if_neg (Nat.not_lt.mpr fits), if_pos fits, Nat.add_assoc]
            change ((stale.receive packet).store (sizeofDnsHeader + (length + 4))
              (answerBytes server) >>= fun dnsMsg => dnsMsg.store 2 answerHeader >>= _) = _
            rw [← Exec.bind_assoc, stored, Exec.done_bind]
            exact sendto_eq allocated sending (Nat.add_le_add_right fits 4) srcAddr srcPort
          · rw [if_pos (Nat.lt_of_not_le fits), if_neg fits]
    · rw [if_neg standard]
      by_cases response : ((packet.getD 2 0).toUInt16 <<< 8 ||| (packet.getD 3 0).toUInt16) >>> 15
          &&& 0x1 = 0
      · by_cases opcode : ((packet.getD 2 0).toUInt16 <<< 8 ||| (packet.getD 3 0).toUInt16) >>> 11
            &&& 0xf = 0
        · have count := not_and_not_right.mp (mt query.mpr standard) ⟨response, opcode⟩
          rw [if_neg (not_not_intro response), if_neg (not_not_intro opcode), if_pos count]
        · rw [if_neg (not_not_intro response), if_pos opcode]
      · rw [if_pos response]

/-- Whatever comes, and whatever the array held before, the server stays inside
of its array.  It sends one datagram at most, and sends it back to whom the
question came from. -/
theorem answered_iff_sent (server : DnsServer) (stale : Block maxDnsMsgSize) (allocated : Bool)
    (packet : List UInt8) (srcAddr : Block 4) (srcPort : UInt16) :
    ∃ sent, dnsServerProcess server stale allocated packet srcAddr srcPort = .done sent ∧
      sent.length ≤ 1 ∧ (sent ≠ [] ↔ allocated = true ∧ (answered packet).isSome) ∧
      ∀ datagram ∈ sent, datagram.dest = srcAddr ∧ datagram.port = srcPort ∧
        ∃ length, answered packet = some length ∧ length ≤ 259 ∧
          datagram.buf = answerTo server stale packet length ∧
          datagram.buf.length = length + 28 := by
  refine ⟨_, dnsServerProcess_eq server stale allocated packet srcAddr srcPort, ?_⟩
  cases here : answered packet with
  | none => exact ⟨Nat.zero_le 1, by simp, fun _ impossible => nomatch impossible⟩
  | some length =>
      cases allocated with
      | false => exact ⟨Nat.zero_le 1, by simp, fun _ impossible => nomatch impossible⟩
      | true =>
          have short := answered_le here
          refine ⟨Nat.le_refl 1, by simp, ?_⟩
          intro datagram member
          cases List.mem_singleton.mp member
          refine ⟨rfl, rfl, length, rfl, short, rfl, length_answerTo ?_ ?_⟩
          · exact Nat.le_trans (by decide) (standard_of_answered here).1
          · unfold sizeofDnsHeader
            omega

/-! ## What the array held before -/

theorem answerTo_congr {server : DnsServer} {packet : List UInt8} {length : Nat}
    (whole : sizeofDnsHeader + length ≤ min maxDnsMsgSize packet.length)
    (first second : Block maxDnsMsgSize) :
    answerTo server first packet length = answerTo server second packet length := by
  rw [answerTo, answerTo, Block.drop_take_receive whole, Block.drop_take_receive whole]

/-- Where the packet ends inside the question, the answer shows the array. -/
theorem getElem?_of_answerTo_eq {server : DnsServer} {packet : List UInt8} {length place : Nat}
    {first second : Block maxDnsMsgSize}
    (same : answerTo server first packet length = answerTo server second packet length)
    (inside : place < length) :
    (first.receive packet).bytes[sizeofDnsHeader + place]? =
      (second.receive packet).bytes[sizeofDnsHeader + place]? := by
  have questions := List.append_cancel_right
    (List.append_cancel_left (List.append_cancel_left same))
  have bytes := congrArg (·[place]?) questions
  simpa only [List.getElem?_take_of_lt inside, List.getElem?_drop] using bytes

/-- What is sent does not depend on what the array held before exactly when the
packet does not end inside its question. -/
theorem answer_independent_iff (server : DnsServer) (packet : List UInt8) (srcAddr : Block 4)
    (srcPort : UInt16) :
    (∀ first second, dnsServerProcess server first true packet srcAddr srcPort =
        dnsServerProcess server second true packet srcAddr srcPort) ↔
      ∀ length, answered packet = some length → sizeofDnsHeader + length ≤ packet.length := by
  constructor
  · intro same length here
    by_contra cut
    have short := answered_le here
    have enough : sizeofDnsHeader ≤ packet.length := (standard_of_answered here).1
    let ones : Block maxDnsMsgSize := ⟨List.replicate maxDnsMsgSize 1, List.length_replicate⟩
    have equal := same (.zero maxDnsMsgSize) ones
    rw [dnsServerProcess_eq, dnsServerProcess_eq, here] at equal
    have bufs : answerTo server (.zero maxDnsMsgSize) packet length =
        answerTo server ones packet length := by
      injection equal with equal
      injection equal with equal _
      injection equal
    have place : sizeofDnsHeader + (packet.length - sizeofDnsHeader) = packet.length :=
      Nat.add_sub_cancel' enough
    have inside : packet.length - sizeofDnsHeader < length := by omega
    have bytes := getElem?_of_answerTo_eq bufs inside
    have room : packet.length < maxDnsMsgSize := by
      unfold sizeofDnsHeader at *
      unfold maxDnsMsgSize
      omega
    rw [place, Block.getElem?_receive_stale (Nat.le_refl _),
      Block.getElem?_receive_stale (Nat.le_refl _)] at bytes
    change (List.replicate maxDnsMsgSize (0 : UInt8))[packet.length]? =
      (List.replicate maxDnsMsgSize (1 : UInt8))[packet.length]? at bytes
    rw [List.getElem?_replicate_of_lt room, List.getElem?_replicate_of_lt room] at bytes
    cases bytes
  · intro whole first second
    rw [dnsServerProcess_eq, dnsServerProcess_eq]
    cases here : answered packet with
    | none => rfl
    | some length =>
        have short := answered_le here
        have inside : sizeofDnsHeader + length ≤ min maxDnsMsgSize packet.length := by
          refine Nat.le_min.mpr ⟨?_, whole length here⟩
          unfold sizeofDnsHeader maxDnsMsgSize
          omega
        have same : answerTo server first packet length = answerTo server second packet length :=
          answerTo_congr inside first second
        simp only [same]

end Dns
end NetLL
