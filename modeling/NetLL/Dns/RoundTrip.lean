import NetLL.Dns.Answer

namespace NetLL
namespace Dns

/-!
# Queries and their answers

A client asks for a name, and reads the answer that comes back: the name again,
and behind it the address of the access point, under the name that it asked for.
-/

/-- A standard query with a name, as a client sends it.  Behind the question
anything can stand. -/
structure Query where
  id : Block 2
  /-- The bits of the flags that do not matter to a server. -/
  high : UInt8
  low : UInt8
  counts : Block 6
  labels : List Labels.Label
  /-- The type and the class. -/
  kind : Block 4
  rest : List UInt8
  standard : high.toNat < 8
  short : (Labels.wire labels).length ≤ 255

/-- One question, which is counted first. -/
def Query.packet (query : Query) : List UInt8 :=
  query.id.bytes ++ ([query.high, query.low, 0, 1] ++ (query.counts.bytes ++
    (Labels.wire query.labels ++ (query.kind.bytes ++ query.rest))))

/-- What a client finds in a message with one question and one record. -/
structure Response where
  id : List UInt8
  flags : List UInt8
  name : List (List UInt8)
  kind : List UInt8
  owner : List (List UInt8)
  /-- The type, the class and the time to live of the record. -/
  record : List UInt8
  data : List UInt8
deriving DecidableEq

/-- Read a message with one question and one record, and nothing else. -/
def decode (message : List UInt8) : Option Response :=
  if (message.drop 4).take 8 = [0, 1, 0, 1, 0, 0, 0, 0] then
    match Labels.read message message.length 12 with
    | none => none
    | some (name, place) =>
        match Labels.read message message.length (place + 4) with
        | none => none
        | some (owner, next) =>
            match message.drop (next + 8) with
            | high :: low :: data =>
                if data.length = high.toNat * 256 + low.toNat then
                  some {
                    id := message.take 2
                    flags := (message.drop 2).take 2
                    name
                    kind := (message.drop place).take 4
                    owner
                    record := (message.drop next).take 8
                    data }
                else none
            | _ => none
  else none

namespace Query

variable (query : Query)

/-- The question with its type and its class. -/
def question : List UInt8 :=
  Labels.wire query.labels ++ query.kind.bytes

theorem length_question : query.question.length = (Labels.wire query.labels).length + 4 := by
  rw [question, List.length_append, query.kind.length_bytes]

theorem drop_packet : query.packet.drop sizeofDnsHeader = query.question ++ query.rest := by
  have header : (query.id.bytes ++ ([query.high, query.low, 0, 1] ++ query.counts.bytes)).length =
      sizeofDnsHeader := by
    rw [List.length_append, List.length_append, Block.length_bytes, Block.length_bytes]
    rfl
  have parts : query.packet = (query.id.bytes ++ ([query.high, query.low, 0, 1] ++
      query.counts.bytes)) ++ (query.question ++ query.rest) := by
    rw [packet, question]
    simp only [List.append_assoc]
  rw [parts, ← header, List.drop_left]

theorem le_length_packet :
    sizeofDnsHeader + query.question.length ≤ query.packet.length := by
  rw [packet, question]
  simp only [List.length_append, Block.length_bytes, sizeofDnsHeader, List.length_cons,
    List.length_nil]
  omega

theorem standardQuery : StandardQuery query.packet := by
  have enough := query.le_length_packet
  have id (place : Nat) : query.packet.getD (2 + place) 0 =
      ([query.high, query.low, 0, 1] ++ (query.counts.bytes ++
        (Labels.wire query.labels ++ (query.kind.bytes ++ query.rest)))).getD place 0 := by
    rw [List.getD_eq_getElem?_getD, List.getD_eq_getElem?_getD, packet,
      List.getElem?_append_right (by rw [query.id.length_bytes]; omega), query.id.length_bytes,
      Nat.add_sub_cancel_left]
  refine ⟨Nat.le_trans (Nat.le_add_right _ _) enough, ?_, ?_⟩
  · have high : query.packet.getD 2 0 = query.high := id 0
    rw [high]
    exact query.standard
  · rintro ⟨_, low⟩
    have one : query.packet.getD 5 0 = 1 := id 3
    rw [one] at low
    cases low

theorem answered_packet : answered query.packet = some query.question.length := by
  have length := query.length_question
  have short := query.short
  have window : (query.packet.take maxDnsMsgSize).drop sizeofDnsHeader =
      Labels.wire query.labels ++ (query.kind.bytes ++ query.rest).take
        (maxDnsMsgSize - sizeofDnsHeader - (Labels.wire query.labels).length) := by
    rw [List.drop_take, drop_packet, question, List.append_assoc, List.take_append,
      List.take_of_length_le]
    unfold maxDnsMsgSize sizeofDnsHeader
    omega
  rw [answered, if_pos query.standardQuery, window, Labels.skip_wire, Option.bind_some,
    if_pos short, length]

/-! ## The answer to a query -/

theorem answerTo_packet (server : DnsServer) (stale : Block maxDnsMsgSize) :
    answerTo server stale query.packet query.question.length =
      query.id.bytes ++ (answerHeader ++ (query.question ++ answerBytes server)) := by
  have length := query.length_question
  have short := query.short
  have whole : sizeofDnsHeader + query.question.length ≤
      min maxDnsMsgSize query.packet.length := by
    refine Nat.le_min.mpr ⟨?_, query.le_length_packet⟩
    unfold sizeofDnsHeader maxDnsMsgSize
    omega
  have id : query.packet.take 2 = query.id.bytes := List.take_left' query.id.length_bytes
  rw [answerTo, Block.drop_take_receive whole, drop_packet, List.take_left, id]

/-- What a client finds in the answer. -/
def response (server : DnsServer) : Response where
  id := query.id.bytes
  flags := [0x84, 0x80]
  name := query.labels.map Labels.Label.bytes
  kind := query.kind.bytes
  owner := query.labels.map Labels.Label.bytes
  record := [0, 1, 0, 1, 0, 0, 0, 60]
  data := server.ip.bytes

/-- The answer is read as it is meant. -/
theorem decode_answerTo (server : DnsServer) (stale : Block maxDnsMsgSize) :
    decode (answerTo server stale query.packet query.question.length) =
      some (query.response server) := by
  rw [answerTo_packet]
  generalize same : query.id.bytes ++ (answerHeader ++ (query.question ++ answerBytes server)) =
    message
  have front : (query.id.bytes ++ answerHeader).length = 12 := by
    rw [List.length_append, query.id.length_bytes]
    rfl
  have question : message.drop 12 =
      Labels.wire query.labels ++ (query.kind.bytes ++ answerBytes server) := by
    rw [← same, ← List.append_assoc, List.drop_left' front, Query.question, List.append_assoc]
  have kind : message.drop (12 + (Labels.wire query.labels).length) =
      query.kind.bytes ++ answerBytes server := by
    rw [← List.drop_drop, question, List.drop_left]
  have answer : message.drop (12 + (Labels.wire query.labels).length + 4) = answerBytes server := by
    rw [← List.drop_drop, kind, List.drop_left' query.kind.length_bytes]
  have byte (offset : Nat) : message[12 + (Labels.wire query.labels).length + 4 + offset]? =
      (answerBytes server)[offset]? := by
    rw [← answer, List.getElem?_drop]
  have record : message.drop (12 + (Labels.wire query.labels).length + 4 + 2) =
      [0, 1, 0, 1, 0, 0, 0, 60, 0, 4] ++ server.ip.bytes := by
    rw [← List.drop_drop, answer]
    rfl
  have id : message.take 2 = query.id.bytes := by
    rw [← same, List.take_left' query.id.length_bytes]
  have fields : message.drop 2 = answerHeader ++ (query.question ++ answerBytes server) := by
    rw [← same, List.drop_left' query.id.length_bytes]
  have counts : (message.drop 4).take 8 = [0, 1, 0, 1, 0, 0, 0, 0] := by
    change (message.drop (2 + 2)).take 8 = _
    rw [← List.drop_drop, fields]
    rfl
  -- A name has fewer labels than bytes, and the pointer is one step more.
  have few := Labels.length_lt_wire query.labels
  have length := congrArg List.length question
  rw [List.length_drop, List.length_append] at length
  have total : message.length = message.length - 1 + 1 := by omega
  have name : Labels.read message message.length 12 =
      some (query.labels.map Labels.Label.bytes, 12 + (Labels.wire query.labels).length) :=
    Labels.read_wire (by omega) question
  have target : Labels.read message (message.length - 1) ((0xc0 - 0xc0) * 256 + 12) =
      some (query.labels.map Labels.Label.bytes, 12 + (Labels.wire query.labels).length) :=
    Labels.read_wire (by rw [List.length_append, length_answerBytes] at length; omega) question
  have owner : Labels.read message message.length
      (12 + (Labels.wire query.labels).length + 4) =
      some (query.labels.map Labels.Label.bytes,
        12 + (Labels.wire query.labels).length + 4 + 2) := by
    rw [total]
    have pointer : 0xc0 ≤ (0xc0 : UInt8).toNat := by decide
    exact Labels.read_pointer pointer (byte 0) (byte 1) target
  have data : message.drop (12 + (Labels.wire query.labels).length + 4 + 2 + 8) =
      0 :: 4 :: server.ip.bytes := by
    rw [← List.drop_drop, record]
    rfl
  have size : server.ip.bytes.length = (0 : UInt8).toNat * 256 + (4 : UInt8).toNat :=
    server.ip.length_bytes
  have kinds : (message.drop (12 + (Labels.wire query.labels).length)).take 4 =
      query.kind.bytes := by
    rw [kind, List.take_left' query.kind.length_bytes]
  rw [decode, if_pos counts, name]
  simp only [owner, data, if_pos size, id, fields, record, kinds]
  rfl

/-- Every query is answered with the address of the access point, for the name
that it asks for, whatever its type, and whatever the array held before. -/
theorem query_answered (server : DnsServer) (stale : Block maxDnsMsgSize) (srcAddr : Block 4)
    (srcPort : UInt16) :
    ∃ buf, dnsServerProcess server stale true query.packet srcAddr srcPort =
        .done [{ buf, dest := srcAddr, port := srcPort }] ∧
      decode buf = some (query.response server) := by
  refine ⟨answerTo server stale query.packet query.question.length, ?_,
    query.decode_answerTo server stale⟩
  rw [dnsServerProcess_eq, query.answered_packet]
  rfl

/-- The query for the host address of `net.ll`, as a client without a server of
its own asks for it. -/
def netLl : Query where
  id := ⟨[0x12, 0x34], rfl⟩
  high := 1
  low := 0
  counts := .zero 6
  labels := [⟨[110, 101, 116], List.cons_ne_nil _ _, by decide⟩,
    ⟨[108, 108], List.cons_ne_nil _ _, by decide⟩]
  kind := ⟨[0, 1, 0, 1], rfl⟩
  rest := []
  standard := by decide
  short := by decide

theorem query_answered_netLl : ∃ buf,
    dnsServerProcess { ip := ⟨[192, 168, 33, 1], rfl⟩ } (.zero maxDnsMsgSize) true netLl.packet
        ⟨[192, 168, 33, 16], rfl⟩ 49152 =
      .done [{ buf, dest := ⟨[192, 168, 33, 16], rfl⟩, port := 49152 }] ∧
    decode buf = some {
      id := [0x12, 0x34]
      flags := [0x84, 0x80]
      name := [[110, 101, 116], [108, 108]]
      kind := [0, 1, 0, 1]
      owner := [[110, 101, 116], [108, 108]]
      record := [0, 1, 0, 1, 0, 0, 0, 60]
      data := [192, 168, 33, 1] } :=
  netLl.query_answered { ip := ⟨[192, 168, 33, 1], rfl⟩ } (.zero maxDnsMsgSize)
    ⟨[192, 168, 33, 16], rfl⟩ 49152

end Query

end Dns
end NetLL
