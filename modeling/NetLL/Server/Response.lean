import NetLL.Library.Decimal
import NetLL.Server.Interface

namespace NetLL
namespace Server

/-!
# Writing responses

`WriteResponse` and `SendResponse` are the same text over two writers.  The
header is formatted into a buffer of `RESPONSE_HEADER_SIZE` bytes and nothing
is sent when it does not fit.  The writers differ in how much they offer the
socket at a time and in what they do when `send` is interrupted.

The record that is answered from is a local variable.  The field that no
statement assigns is a parameter here, so that every value the stack may hold
in its place is covered.
-/

/-- `RESPONSE_HEADER_SIZE`, the same on all three platforms. -/
def responseHeaderSize : Nat := 256

/-- `HTTP_SEND_CHUNK_SIZE`, which is lwIP's `TCP_MSS`. -/
def httpSendChunkSize : Nat := 1460

/-- `DEFAULT_CONTENT_TYPE`. -/
def defaultContentType : CString := CString.literal "text/html"

/-- `ReasonPhrase`. -/
def reasonPhrase (statusCode : UInt16) : List UInt8 :=
  if statusCode = 200 then ascii "OK"
  else if statusCode = 400 then ascii "Bad Request"
  else if statusCode = 404 then ascii "Not Found"
  else if statusCode = 405 then ascii "Method Not Allowed"
  else if statusCode = 413 then ascii "Payload Too Large"
  else if statusCode = 500 then ascii "Internal Server Error"
  else ascii "OK"

/-! ## Writers -/

inductive WriteEnding where
  | complete
  | failed
  | blocked
deriving DecidableEq, Repr

/-- The bytes the socket took, how the writer ended, and the send results it
left for the next call. -/
structure Written where
  bytes : List UInt8
  ending : WriteEnding
  rest : List SendResult
deriving DecidableEq, Repr

/-- The writer's result after some bytes that were taken before. -/
def Written.after (written : Written) (bytes : List UInt8) : Written :=
  { written with bytes := bytes ++ written.bytes }

@[simp] theorem Written.bytes_after (written : Written) (bytes : List UInt8) :
    (written.after bytes).bytes = bytes ++ written.bytes := rfl

@[simp] theorem Written.ending_after (written : Written) (bytes : List UInt8) :
    (written.after bytes).ending = written.ending := rfl

/-- A function that puts bytes on a socket. -/
abbrev Writer := List SendResult → List UInt8 → Written

/-- `WriteAll` of the Simulator and of ESP32: all remaining bytes are offered,
and an interrupted `send` is repeated. -/
def writeAll : Writer
  | script, [] => ⟨[], .complete, script⟩
  | [], _ :: _ => ⟨[], .blocked, []⟩
  | .accepted count :: script, first :: rest =>
      let taken := (first :: rest).take count
      if taken = [] then ⟨[], .failed, script⟩
      else (writeAll script ((first :: rest).drop count)).after taken
  | .interrupted :: script, first :: rest => writeAll script (first :: rest)
  | .failed :: script, _ :: _ => ⟨[], .failed, script⟩

/-- `SendBytes` of RP2040: at most one chunk is offered, and every result that
is not positive ends the writer. -/
def sendBytes : Writer
  | script, [] => ⟨[], .complete, script⟩
  | [], _ :: _ => ⟨[], .blocked, []⟩
  | .accepted count :: script, first :: rest =>
      let taken := ((first :: rest).take httpSendChunkSize).take count
      if taken = [] then ⟨[], .failed, script⟩
      else (sendBytes script ((first :: rest).drop taken.length)).after taken
  | .interrupted :: script, _ :: _ => ⟨[], .failed, script⟩
  | .failed :: script, _ :: _ => ⟨[], .failed, script⟩

theorem writeAll_taken {count : Nat} {bytes : List UInt8} (some_ : bytes.take count ≠ [])
    (script : List SendResult) : writeAll (.accepted count :: script) bytes =
      (writeAll script (bytes.drop count)).after (bytes.take count) := by
  cases bytes with
  | nil => exact absurd List.take_nil some_
  | cons first rest =>
      rw [writeAll]
      simp only [if_neg some_]

theorem sendBytes_taken {count : Nat} {bytes : List UInt8}
    (some_ : (bytes.take httpSendChunkSize).take count ≠ []) (script : List SendResult) :
    sendBytes (.accepted count :: script) bytes =
      (sendBytes script (bytes.drop (min count httpSendChunkSize))).after
        (bytes.take (min count httpSendChunkSize)) := by
  cases bytes with
  | nil => exact absurd (by rw [List.take_nil, List.take_nil]) some_
  | cons first rest =>
      rw [sendBytes]
      simp only [if_neg some_]
      rw [List.take_take, List.length_take]
      rcases Nat.le_total (min count httpSendChunkSize) (first :: rest).length with inside | whole
      · rw [Nat.min_eq_left inside]
      · rw [Nat.min_eq_right whole, List.drop_length, List.drop_eq_nil_of_le whole]

theorem writeAll_accepted {bytes : List UInt8} (nonempty : bytes ≠ []) {count : Nat}
    (enough : bytes.length ≤ count) (script : List SendResult) :
    writeAll (.accepted count :: script) bytes = ⟨bytes, .complete, script⟩ := by
  have whole : bytes.take count = bytes := List.take_of_length_le enough
  rw [writeAll_taken (by rwa [whole]), whole, List.drop_eq_nil_of_le enough]
  cases script <;> simp [writeAll, Written.after]

theorem sendBytes_accepted {bytes : List UInt8} (nonempty : bytes ≠ []) {count : Nat}
    (enough : bytes.length ≤ count) (chunk : bytes.length ≤ httpSendChunkSize)
    (script : List SendResult) :
    sendBytes (.accepted count :: script) bytes = ⟨bytes, .complete, script⟩ := by
  have least : bytes.length ≤ min count httpSendChunkSize := Nat.le_min.mpr ⟨enough, chunk⟩
  have whole : bytes.take (min count httpSendChunkSize) = bytes := List.take_of_length_le least
  rw [sendBytes_taken (by rwa [List.take_take, whole]), whole, List.drop_eq_nil_of_le least]
  cases script <;> simp [sendBytes, Written.after]

theorem writeAll_blocked (bytes : List UInt8) : (writeAll [] bytes).bytes = [] := by
  cases bytes <;> rfl

theorem sendBytes_blocked (bytes : List UInt8) : (sendBytes [] bytes).bytes = [] := by
  cases bytes <;> rfl

/-- Every send takes some of the bytes that it is offered. -/
def EverySendSucceeds (script : List SendResult) : Prop :=
  ∀ result ∈ script, ∃ count, result = .accepted (count + 1)

theorem EverySendSucceeds.tail {result : SendResult} {script : List SendResult}
    (succeeds : EverySendSucceeds (result :: script)) : EverySendSucceeds script :=
  fun other member => succeeds other (List.mem_cons_of_mem _ member)

/-- The rounds of a writer, by what it offers and whether it retries. -/
structure Writer.Rounds (writer : Writer) (offer : Nat → Nat) (retries : Bool) : Prop where
  nothing : ∀ script, writer script [] = ⟨[], .complete, script⟩
  blocked : ∀ bytes, bytes ≠ [] → writer [] bytes = ⟨[], .blocked, []⟩
  failed : ∀ script bytes, bytes ≠ [] → writer (.failed :: script) bytes = ⟨[], .failed, script⟩
  interrupted : ∀ script bytes, bytes ≠ [] → writer (.interrupted :: script) bytes =
    if retries then writer script bytes else ⟨[], .failed, script⟩
  accepted : ∀ count script bytes, bytes ≠ [] → writer (.accepted count :: script) bytes =
    if min count (offer bytes.length) = 0 then ⟨[], .failed, script⟩
    else (writer script (bytes.drop (min count (offer bytes.length)))).after
      (bytes.take (min count (offer bytes.length)))

theorem writeAll_rounds : Writer.Rounds writeAll (fun left => left) true := by
  refine ⟨fun script => by cases script <;> rfl, ?_, ?_, ?_, ?_⟩
  · intro bytes nonempty
    cases bytes with
    | nil => exact absurd rfl nonempty
    | cons first rest => rfl
  · intro script bytes nonempty
    cases bytes with
    | nil => exact absurd rfl nonempty
    | cons first rest => rfl
  · intro script bytes nonempty
    cases bytes with
    | nil => exact absurd rfl nonempty
    | cons first rest => rfl
  · intro count script bytes nonempty
    have some_ := List.length_pos_iff.mpr nonempty
    by_cases none_ : min count bytes.length = 0
    · have empty : bytes.take count = [] := List.take_eq_nil_iff.mpr (Or.inl (by omega))
      rw [if_pos none_]
      cases bytes with
      | nil => exact absurd rfl nonempty
      | cons first rest =>
          rw [writeAll]
          exact if_pos empty
    · have taken : bytes.take count ≠ [] := by
        intro empty
        rcases List.take_eq_nil_iff.mp empty with zero | nothing
        · exact none_ (by omega)
        · exact nonempty nothing
      rw [if_neg none_, writeAll_taken taken, ← List.take_eq_take_min, ← List.drop_eq_drop_min]

theorem sendBytes_rounds :
    Writer.Rounds sendBytes (fun left => min left httpSendChunkSize) false := by
  refine ⟨fun script => by cases script <;> rfl, ?_, ?_, ?_, ?_⟩
  · intro bytes nonempty
    cases bytes with
    | nil => exact absurd rfl nonempty
    | cons first rest => rfl
  · intro script bytes nonempty
    cases bytes with
    | nil => exact absurd rfl nonempty
    | cons first rest => rfl
  · intro script bytes nonempty
    cases bytes with
    | nil => exact absurd rfl nonempty
    | cons first rest => rfl
  · intro count script bytes nonempty
    have some_ := List.length_pos_iff.mpr nonempty
    have chunk : 0 < httpSendChunkSize := by decide
    have size : ((bytes.take httpSendChunkSize).take count).length =
        min count (min bytes.length httpSendChunkSize) := by
      rw [List.length_take, List.length_take, Nat.min_comm httpSendChunkSize]
    by_cases none_ : min count (min bytes.length httpSendChunkSize) = 0
    · have empty : (bytes.take httpSendChunkSize).take count = [] :=
        List.eq_nil_of_length_eq_zero (size.trans none_)
      rw [if_pos none_]
      cases bytes with
      | nil => exact absurd rfl nonempty
      | cons first rest =>
          rw [sendBytes]
          exact if_pos empty
    · have taken : (bytes.take httpSendChunkSize).take count ≠ [] := by
        intro empty
        rw [empty] at size
        exact none_ size.symm
      have count_eq : min count (min bytes.length httpSendChunkSize) =
          min (min count httpSendChunkSize) bytes.length := by
        rw [Nat.min_comm bytes.length, Nat.min_assoc]
      rw [if_neg none_, sendBytes_taken taken, count_eq, ← List.take_eq_take_min,
        ← List.drop_eq_drop_min]

/-- What one result of `send` does to a writer: it takes the front of the
bytes, is passed over, or ends the writer.  A send that succeeds takes a front. -/
structure Writer.Sends (writer : Writer) : Prop where
  nothing : ∀ script, writer script [] = ⟨[], .complete, script⟩
  blocked : ∀ bytes, bytes ≠ [] → (writer [] bytes).ending = .blocked
  step : ∀ result script bytes, bytes ≠ [] →
    (∃ size, writer (result :: script) bytes =
        (writer script (bytes.drop size)).after (bytes.take size)) ∨
      writer (result :: script) bytes = writer script bytes ∨
      (writer (result :: script) bytes).ending = .failed
  success : ∀ count script bytes, bytes ≠ [] → ∃ size, 0 < size ∧
    writer (.accepted (count + 1) :: script) bytes =
      (writer script (bytes.drop size)).after (bytes.take size)

/-- A writer that offers some of the bytes that are left goes by the results. -/
theorem Writer.Rounds.sends {writer : Writer} {offer : Nat → Nat} {retries : Bool}
    (rounds : writer.Rounds offer retries) (offers : ∀ left, 0 < left → 0 < offer left) :
    writer.Sends where
  nothing := rounds.nothing
  blocked := by
    intro bytes nonempty
    rw [rounds.blocked bytes nonempty]
  step := by
    intro result script bytes nonempty
    cases result with
    | accepted count =>
        rw [rounds.accepted count script bytes nonempty]
        split
        · exact Or.inr (Or.inr rfl)
        · exact Or.inl ⟨_, rfl⟩
    | interrupted =>
        rw [rounds.interrupted script bytes nonempty]
        cases retries with
        | true => exact Or.inr (Or.inl rfl)
        | false => exact Or.inr (Or.inr rfl)
    | failed =>
        rw [rounds.failed script bytes nonempty]
        exact Or.inr (Or.inr rfl)
  success := by
    intro count script bytes nonempty
    have some_ := offers _ (List.length_pos_iff.mpr nonempty)
    have taken : 0 < min (count + 1) (offer bytes.length) :=
      Nat.lt_min.mpr ⟨Nat.succ_pos count, some_⟩
    refine ⟨_, taken, ?_⟩
    rw [rounds.accepted _ script bytes nonempty, if_neg (Nat.ne_of_gt taken)]

theorem writeAll_sends : Writer.Sends writeAll :=
  writeAll_rounds.sends fun _ some_ => some_

theorem sendBytes_sends : Writer.Sends sendBytes :=
  sendBytes_rounds.sends fun _ some_ => Nat.lt_min.mpr ⟨some_, by decide⟩

/-- A writer that ends well has put all its bytes on the socket. -/
theorem Writer.Sends.complete_bytes {writer : Writer} (sends : writer.Sends)
    {script : List SendResult} {bytes : List UInt8}
    (complete : (writer script bytes).ending = .complete) : (writer script bytes).bytes = bytes := by
  induction script generalizing bytes with
  | nil =>
      by_cases empty : bytes = []
      · rw [empty, sends.nothing]
      · rw [sends.blocked bytes empty] at complete
        cases complete
  | cons result script inductionHypothesis =>
      by_cases empty : bytes = []
      · rw [empty, sends.nothing]
      · rcases sends.step result script bytes empty with ⟨size, taken⟩ | passed | failed
        · rw [taken] at complete ⊢
          exact (congrArg (_ ++ ·) (inductionHypothesis complete)).trans
            (List.take_append_drop size bytes)
        · rw [passed] at complete ⊢
          exact inductionHypothesis complete
        · rw [failed] at complete
          cases complete

/-- When every send succeeds, one result for each byte is enough. -/
theorem Writer.Sends.delivers {writer : Writer} (sends : writer.Sends) {script : List SendResult}
    {bytes : List UInt8} (succeeds : EverySendSucceeds script)
    (enough : bytes.length ≤ script.length) :
    ∃ rest, writer script bytes = ⟨bytes, .complete, rest⟩ ∧ EverySendSucceeds rest ∧
      script.length ≤ rest.length + bytes.length := by
  induction script generalizing bytes with
  | nil =>
      have empty : bytes = [] := List.eq_nil_of_length_eq_zero (Nat.le_zero.mp enough)
      exact ⟨[], by rw [empty, sends.nothing], succeeds, Nat.zero_le _⟩
  | cons result script inductionHypothesis =>
      rcases succeeds result List.mem_cons_self with ⟨count, accepted⟩
      subst accepted
      by_cases empty : bytes = []
      · exact ⟨_, by rw [empty, sends.nothing], succeeds, Nat.le_add_right _ _⟩
      · rcases sends.success count script bytes empty with ⟨size, positive, taken⟩
        have some_ : 0 < bytes.length := List.length_pos_iff.mpr empty
        have left_ : (bytes.drop size).length = bytes.length - size := List.length_drop
        rw [List.length_cons] at enough
        rcases @inductionHypothesis (bytes.drop size) succeeds.tail (by omega) with
          ⟨rest, written, succeedsLater, bound⟩
        refine ⟨rest, ?_, succeedsLater, ?_⟩
        · rw [taken, written, Written.after, List.take_append_drop]
        · rw [List.length_cons]
          omega

/-! ## Responses -/

/-- The bytes in front of the custom header. -/
def headerFront (response : HttpResponse) : List UInt8 :=
  ascii "HTTP/1.1 " ++ Decimal.render response.statusCode.toNat ++ ascii " " ++
    reasonPhrase response.statusCode ++ ascii "\r\n" ++
    ascii "Content-Type: " ++ (response.contentType.getD defaultContentType).bytes ++
    ascii "\r\n" ++
    ascii "Content-Length: " ++ Decimal.render response.bodyLength.toNat ++ ascii "\r\n" ++
    ascii "Connection: close\r\n"

/-- The text `snprintf` is asked to produce.  A null custom header and an
empty one are printed the same way. -/
def responseHeader (response : HttpResponse) : List UInt8 :=
  headerFront response ++ (response.customHeader.map CString.bytes).getD [] ++ ascii "\r\n"

/-- `WriteResponse` over a writer.  The body is the `BodyLength` bytes that the
callback keeps at `Body`. -/
def writeResponseWith (writer : Writer) (script : List SendResult) (response : HttpResponse) :
    Written :=
  if responseHeaderSize ≤ (responseHeader response).length then ⟨[], .failed, script⟩
  else
    let header := writer script (responseHeader response)
    if header.ending ≠ .complete then header
    else
      match response.body with
      | none => header
      | some body =>
          if response.bodyLength = 0 then header
          else (writer header.rest (body.take response.bodyLength.toNat)).after header.bytes

/-- `WriteResponse` of the Simulator and of ESP32. -/
def writeResponse : List SendResult → HttpResponse → Written :=
  writeResponseWith writeAll

/-- `SendResponse` of RP2040. -/
def sendResponse : List SendResult → HttpResponse → Written :=
  writeResponseWith sendBytes

theorem responseHeader_ne_nil (response : HttpResponse) : responseHeader response ≠ [] :=
  List.append_ne_nil_of_right_ne_nil _ (by decide)

/-- A header that does not fit its buffer is not sent, and neither is the body. -/
theorem writeResponseWith_long {response : HttpResponse}
    (long : responseHeaderSize ≤ (responseHeader response).length) (writer : Writer)
    (script : List SendResult) : writeResponseWith writer script response = ⟨[], .failed, script⟩ :=
  if_pos long

theorem writeResponseWith_header {writer : Writer} {script : List SendResult}
    {response : HttpResponse} (short : (responseHeader response).length < responseHeaderSize)
    (whole : writer script (responseHeader response) = ⟨responseHeader response, .complete, []⟩)
    (blocks : ∀ body, (writer [] body).bytes = []) :
    (writeResponseWith writer script response).bytes = responseHeader response := by
  rw [writeResponseWith, if_neg (by omega)]
  simp only [whole, ne_eq, not_true_eq_false, if_false]
  cases response.body with
  | none => rfl
  | some body =>
      simp only
      split
      · rfl
      · simp only [Written.after, blocks, List.append_nil]

/-- The body of a response: the `BodyLength` bytes at `Body`, and none at a
null pointer. -/
def bodyBytes (response : HttpResponse) : List UInt8 :=
  (response.body.getD []).take response.bodyLength.toNat

/-- A response that fits is its header and its body, one after the other. -/
theorem writeResponseWith_short {writer : Writer} (sends : writer.Sends) {response : HttpResponse}
    (short : (responseHeader response).length < responseHeaderSize) {script : List SendResult}
    (header : (writer script (responseHeader response)).ending = .complete) :
    writeResponseWith writer script response =
      (writer (writer script (responseHeader response)).rest (bodyBytes response)).after
        (responseHeader response) := by
  have front := sends.complete_bytes header
  have alone (none_ : bodyBytes response = []) :
      (writer (writer script (responseHeader response)).rest (bodyBytes response)).after
        (responseHeader response) = writer script (responseHeader response) := by
    rw [none_, sends.nothing, Written.after, List.append_nil, ← header]
    cases whole : writer script (responseHeader response)
    rw [whole] at front
    cases front
    rfl
  rw [writeResponseWith, if_neg (Nat.not_le.mpr short)]
  simp only [header, ne_eq, not_true_eq_false, if_false]
  cases body : response.body with
  | none =>
      have none_ : bodyBytes response = [] := by
        rw [bodyBytes, body]
        exact List.take_nil
      exact (alone none_).symm
  | some bytes =>
      by_cases zero : response.bodyLength = 0
      · have none_ : bodyBytes response = [] := by
          rw [bodyBytes, zero]
          exact List.take_zero
        simp only [if_pos zero]
        exact (alone none_).symm
      · simp only [if_neg zero, bodyBytes, body, Option.getD_some, front]

/-- A writer that reports success has sent the header and the body. -/
theorem writeResponseWith_complete {writer : Writer} (sends : writer.Sends)
    {script : List SendResult} {response : HttpResponse}
    (complete : (writeResponseWith writer script response).ending = .complete) :
    (responseHeader response).length < responseHeaderSize ∧
      (writeResponseWith writer script response).bytes =
        responseHeader response ++ bodyBytes response := by
  have short : (responseHeader response).length < responseHeaderSize := by
    by_contra long
    rw [writeResponseWith_long (Nat.not_lt.mp long)] at complete
    cases complete
  have header : (writer script (responseHeader response)).ending = .complete := by
    by_contra failed
    rw [writeResponseWith, if_neg (Nat.not_le.mpr short)] at complete
    simp only [if_pos failed] at complete
    exact failed complete
  rw [writeResponseWith_short sends short header] at complete ⊢
  exact ⟨short, congrArg (_ ++ ·) (sends.complete_bytes complete)⟩

theorem writeResponseWith_delivers {writer : Writer} (sends : writer.Sends)
    {script : List SendResult} {response : HttpResponse}
    (short : (responseHeader response).length < responseHeaderSize)
    (succeeds : EverySendSucceeds script)
    (enough : (responseHeader response).length + (bodyBytes response).length ≤ script.length) :
    (writeResponseWith writer script response).bytes =
      responseHeader response ++ bodyBytes response := by
  have headerEnough : (responseHeader response).length ≤ script.length := by omega
  rcases sends.delivers succeeds headerEnough with ⟨rest, header, later, bound⟩
  have bodyEnough : (bodyBytes response).length ≤ rest.length := by omega
  rcases sends.delivers later bodyEnough with ⟨last, body, _⟩
  rw [writeResponseWith_short sends short (by rw [header]), header, body]
  rfl

/-- The local record of `WriteStatusOnly` and `SendStatusOnly`, with what the
stack holds in `CustomHeader`. -/
def statusOnlyResponse (stack : Option CString) (statusCode : UInt16) : HttpResponse where
  statusCode := statusCode
  contentType := some (CString.literal "text/plain")
  customHeader := stack
  body := some (reasonPhrase statusCode)
  bodyLength := (reasonPhrase statusCode).length.toUInt32

/-- The local record of `DispatchRoute` and `DispatchRequest` before the
callback runs, with what the stack holds in `CustomHeader`. -/
def initialResponse (stack : Option CString) : HttpResponse where
  statusCode := 200
  contentType := some defaultContentType
  customHeader := stack
  body := none
  bodyLength := 0

/-- A status-only answer over one of the two response writers. -/
def writeStatusOnly (write : List SendResult → HttpResponse → Written) (stack : Option CString)
    (script : List SendResult) (statusCode : UInt16) : List Event :=
  [.statusOnly statusCode, .sent (write script (statusOnlyResponse stack statusCode)).bytes]

end Server
end NetLL
