import NetLL.Server.FirstLine
import NetLL.Server.ResponseHeader

namespace NetLL
namespace Server

/-!
# One complete answer to every request

Every verdict is answered from one response record, the callback's or the one
of a status-only answer.  No caller looks at the result of the response
writer.  So the connection is closed without an answer when the header does
not fit its buffer, and with an incomplete one when the record does not end
its header in a blank line or announces a body that it does not have.
-/

/-- The bytes are one complete answer from the record: the status line, header
lines up to the first blank line, and as many bytes of the body as announced. -/
structure IsAnswer (response : HttpResponse) (head body : List UInt8) : Prop where
  statusLine : statusLine response.statusCode ++ crlf <+: head
  blankLine : Search.find headerSeparator head = some (head.length - 4)
  content : body <+: response.body.getD []
  announced : body.length = response.bodyLength.toNat

/-- Once as many sends have succeeded as it takes, the socket has one complete
answer and nothing else, and the connection is closed. -/
def AnsweredOnce (platform : Platform) (server : Registrations) (application : Application)
    (stack : Option CString) (buffer : List UInt8) (results : List RecvResult) : Prop :=
  ∃ verdict, decision platform server results = .done (some verdict) ∧
    ∃ sends, ∀ script, EverySendSucceeds script → sends ≤ script.length →
      ∃ events head body,
        serveConnection platform server application stack buffer results script = .done events ∧
          sentBytes events = head ++ body ∧
          IsAnswer (verdict.response application stack) head body

/-- A record that is encoded as one complete answer. -/
structure Encodable (response : HttpResponse) : Prop where
  short : (responseHeader response).length < responseHeaderSize
  blankLine : EndsInBlankLine response
  body : response.bodyLength.toNat ≤ (response.body.getD []).length

instance (response : HttpResponse) : Decidable (Encodable response) :=
  decidable_of_iff
    ((responseHeader response).length < responseHeaderSize ∧ EndsInBlankLine response ∧
      response.bodyLength.toNat ≤ (response.body.getD []).length)
    ⟨fun holds => ⟨holds.1, holds.2.1, holds.2.2⟩, fun encodable =>
      ⟨encodable.short, encodable.blankLine, encodable.body⟩⟩

/-- The record that the decision is answered from is encoded completely. -/
def LeavesEncodable (platform : Platform) (server : Registrations) (application : Application)
    (stack : Option CString) (results : List RecvResult) : Prop :=
  match decision platform server results with
  | .done (some verdict) => Encodable (verdict.response application stack)
  | _ => True

instance (platform : Platform) (server : Registrations) (application : Application)
    (stack : Option CString) (results : List RecvResult) :
    Decidable (LeavesEncodable platform server application stack results) := by
  unfold LeavesEncodable
  match decision platform server results with
  | .done (some verdict) => exact inferInstanceAs (Decidable (Encodable _))
  | .done none => exact .isTrue trivial
  | .waiting => exact .isTrue trivial
  | .fault => exact .isTrue trivial

/-! ## What is sent -/

theorem length_bodyBytes {response : HttpResponse}
    (body : response.bodyLength.toNat ≤ (response.body.getD []).length) :
    (bodyBytes response).length = response.bodyLength.toNat := by
  rw [bodyBytes, List.length_take, Nat.min_eq_left body]

/-- The header and the body of a record are an answer exactly when the header
ends in a blank line and the body is there. -/
theorem isAnswer_iff (response : HttpResponse) :
    (∃ head body, responseHeader response ++ bodyBytes response = head ++ body ∧
        IsAnswer response head body) ↔
      EndsInBlankLine response ∧ response.bodyLength.toNat ≤ (response.body.getD []).length := by
  constructor
  · rintro ⟨head, body, sent, answer⟩
    have present : response.bodyLength.toNat ≤ (response.body.getD []).length := by
      rw [← answer.announced]
      exact answer.content.length_le
    have sameBody : bodyBytes response = body := by
      rw [bodyBytes, ← answer.announced]
      exact (List.prefix_iff_eq_take.mp answer.content).symm
    rw [sameBody] at sent
    have sameHead := List.append_cancel_right sent
    refine ⟨(endsInBlankLine_iff response).mp ?_, present⟩
    rw [sameHead]
    exact answer.blankLine
  · rintro ⟨blankLine, present⟩
    refine ⟨_, _, rfl, ?_, (endsInBlankLine_iff response).mpr blankLine, List.take_prefix _ _,
      length_bodyBytes present⟩
    rw [responseHeader_eq]
    exact List.prefix_append _ _

/-- A verdict is answered completely exactly when its record is encodable. -/
theorem answered_iff (platform : Platform) (application : Application) (stack : Option CString)
    (verdict : Verdict) :
    (∃ sends, ∀ script, EverySendSucceeds script → sends ≤ script.length →
        ∃ head body, sentBytes (reply platform.write application stack script verdict) =
            head ++ body ∧ IsAnswer (verdict.response application stack) head body) ↔
      Encodable (verdict.response application stack) := by
  let response := verdict.response application stack
  constructor
  · rintro ⟨sends, answers⟩
    let enough := sends + ((responseHeader response).length + (bodyBytes response).length)
    have succeeds : EverySendSucceeds (List.replicate enough (.accepted 1)) := by
      intro result member
      exact ⟨0, List.eq_of_mem_replicate member⟩
    have size : (List.replicate enough (SendResult.accepted 1)).length = enough :=
      List.length_replicate
    rcases answers _ succeeds (by omega) with ⟨head, body, sent, answer⟩
    rw [sentBytes_reply, platform.write_eq] at sent
    have short : (responseHeader response).length < responseHeaderSize := by
      by_contra long
      rw [writeResponseWith_long (Nat.not_lt.mp long)] at sent
      have empty := (List.append_eq_nil_iff.mp sent.symm).1
      have blankLine := answer.blankLine
      rw [empty] at blankLine
      cases blankLine
    rw [writeResponseWith_delivers platform.writer_sends short succeeds (by omega)] at sent
    rcases (isAnswer_iff response).mp ⟨head, body, sent, answer⟩ with ⟨blankLine, present⟩
    exact ⟨short, blankLine, present⟩
  · intro encodable
    refine ⟨(responseHeader response).length + (bodyBytes response).length, ?_⟩
    intro script succeeds enough
    rw [sentBytes_reply, platform.write_eq,
      writeResponseWith_delivers platform.writer_sends encodable.short succeeds enough]
    exact (isAnswer_iff response).mpr ⟨encodable.blankLine, encodable.body⟩

theorem decision_of_kept {platform : Platform} {results : List RecvResult} {reading : Reading}
    (gathered : platform.policy.gather results = .done reading) (kept : reading ≠ .dropped)
    (server : Registrations) : ∃ verdict, decision platform server results = .done (some verdict) := by
  cases reading with
  | refused => exact ⟨.refusal 413, by rw [decision, gathered]; rfl⟩
  | dropped => exact absurd rfl kept
  | complete bytes headerEnd bodyLength =>
      rcases judge_append server (complete_of_gather gathered).inside with ⟨verdict, judged⟩
      exact ⟨verdict, by rw [decision_complete gathered, judged []]; rfl⟩

theorem AnsweredOnce.leavesEncodable {platform : Platform} {server : Registrations}
    {application : Application} {stack : Option CString} {buffer : List UInt8}
    (size : buffer.length = httpServerMaxRequestSize) {results : List RecvResult}
    (answered : AnsweredOnce platform server application stack buffer results) :
    LeavesEncodable platform server application stack results := by
  rcases answered with ⟨verdict, decided, sends, answers⟩
  rw [LeavesEncodable, decided]
  refine (answered_iff platform application stack verdict).mp ⟨sends, ?_⟩
  intro script succeeds enough
  rcases answers script succeeds enough with ⟨events, head, body, served, sent, answer⟩
  rw [serveConnection_decided decided application stack size] at served
  cases served
  exact ⟨head, body, sent, answer⟩

/-- Every request that is read is answered once and completely exactly when
the record it is answered from is encodable. -/
theorem answeredOnce_iff (platform : Platform) (server : Registrations)
    (application : Application) (stack : Option CString) {buffer : List UInt8}
    (size : buffer.length = httpServerMaxRequestSize) {results : List RecvResult}
    {reading : Reading} (gathered : platform.policy.gather results = .done reading)
    (kept : reading ≠ .dropped) :
    AnsweredOnce platform server application stack buffer results ↔
      LeavesEncodable platform server application stack results := by
  refine ⟨AnsweredOnce.leavesEncodable size, fun encodable => ?_⟩
  rcases decision_of_kept gathered kept server with ⟨verdict, decided⟩
  rw [LeavesEncodable, decided] at encodable
  rcases (answered_iff platform application stack verdict).mpr encodable with ⟨sends, answers⟩
  refine ⟨verdict, decided, sends, ?_⟩
  intro script succeeds enough
  rcases answers script succeeds enough with ⟨head, body, sent, answer⟩
  exact ⟨_, head, body, serveConnection_decided decided application stack size script, sent, answer⟩

/-! ## Three callbacks -/

/-- A callback that answers with a text and these fields. -/
def answering (customHeader : Option CString) (body : Option (List UInt8)) : Application :=
  fun _ _ _ => { statusCode := none, contentType := some (some (CString.literal "text/plain")),
                 customHeader := some customHeader, body := some body, bodyLength := some 5 }

/-- A custom header that brings its own line end. -/
def closedHeader : CString := CString.literal "X-Node: 7\r\n"

/-- A request for the default endpoint. -/
def pageRequest : List RecvResult :=
  [.received (ascii "GET / HTTP/1.1\r\n\r\n")]

theorem answeredOnce_greeted :
    AnsweredOnce .rp2040 defaultServer (answering (some closedHeader) (some (ascii "hello"))) none
      (List.replicate 2048 0) pageRequest :=
  (@answeredOnce_iff .rp2040 defaultServer _ none _ List.length_replicate pageRequest
    (.complete (ascii "GET / HTTP/1.1\r\n\r\n") 18 0) (by decide +kernel) (by decide)).mpr
    (by decide +kernel)

/-- Not every answer is complete: the header does not fit its buffer, the
custom header brings no line end, or there is no body. -/
theorem answers_are_broken :
    ¬ AnsweredOnce .simulator defaultServer
        (answering (some (CString.ofBytes (List.replicate 256 88))) (some (ascii "hello"))) none
        (List.replicate 2048 0) pageRequest ∧
      ¬ AnsweredOnce .rp2040 defaultServer
        (answering (some (CString.ofBytes (List.replicate 256 88))) (some (ascii "hello"))) none
        (List.replicate 2048 0) pageRequest ∧
      ¬ AnsweredOnce .rp2040 defaultServer
        (answering (some (CString.literal "X-Node: 7")) (some (ascii "hello"))) none
        (List.replicate 2048 0) pageRequest ∧
      ¬ AnsweredOnce .rp2040 defaultServer (answering none none) none
        (List.replicate 2048 0) pageRequest := by
  refine ⟨fun answered => ?_, fun answered => ?_, fun answered => ?_, fun answered => ?_⟩ <;>
    exact absurd (answered.leavesEncodable List.length_replicate) (by decide +kernel)

end Server
end NetLL
