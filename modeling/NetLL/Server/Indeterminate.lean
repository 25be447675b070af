import NetLL.Server.Segmentation

namespace NetLL
namespace Server

/-!
# Answers and the memory they are made from

Two runs of one connection that differ only in what the stack holds may put
different bytes on the socket, because the response record starts with one
field that no statement assigns.  What the field holds is printed into the
header unless a callback assigns it or the header is not sent at all.
-/

/-- The bytes one connection puts on its socket. -/
def sent (platform : Platform) (server : Registrations) (application : Application)
    (stack : Option CString) (buffer : List UInt8) (results : List RecvResult)
    (script : List SendResult) : Exec (List UInt8) := do
  let events ← serveConnection platform server application stack buffer results script
  return sentBytes events

/-- What the stack holds is not part of what is sent. -/
def IndifferentToStack (platform : Platform) (server : Registrations) (application : Application)
    (results : List RecvResult) : Prop :=
  ∀ (buffer : List UInt8) (script : List SendResult) (first second : Option CString),
    buffer.length = httpServerMaxRequestSize →
      sent platform server application first buffer results script =
        sent platform server application second buffer results script

/-- Nothing is answered, or a callback runs that assigns the custom header or
leaves a response whose other header lines fill the header buffer. -/
def Determined (platform : Platform) (server : Registrations) (application : Application)
    (results : List RecvResult) : Prop :=
  match decision platform server results with
  | .done (some (.refusal _)) => False
  | .done (some (.call route request)) =>
      (application route.callback request route.context).customHeader ≠ none ∨
        responseHeaderSize ≤ (responseHeader
          ((application route.callback request route.context).apply (initialResponse none))).length
  | _ => True

instance (platform : Platform) (server : Registrations) (application : Application)
    (results : List RecvResult) : Decidable (Determined platform server application results) := by
  unfold Determined
  split <;> infer_instance

/-! ## Headers with one more byte -/

/-- A custom header of one byte. -/
def oneByte : CString := CString.literal "X"

theorem length_le_responseHeader (response : HttpResponse)
    (unassigned : response.customHeader = none) (stack : Option CString) :
    (responseHeader response).length ≤
      (responseHeader { response with customHeader := stack }).length := by
  simp only [responseHeader, headerFront, unassigned, Option.map_none, Option.getD_none,
    List.length_append, List.length_nil]
  omega

theorem length_responseHeader (response : HttpResponse) (unassigned : response.customHeader = none) :
    (responseHeader { response with customHeader := some oneByte }).length =
      (responseHeader response).length + 1 := by
  have one : oneByte.bytes.length = 1 := by decide
  simp only [responseHeader, headerFront, unassigned, Option.map_some, Option.map_none,
    Option.getD_some, Option.getD_none, List.length_append, one, List.length_nil]
  omega

/-- A socket that takes everything in the first call and nothing after it. -/
theorem write_header (platform : Platform) {response : HttpResponse}
    (short : (responseHeader response).length < responseHeaderSize) :
    (platform.write [.accepted responseHeaderSize] response).bytes = responseHeader response := by
  have nonempty := responseHeader_ne_nil response
  have chunk : responseHeaderSize ≤ httpSendChunkSize := by decide
  have posix : (writeResponse [.accepted responseHeaderSize] response).bytes =
      responseHeader response :=
    writeResponseWith_header short (writeAll_accepted nonempty (by omega) []) writeAll_blocked
  have rp2040 : (sendResponse [.accepted responseHeaderSize] response).bytes =
      responseHeader response :=
    writeResponseWith_header short (sendBytes_accepted nonempty (by omega) (by omega) [])
      sendBytes_blocked
  cases platform with
  | simulator => exact posix
  | esp32 => exact posix
  | rp2040 => exact rp2040

theorem write_long (platform : Platform) {response : HttpResponse}
    (long : responseHeaderSize ≤ (responseHeader response).length) (script : List SendResult) :
    (platform.write script response).bytes = [] := by
  rw [platform.write_eq]
  exact congrArg Written.bytes (writeResponseWith_long long platform.writer script)

/-- A response that is sent shows a custom header of one byte. -/
theorem write_oneByte_ne (platform : Platform) {response : HttpResponse}
    (unassigned : response.customHeader = none)
    (short : (responseHeader response).length < responseHeaderSize) :
    (platform.write [.accepted responseHeaderSize] response).bytes ≠
      (platform.write [.accepted responseHeaderSize]
        { response with customHeader := some oneByte }).bytes := by
  have longer := length_responseHeader response unassigned
  intro same
  rw [write_header platform short] at same
  rcases Nat.lt_or_ge (responseHeader { response with customHeader := some oneByte }).length
      responseHeaderSize with fits | long
  · rw [write_header platform fits] at same
    have lengths := congrArg List.length same
    omega
  · rw [write_long platform long] at same
    exact responseHeader_ne_nil response same

/-! ## Two runs -/

theorem sent_eq (platform : Platform) (server : Registrations) (application : Application)
    (stack : Option CString) {buffer : List UInt8}
    (size : buffer.length = httpServerMaxRequestSize) (results : List RecvResult)
    (script : List SendResult) :
    sent platform server application stack buffer results script =
      decision platform server results >>= fun verdict =>
        .done (sentBytes (announce platform.write application stack script verdict)) := by
  rw [sent, serveConnection_eq platform server application stack size, Exec.bind_assoc]
  rfl

/-- A status-only answer has one of four codes, and its header fits. -/
theorem statusOnly_short {platform : Platform} {server : Registrations}
    {results : List RecvResult} {statusCode : UInt16}
    (refused : decision platform server results = .done (some (.refusal statusCode))) :
    (responseHeader (statusOnlyResponse none statusCode)).length < responseHeaderSize := by
  have codes : statusCode = 413 ∨ statusCode = 400 ∨ statusCode = 404 ∨ statusCode = 405 := by
    rcases Exec.bind_eq_done_iff.mp refused with ⟨read, _, settled⟩
    cases read with
    | refused =>
        cases settled
        exact Or.inl rfl
    | dropped => cases settled
    | complete bytes headerEnd bodyLength =>
        rcases Exec.bind_eq_done_iff.mp settled with ⟨verdict, judged, same⟩
        cases same
        rcases judge_cases judged with equal | equal | equal | ⟨route, request, equal, _⟩
        · cases equal
          exact Or.inr (Or.inl rfl)
        · cases equal
          exact Or.inr (Or.inr (Or.inl rfl))
        · cases equal
          exact Or.inr (Or.inr (Or.inr rfl))
        · cases equal
  rcases codes with code | code | code | code <;> rw [code] <;> decide +kernel

theorem apply_initialResponse {update : ResponseUpdate} (unassigned : update.customHeader = none)
    (stack : Option CString) :
    update.apply (initialResponse stack) =
      { update.apply (initialResponse none) with customHeader := stack } := by
  simp only [ResponseUpdate.apply, initialResponse, unassigned, Option.getD_none]

/-- When nothing on the stack is sent, the answer is determined. -/
theorem IndifferentToStack.determined {platform : Platform} {server : Registrations}
    {application : Application} {results : List RecvResult}
    (indifferent : IndifferentToStack platform server application results) :
    Determined platform server application results := by
  have size : (List.replicate httpServerMaxRequestSize (0 : UInt8)).length =
      httpServerMaxRequestSize := List.length_replicate
  have same := indifferent _ [.accepted responseHeaderSize] none (some oneByte) size
  rw [sent_eq _ _ _ _ size, sent_eq _ _ _ _ size] at same
  unfold Determined
  cases decided : decision platform server results with
  | waiting => trivial
  | fault => trivial
  | done verdict =>
      cases verdict with
      | none => trivial
      | some verdict =>
          rw [decided, Exec.done_bind, Exec.done_bind, Exec.done.injEq] at same
          rw [sentBytes_announce, sentBytes_announce] at same
          cases verdict with
          | refusal statusCode =>
              exact write_oneByte_ne platform rfl (statusOnly_short decided) same
          | call route request =>
              simp only [Verdict.response] at same
              by_contra undetermined
              rw [not_or, not_not] at undetermined
              rw [apply_initialResponse undetermined.1 (some oneByte)] at same
              refine write_oneByte_ne platform ?_ (Nat.lt_of_not_le undetermined.2) same
              simp only [ResponseUpdate.apply, initialResponse, undetermined.1, Option.getD_none]

/-- What is sent does not depend on the stack exactly when the answer is
determined.  No status-only answer is. -/
theorem indifferentToStack_iff (platform : Platform) (server : Registrations)
    (application : Application) (results : List RecvResult) :
    IndifferentToStack platform server application results ↔
      Determined platform server application results := by
  refine ⟨IndifferentToStack.determined, fun determined => ?_⟩
  intro buffer script first second size
  rw [sent_eq _ _ _ _ size, sent_eq _ _ _ _ size]
  unfold Determined at determined
  cases decided : decision platform server results with
  | waiting => rfl
  | fault => rfl
  | done verdict =>
      rw [decided] at determined
      simp only [Exec.done_bind]
      cases verdict with
      | none => rfl
      | some verdict =>
          cases verdict with
          | refusal statusCode => exact absurd determined not_false
          | call route request =>
              rw [sentBytes_announce, sentBytes_announce]
              simp only [Verdict.response]
              cases assigned : (application route.callback request route.context).customHeader with
              | some header =>
                  have equal : (application route.callback request route.context).apply
                      (initialResponse first) =
                      (application route.callback request route.context).apply
                        (initialResponse second) := by
                    simp only [ResponseUpdate.apply, initialResponse, assigned, Option.getD_some]
                  rw [equal]
              | none =>
                  rcases determined with absurd_ | long
                  · exact absurd assigned absurd_
                  · have noStack (stack : Option CString) : responseHeaderSize ≤
                        (responseHeader ((application route.callback request route.context).apply
                          (initialResponse stack))).length := by
                      rw [apply_initialResponse assigned stack]
                      apply Nat.le_trans long
                      apply length_le_responseHeader
                      simp only [ResponseUpdate.apply, initialResponse, assigned, Option.getD_none]
                    rw [write_long platform (noStack first), write_long platform (noStack second)]

/-- The request and the function of a first page. -/
def plainGet : List RecvResult :=
  [.received (ascii "GET / HTTP/1.1\r\n\r\n")]

/-- A request that is answered 400. -/
def noRequest : List RecvResult :=
  [.received (ascii "\r\n\r\n")]

/-- A callback that leaves the custom header alone is answered from the stack,
and so is a status. -/
theorem stack_is_sent :
    ¬ IndifferentToStack .simulator defaultServer idle plainGet ∧
      ¬ IndifferentToStack .esp32 defaultServer idle plainGet ∧
      ¬ IndifferentToStack .rp2040 defaultServer idle plainGet ∧
      ¬ IndifferentToStack .rp2040 defaultServer idle noRequest := by
  refine ⟨fun same => ?_, fun same => ?_, fun same => ?_, fun same => ?_⟩ <;>
    exact absurd same.determined (by decide +kernel)

end Server
end NetLL
