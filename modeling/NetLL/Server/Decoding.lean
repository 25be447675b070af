import NetLL.Server.Message

namespace NetLL
namespace Server

open Decimal

/-!
# Well-formed requests are decoded

A well-formed request is a record of its parts with the conditions that make
them parts.  Its bytes are the parts in order.  Whatever the segments in which
these bytes arrive, the callback of the first matching route is called once,
with the parts.
-/

/-- A request as a client should send it. -/
structure WellFormedRequest where
  method : HttpMethod
  target : List UInt8
  version : Option (List UInt8)
  before : List OtherLine
  length : Option LengthField
  after : List OtherLine
  body : List UInt8
  target_is : ∀ byte ∈ target, byte ≠ 32 ∧ byte ≠ 13 ∧ byte ≠ 10 ∧ byte ≠ 0
  version_is : ∀ text, version = some text → IsLineText text
  body_is : body.length = (length.map (fun field => value field.digits)).getD 0

namespace WellFormedRequest

variable (request : WellFormedRequest)

theorem token_is (method : HttpMethod) :
    (∀ byte ∈ method.token, byte ≠ 32 ∧ byte ≠ 13 ∧ byte ≠ 10 ∧ byte ≠ 0) ∧
      ¬ BeginsWith contentLengthLabel method.token := by
  cases method <;> exact ⟨by decide +kernel, by decide +kernel⟩

/-- The request as a message. -/
def message : Message where
  token := request.method.token
  target := request.target
  version := request.version
  before := request.before
  length := request.length
  after := request.after
  body := request.body
  token_is := (token_is request.method).1
  token_other := (token_is request.method).2
  target_is := request.target_is
  version_is := request.version_is
  body_is := request.body_is

/-- The request on the wire. -/
def bytes : List UInt8 :=
  request.message.bytes

/-- What the callback is to be given. -/
def decoded : HttpRequest :=
  { request.message.decoded with method := request.method }

theorem message_decoded : request.message.decoded = request.decoded := by
  have parsed : parseMethod request.method.token = some request.method :=
    (parseMethod_eq_some_iff _ _).mpr rfl
  change HttpRequest.mk ((parseMethod request.method.token).getD .get) _ _ _ _ = _
  rw [parsed]
  rfl

/-- The verdict on a well-formed request is a call of the first route for it,
with its parts. -/
theorem message_verdict {server : Registrations} {route : Route}
    (first : server.routes.find?
      (Registrations.Answers request.method (pathOf request.target) ·) = some route) :
    request.message.verdict server = .call route request.decoded := by
  have parsed : parseMethod request.message.token = some request.method :=
    (parseMethod_eq_some_iff _ _).mpr rfl
  have matched := Registrations.matchRoute_first first
  rw [Message.verdict, parsed, message_decoded]
  change (server.matchRoute (pathOf request.message.target) request.method true).1 = _ at matched
  cases result : server.matchRoute (pathOf request.message.target) request.method true with
  | mk found pathExists =>
      rw [result] at matched
      change found = some route at matched
      subst matched
      simp only [Option.getD_some, Option.isSome_some, result]

end WellFormedRequest

/-- On every platform, a well-formed request that fits is answered by one call
of the first route for its method and path, with its parts, however the network
cuts it and whatever comes after it. -/
theorem serveConnection_wellFormed (platform : Platform) (server : Registrations)
    (application : Application) (stack : Option CString) {buffer : List UInt8}
    (size : buffer.length = httpServerMaxRequestSize) (request : WellFormedRequest)
    (fits : request.bytes.length ≤ httpServerMaxRequestSize - 1)
    {segments : List (List UInt8)} (split : Splits segments request.bytes)
    (rest : List RecvResult) (script : List SendResult) {route : Route}
    (first : server.routes.find?
      (Registrations.Answers request.method (pathOf request.target) ·) = some route) :
    ∃ events,
      serveConnection platform server application stack buffer (segments.map .received ++ rest)
        script = .done events ∧
      invocations events = [(route, request.decoded)] := by
  refine ⟨reply platform.write application stack script (.call route request.decoded), ?_, rfl⟩
  rw [← request.message_verdict first]
  exact serveConnection_message platform server application stack size request.message fits split
    rest script

/-! ## A binary upload -/

/-- A request whose body holds a zero byte and a blank line. -/
def binaryUpload : WellFormedRequest where
  method := .post
  target := ascii "/file?name"
  version := some (ascii "HTTP/1.1")
  before := [⟨ascii "Host: board", by decide +kernel, by decide +kernel, by decide +kernel⟩]
  length := some
    { name := ascii "content-LENGTH:"
      blanks := [32]
      digits := ascii "05"
      trailing := []
      name_is := by decide +kernel
      blanks_are := by decide +kernel
      digits_are := by decide +kernel
      digits_nonempty := by decide
      trailing_are := by decide +kernel }
  after := []
  body := [0, 13, 10, 13, 10]
  target_is := by decide +kernel
  version_is := by
    intro text same
    cases same
    decide +kernel
  body_is := by decide +kernel

def uploadRoute : Route where
  method := .post
  path := CString.literal "/file"
  callback := 1
  context := 0

def uploadServer : Registrations where
  routes := [uploadRoute]
  defaultRoute := none
  bounded := by decide

/-- The upload, cut inside its numeral and inside the blank line in its body. -/
theorem serveConnection_binaryUpload :
    ∃ events,
      serveConnection .rp2040 uploadServer (fun _ _ _ => ⟨none, none, none, none, none⟩) none
        (List.replicate 2048 170)
        ([binaryUpload.bytes.take 56, (binaryUpload.bytes.drop 56).take 8,
          binaryUpload.bytes.drop 64].map .received ++ [.failed]) [.accepted 256] = .done events ∧
      invocations events = [(uploadRoute, binaryUpload.decoded)] :=
  serveConnection_wellFormed .rp2040 uploadServer _ none List.length_replicate binaryUpload
    (by decide) ⟨by decide, by decide⟩ [.failed] [.accepted 256] (by decide)

end Server
end NetLL