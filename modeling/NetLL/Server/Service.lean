import NetLL.Server.Refinement
import NetLL.Server.Verdict

namespace NetLL
namespace Server

/-!
# One server with a platform

Serving a connection is reading a request, judging it, and replying.  The
three servers differ in the word, in the policy of the reader, and in the
writer.  Everything else is the same text, so the connection of any of them is
the announcement of one decision, which is a function of the bytes received
and of the registrations.
-/

inductive Platform where
  | simulator
  | esp32
  | rp2040
deriving DecidableEq, Repr

namespace Platform

/-- The modulus of `size_t` and `unsigned long`. -/
def modulus : Platform → Nat
  | simulator => 2 ^ 64
  | esp32 => 2 ^ 32
  | rp2040 => 2 ^ 32

def policy : Platform → Policy
  | simulator => Posix.policy (2 ^ 64)
  | esp32 => Posix.policy (2 ^ 32)
  | rp2040 => RP2040.policy

def write : Platform → List SendResult → HttpResponse → Written
  | simulator => writeResponse
  | esp32 => writeResponse
  | rp2040 => sendResponse

/-- What puts the bytes of a response on the socket. -/
def writer : Platform → Writer
  | simulator => writeAll
  | esp32 => writeAll
  | rp2040 => sendBytes

theorem write_eq (platform : Platform) : platform.write = writeResponseWith platform.writer := by
  cases platform <;> rfl

theorem writer_sends (platform : Platform) : platform.writer.Sends := by
  cases platform with
  | simulator => exact writeAll_sends
  | esp32 => exact writeAll_sends
  | rp2040 => exact sendBytes_sends

theorem policy_modulus (platform : Platform) : platform.policy.modulus = platform.modulus := by
  cases platform <;> rfl

theorem modulus_large (platform : Platform) : 2 * httpServerMaxRequestSize ≤ platform.modulus := by
  cases platform <;> decide

theorem ten_le_modulus (platform : Platform) : 10 ≤ platform.modulus :=
  Nat.le_trans (by decide) platform.modulus_large

theorem capacity_lt_modulus (platform : Platform) : capacity < platform.modulus :=
  Nat.lt_of_lt_of_le (by decide) platform.modulus_large

theorem target_of_fits (platform : Platform) {header : Header}
    (fits : header.headerEnd + header.announced ≤ capacity) :
    platform.policy.target header = some (header.headerEnd + header.announced) := by
  have posix (modulus : Nat) : (Posix.policy modulus).target header =
      some (header.headerEnd + header.announced) := if_neg (by omega)
  cases platform with
  | simulator => exact posix _
  | esp32 => exact posix _
  | rp2040 =>
      have word : capacity < RP2040.sizeModulus := by decide
      have sum : Word.add RP2040.sizeModulus header.headerEnd header.announced =
          header.headerEnd + header.announced := Word.add_of_lt (by omega)
      change (if _ then none else some _) = _
      rw [sum, if_neg (by omega)]

theorem target_le_sum (platform : Platform) {header : Header} {target : Nat}
    (wanted : platform.policy.target header = some target) :
    target ≤ header.headerEnd + header.announced := by
  have posix {modulus : Nat} (wanted : (Posix.policy modulus).target header = some target) :
      target ≤ header.headerEnd + header.announced := by
    change (if _ then none else some _) = _ at wanted
    split at wanted
    · cases wanted
    · cases wanted
      exact Nat.le_refl _
  cases platform with
  | simulator => exact posix wanted
  | esp32 => exact posix wanted
  | rp2040 =>
      change (if _ then none else some _) = _ at wanted
      split at wanted
      · cases wanted
      · cases wanted
        exact Nat.mod_le _ _

end Platform

/-- What one accepted connection makes visible.  The static request buffer of
the Simulator and of ESP32 holds what earlier connections left in it. -/
def serveConnection (platform : Platform) (server : Registrations) (application : Application)
    (stack : Option CString) (buffer : List UInt8) (results : List RecvResult)
    (script : List SendResult) : Exec (List Event) :=
  match platform with
  | .simulator => Posix.serveConnection (2 ^ 64) server application stack buffer results script
  | .esp32 => Posix.serveConnection (2 ^ 32) server application stack buffer results script
  | .rp2040 => RP2040.serveConnection server application stack results script

/-- The verdict on what was read; `none` is a connection that is closed
without an answer. -/
def settle (server : Registrations) : Reading → Exec (Option Verdict)
  | .refused => .done (some (.refusal 413))
  | .dropped => .done none
  | .complete bytes headerEnd bodyLength => do
      let verdict ← judge server (bytes ++ [0]) headerEnd bodyLength
      return some verdict

/-- The verdict on what a platform received. -/
def decision (platform : Platform) (server : Registrations) (results : List RecvResult) :
    Exec (Option Verdict) :=
  platform.policy.gather results >>= settle server

/-- The events of a decision. -/
def announce (write : List SendResult → HttpResponse → Written) (application : Application)
    (stack : Option CString) (script : List SendResult) : Option Verdict → List Event
  | none => []
  | some verdict => reply write application stack script verdict

theorem sentBytes_reply (platform : Platform) (application : Application) (stack : Option CString)
    (script : List SendResult) (verdict : Verdict) :
    sentBytes (reply platform.write application stack script verdict) =
      (platform.write script (verdict.response application stack)).bytes := by
  cases verdict with
  | refusal statusCode => exact List.append_nil _
  | call route request => exact List.append_nil _

theorem sentBytes_announce (platform : Platform) (application : Application)
    (stack : Option CString) (script : List SendResult) (verdict : Verdict) :
    sentBytes (announce platform.write application stack script (some verdict)) =
      (platform.write script (verdict.response application stack)).bytes :=
  sentBytes_reply platform application stack script verdict

/-! ## The servers give the verdict -/

/-- The end of `DispatchRoute` and of `DispatchRequest`, with the writer of the
platform. -/
def dispatchWith (write : List SendResult → HttpResponse → Written) (application : Application)
    (stack : Option CString) (script : List SendResult) (bodyOffset bodyLength : Nat)
    (route : Route) (line : RequestLine) (method : HttpMethod) : Exec (List Event) := do
  let buffer ← Memory.write line.buffer (bodyOffset + bodyLength) [0]
  let path ← Memory.cstring buffer line.path
  let query ← match line.query with
    | none => pure none
    | some query => do
        let string ← Memory.cstring buffer query
        pure (some string)
  let shownLength := bodyLength % 2 ^ 16
  let body ← Memory.slice buffer bodyOffset shownLength
  let request : HttpRequest := { method, path, query, body, bodyLength := shownLength }
  let update := application route.callback request route.context
  let response := update.apply (initialResponse stack)
  return [.invoked route request, .sent (write script response).bytes]

/-- The request that is dispatched is the callback's view, and the response is
the reply. -/
theorem dispatchWith_eq (write : List SendResult → HttpResponse → Written)
    (application : Application) (stack : Option CString) (script : List SendResult)
    (bodyOffset bodyLength : Nat) (route : Route) (line : RequestLine) (method : HttpMethod) :
    dispatchWith write application stack script bodyOffset bodyLength route line method =
      (viewRequest line method bodyOffset bodyLength >>= fun request =>
        .done (.call route request)) >>= fun verdict =>
          .done (reply write application stack script verdict) := by
  unfold dispatchWith viewRequest
  cases line.query <;> simp only [Exec.bind_assoc, Exec.pure_eq, Exec.done_bind, reply]

/-- Routing a complete request and answering it in this way is announcing the
verdict on it. -/
theorem routeWith_announces (write : List SendResult → HttpResponse → Written)
    (server : Registrations) (application : Application) (stack : Option CString)
    (script : List SendResult) (memory : List UInt8) (bodyOffset bodyLength : Nat) :
    routeWith (writeStatusOnly write stack script)
        (dispatchWith write application stack script bodyOffset bodyLength) server memory =
      judge server memory bodyOffset bodyLength >>= fun verdict =>
        .done (reply write application stack script verdict) := by
  rw [judge_eq_routeWith]
  have refuses (statusCode : UInt16) : writeStatusOnly write stack script statusCode =
      reply write application stack script (.refusal statusCode) := rfl
  have dispatches := dispatchWith_eq write application stack script bodyOffset bodyLength
  exact routeWith_bind (reply write application stack script) refuses dispatches server memory

/-- What the Simulator and ESP32 do with a complete request. -/
theorem posix_judges (server : Registrations) (application : Application)
    (stack : Option CString) (script : List SendResult) (buffer : List UInt8)
    (bodyOffset bodyLength : Nat) :
    (do
      match ← parseRequestLine buffer with
      | none => return writeStatusOnly writeResponse stack script 400
      | some line =>
          let methodToken ← Memory.cstring line.buffer line.method
          let path ← Memory.cstring line.buffer line.path
          let parsed := parseMethod methodToken
          let method := parsed.getD .get
          match server.matchRoute path method parsed.isSome with
          | (none, pathExists) =>
              return writeStatusOnly writeResponse stack script (if pathExists then 405 else 404)
          | (some route, _) =>
              Posix.dispatchRoute application stack script route method line bodyOffset bodyLength) =
      judge server buffer bodyOffset bodyLength >>= fun verdict =>
        .done (reply writeResponse application stack script verdict) :=
  routeWith_announces writeResponse server application stack script buffer bodyOffset bodyLength

/-- What RP2040 does with a complete request. -/
theorem rp2040_judges (server : Registrations) (application : Application)
    (stack : Option CString) (script : List SendResult)
    (connection : RP2040.ConnectionContext) {bodyLength : Nat}
    (clamped : bodyLength =
      if Word.sub RP2040.sizeModulus connection.requestLength connection.headerLength <
          connection.expectedBodyLength then
        Word.sub RP2040.sizeModulus connection.requestLength connection.headerLength
      else connection.expectedBodyLength) :
    RP2040.dispatchRequest server application stack script connection =
      judge server connection.requestBuffer connection.headerLength bodyLength >>= fun verdict =>
        .done (reply sendResponse application stack script verdict) := by
  rw [clamped]
  exact routeWith_announces sendResponse server application stack script connection.requestBuffer
    connection.headerLength _

/-- Serving a connection is announcing the decision on what was received.
What the static buffer held before has no part in it. -/
theorem serveConnection_eq (platform : Platform) (server : Registrations)
    (application : Application) (stack : Option CString) {buffer : List UInt8}
    (size : buffer.length = httpServerMaxRequestSize) (results : List RecvResult)
    (script : List SendResult) :
    serveConnection platform server application stack buffer results script =
      decision platform server results >>= fun verdict =>
        .done (announce platform.write application stack script verdict) := by
  have posix {modulus : Nat} (large : 2 * httpServerMaxRequestSize ≤ modulus) :
      Posix.serveConnection modulus server application stack buffer results script =
        (Posix.policy modulus).gather results >>= settle server >>= fun verdict =>
          .done (announce writeResponse application stack script verdict) := by
    rw [Exec.bind_assoc]
    apply (Posix.readRequest_related large size results).bind_eq
    intro left right yields
    cases yields with
    | refused => rfl
    | complete holds header_pos inside =>
        rcases holds.terminated (by rintro rfl; simp at inside; omega) with ⟨stale, split⟩
        rcases judge_append server inside with ⟨verdict, judged⟩
        refine (posix_judges server application stack script _ _ _).trans ?_
        rw [split, judged]
        simp only [settle, judged, Exec.done_bind, Exec.pure_eq, announce]
  have rp2040 : RP2040.serveConnection server application stack results script =
      RP2040.policy.gather results >>= settle server >>= fun verdict =>
        .done (announce sendResponse application stack script verdict) := by
    rw [Exec.bind_assoc]
    apply (RP2040.serveLoop_related results).bind_eq
    intro left right departs
    cases departs with
    | tooLarge => rfl
    | closed => rfl
    | @dispatch connection bytes header describes =>
        rcases describes.noticed header rfl with ⟨_, headerEnd, announced, inside, positive⟩
        have room := describes.holds.room
        have received : connection.requestLength = bytes.length := describes.received
        change header.headerEnd ≤ bytes.length at inside
        change bytes.length ≤ capacity at room
        have word : capacity < RP2040.sizeModulus := by decide
        have clamped : min (bytes.length - header.headerEnd) header.announced =
            if Word.sub RP2040.sizeModulus connection.requestLength connection.headerLength <
                connection.expectedBodyLength then
              Word.sub RP2040.sizeModulus connection.requestLength connection.headerLength
            else connection.expectedBodyLength := by
          rw [received, headerEnd, announced, Word.sub_of_le inside (by omega)]
          split <;> omega
        have fits : header.headerEnd + min (bytes.length - header.headerEnd) header.announced ≤
            bytes.length := by omega
        rcases describes.holds.terminated
          (by rintro rfl; simp at inside; omega) with ⟨stale, split⟩
        rcases judge_append server fits with ⟨verdict, judged⟩
        change connection.requestBuffer = bytes ++ 0 :: stale at split
        refine (rp2040_judges server application stack script connection clamped).trans ?_
        rw [split, headerEnd, judged]
        simp only [Header.reading, settle, judged, Exec.done_bind, Exec.pure_eq, announce]
  cases platform with
  | simulator => exact posix (by decide)
  | esp32 => exact posix (by decide)
  | rp2040 => exact rp2040

/-! ## Complete requests -/

/-- A connection that is decided is answered from its verdict. -/
theorem serveConnection_decided {platform : Platform} {server : Registrations}
    {results : List RecvResult} {verdict : Verdict}
    (decided : decision platform server results = .done (some verdict))
    (application : Application) (stack : Option CString) {buffer : List UInt8}
    (size : buffer.length = httpServerMaxRequestSize) (script : List SendResult) :
    serveConnection platform server application stack buffer results script =
      .done (reply platform.write application stack script verdict) := by
  rw [serveConnection_eq platform server application stack size, decided]
  rfl

theorem decision_judged {platform : Platform} {server : Registrations}
    {results : List RecvResult} {verdict : Verdict} (refusal : verdict ≠ .refusal 413)
    (decided : decision platform server results = .done (some verdict)) :
    ∃ bytes headerEnd bodyLength,
      platform.policy.gather results = .done (.complete bytes headerEnd bodyLength) ∧
        judge server (bytes ++ [0]) headerEnd bodyLength = .done verdict := by
  rcases Exec.bind_eq_done_iff.mp decided with ⟨reading, gathered, settled⟩
  cases reading with
  | refused =>
      cases settled
      exact absurd rfl refusal
  | dropped => cases settled
  | complete bytes headerEnd bodyLength =>
      rcases Exec.bind_eq_done_iff.mp settled with ⟨other, judged, same⟩
      cases same
      exact ⟨bytes, headerEnd, bodyLength, gathered, judged⟩

/-- A complete request is decided as it is judged, whatever is registered. -/
theorem decision_complete {platform : Platform} {results : List RecvResult} {bytes : List UInt8}
    {headerEnd bodyLength : Nat}
    (gathered : platform.policy.gather results = .done (.complete bytes headerEnd bodyLength))
    (server : Registrations) :
    decision platform server results =
      judge server (bytes ++ [0]) headerEnd bodyLength >>= fun verdict => .done (some verdict) := by
  rw [decision, gathered]
  rfl

/-! ## What is visible shows the verdict -/

theorem reply_injective {write : List SendResult → HttpResponse → Written}
    {application : Application} {stack : Option CString} {script : List SendResult}
    {first second : Verdict}
    (same : reply write application stack script first =
      reply write application stack script second) : first = second := by
  cases first with
  | refusal statusCode =>
      cases second with
      | refusal other =>
          simp only [reply, writeStatusOnly, List.cons.injEq, Event.statusOnly.injEq] at same
          rw [same.1]
      | call route request => simp [reply, writeStatusOnly] at same
  | call route request =>
      cases second with
      | refusal other => simp [reply, writeStatusOnly] at same
      | call otherRoute other =>
          simp only [reply, List.cons.injEq, Event.invoked.injEq] at same
          rw [same.1.1, same.1.2]

theorem announce_injective {write : List SendResult → HttpResponse → Written}
    {application : Application} {stack : Option CString} {script : List SendResult}
    {first second : Option Verdict}
    (same : announce write application stack script first =
      announce write application stack script second) : first = second := by
  have answered (verdict : Verdict) : reply write application stack script verdict ≠ [] := by
    cases verdict <;> simp [reply, writeStatusOnly]
  cases first with
  | none =>
      cases second with
      | none => rfl
      | some verdict => exact absurd same.symm (answered verdict)
  | some verdict =>
      cases second with
      | none => exact absurd same (answered verdict)
      | some other => rw [reply_injective same]

/-- Two connections are alike exactly when they are decided alike. -/
theorem serveConnection_eq_iff (platform : Platform) (server : Registrations)
    (application : Application) (stack : Option CString) {buffer : List UInt8}
    (size : buffer.length = httpServerMaxRequestSize) (first second : List RecvResult)
    (script : List SendResult) :
    serveConnection platform server application stack buffer first script =
        serveConnection platform server application stack buffer second script ↔
      decision platform server first = decision platform server second := by
  rw [serveConnection_eq platform server application stack size,
    serveConnection_eq platform server application stack size]
  refine ⟨Exec.bind_done_injective fun _ _ => announce_injective, fun same => ?_⟩
  rw [same]

end Server
end NetLL
