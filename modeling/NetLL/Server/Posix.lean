import NetLL.Server.ContentLength
import NetLL.Server.RequestLine
import NetLL.Server.Response
import NetLL.Server.Routing

namespace NetLL
namespace Server
namespace Posix

/-!
# The Simulator and ESP32 servers

The two files hold the same code.  They are compiled for different words:
`size_t` and `unsigned long` have 64 bits on the Simulator and 32 on ESP32, so
the modulus of the word is a parameter here.  The request buffer is static and
is not cleared between connections, so its contents are a parameter too.
-/

/-- The local variables of `ReadRequest`, and the buffer it fills. -/
structure ReadState where
  buffer : List UInt8
  received : Nat
  headerEnd : Nat
  announcedBody : Nat
  headersComplete : Bool
deriving DecidableEq, Repr

/-- The result of `ReadRequest`: false, or true with its three outputs. -/
inductive ReadResult where
  | refused
  | complete (buffer : List UInt8) (totalRead bodyOffset bodyLength : Nat)
deriving DecidableEq, Repr

/-- What follows the loop of `ReadRequest`. -/
def afterLoop (modulus : Nat) (state : ReadState) : ReadResult :=
  if state.headersComplete then
    .complete state.buffer state.received state.headerEnd
      (if Word.sub modulus state.received state.headerEnd < state.announcedBody then
        Word.sub modulus state.received state.headerEnd
      else state.announcedBody)
  else .refused

/-- One round of the loop of `ReadRequest`.  A `recv` of zero leaves the loop,
an interrupted one repeats it, and any other failure is a refusal. -/
def readRound (modulus : Nat) (state : ReadState) (result : RecvResult) :
    Exec (Round ReadState ReadResult) :=
  match result with
  | .interrupted => pure (.again state)
  | .failed => pure (.stop .refused)
  | .received available => do
      let bytes := available.take (Word.sub modulus capacity state.received)
      if bytes = [] then
        return .stop (afterLoop modulus state)
      let buffer ← Memory.write state.buffer state.received bytes
      let received := state.received + bytes.length
      let buffer ← Memory.write buffer received [0]
      let state := { state with buffer, received }
      if state.headersComplete then
        if Word.add modulus state.headerEnd state.announcedBody ≤ received then
          return .stop (afterLoop modulus state)
        return .again state
      let headers ← Memory.cstring buffer 0
      match Search.find headerSeparator headers with
      | none => return .again state
      | some separator =>
          let headerEnd := separator + 4
          let announcedBody := contentLengthOf modulus headers
          let state := { state with headersComplete := true, headerEnd, announcedBody }
          if Word.sub modulus capacity headerEnd < announcedBody then
            return .stop .refused
          if Word.add modulus headerEnd announcedBody ≤ received then
            return .stop (afterLoop modulus state)
          return .again state

/-- `ReadRequest`, with what the buffer holds from earlier connections. -/
def readRequest (modulus : Nat) (buffer : List UInt8) (results : List RecvResult) :
    Exec ReadResult :=
  Exec.loop (fun state : ReadState => decide (state.received < capacity)) (readRound modulus)
    (afterLoop modulus) results
    { buffer, received := 0, headerEnd := 0, announcedBody := 0, headersComplete := false }

/-- `DispatchRoute`: terminate the body in place, run the callback, and write
what it leaves in the response. -/
def dispatchRoute (application : Application) (stack : Option CString)
    (script : List SendResult) (route : Route) (method : HttpMethod) (line : RequestLine)
    (bodyOffset bodyLength : Nat) : Exec (List Event) := do
  let buffer ← Memory.write line.buffer (bodyOffset + bodyLength) [0]
  let path ← Memory.cstring buffer line.path
  let query ← match line.query with
    | none => pure none
    | some query => do
        let string ← Memory.cstring buffer query
        pure (some string)
  let shownLength := bodyLength % 2 ^ 16
  let body ← Memory.slice buffer bodyOffset shownLength
  let request : HttpRequest := { method, path, query, body, bodyLength := shownLength }
  let update := application route.callback request route.context
  let response := update.apply (initialResponse stack)
  return [.invoked route request, .sent (writeResponse script response).bytes]

/-- `ServeConnection`. -/
def serveConnection (modulus : Nat) (server : Registrations) (application : Application)
    (stack : Option CString) (buffer : List UInt8) (results : List RecvResult)
    (script : List SendResult) : Exec (List Event) := do
  match ← readRequest modulus buffer results with
  | .refused => return writeStatusOnly writeResponse stack script 413
  | .complete buffer _ bodyOffset bodyLength =>
      match ← parseRequestLine buffer with
      | none => return writeStatusOnly writeResponse stack script 400
      | some line =>
          let methodToken ← Memory.cstring line.buffer line.method
          let path ← Memory.cstring line.buffer line.path
          let parsed := parseMethod methodToken
          let method := parsed.getD .get
          match server.matchRoute path method parsed.isSome with
          | (none, pathExists) =>
              return writeStatusOnly writeResponse stack script (if pathExists then 405 else 404)
          | (some route, _) =>
              dispatchRoute application stack script route method line bodyOffset bodyLength

end Posix
end Server
end NetLL
