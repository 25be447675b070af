import NetLL.Server.ContentLength
import NetLL.Server.RequestLine
import NetLL.Server.Response
import NetLL.Server.Routing

namespace NetLL
namespace Server
namespace RP2040

/-!
# The RP2040 server

One connection is served by one task from a context that is cleared when the
connection is accepted.  The header end, the announced length and the test for
completeness are functions over that context, and the loop has four ways out:
no space left, no more bytes, a request that does not fit, and a dispatch.
Every `recv` result that is not positive closes the connection unanswered.
-/

/-- The modulus of `size_t` on this platform. -/
def sizeModulus : Nat := 2 ^ 32

/-- `ConnectionContext`, with the fields of `ConnectionState` that are used. -/
structure ConnectionContext where
  requestBuffer : List UInt8
  requestLength : Nat
  headerLength : Nat
  expectedBodyLength : Nat
  headersComplete : Bool
deriving DecidableEq, Repr

/-- The context after the task's `memset`. -/
def ConnectionContext.cleared : ConnectionContext where
  requestBuffer := List.replicate httpServerMaxRequestSize 0
  requestLength := 0
  headerLength := 0
  expectedBodyLength := 0
  headersComplete := false

/-- `FindHeaderEnd`; `none` is the result false. -/
def findHeaderEnd (connection : ConnectionContext) : Exec (Option Nat) := do
  let headers ← Memory.cstring connection.requestBuffer 0
  return (Search.find headerSeparator headers).map (· + 4)

/-- `CompleteHeaders`. -/
def completeHeaders (connection : ConnectionContext) : Exec ConnectionContext := do
  match ← findHeaderEnd connection with
  | none => return connection
  | some headerLength =>
      let headers ← Memory.cstring connection.requestBuffer 0
      return { connection with
        headersComplete := true
        headerLength
        expectedBodyLength := contentLengthOf sizeModulus headers }

/-- `RequestIsComplete`. -/
def requestIsComplete (connection : ConnectionContext) : Bool :=
  connection.headersComplete &&
    decide (Word.add sizeModulus connection.headerLength connection.expectedBodyLength ≤
      connection.requestLength)

/-- `DispatchRequest`. -/
def dispatchRequest (server : Registrations) (application : Application)
    (stack : Option CString) (script : List SendResult) (connection : ConnectionContext) :
    Exec (List Event) := do
  match ← parseRequestLine connection.requestBuffer with
  | none => return writeStatusOnly sendResponse stack script 400
  | some line =>
      let methodToken ← Memory.cstring line.buffer line.method
      let path ← Memory.cstring line.buffer line.path
      let parsed := parseMethod methodToken
      let method := parsed.getD .get
      match server.matchRoute path method parsed.isSome with
      | (none, pathExists) =>
          return writeStatusOnly sendResponse stack script (if pathExists then 405 else 404)
      | (some route, _) =>
          let available :=
            Word.sub sizeModulus connection.requestLength connection.headerLength
          let bodyLength :=
            if available < connection.expectedBodyLength then available
            else connection.expectedBodyLength
          let buffer ← Memory.write line.buffer (connection.headerLength + bodyLength) [0]
          let path ← Memory.cstring buffer line.path
          let query ← match line.query with
            | none => pure none
            | some query => do
                let string ← Memory.cstring buffer query
                pure (some string)
          let shownLength := bodyLength % 2 ^ 16
          let body ← Memory.slice buffer connection.headerLength shownLength
          let request : HttpRequest := { method, path, query, body, bodyLength := shownLength }
          let update := application route.callback request route.context
          let response := update.apply (initialResponse stack)
          return [.invoked route request, .sent (sendResponse script response).bytes]

/-- The ways out of the loop of `ServeConnection`. -/
inductive Departure where
  | tooLarge
  | closed
  | dispatch (connection : ConnectionContext)
deriving DecidableEq, Repr

/-- One round of the loop of `ServeConnection`, after the test for space. -/
def serveRound (connection : ConnectionContext) (result : RecvResult) :
    Exec (Round ConnectionContext Departure) :=
  match result with
  | .interrupted => pure (.stop .closed)
  | .failed => pure (.stop .closed)
  | .received available => do
      let bytes := available.take (Word.sub sizeModulus capacity connection.requestLength)
      if bytes = [] then
        return .stop .closed
      let buffer ← Memory.write connection.requestBuffer connection.requestLength bytes
      let requestLength := connection.requestLength + bytes.length
      let buffer ← Memory.write buffer requestLength [0]
      let connection := { connection with requestBuffer := buffer, requestLength }
      let connection ←
        if connection.headersComplete then pure connection else completeHeaders connection
      if !connection.headersComplete then
        return .again connection
      if capacity < Word.add sizeModulus connection.headerLength connection.expectedBodyLength then
        return .stop .tooLarge
      if !requestIsComplete connection then
        return .again connection
      return .stop (.dispatch connection)

/-- `ServeConnection` on a context. -/
def serveContext (server : Registrations) (application : Application) (stack : Option CString)
    (connection : ConnectionContext) (results : List RecvResult) (script : List SendResult) :
    Exec (List Event) := do
  let departure ← Exec.loop
    (fun connection : ConnectionContext => decide (connection.requestLength < capacity))
    serveRound (fun _ => Departure.tooLarge) results connection
  match departure with
  | .tooLarge => return writeStatusOnly sendResponse stack script 413
  | .closed => return []
  | .dispatch connection => dispatchRequest server application stack script connection

/-- What `HttpServerTask` does with an accepted connection. -/
def serveConnection (server : Registrations) (application : Application)
    (stack : Option CString) (results : List RecvResult) (script : List SendResult) :
    Exec (List Event) :=
  serveContext server application stack .cleared results script

end RP2040
end Server
end NetLL
