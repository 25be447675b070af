import NetLL.Library.CString

namespace NetLL
namespace Server

/-!
# The server's interface

The types of `HttpServer.h`, shared by the Simulator, ESP32 and RP2040
servers, and the results the socket layer can hand back.

A request is what a callback may read through its pointers: the strings at
`Path` and `Query`, and the `BodyLength` bytes at `Body`.  A response is a
record of pointers, where a null pointer is `none`.  A callback is identified
by the address the application registered, and the application says what the
function at that address assigns through `response`.  A field it does not
assign keeps what it held before the call.
-/

/-- `HTTP_SERVER_MAX_REQUEST_SIZE`: the bytes of the request buffer. -/
def httpServerMaxRequestSize : Nat := 2048

/-- `capacity`: the request buffer without the byte kept for a terminator. -/
def capacity : Nat := httpServerMaxRequestSize - 1

/-- `HTTP_SERVER_MAX_ROUTES`: the entries of the route table. -/
def httpServerMaxRoutes : Nat := 8

inductive HttpMethod where
  | get
  | post
deriving DecidableEq, Repr

structure HttpRequest where
  method : HttpMethod
  path : List UInt8
  query : Option (List UInt8)
  body : List UInt8
  bodyLength : Nat
deriving DecidableEq, Repr

structure HttpResponse where
  statusCode : UInt16
  contentType : Option CString
  customHeader : Option CString
  body : Option (List UInt8)
  bodyLength : UInt32
deriving DecidableEq

/-- What one call of a callback assigns; `none` leaves the field alone. -/
structure ResponseUpdate where
  statusCode : Option UInt16
  contentType : Option (Option CString)
  customHeader : Option (Option CString)
  body : Option (Option (List UInt8))
  bodyLength : Option UInt32
deriving DecidableEq

/-- The record after the assignments. -/
def ResponseUpdate.apply (update : ResponseUpdate) (response : HttpResponse) : HttpResponse where
  statusCode := update.statusCode.getD response.statusCode
  contentType := update.contentType.getD response.contentType
  customHeader := update.customHeader.getD response.customHeader
  body := update.body.getD response.body
  bodyLength := update.bodyLength.getD response.bodyLength

/-- The address of an endpoint function. -/
abbrev HttpEndpointCallback := Nat

/-- The opaque pointer registered with an endpoint. -/
abbrev Context := Nat

/-- The functions of the application, by address. -/
abbrev Application := HttpEndpointCallback → HttpRequest → Context → ResponseUpdate

structure Route where
  method : HttpMethod
  path : CString
  callback : HttpEndpointCallback
  context : Context
deriving DecidableEq

/-! ## Socket results -/

/-- One result of `recv`.  No bytes is a result of zero, which is how the
peer's orderly close is reported. -/
inductive RecvResult where
  | received (bytes : List UInt8)
  | interrupted
  | failed
deriving DecidableEq, Repr

/-- One result of `send`.  The socket takes as many of the offered bytes as
the count says, and never more than were offered. -/
inductive SendResult where
  | accepted (count : Nat)
  | interrupted
  | failed
deriving DecidableEq, Repr

/-- What one connection makes visible, in order: callbacks that run, answers
that carry a status and its phrase only, and bytes the socket takes. -/
inductive Event where
  | invoked (route : Route) (request : HttpRequest)
  | statusOnly (statusCode : UInt16)
  | sent (bytes : List UInt8)
deriving DecidableEq

/-- The callbacks a connection runs, in order. -/
def invocations (events : List Event) : List (Route × HttpRequest) :=
  events.filterMap fun
    | .invoked route request => some (route, request)
    | _ => none

/-- The status-only answers a connection gives, in order. -/
def statuses (events : List Event) : List UInt16 :=
  events.filterMap fun
    | .statusOnly statusCode => some statusCode
    | _ => none

/-- The bytes a connection puts on its socket. -/
def sentBytes (events : List Event) : List UInt8 :=
  (events.map fun
    | .sent bytes => bytes
    | _ => []).flatten

end Server
end NetLL
