import NetLL.Server.Interface

namespace NetLL
namespace Server

/-!
# Registrations and route matching

The first `routeCount` entries of the route table are the list of routes, and
its bound is a field of the record, so no sequence of registrations overflows
the table.  `defaultRoute` is present exactly when `useDefaultRoute` is set.
-/

/-- The registration state of a server. -/
structure Registrations where
  routes : List Route
  defaultRoute : Option Route
  bounded : routes.length ≤ httpServerMaxRoutes
deriving DecidableEq

namespace Registrations

/-- The static storage before any call. -/
def initial : Registrations where
  routes := []
  defaultRoute := none
  bounded := Nat.zero_le _

/-- `HttpServerSetDefaultEndpoint`, with null pointers as `none`. -/
def httpServerSetDefaultEndpoint (server : Registrations) (method : HttpMethod)
    (path : Option CString) (callback : Option HttpEndpointCallback) (context : Context) :
    Bool × Registrations :=
  match path, callback with
  | some path, some callback =>
      if server.routes.length < httpServerMaxRoutes then
        (true, { server with defaultRoute := some { method, path, callback, context } })
      else (false, server)
  | _, _ => (false, server)

/-- `HttpServerRegisterEndpoint`, with null pointers as `none`. -/
def httpServerRegisterEndpoint (server : Registrations) (method : HttpMethod)
    (path : Option CString) (callback : Option HttpEndpointCallback) (context : Context) :
    Bool × Registrations :=
  match path, callback with
  | some path, some callback =>
      if room : server.routes.length < httpServerMaxRoutes then
        (true,
          { server with
            routes := server.routes ++ [{ method, path, callback, context }]
            bounded := by
              rw [List.length_append, List.length_singleton]
              exact room })
      else (false, server)
  | _, _ => (false, server)

/-- The loop of `MatchRoute` over the routes still to be looked at. -/
def scanRoutes (path : List UInt8) (method : HttpMethod) (methodKnown : Bool) :
    List Route → Bool → Option Route × Bool
  | [], pathExists => (none, pathExists)
  | route :: rest, pathExists =>
      if route.path.bytes ≠ path then scanRoutes path method methodKnown rest pathExists
      else if methodKnown && decide (route.method = method) then (some route, true)
      else scanRoutes path method methodKnown rest true

/-- `MatchRoute`: the route, if any, and the value left in `pathExists`. -/
def matchRoute (server : Registrations) (path : List UInt8) (method : HttpMethod)
    (methodKnown : Bool) : Option Route × Bool :=
  match scanRoutes path method methodKnown server.routes false with
  | (some route, pathExists) => (some route, pathExists)
  | (none, pathExists) => (server.defaultRoute, pathExists)

/-- The route answers this method and path. -/
def Answers (method : HttpMethod) (path : List UInt8) (route : Route) : Prop :=
  route.path.bytes = path ∧ route.method = method

instance (method : HttpMethod) (path : List UInt8) : DecidablePred (Answers method path) :=
  fun route => inferInstanceAs (Decidable (route.path.bytes = path ∧ route.method = method))

/-- The scan stops at the first route for the path and the known method, and
otherwise has seen whether the path exists. -/
theorem scanRoutes_eq (path : List UInt8) (method : HttpMethod) (methodKnown : Bool)
    (routes : List Route) (pathExists : Bool) :
    scanRoutes path method methodKnown routes pathExists =
      match routes.find? (fun route => methodKnown && decide (Answers method path route)) with
      | some route => (some route, true)
      | none => (none, pathExists || routes.any fun route => decide (route.path.bytes = path)) := by
  induction routes generalizing pathExists with
  | nil => rw [scanRoutes, List.find?_nil, List.any_nil, Bool.or_false]
  | cons route rest inductionHypothesis =>
      rw [scanRoutes, List.find?_cons]
      by_cases samePath : route.path.bytes = path
      · cases methodKnown with
        | false => simp [samePath, inductionHypothesis]
        | true =>
            by_cases sameMethod : route.method = method
            · simp [Answers, samePath, sameMethod]
            · simp [Answers, samePath, sameMethod, inductionHypothesis]
      · simp [Answers, samePath, inductionHypothesis]

/-- Behind the scan the default endpoint is used, if one is set. -/
theorem matchRoute_eq (server : Registrations) (path : List UInt8) (method : HttpMethod)
    (methodKnown : Bool) :
    server.matchRoute path method methodKnown =
      match server.routes.find? (fun route => methodKnown && decide (Answers method path route)) with
      | some route => (some route, true)
      | none => (server.defaultRoute,
          server.routes.any fun route => decide (route.path.bytes = path)) := by
  rw [matchRoute, scanRoutes_eq]
  cases server.routes.find? (fun route => methodKnown && decide (Answers method path route)) with
  | none => simp only [Bool.false_or]
  | some route => rfl

/-- The first route for a known method and path is matched, whether or not a
default endpoint is set. -/
theorem matchRoute_first {server : Registrations} {path : List UInt8} {method : HttpMethod}
    {route : Route} (first : server.routes.find? (Answers method path ·) = some route) :
    (server.matchRoute path method true).1 = some route := by
  rw [matchRoute_eq]
  simp only [Bool.true_and, first]

end Registrations

end Server
end NetLL
