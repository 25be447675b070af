import NetLL.Server.Registration

namespace NetLL
namespace Server

/-!
# The default endpoint among the registrations

Setting the default endpoint stores no entry in the route table, but it asks
for room in the table as registering an endpoint does.  So it matters where
among the registrations it stands, exactly when they fill the table.
-/

/-- The arguments of `HttpServerRegisterEndpoint`. -/
structure Endpoint where
  method : HttpMethod
  path : Option CString
  callback : Option HttpEndpointCallback
  context : Context
deriving DecidableEq

namespace Endpoint

/-- The call of `HttpServerRegisterEndpoint`. -/
def register (endpoint : Endpoint) : RegistrationCall :=
  .registerEndpoint endpoint.method endpoint.path endpoint.callback endpoint.context

/-- Neither the path nor the callback is null. -/
def IsValid (endpoint : Endpoint) : Prop :=
  endpoint.path ≠ none ∧ endpoint.callback ≠ none

instance : DecidablePred IsValid := fun endpoint =>
  inferInstanceAs (Decidable (endpoint.path ≠ none ∧ endpoint.callback ≠ none))

end Endpoint

namespace Registrations

/-- What the calls return, in order. -/
def returns (server : Registrations) : List RegistrationCall → List Bool
  | [] => []
  | call :: rest => (server.call call).1 :: (server.call call).2.returns rest

/-- A default call can be inserted anywhere: its result, the results of the
registrations and the routing of every request are always the same. -/
structure Independent (server : Registrations) (endpoints : List Endpoint) (route : Route) :
    Prop where
  result : ∀ front back first last, endpoints = front ++ back → endpoints = first ++ last →
    ((server.calls (front.map Endpoint.register)).call
        (.setDefaultEndpoint route.method (some route.path) (some route.callback)
          route.context)).1 =
      ((server.calls (first.map Endpoint.register)).call
        (.setDefaultEndpoint route.method (some route.path) (some route.callback)
          route.context)).1
  returns : ∀ front back, endpoints = front ++ back →
    server.returns (front.map Endpoint.register) ++
        ((server.calls (front.map Endpoint.register)).call
          (.setDefaultEndpoint route.method (some route.path) (some route.callback)
            route.context)).2.returns (back.map Endpoint.register) =
      server.returns (endpoints.map Endpoint.register)
  routing : ∀ front back first last, endpoints = front ++ back → endpoints = first ++ last →
    (server.calls (front.map Endpoint.register ++
        .setDefaultEndpoint route.method (some route.path) (some route.callback) route.context ::
          back.map Endpoint.register)).matchRoute =
      (server.calls (first.map Endpoint.register ++
        .setDefaultEndpoint route.method (some route.path) (some route.callback) route.context ::
          last.map Endpoint.register)).matchRoute

/-- The registrations leave room in the table, or there was none before. -/
def NotFilledBy (server : Registrations) (endpoints : List Endpoint) : Prop :=
  server.routes.length + endpoints.countP (fun endpoint => decide endpoint.IsValid) <
      httpServerMaxRoutes ∨
    server.routes.length = httpServerMaxRoutes

/-! ## Setting and registering -/

/-- The server with another default endpoint. -/
def withDefault (server : Registrations) (route : Route) : Registrations :=
  { server with defaultRoute := some route }

theorem call_setDefault (server : Registrations) (route : Route) :
    server.call (.setDefaultEndpoint route.method (some route.path) (some route.callback)
        route.context) =
      if server.routes.length < httpServerMaxRoutes then (true, server.withDefault route)
      else (false, server) :=
  rfl

/-- Registering does not look at the default endpoint. -/
theorem withDefault_call (server : Registrations) (route : Route) (endpoint : Endpoint) :
    (server.withDefault route).call endpoint.register =
      ((server.call endpoint.register).1, (server.call endpoint.register).2.withDefault route) := by
  unfold Endpoint.register call httpServerRegisterEndpoint
  cases endpoint.path with
  | none => rfl
  | some path =>
      cases endpoint.callback with
      | none => rfl
      | some callback =>
          by_cases room : server.routes.length < httpServerMaxRoutes
          · have same : (server.withDefault route).routes.length < httpServerMaxRoutes := room
            simp only [dif_pos room, dif_pos same]
            rfl
          · have same : ¬ (server.withDefault route).routes.length < httpServerMaxRoutes := room
            simp only [dif_neg room, dif_neg same]

theorem withDefault_calls (server : Registrations) (route : Route) (endpoints : List Endpoint) :
    (server.withDefault route).calls (endpoints.map Endpoint.register) =
      (server.calls (endpoints.map Endpoint.register)).withDefault route := by
  induction endpoints generalizing server with
  | nil => rfl
  | cons endpoint rest inductionHypothesis =>
      rw [List.map_cons, calls, calls, withDefault_call]
      exact inductionHypothesis _

theorem withDefault_returns (server : Registrations) (route : Route) (endpoints : List Endpoint) :
    (server.withDefault route).returns (endpoints.map Endpoint.register) =
      server.returns (endpoints.map Endpoint.register) := by
  induction endpoints generalizing server with
  | nil => rfl
  | cons endpoint rest inductionHypothesis =>
      rw [List.map_cons, returns, returns, withDefault_call]
      congr 1
      exact inductionHypothesis _

theorem returns_append (server : Registrations) (first second : List RegistrationCall) :
    server.returns (first ++ second) =
      server.returns first ++ (server.calls first).returns second := by
  induction first generalizing server with
  | nil => rfl
  | cons call rest inductionHypothesis =>
      rw [List.cons_append, returns, returns, List.cons_append, inductionHypothesis]
      rfl

theorem length_call_register (server : Registrations) (endpoint : Endpoint) :
    (server.call endpoint.register).2.routes.length =
      min httpServerMaxRoutes
        (server.routes.length + if endpoint.IsValid then 1 else 0) := by
  have bounded := server.bounded
  rcases endpoint with ⟨method, path, callback, context⟩
  cases path with
  | none => exact (Nat.min_eq_right bounded).symm
  | some path =>
      cases callback with
      | none => exact (Nat.min_eq_right bounded).symm
      | some callback =>
          have valid : Endpoint.IsValid ⟨method, some path, some callback, context⟩ :=
            ⟨Option.some_ne_none _, Option.some_ne_none _⟩
          rw [if_pos valid]
          simp only [Endpoint.register, call, httpServerRegisterEndpoint]
          split
          · simp only [List.length_append, List.length_singleton]
            omega
          · simp only
            omega

theorem length_calls_register (server : Registrations) (endpoints : List Endpoint) :
    (server.calls (endpoints.map Endpoint.register)).routes.length =
      min httpServerMaxRoutes
        (server.routes.length + endpoints.countP fun endpoint => decide endpoint.IsValid) := by
  induction endpoints generalizing server with
  | nil => exact (Nat.min_eq_right server.bounded).symm
  | cons endpoint rest inductionHypothesis =>
      rw [List.map_cons, calls, inductionHypothesis, length_call_register, List.countP_cons]
      simp only [decide_eq_true_eq]
      split <;> omega

/-! ## The condition -/

section

variable {server : Registrations} {endpoints front back : List Endpoint}

theorem room_of_front (split : endpoints = front ++ back)
    (room : server.routes.length + endpoints.countP (fun endpoint => decide endpoint.IsValid) <
      httpServerMaxRoutes) :
    (server.calls (front.map Endpoint.register)).routes.length < httpServerMaxRoutes := by
  rw [length_calls_register]
  rw [split, List.countP_append] at room
  omega

theorem full_of_front (full : server.routes.length = httpServerMaxRoutes) :
    ¬ (server.calls (front.map Endpoint.register)).routes.length < httpServerMaxRoutes := by
  rw [length_calls_register]
  omega

/-- A default call in front of the room's end sets the default endpoint of
whatever the registrations make. -/
theorem calls_insert (split : endpoints = front ++ back) (route : Route)
    (room : (server.calls (front.map Endpoint.register)).routes.length < httpServerMaxRoutes) :
    server.calls (front.map Endpoint.register ++
        .setDefaultEndpoint route.method (some route.path) (some route.callback) route.context ::
          back.map Endpoint.register) =
      (server.calls (endpoints.map Endpoint.register)).withDefault route := by
  rw [calls_append, calls, call_setDefault, if_pos room, withDefault_calls, ← calls_append,
    ← List.map_append, split]

/-- A default call behind the room's end changes nothing. -/
theorem calls_insert_full (split : endpoints = front ++ back) (route : Route)
    (full : ¬ (server.calls (front.map Endpoint.register)).routes.length < httpServerMaxRoutes) :
    server.calls (front.map Endpoint.register ++
        .setDefaultEndpoint route.method (some route.path) (some route.callback) route.context ::
          back.map Endpoint.register) =
      server.calls (endpoints.map Endpoint.register) := by
  rw [calls_append, calls, call_setDefault, if_neg full, ← calls_append, ← List.map_append, split]

/-- Wherever it stands, a default call leaves the other results alone. -/
theorem returns_insert (server : Registrations) (split : endpoints = front ++ back)
    (route : Route) :
    server.returns (front.map Endpoint.register) ++
        ((server.calls (front.map Endpoint.register)).call
          (.setDefaultEndpoint route.method (some route.path) (some route.callback)
            route.context)).2.returns (back.map Endpoint.register) =
      server.returns (endpoints.map Endpoint.register) := by
  rw [call_setDefault, split, List.map_append, returns_append]
  congr 1
  split
  · exact withDefault_returns _ route back
  · rfl

end

/-- Setting the default endpoint is independent of the registrations exactly
when these do not fill the table. -/
theorem independent_iff (server : Registrations) (endpoints : List Endpoint) (route : Route) :
    server.Independent endpoints route ↔ server.NotFilledBy endpoints := by
  constructor
  · intro independent
    by_contra filled
    rw [NotFilledBy, not_or] at filled
    have bounded := server.bounded
    have before : (server.calls (([] : List Endpoint).map Endpoint.register)).routes.length <
        httpServerMaxRoutes := by
      change server.routes.length < httpServerMaxRoutes
      omega
    have after : ¬ (server.calls (endpoints.map Endpoint.register)).routes.length <
        httpServerMaxRoutes := by
      rw [length_calls_register]
      omega
    have same := independent.result [] endpoints endpoints [] rfl (List.append_nil _).symm
    rw [call_setDefault, call_setDefault, if_pos before, if_neg after] at same
    cases same
  · rintro (room | full)
    · refine ⟨?_, fun front back split => returns_insert server split route, ?_⟩
      · intro front back first last split other
        rw [call_setDefault, call_setDefault, if_pos (room_of_front split room),
          if_pos (room_of_front other room)]
      · intro front back first last split other
        rw [calls_insert split route (room_of_front split room),
          calls_insert other route (room_of_front other room)]
    · refine ⟨?_, fun front back split => returns_insert server split route, ?_⟩
      · intro front back first last _ _
        rw [call_setDefault, call_setDefault, if_neg (full_of_front full),
          if_neg (full_of_front full)]
      · intro front back first last split other
        rw [calls_insert_full split route (full_of_front full),
          calls_insert_full other route (full_of_front full)]

/-! ## A table that is just filled -/

/-- As many endpoints as the table has entries. -/
def eightEndpoints : List Endpoint :=
  List.replicate 8 ⟨.get, some (.literal "/file"), some 1, 1⟩

/-- In front of them the default endpoint is set and called.  Behind them it
is refused, and the same request has no route. -/
theorem default_refused_behind :
    (Registrations.initial.call
        (.setDefaultEndpoint .get (some (.literal "/")) (some 2) 2)).1 = true ∧
      ((Registrations.initial.calls (eightEndpoints.map Endpoint.register)).call
        (.setDefaultEndpoint .get (some (.literal "/")) (some 2) 2)).1 = false ∧
      ((Registrations.initial.calls (.setDefaultEndpoint .get (some (.literal "/")) (some 2) 2 ::
        eightEndpoints.map Endpoint.register)).matchRoute (ascii "/other") .get true).1 =
          some ⟨.get, .literal "/", 2, 2⟩ ∧
      ((Registrations.initial.calls (eightEndpoints.map Endpoint.register ++
        [.setDefaultEndpoint .get (some (.literal "/")) (some 2) 2])).matchRoute
          (ascii "/other") .get true).1 = none ∧
      ¬ Registrations.initial.Independent eightEndpoints ⟨.get, .literal "/", 2, 2⟩ := by
  refine ⟨by decide +kernel, by decide +kernel, by decide +kernel, by decide +kernel, ?_⟩
  intro independent
  have same := independent.result [] eightEndpoints eightEndpoints [] rfl (List.append_nil _).symm
  revert same
  decide +kernel

end Registrations

end Server
end NetLL
