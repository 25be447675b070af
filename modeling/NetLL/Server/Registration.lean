import NetLL.Server.Message

namespace NetLL
namespace Server

/-!
# Routing follows the registrations

The application registers endpoints one by one, and each call succeeds or is
refused.  The abstract state of a server is the history of the calls that
succeeded: the endpoints in order, and the default endpoints in order.  The
table of the code holds exactly this history, and the route for a request is
read off it.
-/

/-- A registration call with its arguments, where null pointers are `none`. -/
inductive RegistrationCall where
  | setDefaultEndpoint (method : HttpMethod) (path : Option CString)
      (callback : Option HttpEndpointCallback) (context : Context)
  | registerEndpoint (method : HttpMethod) (path : Option CString)
      (callback : Option HttpEndpointCallback) (context : Context)
deriving DecidableEq

/-- The entry a call asks for. -/
def entryOf (method : HttpMethod) (path : Option CString)
    (callback : Option HttpEndpointCallback) (context : Context) : Option Route :=
  match path, callback with
  | some path, some callback => some { method, path, callback, context }
  | _, _ => none

namespace RegistrationCall

/-- The default endpoint that the call asks for. -/
def asDefault : RegistrationCall → Option Route
  | setDefaultEndpoint method path callback context => entryOf method path callback context
  | registerEndpoint _ _ _ _ => none

/-- The endpoint that the call asks for. -/
def asRoute : RegistrationCall → Option Route
  | setDefaultEndpoint _ _ _ _ => none
  | registerEndpoint method path callback context => entryOf method path callback context

end RegistrationCall

namespace Registrations

/-- One call, with its result. -/
def call (server : Registrations) : RegistrationCall → Bool × Registrations
  | .setDefaultEndpoint method path callback context =>
      server.httpServerSetDefaultEndpoint method path callback context
  | .registerEndpoint method path callback context =>
      server.httpServerRegisterEndpoint method path callback context

/-- The server after some calls. -/
def calls (server : Registrations) : List RegistrationCall → Registrations
  | [] => server
  | call :: rest => (server.call call).2.calls rest

/-- The calls that succeed, in order. -/
def successes (server : Registrations) : List RegistrationCall → List RegistrationCall
  | [] => []
  | call :: rest =>
      if (server.call call).1 then call :: (server.call call).2.successes rest
      else (server.call call).2.successes rest

/-- The endpoints that are registered successfully, in order. -/
def registered (server : Registrations) (list : List RegistrationCall) : List Route :=
  (server.successes list).filterMap RegistrationCall.asRoute

/-- The default endpoints that are set successfully, in order. -/
def defaults (server : Registrations) (list : List RegistrationCall) : List Route :=
  (server.successes list).filterMap RegistrationCall.asDefault

/-! ## The table holds the history -/

theorem call_refused {server : Registrations} {call : RegistrationCall}
    (refused : (server.call call).1 = false) : (server.call call).2 = server := by
  cases call with
  | setDefaultEndpoint method path callback context =>
      unfold Registrations.call httpServerSetDefaultEndpoint at refused ⊢
      cases path <;> cases callback <;> simp only at refused ⊢
      split at refused
      · cases refused
      · rename_i full
        simp only [if_neg full]
  | registerEndpoint method path callback context =>
      unfold Registrations.call httpServerRegisterEndpoint at refused ⊢
      cases path <;> cases callback <;> simp only at refused ⊢
      split at refused
      · cases refused
      · rename_i full
        simp only [dif_neg full]

theorem call_succeeds {server : Registrations} {call : RegistrationCall}
    (succeeds : (server.call call).1 = true) :
    (server.call call).2.routes = server.routes ++ call.asRoute.toList ∧
      (server.call call).2.defaultRoute = call.asDefault.or server.defaultRoute := by
  cases call with
  | setDefaultEndpoint method path callback context =>
      unfold Registrations.call httpServerSetDefaultEndpoint at succeeds ⊢
      cases path <;> cases callback <;> simp only at succeeds ⊢ <;> try cases succeeds
      split at succeeds
      · rename_i room
        simp only [if_pos room]
        exact ⟨(List.append_nil _).symm, rfl⟩
      · cases succeeds
  | registerEndpoint method path callback context =>
      unfold Registrations.call httpServerRegisterEndpoint at succeeds ⊢
      cases path <;> cases callback <;> simp only at succeeds ⊢ <;> try cases succeeds
      split at succeeds
      · rename_i room
        simp only [dif_pos room]
        exact ⟨rfl, rfl⟩
      · cases succeeds

theorem calls_append (server : Registrations) (first second : List RegistrationCall) :
    server.calls (first ++ second) = (server.calls first).calls second := by
  induction first generalizing server with
  | nil => rfl
  | cons call rest inductionHypothesis => exact inductionHypothesis _

/-- The table is the history: the endpoints in order, and the last default. -/
theorem calls_history (server : Registrations) (list : List RegistrationCall) :
    (server.calls list).routes = server.routes ++ server.registered list ∧
      (server.calls list).defaultRoute =
        (server.defaults list).getLast?.or server.defaultRoute := by
  induction list generalizing server with
  | nil => exact ⟨(List.append_nil _).symm, rfl⟩
  | cons call rest inductionHypothesis =>
      rcases inductionHypothesis (server.call call).2 with ⟨routes, default_⟩
      rw [calls, registered, defaults, successes]
      cases result : (server.call call).1 with
      | false =>
          rw [call_refused result] at routes default_ ⊢
          exact ⟨routes, default_⟩
      | true =>
          rcases call_succeeds result with ⟨added, set⟩
          constructor
          · rw [routes, added, registered, if_pos rfl, List.filterMap_cons, List.append_assoc]
            cases call.asRoute <;> rfl
          · rw [default_, set, defaults, if_pos rfl, List.filterMap_cons]
            cases call.asDefault with
            | none => rfl
            | some route =>
                rw [List.getLast?_cons]
                cases ((server.call call).2.successes rest).filterMap RegistrationCall.asDefault
                  |>.getLast? <;> rfl

end Registrations

/-! ## The route of a request -/

/-- The route answers this path and this method token. -/
def Serves (token path : List UInt8) (route : Route) : Prop :=
  route.path.bytes = path ∧ route.method.token = token

instance (token path : List UInt8) : DecidablePred (Serves token path) := fun route =>
  inferInstanceAs (Decidable (route.path.bytes = path ∧ route.method.token = token))

/-- The verdict that a history calls for: the earliest endpoint with the path
and the method, or else the latest default, or else a status. -/
def routed (registered defaults : List Route) (token path : List UInt8)
    (request : HttpRequest) : Verdict :=
  match registered.find? (Serves token path ·) with
  | some route => .call route request
  | none =>
      match defaults.getLast? with
      | some route => .call route request
      | none => .refusal (if registered.any (fun route => decide (route.path.bytes = path)) then 405
          else 404)

/-- For a token that the server knows or not, the scan looks for its route. -/
theorem answers_token (token path : List UInt8) (route : Route) :
    ((parseMethod token).isSome &&
        decide (Registrations.Answers ((parseMethod token).getD .get) path route)) =
      decide (Serves token path route) := by
  cases parsed : parseMethod token with
  | none =>
      have unknown : ¬ Serves token path route := by
        rintro ⟨_, same⟩
        rw [(parseMethod_eq_some_iff token route.method).mpr same.symm] at parsed
        cases parsed
      rw [Option.isSome_none, Bool.false_and, decide_eq_false unknown]
  | some method =>
      have token_eq := (parseMethod_eq_some_iff token method).mp parsed
      rw [Option.isSome_some, Option.getD_some, Bool.true_and, decide_eq_decide,
        Registrations.Answers, Serves, token_eq]
      apply and_congr_right
      intro _
      constructor
      · intro same
        rw [same]
      · intro same
        have back := (parseMethod_eq_some_iff route.method.token route.method).mpr rfl
        rw [same, (parseMethod_eq_some_iff method.token method).mpr rfl, Option.some.injEq] at back
        exact back.symm

/-- The verdict on a message is the one its history calls for. -/
theorem Message.verdict_calls (message : Message) (list : List RegistrationCall) :
    message.verdict (Registrations.initial.calls list) =
      routed (Registrations.initial.registered list) (Registrations.initial.defaults list)
        message.token (pathOf message.target) message.decoded := by
  rcases Registrations.initial.calls_history list with ⟨routes, default_⟩
  have table : (Registrations.initial.calls list).routes =
      Registrations.initial.registered list := routes
  have last : (Registrations.initial.calls list).defaultRoute =
      (Registrations.initial.defaults list).getLast? := by
    rw [default_]
    exact Option.or_none
  rw [Message.verdict, Registrations.matchRoute_eq, table, last, routed]
  simp only [answers_token]
  cases (Registrations.initial.registered list).find? (Serves message.token
      (pathOf message.target) ·) with
  | some route => rfl
  | none => cases (Registrations.initial.defaults list).getLast? <;> rfl

/-- Whatever was registered, every well-formed request that fits is answered
as the successful calls say.  A call that is refused has no part in it, and the
table never holds more than its entries. -/
theorem routing_follows_calls (platform : Platform) (list : List RegistrationCall)
    (application : Application) (stack : Option CString) {buffer : List UInt8}
    (size : buffer.length = httpServerMaxRequestSize) (message : Message)
    (fits : message.bytes.length ≤ httpServerMaxRequestSize - 1) {segments : List (List UInt8)}
    (split : Splits segments message.bytes) (rest : List RecvResult) (script : List SendResult) :
    serveConnection platform (Registrations.initial.calls list) application stack buffer
        (segments.map .received ++ rest) script =
      .done (reply platform.write application stack script
        (routed (Registrations.initial.registered list) (Registrations.initial.defaults list)
          message.token (pathOf message.target) message.decoded)) ∧
    (∀ front call back, list = front ++ call :: back →
      ((Registrations.initial.calls front).call call).1 = false →
        Registrations.initial.calls list = Registrations.initial.calls (front ++ back)) ∧
    (Registrations.initial.calls list).routes.length ≤ httpServerMaxRoutes := by
  refine ⟨?_, ?_, (Registrations.initial.calls list).bounded⟩
  · rw [serveConnection_message platform _ application stack size message fits split rest script,
      message.verdict_calls]
  · rintro front call back rfl refused
    rw [Registrations.calls_append, Registrations.calls_append, Registrations.calls,
      Registrations.call_refused refused]

/-! ## A crowded table -/

/-- A null path, a null callback, one path twice and under two methods, a
default, and one call more than the table has entries. -/
def crowdedCalls : List RegistrationCall :=
  [.registerEndpoint .get none (some 1) 1, .registerEndpoint .get (some (.literal "/file")) none 2,
    .registerEndpoint .get (some (.literal "/file")) (some 3) 3,
    .registerEndpoint .get (some (.literal "/file")) (some 4) 4,
    .registerEndpoint .post (some (.literal "/file")) (some 5) 5,
    .setDefaultEndpoint .get (some (.literal "/")) (some 6) 6] ++
    List.replicate 6 (.registerEndpoint .post (some (.literal "/other")) (some 7) 7)

/-- `PUT /file?again HTTP/1.1` with an `Accept` line. -/
def putFile : Message where
  token := ascii "PUT"
  target := ascii "/file?again"
  version := some (ascii "HTTP/1.1")
  before := [⟨ascii "Accept: text/plain", by decide +kernel, by decide +kernel, by decide +kernel⟩]
  length := none
  after := []
  body := []
  token_is := by decide +kernel
  token_other := by decide +kernel
  target_is := by decide +kernel
  version_is := isLineText_version
  body_is := length_bodyless

/-- Neither route for the path has the method, so the default is called. -/
theorem routing_follows_crowdedCalls :
    serveConnection .rp2040 (Registrations.initial.calls crowdedCalls)
        (fun _ _ _ => ⟨none, none, none, none, none⟩) none (List.replicate 2048 170)
        ([putFile.bytes.take 20, putFile.bytes.drop 20].map .received ++ []) [.accepted 256] =
      .done (reply sendResponse (fun _ _ _ => ⟨none, none, none, none, none⟩) none [.accepted 256]
        (.call ⟨.get, .literal "/", 6, 6⟩
          { method := .get, path := ascii "/file", query := some (ascii "again"), body := [],
            bodyLength := 0 })) :=
  (routing_follows_calls .rp2040 crowdedCalls _ none List.length_replicate putFile
    (by decide +kernel) ⟨by decide +kernel, by decide +kernel⟩ [] [.accepted 256]).1

end Server
end NetLL
