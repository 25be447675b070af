import NetLL.Server.FirstLine

namespace NetLL
namespace Server

/-!
# The method a callback sees

`ServeConnection` sets the method to GET before it parses the token, and an
unknown token leaves it there.  The scan of the route table asks whether the
method is known, so no route of the table is called for an unknown token.  The
default endpoint is returned without that question.
-/

/-- The bytes that a platform receives on one connection. -/
def received (platform : Platform) (results : List RecvResult) : List UInt8 :=
  (platform.policy.feed results).1.flatten

/-- The method token on the wire: what stands in front of the first space. -/
def wireToken (stream : List UInt8) : List UInt8 :=
  stream.takeWhile (· ≠ 32)

/-- Every callback that a connection runs is told the method on the wire. -/
def SeesWireMethod (platform : Platform) (server : Registrations) (application : Application)
    (stack : Option CString) (buffer : List UInt8) (results : List RecvResult)
    (script : List SendResult) : Prop :=
  ∀ events, serveConnection platform server application stack buffer results script =
      .done events →
    ∀ entry ∈ invocations events,
      wireToken (received platform results) = entry.2.method.token

/-- A request that is complete and has a request line has a token that
`ParseMethod` knows. -/
def TokenIsKnown (platform : Platform) (results : List RecvResult) : Prop :=
  ∀ bytes headerEnd bodyLength,
    platform.policy.gather results = .done (.complete bytes headerEnd bodyLength) →
      HasRequestLine (Memory.text bytes) →
        ∃ method, parseMethod (wireToken (received platform results)) = some method

/-! ## The token of a shown line -/

theorem ShownLine.wireToken {bytes : List UInt8} (line : ShownLine bytes) (more : List UInt8) :
    wireToken (bytes ++ more) = line.method := by
  have clean : ∀ byte ∈ line.method, decide (byte ≠ 32) = true := by
    intro byte member
    exact decide_eq_true fun space => line.method_space (space ▸ member)
  rw [line.append more, Server.wireToken, List.takeWhile_append_of_pos clean,
    List.takeWhile_cons_of_neg (by decide), List.append_nil]

theorem prefix_of_gather {platform : Platform} {results : List RecvResult} {bytes : List UInt8}
    {headerEnd bodyLength : Nat}
    (gathered : platform.policy.gather results = .done (.complete bytes headerEnd bodyLength)) :
    bytes <+: received platform results := by
  rw [Policy.gather_eq] at gathered
  rcases exists_answered gathered with ⟨place, size, found, answered⟩
  rw [reading_answered found answered] at gathered
  cases gathered
  exact List.take_prefix _ _

theorem ShownLine.wireToken_received {platform : Platform} {results : List RecvResult}
    {bytes : List UInt8} {headerEnd bodyLength : Nat}
    (gathered : platform.policy.gather results = .done (.complete bytes headerEnd bodyLength))
    (line : ShownLine bytes) : Server.wireToken (received platform results) = line.method := by
  rcases prefix_of_gather gathered with ⟨more, whole⟩
  rw [← whole]
  exact line.wireToken more

/-! ## The method of a call -/

/-- A call comes from a request line, with the route that was matched and the
method that was parsed, or GET without one. -/
theorem judge_labelled {server : Registrations} {bytes : List UInt8} {headerEnd bodyLength : Nat}
    {route : Route} {request : HttpRequest}
    (judged : judge server (bytes ++ [0]) headerEnd bodyLength = .done (.call route request)) :
    ∃ line : ShownLine bytes, (line.matched server).1 = some route ∧
      request.method = (parseMethod line.method).getD .get := by
  by_cases has : HasRequestLine (Memory.text bytes)
  · rcases has.shown with ⟨line⟩
    rw [judge_shown server line (List.mem_singleton.mpr rfl)] at judged
    cases matched : line.matched server with
    | mk found pathExists =>
        rw [matched] at judged
        cases found with
        | none => cases judged
        | some other =>
            rcases Exec.bind_eq_done_iff.mp judged with ⟨view, viewed, called⟩
            cases called
            refine ⟨line, ?_, (viewRequest_labels viewed).1⟩
            rw [matched]
  · rw [judge_badRequest server has] at judged
    cases judged

/-- An unknown method is matched by the default endpoint and by nothing else. -/
theorem Registrations.matchRoute_unknown (server : Registrations) (path : List UInt8)
    (method : HttpMethod) : (server.matchRoute path method false).1 = server.defaultRoute := by
  have nothing : server.routes.find? (fun route => false && decide (Answers method path route)) =
      none := by
    rw [List.find?_eq_none]
    intro route _
    exact Bool.false_ne_true
  rw [matchRoute_eq, nothing]

/-! ## The condition -/

section

variable {platform : Platform} {server : Registrations} {results : List RecvResult}
  {bytes : List UInt8} {headerEnd bodyLength : Nat}

/-- A call for a known token, or of a server without a default endpoint, is
labelled with the token. -/
theorem token_of_judge {route : Route} {request : HttpRequest}
    (gathered : platform.policy.gather results = .done (.complete bytes headerEnd bodyLength))
    (judged : judge server (bytes ++ [0]) headerEnd bodyLength = .done (.call route request))
    (known : server.defaultRoute ≠ none → TokenIsKnown platform results) :
    wireToken (received platform results) = request.method.token := by
  rcases judge_labelled judged with ⟨line, matched, labelled⟩
  have token := line.wireToken_received gathered
  cases parsed : parseMethod line.method with
  | some method =>
      rw [labelled, parsed, Option.getD_some, token]
      exact (parseMethod_eq_some_iff line.method method).mp parsed
  | none =>
      rw [ShownLine.matched, parsed, Option.isSome_none, Registrations.matchRoute_unknown]
        at matched
      have has : HasRequestLine (Memory.text bytes) := by
        by_contra refused
        rw [judge_badRequest server refused] at judged
        cases judged
      rcases known (by rw [matched]; exact Option.some_ne_none route) bytes headerEnd bodyLength
        gathered has with ⟨method, here⟩
      rw [token, parsed] at here
      cases here

/-- A default endpoint is called for an unknown token too. -/
theorem judge_unknown {route : Route} (default_ : server.defaultRoute = some route)
    (complete : Complete bytes headerEnd bodyLength) (line : ShownLine bytes)
    (unknown : parseMethod line.method = none) :
    ∃ request, judge server (bytes ++ [0]) headerEnd bodyLength = .done (.call route request) := by
  rcases judge_append server complete.inside with ⟨verdict, judged⟩
  have here := judged []
  have matched : (line.matched server).1 = some route := by
    rw [ShownLine.matched, unknown, Option.isSome_none, Registrations.matchRoute_unknown, default_]
  cases shown : line.matched server with
  | mk found pathExists =>
      rw [shown] at matched
      change found = some route at matched
      rw [judge_shown server line (List.mem_singleton.mpr rfl), shown, matched] at here
      rcases Exec.bind_eq_done_iff.mp here with ⟨request, _, called⟩
      cases called
      exact ⟨request, judged []⟩

end

/-- On every platform and for every table, the callbacks of a connection see
the method on the wire exactly when no default endpoint is set or a request
that reaches the routing has a token that is known. -/
theorem seesWireMethod_iff (platform : Platform) (server : Registrations)
    (application : Application) (stack : Option CString) {buffer : List UInt8}
    (size : buffer.length = httpServerMaxRequestSize) (results : List RecvResult)
    (script : List SendResult) :
    SeesWireMethod platform server application stack buffer results script ↔
      (server.defaultRoute ≠ none → TokenIsKnown platform results) := by
  constructor
  · intro sees set bytes headerEnd bodyLength gathered has
    rcases has.shown with ⟨line⟩
    rw [line.wireToken_received gathered]
    cases parsed : parseMethod line.method with
    | some method => exact ⟨method, rfl⟩
    | none =>
        exfalso
        rcases Option.ne_none_iff_exists'.mp set with ⟨route, default_⟩
        rcases judge_unknown default_ (complete_of_gather gathered) line parsed with
          ⟨request, judged⟩
        have decided : decision platform server results = .done (some (.call route request)) := by
          rw [decision_complete gathered, judged]
          rfl
        have label := sees _ (serveConnection_decided decided application stack size script)
          (route, request) (List.mem_singleton.mpr rfl)
        rw [line.wireToken_received gathered] at label
        rw [(parseMethod_eq_some_iff line.method request.method).mpr label] at parsed
        cases parsed
  · intro known events served entry member
    rw [serveConnection_eq platform server application stack size] at served
    rcases Exec.bind_eq_done_iff.mp served with ⟨verdict, decided, announced⟩
    cases announced
    cases verdict with
    | none => cases member
    | some verdict =>
        have called := eq_call_of_mem_invocations member
        rw [called] at decided
        rcases decision_judged (by intro same; cases same) decided with
          ⟨bytes, headerEnd, bodyLength, gathered, judged⟩
        exact token_of_judge gathered judged known

/-! ## Two requests -/

/-- A request whose method is neither GET nor POST. -/
def putRequest : List RecvResult :=
  [.received (ascii "PUT / HTTP/1.1\r\n\r\n")]

/-- Without a default endpoint it reaches no callback. -/
theorem seesWireMethod_initial :
    SeesWireMethod .esp32 .initial idle none (List.replicate 2048 0) putRequest [] ↔
      (Registrations.initial.defaultRoute ≠ none → TokenIsKnown .esp32 putRequest) :=
  seesWireMethod_iff .esp32 .initial idle none List.length_replicate putRequest []

/-- The default endpoint is called for it, with GET in its request. -/
theorem put_is_called_get :
    ∃ events, serveConnection .simulator defaultServer idle none (List.replicate 2048 0)
        putRequest [] = .done events ∧
      (invocations events).map (fun entry => (entry.1, entry.2.method)) =
        [(defaultEndpoint, .get)] ∧
      wireToken (received .simulator putRequest) = ascii "PUT" ∧
      ¬ SeesWireMethod .simulator defaultServer idle none (List.replicate 2048 0) putRequest [] := by
  have run : (serveConnection .simulator defaultServer idle none (List.replicate 2048 0)
      putRequest [] >>= fun events => .done
        ((invocations events).map fun entry => (entry.1, entry.2.method))) =
      .done [(defaultEndpoint, .get)] := by
    decide +kernel
  have token : wireToken (received .simulator putRequest) = ascii "PUT" := by
    decide +kernel
  rcases Exec.bind_eq_done_iff.mp run with ⟨events, served, shown⟩
  rw [Exec.done.injEq] at shown
  refine ⟨events, served, shown, token, fun sees => ?_⟩
  cases invoked : invocations events with
  | nil =>
      rw [invoked] at shown
      cases shown
  | cons entry rest =>
      have label := sees events served entry (by rw [invoked]; exact List.mem_cons_self)
      rw [invoked, List.map_cons, List.cons.injEq, Prod.mk.injEq] at shown
      rw [token, shown.1.2] at label
      revert label
      decide +kernel

end Server
end NetLL
