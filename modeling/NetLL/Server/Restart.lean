import NetLL.Library.Transition
import NetLL.Server.Registration
import NetLL.Server.Segmentation

namespace NetLL
namespace Server

/-!
# What a stop forgets

`HttpServerStop` empties the route table and leaves the default endpoint as it
is.  A session is a run of calls and served requests.  It remembers what was
registered since the last stop, so that a callback that runs can be compared
with it.

On the Simulator and ESP32 a poll accepts a connection and serves it before it
returns.  On RP2040 the server task does both, and the application may make
calls in between.
-/

/-- `HttpServerStop`, on the registrations. -/
def Registrations.httpServerStop (server : Registrations) : Registrations :=
  { server with
    routes := []
    bounded := Nat.zero_le _ }

/-- A server between two steps. -/
structure Session where
  server : Registrations
  listening : Bool
  /-- A connection is accepted and not served yet. -/
  accepted : Bool
  /-- What was registered successfully since the last stop, as an endpoint or
  as the default. -/
  fresh : List Route
  /-- What the last step received and made visible, if it served a request. -/
  served : Option (List RecvResult × List Event)

/-- The static storage before any call. -/
def Session.initial : Session where
  server := .initial
  listening := false
  accepted := false
  fresh := []
  served := none

inductive SessionAction where
  | start (succeeds : Bool)
  | register (call : RegistrationCall)
  | stop
  | accept
  | serve (application : Application) (stack : Option CString) (buffer : List UInt8)
      (results : List RecvResult) (script : List SendResult)

/-- A call of the application. -/
def Session.callStep (session : Session) : SessionAction → Option Session
  | .start succeeds =>
      some { session with listening := session.listening || succeeds, served := none }
  | .register call =>
      let (succeeds, server) := session.server.call call
      some { session with
        server
        fresh := session.fresh ++
          (if succeeds then call.asRoute.toList ++ call.asDefault.toList else [])
        served := none }
  | .stop =>
      some { session with
        server := session.server.httpServerStop
        listening := false
        fresh := []
        served := none }
  | _ => none

/-- One step of a session. -/
def Session.step (platform : Platform) (session : Session) (action : SessionAction) :
    Option Session :=
  match action with
  | .accept =>
      if session.listening && !session.accepted then
        some { session with accepted := true, served := none }
      else none
  | .serve application stack buffer results script =>
      if session.accepted ∧ buffer.length = httpServerMaxRequestSize then
        match serveConnection platform session.server application stack buffer results script with
        | .done events => some { session with accepted := false, served := some (results, events) }
        | _ => none
      else none
  | call =>
      if session.accepted ∧ platform ≠ .rp2040 then none else session.callStep call

/-! ## What should hold -/

/-- The callback and the context were registered, together or not. -/
def Known (fresh : List Route) (route : Route) : Prop :=
  (∃ other ∈ fresh, other.callback = route.callback) ∧
    ∃ other ∈ fresh, other.context = route.context

instance (fresh : List Route) (route : Route) : Decidable (Known fresh route) :=
  inferInstanceAs (Decidable ((∃ other ∈ fresh, other.callback = route.callback) ∧
    ∃ other ∈ fresh, other.context = route.context))

/-- A served request runs only what was registered since the last stop, and
with nothing registered since then a well-formed one is answered 404. -/
structure Session.Forgets (session : Session) : Prop where
  invoked : ∀ results events, session.served = some (results, events) →
    ∀ entry ∈ invocations events, Known session.fresh entry.1
  unregistered : ∀ results events, session.served = some (results, events) →
    session.fresh = [] → ∀ (message : Message) (segments : List (List UInt8))
      (rest : List RecvResult), message.bytes.length ≤ httpServerMaxRequestSize - 1 →
      Splits segments message.bytes → results = segments.map .received ++ rest →
      statuses events = [404] ∧ invocations events = []

/-- The registrations without the default endpoint. -/
def Registrations.withoutDefault (server : Registrations) : Registrations :=
  { server with defaultRoute := none }

/-- The request is one that no endpoint of the table answers, so that without
a default endpoint its status is 404 or 405. -/
def NeedsDefault (platform : Platform) (server : Registrations) (results : List RecvResult) : Prop :=
  decision platform server.withoutDefault results = .done (some (.refusal 404)) ∨
    decision platform server.withoutDefault results = .done (some (.refusal 405))

/-- A request that needs the default endpoint finds one, if any, that was
registered since the last stop. -/
def DefaultIsFresh (platform : Platform) (session : Session) : SessionAction → Prop
  | .serve _ _ _ results _ => ∀ route, session.server.defaultRoute = some route →
      NeedsDefault platform session.server results → Known session.fresh route
  | _ => True

/-! ## The default endpoint in the verdict -/

/-- A call that a verdict names is an endpoint of the table, or it is the
default for a request that needs one. -/
theorem judge_call {server : Registrations} {memory : List UInt8} {headerEnd bodyLength : Nat}
    {route : Route} {request : HttpRequest}
    (judged : judge server memory headerEnd bodyLength = .done (.call route request)) :
    route ∈ server.routes ∨
      (server.defaultRoute = some route ∧
        (judge server.withoutDefault memory headerEnd bodyLength = .done (.refusal 404) ∨
          judge server.withoutDefault memory headerEnd bodyLength = .done (.refusal 405))) := by
  rcases Exec.bind_eq_done_iff.mp judged with ⟨parsed, parses, reads⟩
  cases parsed with
  | none => cases reads
  | some line =>
      rcases Exec.bind_eq_done_iff.mp reads with ⟨token, tokenRead, reads⟩
      rcases Exec.bind_eq_done_iff.mp reads with ⟨path, pathRead, _⟩
      have table : server.withoutDefault.routes = server.routes := rfl
      have without := judge_parsed parses tokenRead pathRead server.withoutDefault headerEnd bodyLength
      rw [judge_parsed parses tokenRead pathRead, Registrations.matchRoute_eq] at judged
      rw [Registrations.matchRoute_eq, table] at without
      cases found : server.routes.find? fun route => (parseMethod token).isSome &&
          decide (Registrations.Answers ((parseMethod token).getD .get) path route) with
      | some other =>
          simp only [found] at judged
          rcases Exec.bind_eq_done_iff.mp judged with ⟨view, _, called⟩
          cases called
          exact Or.inl (List.mem_of_find?_eq_some found)
      | none =>
          simp only [found] at judged without
          have absent : server.withoutDefault.defaultRoute = none := rfl
          simp only [absent] at without
          cases default_ : server.defaultRoute with
          | none =>
              simp only [default_] at judged
              cases judged
          | some other =>
              simp only [default_] at judged
              rcases Exec.bind_eq_done_iff.mp judged with ⟨view, _, called⟩
              cases called
              refine Or.inr ⟨rfl, ?_⟩
              rw [without]
              cases server.routes.any fun route => decide (route.path.bytes = path) with
              | false => exact Or.inl rfl
              | true => exact Or.inr rfl

/-- A request that needs the default endpoint is answered by it. -/
theorem judge_needsDefault {server : Registrations} {memory : List UInt8}
    {headerEnd bodyLength : Nat} {route : Route} {verdict : Verdict} {statusCode : UInt16}
    (needs : judge server.withoutDefault memory headerEnd bodyLength = .done (.refusal statusCode))
    (status : statusCode = 404 ∨ statusCode = 405) (default_ : server.defaultRoute = some route)
    (judged : judge server memory headerEnd bodyLength = .done verdict) :
    ∃ request, verdict = .call route request := by
  rcases Exec.bind_eq_done_iff.mp judged with ⟨parsed, parses, reads⟩
  cases parsed with
  | none =>
      have refused : judge server.withoutDefault memory headerEnd bodyLength =
          .done (.refusal 400) := by
        rw [judge, parses]
        rfl
      rw [refused] at needs
      cases needs
      rcases status with impossible | impossible
      · exact absurd impossible (by decide)
      · exact absurd impossible (by decide)
  | some line =>
      rcases Exec.bind_eq_done_iff.mp reads with ⟨token, tokenRead, reads⟩
      rcases Exec.bind_eq_done_iff.mp reads with ⟨path, pathRead, _⟩
      have table : server.withoutDefault.routes = server.routes := rfl
      rw [judge_parsed parses tokenRead pathRead, Registrations.matchRoute_eq] at judged
      rw [judge_parsed parses tokenRead pathRead, Registrations.matchRoute_eq, table] at needs
      cases found : server.routes.find? fun route => (parseMethod token).isSome &&
          decide (Registrations.Answers ((parseMethod token).getD .get) path route) with
      | some other =>
          simp only [found] at needs
          rcases Exec.bind_eq_done_iff.mp needs with ⟨_, _, impossible⟩
          cases impossible
      | none =>
          simp only [found, default_] at judged
          rcases Exec.bind_eq_done_iff.mp judged with ⟨request, _, called⟩
          cases called
          exact ⟨request, rfl⟩

/-- A callback that runs is an endpoint of the table, or the default of a
request that needs one. -/
theorem decision_call {platform : Platform} {server : Registrations} {results : List RecvResult}
    {route : Route} {request : HttpRequest}
    (decided : decision platform server results = .done (some (.call route request))) :
    route ∈ server.routes ∨
      (server.defaultRoute = some route ∧ NeedsDefault platform server results) := by
  rcases decision_judged Verdict.noConfusion decided with
    ⟨bytes, headerEnd, bodyLength, gathered, judged⟩
  rcases judge_call judged with inTable | ⟨default_, needs⟩
  · exact Or.inl inTable
  · refine Or.inr ⟨default_, ?_⟩
    rw [NeedsDefault, decision_complete gathered]
    rcases needs with notFound | notAllowed
    · rw [notFound]
      exact Or.inl rfl
    · rw [notAllowed]
      exact Or.inr rfl

/-- The default endpoint is called for a request that needs it. -/
theorem decision_needsDefault {platform : Platform} {server : Registrations}
    {results : List RecvResult} {route : Route} {verdict : Option Verdict}
    (needs : NeedsDefault platform server results) (default_ : server.defaultRoute = some route)
    (decided : decision platform server results = .done verdict) :
    ∃ request, verdict = some (.call route request) := by
  have called {statusCode : UInt16} (status : statusCode = 404 ∨ statusCode = 405)
      (refused : decision platform server.withoutDefault results =
        .done (some (.refusal statusCode))) : ∃ request, verdict = some (.call route request) := by
    have early : Verdict.refusal statusCode ≠ .refusal 413 := by
      rintro ⟨⟩
      rcases status with impossible | impossible
      · exact absurd impossible (by decide)
      · exact absurd impossible (by decide)
    rcases decision_judged early refused with ⟨bytes, headerEnd, bodyLength, gathered, judged⟩
    rw [decision_complete gathered] at decided
    rcases Exec.bind_eq_done_iff.mp decided with ⟨other, judgedHere, same⟩
    cases same
    rcases judge_needsDefault judged status default_ judgedHere with ⟨request, equal⟩
    exact ⟨request, by rw [equal]⟩
  rcases needs with notFound | notAllowed
  · exact called (Or.inl rfl) notFound
  · exact called (Or.inr rfl) notAllowed

/-! ## One step -/

/-- The table holds what was registered since the last stop, and the last step
is as it should be. -/
structure Session.Sound (session : Session) : Prop where
  fresh : ∀ route ∈ session.server.routes, route ∈ session.fresh
  forgets : session.Forgets

theorem Known.of_mem {fresh : List Route} {route : Route} (member : route ∈ fresh) :
    Known fresh route :=
  ⟨⟨route, member, rfl⟩, ⟨route, member, rfl⟩⟩

theorem Session.Sound.of_silent {session : Session}
    (fresh : ∀ route ∈ session.server.routes, route ∈ session.fresh)
    (silent : session.served = none) : session.Sound := by
  refine ⟨fresh, fun results events same => ?_, fun results events same => ?_⟩
  · rw [silent] at same
    cases same
  · rw [silent] at same
    cases same

theorem callStep_sound {session next : Session} {action : SessionAction} (sound : session.Sound)
    (taken : session.callStep action = some next) : next.Sound := by
  cases action with
  | start succeeds =>
      cases taken
      exact .of_silent sound.fresh rfl
  | register call =>
      cases taken
      apply Session.Sound.of_silent _ rfl
      intro route member
      change route ∈ (session.server.call call).2.routes at member
      change route ∈ session.fresh ++
        if (session.server.call call).1 then call.asRoute.toList ++ call.asDefault.toList else []
      cases result : (session.server.call call).1 with
      | false =>
          rw [Registrations.call_refused result] at member
          exact List.mem_append_left _ (sound.fresh route member)
      | true =>
          rw [(Registrations.call_succeeds result).1] at member
          rcases List.mem_append.mp member with old | new
          · exact List.mem_append_left _ (sound.fresh route old)
          · rw [if_pos rfl]
            exact List.mem_append_right _ (List.mem_append_left _ new)
  | stop =>
      cases taken
      apply Session.Sound.of_silent _ rfl
      intro route member
      cases member
  | accept => cases taken
  | serve => cases taken

/-- With nothing registered since the last stop, a well-formed request is
answered 404, unless a default endpoint was left behind. -/
theorem decision_unregistered (platform : Platform) {server : Registrations}
    (empty : server.routes = []) (message : Message)
    (fits : message.bytes.length ≤ httpServerMaxRequestSize - 1) {segments : List (List UInt8)}
    (split : Splits segments message.bytes) (rest : List RecvResult) :
    decision platform server.withoutDefault (segments.map .received ++ rest) =
      .done (some (.refusal 404)) := by
  have nothing : server.withoutDefault.routes = [] := empty
  have absent : server.withoutDefault.defaultRoute = none := rfl
  rw [decision_message platform _ message fits split rest, Message.verdict,
    Registrations.matchRoute_eq, nothing]
  simp only [List.find?_nil, List.any_nil, absent]
  rfl

theorem Session.step_serve {platform : Platform} {session next : Session}
    {application : Application} {stack : Option CString} {buffer : List UInt8}
    {results : List RecvResult} {script : List SendResult}
    (taken : session.step platform (.serve application stack buffer results script) = some next) :
    ∃ verdict, decision platform session.server results = .done verdict ∧
      next = { session with
        accepted := false
        served := some (results, announce platform.write application stack script verdict) } := by
  simp only [Session.step] at taken
  split at taken
  · rename_i ready
    rw [serveConnection_eq platform session.server application stack ready.2] at taken
    cases decided : decision platform session.server results with
    | waiting =>
        rw [decided] at taken
        cases taken
    | fault =>
        rw [decided] at taken
        cases taken
    | done verdict =>
        rw [decided] at taken
        cases taken
        exact ⟨verdict, rfl, rfl⟩
  · cases taken

/-- What a decision runs was registered since the last stop. -/
theorem known_of_invoked {platform : Platform} {session : Session} (sound : session.Sound)
    {application : Application} {stack : Option CString} {buffer : List UInt8}
    {results : List RecvResult} {script : List SendResult}
    (current : DefaultIsFresh platform session (.serve application stack buffer results script))
    {verdict : Option Verdict} (decided : decision platform session.server results = .done verdict)
    {entry : Route × HttpRequest}
    (member : entry ∈ invocations (announce platform.write application stack script verdict)) :
    Known session.fresh entry.1 := by
  cases verdict with
  | none => cases member
  | some verdict =>
      cases verdict with
      | refusal statusCode => cases member
      | call route request =>
          rw [List.mem_singleton.mp member]
          rcases decision_call decided with inTable | ⟨default_, needs⟩
          · exact .of_mem (sound.fresh route inTable)
          · exact current route default_ needs

/-- With nothing registered since the last stop a well-formed request is
answered 404. -/
theorem verdict_of_nothing {platform : Platform} {session : Session} (sound : session.Sound)
    {application : Application} {stack : Option CString} {buffer : List UInt8}
    {results : List RecvResult} {script : List SendResult}
    (current : DefaultIsFresh platform session (.serve application stack buffer results script))
    {verdict : Option Verdict} (decided : decision platform session.server results = .done verdict)
    (nothing : session.fresh = []) {message : Message} {segments : List (List UInt8)}
    {rest : List RecvResult} (fits : message.bytes.length ≤ httpServerMaxRequestSize - 1)
    (split : Splits segments message.bytes) (arrived : results = segments.map .received ++ rest) :
    verdict = some (.refusal 404) := by
  have empty : session.server.routes = [] := by
    apply List.eq_nil_iff_forall_not_mem.mpr
    intro route member
    have fresh := sound.fresh route member
    rw [nothing] at fresh
    cases fresh
  have without := decision_unregistered platform empty message fits split rest
  rw [← arrived] at without
  cases default_ : session.server.defaultRoute with
  | none =>
      have same : session.server.withoutDefault = session.server := by
        rw [Registrations.withoutDefault, ← default_]
      rw [same, decided] at without
      exact Exec.done.inj without
  | some route =>
      have known := current route default_ (Or.inl without)
      rw [nothing] at known
      rcases known.1 with ⟨_, member, _⟩
      cases member

theorem serve_sound {platform : Platform} {session next : Session} (sound : session.Sound)
    {application : Application} {stack : Option CString} {buffer : List UInt8}
    {results : List RecvResult} {script : List SendResult}
    (current : DefaultIsFresh platform session (.serve application stack buffer results script))
    (taken : session.step platform (.serve application stack buffer results script) = some next) :
    next.Sound := by
  rcases Session.step_serve taken with ⟨verdict, decided, rfl⟩
  refine ⟨sound.fresh, ?_, ?_⟩
  · intro _ events same entry member
    cases same
    exact known_of_invoked sound current decided member
  · intro _ events same nothing message segments rest fits split arrived
    cases same
    cases verdict_of_nothing sound current decided nothing fits split arrived
    exact ⟨rfl, rfl⟩

theorem step_sound {platform : Platform} {session next : Session} {action : SessionAction}
    (sound : session.Sound) (current : DefaultIsFresh platform session action)
    (taken : session.step platform action = some next) : next.Sound := by
  have called {call : SessionAction}
      (taken : (if session.accepted ∧ platform ≠ .rp2040 then none else session.callStep call) =
        some next) : next.Sound := by
    split at taken
    · cases taken
    · exact callStep_sound sound taken
  cases action with
  | serve => exact serve_sound sound current taken
  | accept =>
      simp only [Session.step] at taken
      split at taken
      · cases taken
        exact .of_silent sound.fresh rfl
      · cases taken
  | start => exact called taken
  | register => exact called taken
  | stop => exact called taken

/-! ## Runs -/

/-- In every run in which a request that needs the default endpoint finds none
from before the last stop, a stop forgets every registration. -/
theorem forgets_of_defaultIsFresh (platform : Platform) {actions : List SessionAction}
    {final : Session}
    (guarded : Transition.Guarded (Session.step platform) (DefaultIsFresh platform) .initial actions)
    (reached : Transition.run (Session.step platform) .initial actions = some final) :
    final.Forgets := by
  have initially : Session.initial.Sound :=
    .of_silent (fun route member => by cases member) rfl
  exact (Transition.invariant_run (fun _ _ _ sound current taken => step_sound sound current taken)
    initially guarded reached).forgets

/-- The guard is exact: a request that meets a default endpoint from before the
last stop runs it. -/
theorem not_forgets_of_not_defaultIsFresh {platform : Platform} {session next : Session}
    {action : SessionAction} (stale : ¬ DefaultIsFresh platform session action)
    (taken : session.step platform action = some next) : ¬ next.Forgets := by
  cases action with
  | serve application stack buffer results script =>
      simp only [DefaultIsFresh, Classical.not_forall] at stale
      rcases stale with ⟨route, default_, needs, unknown⟩
      rcases Session.step_serve taken with ⟨verdict, decided, rfl⟩
      rcases decision_needsDefault needs default_ decided with ⟨request, rfl⟩
      intro forgets
      exact unknown (forgets.invoked _ _ rfl (route, request) List.mem_cons_self)
  | _ => exact absurd trivial stale

/-! ## A default endpoint behind a stop -/

/-- `GET /` without header lines. -/
def getRoot : Message where
  token := ascii "GET"
  target := ascii "/"
  version := some (ascii "HTTP/1.1")
  before := []
  length := none
  after := []
  body := []
  token_is := by decide +kernel
  token_other := by decide +kernel
  target_is := by decide +kernel
  version_is := isLineText_version
  body_is := length_bodyless

/-- A default endpoint, a stop, a new start, and a request. -/
def restartedSession : List SessionAction :=
  [.register (.setDefaultEndpoint .get (some (.literal "/")) (some 1) 7), .start true, .stop,
    .start true, .accept,
    .serve idle none (List.replicate 2048 0) [.received getRoot.bytes]
      [.accepted 256]]

/-- The default endpoint survives the stop, and its callback runs with its
context although nothing was registered since then. -/
theorem default_survives_stop :
    ∃ final, Transition.run (Session.step .simulator) .initial restartedSession = some final ∧
      final.fresh = [] ∧
      (final.served.map fun served => invocations served.2) =
        some [(⟨.get, .literal "/", 1, 7⟩, getRoot.decoded)] ∧
      ¬ final.Forgets := by
  have computed : (Transition.run (Session.step .simulator) .initial restartedSession).map
      (fun final => (final.fresh, final.served.map fun served => invocations served.2)) =
        some ([], some [(⟨.get, .literal "/", 1, 7⟩, getRoot.decoded)]) := by
    decide +kernel
  rcases Option.map_eq_some_iff.mp computed with ⟨final, reached, shown⟩
  rw [Prod.mk.injEq] at shown
  refine ⟨final, reached, shown.1, shown.2, fun forgets => ?_⟩
  rcases Option.map_eq_some_iff.mp shown.2 with ⟨⟨results, events⟩, served, called⟩
  have known := forgets.invoked results events served
  rw [shown.1, show invocations events = _ from called] at known
  exact absurd (known _ List.mem_cons_self) (by decide)

/-- The same session with the default endpoint set again after the stop. -/
def renewedSession : List SessionAction :=
  [.register (.setDefaultEndpoint .get (some (.literal "/")) (some 1) 7), .start true, .stop,
    .register (.setDefaultEndpoint .get (some (.literal "/")) (some 2) 8), .start true, .accept,
    .serve idle none (List.replicate 2048 0) [.received getRoot.bytes]
      [.accepted 256]]

theorem forgets_renewedSession :
    ∃ final, Transition.run (Session.step .simulator) .initial renewedSession = some final ∧
      final.Forgets := by
  have reached : (Transition.run (Session.step .simulator) .initial renewedSession).isSome := by
    decide +kernel
  rcases Option.isSome_iff_exists.mp reached with ⟨final, reached⟩
  refine ⟨final, reached, forgets_of_defaultIsFresh .simulator ?_ reached⟩
  refine ⟨trivial, trivial, trivial, trivial, trivial, trivial, ?_, ?_⟩
  · intro route default_ _
    cases default_
    decide
  · split
    · trivial
    · trivial

end Server
end NetLL
