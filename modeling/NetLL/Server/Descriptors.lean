import NetLL.Library.Handles
import NetLL.Server.Restart

namespace NetLL
namespace Server
namespace Posix

/-!
# The descriptors of the Simulator and ESP32 servers

`HttpServerStart` keeps its descriptor in `listenSocket` when everything has
succeeded, and `HttpServerPoll` closes every connection that it has accepted.
A callback runs in the middle of a poll and may call the server itself: it may
stop it, start it again, or poll for another connection.  So a call is a tree,
and the invariant is about the descriptors that one call owns, beside those
that the calls around it hold.
-/

/-- A descriptor that is not negative. -/
abbrev Descriptor := Nat

/-- What a descriptor is open for. -/
inductive Phase where
  | created
  | bound
  | listening
  | connected
deriving DecidableEq, Repr

/-- The calls of the operating system, with their results. -/
inductive SystemCall where
  | socket (handle : Option Descriptor)
  | setsockopt (handle : Descriptor)
  | bind (handle : Descriptor) (port : UInt16) (succeeds : Bool)
  | listen (handle : Descriptor) (succeeds : Bool)
  | select (handle : Descriptor) (timeoutMilliseconds : UInt32) (readable : Bool)
  | accept (handle : Descriptor) (connection : Option Descriptor)
  /-- All of `ReadRequest`. -/
  | recv (connection : Descriptor)
  /-- All of a response. -/
  | send (connection : Descriptor)
  | close (handle : Descriptor)
deriving DecidableEq

/-- The phase that a call needs, and the one it leaves. -/
def SystemCall.acts : SystemCall → List (Handles.Act Descriptor Phase)
  | .socket handle => (handle.map (.gain · .created)).toList
  | .setsockopt handle => [.move handle .created .created]
  | .bind handle _ succeeds => [.move handle .created (if succeeds then .bound else .created)]
  | .listen handle succeeds => [.move handle .bound (if succeeds then .listening else .bound)]
  | .select handle _ _ => [.move handle .listening .listening]
  | .accept handle connection =>
      .move handle .listening .listening :: (connection.map (.gain · .connected)).toList
  | .recv connection => [.move connection .connected .connected]
  | .send connection => [.move connection .connected .connected]
  | .close handle => [.drop handle]

def acts (trace : List SystemCall) : List (Handles.Act Descriptor Phase) :=
  trace.flatMap SystemCall.acts

@[simp] theorem acts_nil : acts [] = [] := rfl

@[simp] theorem acts_append (first second : List SystemCall) :
    acts (first ++ second) = acts first ++ acts second :=
  List.flatMap_append

/-- The static variables; a negative `listenSocket` is `none`. -/
structure HttpServer where
  listenSocket : Option Descriptor
  registrations : Registrations

/-- The static storage before any call. -/
def HttpServer.initial : HttpServer where
  listenSocket := none
  registrations := .initial

/-- The descriptors that the server keeps between calls. -/
def HttpServer.held (server : HttpServer) : Handles.Store Descriptor Phase :=
  match server.listenSocket with
  | none => .empty
  | some handle => .single handle .listening

/-- What the operating system answers a start. -/
structure StartAnswers where
  socket : Option Descriptor
  bind : Bool
  listen : Bool
deriving DecidableEq, Repr

/-- What the operating system and the peer answer a poll, and what the stack
holds in it. -/
structure PollAnswers where
  select : Bool
  accept : Option Descriptor
  results : List RecvResult
  script : List SendResult
  stack : Option CString
deriving DecidableEq

/-- A call of the application.  A poll that runs a callback has the calls in it
that the callback makes. -/
inductive ApiCall where
  | start (port : UInt16) (answers : StartAnswers)
  | register (call : RegistrationCall)
  | poll (timeoutMilliseconds : UInt32) (answers : PollAnswers) (callback : List ApiCall)
  | stop

/-- What a call has done; a void call returns true here. -/
structure Performed where
  server : HttpServer
  returned : Bool
  trace : List SystemCall

/-! ## The code -/

/-- `BindAndListen`. -/
def bindAndListen (handle : Descriptor) (port : UInt16) (answers : StartAnswers) :
    Bool × List SystemCall :=
  if !answers.bind then (false, [.bind handle port false])
  else if !answers.listen then (false, [.bind handle port true, .listen handle false])
  else (true, [.bind handle port true, .listen handle true])

/-- `HttpServerStart`. -/
def httpServerStart (server : HttpServer) (port : UInt16) (answers : StartAnswers) : Performed :=
  match server.listenSocket with
  | some _ => ⟨server, true, []⟩
  | none =>
      match answers.socket with
      | none => ⟨server, false, [.socket none]⟩
      | some handle =>
          match bindAndListen handle port answers with
          | (false, calls) =>
              ⟨server, false, [.socket handle, .setsockopt handle] ++ calls ++ [.close handle]⟩
          | (true, calls) =>
              ⟨{ server with listenSocket := handle }, true,
                [.socket handle, .setsockopt handle] ++ calls⟩

/-- `HttpServerStop`. -/
def httpServerStop (server : HttpServer) : Performed where
  server := { listenSocket := none, registrations := server.registrations.httpServerStop }
  returned := true
  trace := (server.listenSocket.map .close).toList

section

variable (platform : Platform) (application : Application)

/-- `DispatchRoute` comes to an end when the writer of the response does. -/
def writes (answers : PollAnswers) (verdict : Option Verdict) : Bool :=
  match verdict with
  | none => true
  | some verdict =>
      (platform.write answers.script (verdict.response application answers.stack)).ending != .blocked

mutual

/-- One call of the application. -/
def perform (server : HttpServer) : ApiCall → Exec Performed
  | .start port answers => .done (httpServerStart server port answers)
  | .register call =>
      let (returned, registrations) := server.registrations.call call
      .done ⟨{ server with registrations }, returned, []⟩
  | .stop => .done (httpServerStop server)
  -- `HttpServerPoll`
  | .poll timeoutMilliseconds answers callback =>
      match server.listenSocket with
      | none => .done ⟨server, false, []⟩
      | some listener =>
          if !answers.select then
            .done ⟨server, false, [.select listener timeoutMilliseconds false]⟩
          else
            match answers.accept with
            | none =>
                .done ⟨server, false,
                  [.select listener timeoutMilliseconds true, .accept listener none]⟩
            | some connection => do
                let verdict ← decision platform server.registrations answers.results
                let (after, calls) ← (match verdict with
                  | some (.call _ _) => performAll server callback
                  | _ => .done (server, []) : Exec (HttpServer × List SystemCall))
                if writes platform application answers verdict then
                  return ⟨after, true,
                    [.select listener timeoutMilliseconds true, .accept listener connection,
                      .recv connection] ++ calls ++ [.send connection, .close connection]⟩
                else .waiting

/-- Calls one after the other. -/
def performAll (server : HttpServer) : List ApiCall → Exec (HttpServer × List SystemCall)
  | [] => .done (server, [])
  | call :: calls => do
      let performed ← perform server call
      let (after, trace) ← performAll performed.server calls
      return (after, performed.trace ++ trace)

end

end

/-! ## The descriptors of one call -/

open Handles Handles.Store

theorem httpServerStart_turns (server : HttpServer) (port : UInt16) (answers : StartAnswers) :
    Turns server.held (acts (httpServerStart server port answers).trace)
      (httpServerStart server port answers).server.held := by
  rcases server with ⟨_ | handle, registrations⟩
  · rcases answers with ⟨_ | handle, bind, listen⟩
    · exact .nil .empty
    · have created := (Turns.gain handle Phase.created).append
        (.move handle Phase.created Phase.created)
      cases bind with
      | false => exact (created.append (.move handle _ Phase.created)).append (.drop handle _)
      | true =>
          have bound := created.append (.move handle _ Phase.bound)
          cases listen with
          | false => exact (bound.append (.move handle _ Phase.bound)).append (.drop handle _)
          | true => exact bound.append (.move handle _ Phase.listening)
  · exact .nil _

theorem httpServerStop_turns (server : HttpServer) :
    Turns server.held (acts (httpServerStop server).trace) (httpServerStop server).server.held := by
  rcases server with ⟨_ | handle, registrations⟩
  · exact .nil .empty
  · exact .drop handle Phase.listening

theorem listening_turns {server : HttpServer} {listener : Descriptor}
    (listens : server.listenSocket = some listener) :
    Turns server.held [.move listener .listening .listening] server.held := by
  rw [HttpServer.held, listens]
  exact .move listener Phase.listening Phase.listening

/-- A poll that has accepted a connection holds it around what its callback does. -/
theorem connection_turns {server after : HttpServer} {listener connection : Descriptor}
    (listens : server.listenSocket = some listener) (timeoutMilliseconds : UInt32)
    {calls : List SystemCall} (inside : Turns server.held (acts calls) after.held) :
    Turns server.held (acts ([.select listener timeoutMilliseconds true,
      .accept listener connection, .recv connection] ++ calls ++
        [.send connection, .close connection])) after.held := by
  have waits := (listening_turns listens).append (listening_turns listens)
  have opens := (Turns.gain connection Phase.connected).append
    (.move connection Phase.connected Phase.connected)
  have closes := (Turns.move connection Phase.connected Phase.connected).append
    (.drop connection Phase.connected)
  rw [acts_append, acts_append]
  exact waits.append (opens.bracket inside closes)

section

variable {platform : Platform} {application : Application}

mutual

/-- One call turns the descriptors that the server keeps into those that it
keeps then, and does nothing to any other one. -/
theorem perform_turns {server : HttpServer} {performed : Performed} : (call : ApiCall) →
    perform platform application server call = .done performed →
      Turns server.held (acts performed.trace) performed.server.held
  | .start port answers, done => by
      rw [perform] at done
      cases done
      exact httpServerStart_turns server port answers
  | .register call, done => by
      rw [perform] at done
      cases done
      exact .nil _
  | .stop, done => by
      rw [perform] at done
      cases done
      exact httpServerStop_turns server
  | .poll timeoutMilliseconds answers callback, done => by
      rw [perform] at done
      cases listens : server.listenSocket with
      | none =>
          rw [listens] at done
          cases done
          exact .nil _
      | some listener =>
          rw [listens] at done
          rcases answers with ⟨_ | _, _ | connection, results, script, stack⟩
          · cases done
            exact listening_turns listens
          · cases done
            exact listening_turns listens
          · cases done
            exact (listening_turns listens).append (listening_turns listens)
          · rcases Exec.bind_eq_done_iff.mp done with ⟨verdict, _, done⟩
            rcases Exec.bind_eq_done_iff.mp done with ⟨⟨after, calls⟩, inside, done⟩
            have called : Turns server.held (acts calls) after.held := by
              split at inside
              · exact performAll_turns callback inside
              · cases inside
                exact .nil _
            change (if _ then _ else _) = _ at done
            split at done
            · cases done
              exact connection_turns listens timeoutMilliseconds called
            · cases done

/-- So do calls one after the other. -/
theorem performAll_turns {server after : HttpServer} {trace : List SystemCall} :
    (calls : List ApiCall) → performAll platform application server calls = .done (after, trace) →
      Turns server.held (acts trace) after.held
  | [], done => by
      rw [performAll] at done
      cases done
      exact .nil _
  | call :: calls, done => by
      rw [performAll] at done
      rcases Exec.bind_eq_done_iff.mp done with ⟨performed, first, done⟩
      rcases Exec.bind_eq_done_iff.mp done with ⟨⟨last, rest⟩, second, done⟩
      cases done
      rw [acts_append]
      exact (perform_turns call first).append (performAll_turns calls second)

end

end

/-- Every run of calls, whatever calls the callbacks make in it, uses a
descriptor only while it is open and for what it is open for, closes each one
once, and keeps none open but the listening one. -/
theorem descriptors_balanced {platform : Platform} {application : Application}
    {calls : List ApiCall} {server : HttpServer} {trace : List SystemCall}
    (performed : performAll platform application .initial calls = .done (server, trace))
    (given : AllGiven empty (acts trace)) :
    AllAllowed empty (acts trace) ∧ final empty (acts trace) = server.held :=
  performAll_turns calls performed given

/-- A callback that stops the server, starts it again and polls it. -/
def restarting : List ApiCall :=
  [.register (.setDefaultEndpoint .get (some (.literal "/")) (some 1) 2),
    .start 80 ⟨some 3, true, true⟩,
    .poll 10 ⟨true, some 4, [.received (ascii "GET / HTTP/1.1\r\n\r\n")], [.accepted 256], none⟩
      [.stop, .start 81 ⟨some 3, true, false⟩, .start 82 ⟨some 3, true, true⟩,
        .poll 0 ⟨true, some 5, [.failed], [.accepted 256, .accepted 256], none⟩ []]]

/-- The connection of the outer poll is closed last, and the second listening
descriptor stays open. -/
theorem descriptors_balanced_restarting : ∃ server trace,
    performAll .simulator idle .initial restarting = .done (server, trace) ∧
      server.listenSocket = some 3 ∧ AllAllowed empty (acts trace) ∧
      final empty (acts trace) 4 = none := by
  have runs : (performAll .simulator idle .initial restarting >>= fun run =>
      .done (run.1.listenSocket, decide (AllGiven empty (acts run.2)))) =
        .done (some 3, true) := by
    decide +kernel
  rcases Exec.bind_eq_done_iff.mp runs with ⟨⟨server, trace⟩, performed, seen⟩
  rw [Exec.done.injEq, Prod.mk.injEq, decide_eq_true_eq] at seen
  rcases seen with ⟨listens, given⟩
  rcases descriptors_balanced performed given with ⟨allowed, last⟩
  refine ⟨server, trace, performed, listens, allowed, ?_⟩
  rw [last, HttpServer.held, listens]
  rfl

end Posix
end Server
end NetLL
