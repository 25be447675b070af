import NetLL.Client.Download
import NetLL.Library.Handles

namespace NetLL
namespace Client
namespace Simulator

/-!
# What a download holds

`HttpDownloadFile` goes through the addresses of the host until one of them
takes the connection, puts a TLS session on it when the scheme asks for one,
and opens the file in the middle of the response.  Everything that it gets it
gives back on every path, in the order in which one thing needs another.  The
one result that it does not look at is the one of `SSL_new`.
-/

/-- What the C library, OpenSSL and the file system hand out.  A download has
at most one of each but for descriptors. -/
inductive Resource where
  | addresses
  | socket (descriptor : Nat)
  | context
  | session
  | file
deriving DecidableEq, Repr

inductive Phase where
  | held
  | created
  | connected
  /-- A session that has its descriptor. -/
  | attached
  | secured
deriving DecidableEq, Repr

/-- The calls of the libraries, with their results. -/
inductive LibraryCall where
  | createPathDirectories (filePath : CString)
  | getaddrinfo (host port : CString) (succeeds : Bool)
  | socket (sockfd : Option Nat)
  | connect (sockfd : Nat) (succeeds : Bool)
  | close (sockfd : Nat)
  | freeaddrinfo
  | sslCtxNew (succeeds : Bool)
  | sslNew (succeeds : Bool)
  | sslSetFd (sockfd : Nat)
  | sslSetTlsextHostName (host : CString)
  | sslConnect (sockfd : Nat) (succeeds : Bool)
  | sslWrite (sockfd : Nat) (data : List UInt8)
  | sslRead (sockfd : Nat)
  | sslShutdown (sockfd : Nat)
  /-- A null pointer is allowed here. -/
  | sslFree (session : Bool)
  | sslCtxFree
  | send (sockfd : Nat) (data : List UInt8)
  | recv (sockfd : Nat)
  | file (event : FileEvent)
deriving DecidableEq

/-- A resource that is used and stays in its phase. -/
abbrev touch (resource : Resource) (phase : Phase) : Handles.Act Resource Phase :=
  .move resource phase phase

/-- What a call gets, uses and gives back.  A session uses its descriptor. -/
def LibraryCall.acts : LibraryCall → List (Handles.Act Resource Phase)
  | .createPathDirectories _ => []
  | .getaddrinfo _ _ succeeds => if succeeds then [.gain .addresses .held] else []
  | .socket sockfd =>
      touch .addresses .held :: (sockfd.map fun sockfd => .gain (.socket sockfd) .created).toList
  | .connect sockfd succeeds =>
      [touch .addresses .held,
        .move (.socket sockfd) .created (if succeeds then .connected else .created)]
  | .close sockfd => [.drop (.socket sockfd)]
  | .freeaddrinfo => [.drop .addresses]
  | .sslCtxNew succeeds => if succeeds then [.gain .context .held] else []
  | .sslNew succeeds => touch .context .held :: if succeeds then [.gain .session .created] else []
  | .sslSetFd sockfd => [.move .session .created .attached, touch (.socket sockfd) .connected]
  | .sslSetTlsextHostName _ => [touch .session .attached]
  | .sslConnect sockfd succeeds =>
      [.move .session .attached (if succeeds then .secured else .attached),
        touch (.socket sockfd) .connected]
  | .sslWrite sockfd _ => [touch .session .secured, touch (.socket sockfd) .connected]
  | .sslRead sockfd => [touch .session .secured, touch (.socket sockfd) .connected]
  | .sslShutdown sockfd => [touch .session .secured, touch (.socket sockfd) .connected]
  | .sslFree session => if session then [.drop .session] else []
  | .sslCtxFree => [.drop .context]
  | .send sockfd _ => [touch (.socket sockfd) .connected]
  | .recv sockfd => [touch (.socket sockfd) .connected]
  | .file .opened => [.gain .file .held]
  | .file (.wrote _) => [touch .file .held]
  | .file .closed => [.drop .file]

def acts (calls : List LibraryCall) : List (Handles.Act Resource Phase) :=
  calls.flatMap LibraryCall.acts

@[simp] theorem acts_nil : acts [] = [] := rfl

theorem acts_cons (call : LibraryCall) (calls : List LibraryCall) :
    acts (call :: calls) = call.acts ++ acts calls := rfl

@[simp] theorem acts_append (first second : List LibraryCall) :
    acts (first ++ second) = acts first ++ acts second :=
  List.flatMap_append

/-- What comes of one address: `socket` and `connect`. -/
structure Attempt where
  socket : Option Nat
  connects : Bool
deriving DecidableEq, Repr

/-- The results of OpenSSL for one connection. -/
structure TlsAnswers where
  context : Bool
  session : Bool
  connects : Bool
deriving DecidableEq, Repr

/-- What a download meets, in more detail than its `Environment`: the addresses
of a host, and the results of OpenSSL. -/
structure World where
  resolves : CString → CString → Option (List Attempt)
  tls : CString → TlsAnswers
  sent : SendResult
  results : List ReceiveResult
  opens : CString → Bool
  headerBuffer : List UInt8
  beyond : List UInt8
  size : headerBuffer.length = headerBufferSize

/-! ## The code -/

/-- The loop in `ConnectSocket`. -/
def tryAddresses : List Attempt → Option Nat × List LibraryCall
  | [] => (none, [])
  | attempt :: rest =>
      match attempt.socket with
      | none =>
          let (found, calls) := tryAddresses rest
          (found, .socket none :: calls)
      | some sockfd =>
          if attempt.connects then (some sockfd, [.socket sockfd, .connect sockfd true])
          else
            let (found, calls) := tryAddresses rest
            (found, [.socket sockfd, .connect sockfd false, .close sockfd] ++ calls)

/-- `ConnectSocket`. -/
def connectSocket (host port : CString) : Option (List Attempt) → Option Nat × List LibraryCall
  | none => (none, [.getaddrinfo host port false])
  | some attempts =>
      let (found, calls) := tryAddresses attempts
      (found, [.getaddrinfo host port true] ++ calls ++ [.freeaddrinfo])

/-- `EstablishTLS`: whether the pointer that it returns is not null. -/
def establishTls (sockfd : Nat) (host : CString) (answers : TlsAnswers) :
    Bool × List LibraryCall :=
  if !answers.context then (false, [.sslCtxNew false])
  else
    let calls := [.sslCtxNew true, .sslNew answers.session, .sslSetFd sockfd,
      .sslSetTlsextHostName host, .sslConnect sockfd answers.connects]
    if !answers.connects then (false, calls ++ [.sslFree answers.session, .sslCtxFree])
    else (answers.session, calls)

/-- `ReceiveData`. -/
def receiveData (ssl : Bool) (sockfd : Nat) : LibraryCall :=
  if ssl then .sslRead sockfd else .recv sockfd

/-- `SendRequest`, with what is sent. -/
def sendData (ssl : Bool) (sockfd : Nat) (data : List UInt8) : LibraryCall :=
  if ssl then .sslWrite sockfd data else .send sockfd data

/-- The loop in `ReadResponseToFile`, with its calls.  The file events that a
round adds come behind its read. -/
def readCalls (opens : Bool) (receive : LibraryCall) :
    List ReceiveResult → ReadState → Exec (Outcome × List LibraryCall)
  | [], _ => .waiting
  | result :: rest, state => do
      let round ← readRound opens state result
      match round with
      | .again next =>
          let (outcome, calls) ← readCalls opens receive rest next
          return (outcome,
            receive :: ((next.file.drop state.file.length).map .file ++ calls))
      | .stop outcome =>
          return (outcome, receive :: (outcome.file.drop state.file.length).map .file)

/-- `CleanupSSL`; without a session there is no context either. -/
def cleanupSsl (ssl : Bool) (sockfd : Nat) : List LibraryCall :=
  if ssl then [.sslShutdown sockfd, .sslFree true, .sslCtxFree] else []

/-- `ConnectSocket` in a download. -/
def World.connected (world : World) (parsed : Url) : Option Nat × List LibraryCall :=
  connectSocket parsed.host parsed.port (world.resolves parsed.host parsed.port)

/-- `EstablishTLS` in a download, where the scheme asks for it. -/
def World.secured (world : World) (parsed : Url) (sockfd : Nat) :
    Bool × List LibraryCall :=
  if parsed.https then establishTls sockfd parsed.host (world.tls parsed.host) else (false, [])

/-- `HttpDownloadFile` with its calls. -/
def downloadCalls (world : World) (url filePath : CString) :
    Exec (Outcome × List LibraryCall) := do
  let parsed := parseUrl url
  let calls := .createPathDirectories filePath :: (world.connected parsed).2
  match (world.connected parsed).1 with
  | none => return (⟨false, []⟩, calls)
  | some sockfd =>
      let ssl := (world.secured parsed sockfd).1
      let calls := calls ++ (world.secured parsed sockfd).2
      if parsed.https && !ssl then return (⟨false, []⟩, calls ++ [.close sockfd])
      let request := buildRequest parsed.host parsed.path
      let (outcome, reading) ← readCalls (world.opens filePath) (receiveData ssl sockfd)
        world.results (initialState world.headerBuffer world.beyond)
      return (outcome, calls ++ [sendData ssl sockfd request] ++ reading ++
        cleanupSsl ssl sockfd ++ [.close sockfd])

/-! ## What is held between the calls -/

open Handles Handles.Store

/-- A connection, with a session and its context when it is secured. -/
def connection (ssl : Bool) (sockfd : Nat) : Store Resource Phase
  | .socket other => if other = sockfd then some .connected else none
  | .context => if ssl then some .held else none
  | .session => if ssl then some .secured else none
  | .addresses => none
  | .file => none

/-- The addresses are held, and the connection when there is one. -/
def trying (found : Option Nat) : Store Resource Phase
  | .addresses => some .held
  | other => (found.map (connection false)).elim none (· other)

/-- A descriptor that is not connected is closed again. -/
theorem tryAddresses_turns (attempts : List Attempt) :
    Turns (trying none) (acts (tryAddresses attempts).2) (trying (tryAddresses attempts).1) := by
  have waits : Turns (trying none) [touch .addresses .held] (trying none) := by
    refine fun _ => ⟨⟨rfl, trivial⟩, ?_⟩
    funext resource
    cases resource <;> rfl
  induction attempts with
  | nil => exact .nil _
  | cons attempt rest inductionHypothesis =>
      rcases attempt with ⟨_ | sockfd, connects⟩
      · exact waits.append inductionHypothesis
      · have opens := Turns.gain (Resource.socket sockfd) Phase.created
        cases connects with
        | false =>
            have closes := (Turns.move (Resource.socket sockfd) Phase.created Phase.created).append
              (.drop (Resource.socket sockfd) Phase.created)
            have gone := waits.append (opens.bracket waits closes)
            exact gone.append inductionHypothesis
        | true =>
            refine fun _ => ⟨?_, ?_⟩
            · simp [acts, tryAddresses, LibraryCall.acts, AllAllowed, Act.Allowed, after, trying]
            · funext resource
              cases resource with
              | socket other =>
                  by_cases same : other = sockfd
                  · simp [acts, tryAddresses, LibraryCall.acts, final, after, trying, connection,
                      same]
                  · simp [acts, tryAddresses, LibraryCall.acts, final, after, trying, connection,
                      same]
              | _ => rfl

/-- The connection that was found, if any. -/
def reached : Option Nat → Store Resource Phase
  | none => .empty
  | some sockfd => connection false sockfd

/-- The list of addresses is given back on both ways. -/
theorem connectSocket_turns (host port : CString) (answer : Option (List Attempt)) :
    Turns empty (acts (connectSocket host port answer).2)
      (reached (connectSocket host port answer).1) := by
  cases answer with
  | none => exact .nil _
  | some attempts =>
      have opens : Turns empty [.gain Resource.addresses Phase.held] (trying none) := by
        refine fun _ => ⟨⟨trivial, trivial⟩, ?_⟩
        funext resource
        cases resource <;> rfl
      have closes (found : Option Nat) :
          Turns (trying found) [.drop Resource.addresses] (reached found) := by
        refine fun _ => ⟨⟨Option.some_ne_none _, trivial⟩, ?_⟩
        funext resource
        cases found <;> cases resource <;> rfl
      change Turns empty (acts ([.getaddrinfo host port true] ++ (tryAddresses attempts).2 ++
        [.freeaddrinfo])) (reached (tryAddresses attempts).1)
      rw [acts_append, acts_append]
      exact (opens.append (tryAddresses_turns attempts)).append (closes _)

/-- A session that was made is on its connection, or it is given back with its
context. -/
theorem establishTls_turns (sockfd : Nat) (host : CString) {answers : TlsAnswers}
    (made : answers.context = true → answers.session = true) :
    Turns (connection false sockfd) (acts (establishTls sockfd host answers).2)
      (connection (establishTls sockfd host answers).1 sockfd) := by
  rcases answers with ⟨context, session, connects⟩
  cases context with
  | false => exact .nil _
  | true =>
      cases made rfl
      cases connects with
      | false =>
          refine fun _ => ⟨?_, ?_⟩
          · simp [acts, establishTls, LibraryCall.acts, AllAllowed, Act.Allowed, after, connection]
          · funext resource
            cases resource with
            | socket other =>
                by_cases same : other = sockfd <;>
                  simp [acts, establishTls, LibraryCall.acts, final, after, connection, same]
            | _ => rfl
      | true =>
          refine fun _ => ⟨?_, ?_⟩
          · simp [acts, establishTls, LibraryCall.acts, AllAllowed, Act.Allowed, after, connection]
          · funext resource
            cases resource with
            | socket other =>
                by_cases same : other = sockfd <;>
                  simp [acts, establishTls, LibraryCall.acts, final, after, connection, same]
            | _ => rfl

theorem touch_turns {own : Store Resource Phase} {resource : Resource} {phase : Phase}
    (held : own resource = some phase) : Turns own [touch resource phase] own := by
  refine fun _ => ⟨⟨held, trivial⟩, ?_⟩
  change Function.update own resource (some phase) = own
  rw [← held, Function.update_eq_self]

theorem transport_turns {own : Store Resource Phase} {ssl : Bool} {sockfd : Nat}
    (socket : own (.socket sockfd) = some .connected)
    (session : ssl = true → own .session = some .secured) (data : List UInt8) :
    Turns own (acts [receiveData ssl sockfd]) own ∧
      Turns own (acts [sendData ssl sockfd data]) own := by
  cases ssl with
  | false => exact ⟨touch_turns socket, touch_turns socket⟩
  | true =>
      have both := (touch_turns (session rfl)).append (touch_turns socket)
      exact ⟨both, both⟩

theorem cleanupSsl_turns (ssl : Bool) (sockfd : Nat) :
    Turns (connection ssl sockfd) (acts (cleanupSsl ssl sockfd)) (connection false sockfd) := by
  cases ssl with
  | false => exact .nil _
  | true =>
      refine fun _ => ⟨?_, ?_⟩
      · simp [acts, cleanupSsl, LibraryCall.acts, AllAllowed, Act.Allowed, after, connection]
      · funext resource
        cases resource with
        | socket other =>
            by_cases same : other = sockfd <;>
              simp [acts, cleanupSsl, LibraryCall.acts, final, after, connection, same]
        | _ => rfl

theorem close_turns (sockfd : Nat) :
    Turns (connection false sockfd) (acts [.close sockfd]) empty := by
  refine fun _ => ⟨?_, ?_⟩
  · simp [acts, LibraryCall.acts, AllAllowed, Act.Allowed, connection]
  · funext resource
    cases resource with
    | socket other =>
        by_cases same : other = sockfd <;>
          simp [acts, LibraryCall.acts, final, after, connection, empty, same]
    | _ => rfl

/-! ## The file in the middle of the response -/

/-- The connection, with the file when it is open. -/
def reading (opened ssl : Bool) (sockfd : Nat) : Store Resource Phase
  | .file => if opened then some .held else none
  | other => connection ssl sockfd other

/-- What is done to the file opens it or closes it, or only uses it. -/
def FileTurns (opened : Bool) (events : List FileEvent) (left : Bool) : Prop :=
  ∀ ssl sockfd, Turns (reading opened ssl sockfd) (acts (events.map .file))
    (reading left ssl sockfd)

theorem fileTurns_nil (opened : Bool) : FileTurns opened [] opened :=
  fun _ _ => .nil _

theorem fileTurns_opened : FileTurns false [.opened] true := by
  refine fun ssl sockfd _ => ⟨⟨trivial, trivial⟩, ?_⟩
  funext resource
  cases resource <;> rfl

theorem fileTurns_wrote (bytes : List UInt8) : FileTurns true [.wrote bytes] true :=
  fun _ _ => touch_turns rfl

theorem fileTurns_closed : FileTurns true [.closed] false := by
  refine fun ssl sockfd _ => ⟨⟨Option.some_ne_none _, trivial⟩, ?_⟩
  funext resource
  cases resource <;> rfl

theorem FileTurns.append {opened middle left : Bool} {events more : List FileEvent}
    (first : FileTurns opened events middle) (second : FileTurns middle more left) :
    FileTurns opened (events ++ more) left := by
  intro ssl sockfd
  rw [List.map_append, acts_append]
  exact (first ssl sockfd).append (second ssl sockfd)

theorem copy_frame {state stored : ReadState} {bytes : List UInt8}
    (copied : state.copy bytes = .done stored) :
    stored.headersSkipped = state.headersSkipped ∧ stored.fileOpened = state.fileOpened ∧
      stored.file = state.file := by
  rcases Exec.bind_eq_done_iff.mp copied with ⟨memory, _, same⟩
  cases same
  exact ⟨rfl, rfl, rfl⟩

theorem writeFront_frame {state written : ReadState} {skipped : Skipped} {body : Nat}
    (front : state.writeFront skipped body = .done written) :
    written.headersSkipped = state.headersSkipped ∧ written.fileOpened = state.fileOpened ∧
      (written.file = state.file ∨ ∃ bytes, written.file = state.file ++ [.wrote bytes]) := by
  rw [ReadState.writeFront] at front
  split at front
  · rcases Exec.bind_eq_done_iff.mp front with ⟨bytes, _, same⟩
    cases same
    exact ⟨rfl, rfl, Or.inr ⟨bytes, rfl⟩⟩
  · cases front
    exact ⟨rfl, rfl, Or.inl rfl⟩

theorem afterLoop_turns (state : ReadState) :
    ∃ events, (afterLoop state).file = state.file ++ events ∧
      FileTurns state.fileOpened events false := by
  unfold afterLoop
  cases state.fileOpened with
  | true => exact ⟨[.closed], rfl, fileTurns_closed⟩
  | false => exact ⟨[], (List.append_nil _).symm, fileTurns_nil false⟩

theorem readRound_turns {opens : Bool} {state : ReadState} {result : ReceiveResult}
    {round : Round ReadState Outcome} (behind : state.headersSkipped = state.fileOpened)
    (taken : readRound opens state result = .done round) :
    match round with
    | .again next => next.headersSkipped = next.fileOpened ∧
        ∃ events, next.file = state.file ++ events ∧
          FileTurns state.fileOpened events next.fileOpened
    | .stop outcome => ∃ events, outcome.file = state.file ++ events ∧
        FileTurns state.fileOpened events false := by
  cases result with
  | failed =>
      cases taken
      exact afterLoop_turns state
  | received available =>
      rw [readRound] at taken
      by_cases empty : available.take httpBufferSize = []
      · rw [if_pos empty] at taken
        cases taken
        exact afterLoop_turns state
      · rw [if_neg empty] at taken
        cases opened : state.headersSkipped with
        | true =>
            rw [if_pos opened] at taken
            cases taken
            rw [opened] at behind
            refine ⟨opened.trans behind, _, rfl, ?_⟩
            rw [← behind]
            exact fileTurns_wrote _
        | false =>
            rw [opened, Eq.comm] at behind
            rw [if_neg (by rw [opened]; decide)] at taken
            rcases Exec.bind_eq_done_iff.mp taken with ⟨stored, copied, taken⟩
            rcases copy_frame copied with ⟨skipped, closed, file⟩
            rw [opened] at skipped
            rw [behind] at closed ⊢
            rcases Exec.bind_eq_done_iff.mp taken with ⟨searched, _, taken⟩
            cases body : searched.body with
            | none =>
                rw [body] at taken
                cases taken
                refine ⟨skipped.trans closed.symm, [], ?_, ?_⟩
                · rw [file, List.append_nil]
                · rw [closed]
                  exact fileTurns_nil false
            | some offset =>
                rw [body] at taken
                cases opens with
                | false =>
                    cases taken
                    refine ⟨[], ?_, fileTurns_nil false⟩
                    change stored.file = _
                    rw [file, List.append_nil]
                | true =>
                    rcases Exec.bind_eq_done_iff.mp taken with ⟨written, front, taken⟩
                    cases taken
                    rcases writeFront_frame front with ⟨still, opened, same | ⟨bytes, same⟩⟩
                    · refine ⟨still.trans opened.symm, [.opened], ?_, ?_⟩
                      · rw [same, ← file]
                      · rw [opened]
                        exact fileTurns_opened
                    · refine ⟨still.trans opened.symm, [.opened, .wrote bytes], ?_, ?_⟩
                      · rw [same, ← file]
                        exact List.append_assoc _ _ _
                      · rw [opened]
                        exact fileTurns_opened.append (fileTurns_wrote bytes)

/-- The file events among the calls. -/
def fileCalls (calls : List LibraryCall) : List FileEvent :=
  calls.filterMap fun
    | .file event => some event
    | _ => none

theorem fileCalls_receive (ssl : Bool) (sockfd : Nat) (events : List FileEvent)
    (calls : List LibraryCall) :
    fileCalls (receiveData ssl sockfd :: (events.map .file ++ calls)) =
      events ++ fileCalls calls := by
  have kept : fileCalls (events.map .file) = events := by
    rw [fileCalls, List.filterMap_map]
    exact List.filterMap_some
  have silent : fileCalls (receiveData ssl sockfd :: (events.map .file ++ calls)) =
      fileCalls (events.map .file ++ calls) := by
    cases ssl <;> rfl
  rw [silent, fileCalls, List.filterMap_append]
  exact congrArg (· ++ fileCalls calls) kept

theorem readCalls_outcome (opens : Bool) (receive : LibraryCall) (results : List ReceiveResult)
    (state : ReadState) :
    (readCalls opens receive results state >>= fun run => .done run.1) =
      Exec.loop (fun _ => true) (readRound opens) afterLoop results state := by
  induction results generalizing state with
  | nil => rfl
  | cons result rest inductionHypothesis =>
      rw [readCalls, Exec.loop, if_pos rfl]
      cases readRound opens state result with
      | waiting => rfl
      | fault => rfl
      | done round =>
          cases round with
          | stop outcome => rfl
          | again next =>
              rw [Exec.done_bind, Exec.bind_assoc]
              exact inductionHypothesis next

/-- The rounds hold the connection, and behind them the file is closed. -/
theorem readCalls_turns {opens ssl : Bool} {sockfd : Nat} {results : List ReceiveResult}
    {state : ReadState} (behind : state.headersSkipped = state.fileOpened) {outcome : Outcome}
    {calls : List LibraryCall}
    (done : readCalls opens (receiveData ssl sockfd) results state = .done (outcome, calls)) :
    Turns (reading state.fileOpened ssl sockfd) (acts calls) (reading false ssl sockfd) ∧
      outcome.file = state.file ++ fileCalls calls := by
  induction results generalizing state calls with
  | nil => cases done
  | cons result rest inductionHypothesis =>
      have waits := (@transport_turns (reading state.fileOpened ssl sockfd) ssl sockfd
        (if_pos rfl) (fun secured => if_pos secured) []).1
      rw [readCalls] at done
      rcases Exec.bind_eq_done_iff.mp done with ⟨round, taken, done⟩
      have turned := readRound_turns behind taken
      cases round with
      | again next =>
          rcases turned with ⟨behind, events, file, turns⟩
          rcases Exec.bind_eq_done_iff.mp done with ⟨⟨last, others⟩, later, same⟩
          cases same
          rcases inductionHypothesis behind later with ⟨rest, lastFile⟩
          have added : next.file.drop state.file.length = events := by
            rw [file, List.drop_left]
          rw [added]
          refine ⟨?_, ?_⟩
          · rw [acts_cons, acts_append]
            have first : acts [receiveData ssl sockfd] = (receiveData ssl sockfd).acts :=
              List.append_nil _
            rw [first] at waits
            exact waits.append ((turns ssl sockfd).append rest)
          · rw [lastFile, file, fileCalls_receive, List.append_assoc]
      | stop last =>
          rcases turned with ⟨events, file, turns⟩
          cases done
          have added : outcome.file.drop state.file.length = events := by
            rw [file, List.drop_left]
          rw [added]
          refine ⟨?_, ?_⟩
          · rw [acts_cons]
            have first : acts [receiveData ssl sockfd] = (receiveData ssl sockfd).acts :=
              List.append_nil _
            rw [first] at waits
            exact waits.append (turns ssl sockfd)
          · have shown := fileCalls_receive ssl sockfd events []
            rw [List.append_nil] at shown
            rw [shown, file]
            exact congrArg _ (List.append_nil _).symm

/-! ## The whole download -/

/-- When a connection is there to be secured and OpenSSL makes a context for it,
it makes a session on the context. -/
def World.MakesSessions (world : World) (parsed : Url) : Prop :=
  parsed.https = true → (world.connected parsed).1.isSome = true →
    (world.tls parsed.host).context = true → (world.tls parsed.host).session = true

/-- The environment that the world comes to. -/
def World.environment (world : World) : Environment where
  connects host port := (connectSocket host port (world.resolves host port)).1.isSome
  establishes host := (establishTls 0 host (world.tls host)).1
  sent := world.sent
  results := world.results
  opens := world.opens
  headerBuffer := world.headerBuffer
  beyond := world.beyond
  size := world.size

theorem establishTls_fst (sockfd other : Nat) (host : CString) (answers : TlsAnswers) :
    (establishTls sockfd host answers).1 = (establishTls other host answers).1 := by
  rcases answers with ⟨_ | _, session, _ | _⟩ <;> rfl

theorem readCalls_agrees (world : World) (filePath : CString) (receive : LibraryCall)
    {front : List DownloadEvent} (nothing : fileEvents front = []) :
    (readCalls (world.opens filePath) receive world.results
        (initialState world.headerBuffer world.beyond) >>= fun run =>
          .done (run.1.returned, run.1.file)) =
      readResponseToFile (world.opens filePath) world.headerBuffer world.beyond world.results >>=
        fun outcome => .done (outcome.returned,
          fileEvents (front ++ outcome.file.map .file ++ [.disconnected])) := by
  rw [readResponseToFile, ← readCalls_outcome _ receive, Exec.bind_assoc]
  simp only [Exec.done_bind, fileEvents_file nothing]

theorem World.secured_fst (world : World) (parsed : Url) (sockfd : Nat) :
    (parsed.https && !(world.secured parsed sockfd).1) =
      (parsed.https && !world.environment.establishes parsed.host) := by
  rw [World.secured]
  cases parsed.https with
  | false => rfl
  | true => exact congrArg _ (congrArg _ (establishTls_fst sockfd 0 _ _))

/-- With its calls, a download returns the same and does the same to the file. -/
theorem downloadCalls_agrees (world : World) (url filePath : CString) :
    (downloadCalls world url filePath >>= fun run => .done (run.1.returned, run.1.file)) =
      httpDownloadFile world.environment url filePath >>= fun download =>
        .done (download.returned, fileEvents download.events) := by
  have connects : world.environment.connects (parseUrl url).host (parseUrl url).port =
      (world.connected (parseUrl url)).1.isSome := rfl
  simp only [downloadCalls, httpDownloadFile, connects]
  cases (world.connected (parseUrl url)).1 with
  | none => rfl
  | some sockfd =>
      simp only [Option.isSome_some, Bool.not_true, Bool.false_eq_true, if_false,
        world.secured_fst]
      cases ((parseUrl url).https && !world.environment.establishes (parseUrl url).host) with
      | true => rfl
      | false =>
          simp only [Bool.false_eq_true, if_false, Exec.pure_eq, Exec.bind_assoc, Exec.done_bind]
          refine readCalls_agrees world filePath _ ?_
          cases (parseUrl url).https <;> rfl

/-! ## Everything is given back -/

theorem reading_closed (ssl : Bool) (sockfd : Nat) :
    reading false ssl sockfd = connection ssl sockfd := by
  funext resource
  cases resource <;> rfl

/-- From the request on, a connection with its session is used and given back. -/
theorem request_turns {opens ssl : Bool} {sockfd : Nat} {results : List ReceiveResult}
    {state : ReadState} (skipped : state.headersSkipped = false) (closed : state.fileOpened = false)
    {outcome : Outcome} {reads : List LibraryCall}
    (done : readCalls opens (receiveData ssl sockfd) results state = .done (outcome, reads))
    (request : List UInt8) :
    Turns (connection ssl sockfd)
      (acts ([sendData ssl sockfd request] ++ reads ++ cleanupSsl ssl sockfd ++ [.close sockfd]))
      empty := by
  have sends := (@transport_turns (connection ssl sockfd) ssl sockfd
    (if_pos rfl) (fun secured => if_pos secured) request).2
  have reading := (readCalls_turns (skipped.trans closed.symm) done).1
  rw [closed, reading_closed] at reading
  rw [acts_append, acts_append, acts_append]
  exact ((sends.append reading).append (cleanupSsl_turns ssl sockfd)).append
    (close_turns sockfd)

/-- Without a session there is nothing that the descriptor could be set on. -/
theorem establishTls_missing (sockfd : Nat) (host : CString) {answers : TlsAnswers}
    (context : answers.context = true) (session : answers.session = false)
    (more : List (Act Resource Phase)) :
    ¬ AllAllowed (connection false sockfd) (acts (establishTls sockfd host answers).2 ++ more) := by
  intro allowed
  rcases answers with ⟨_, _, connects⟩
  cases context
  cases session
  have set : Act.Allowed (connection false sockfd)
      (.move Resource.session Phase.created Phase.attached) := by
    cases connects with
    | false => exact allowed.2.2.1
    | true => exact allowed.2.2.1
  cases set

theorem World.secured_turns {world : World} {parsed : Url} (sockfd : Nat)
    (made : parsed.https = true → (world.tls parsed.host).context = true →
      (world.tls parsed.host).session = true) :
    Turns (connection false sockfd) (acts (world.secured parsed sockfd).2)
      (connection (world.secured parsed sockfd).1 sockfd) := by
  rw [World.secured]
  cases https : parsed.https with
  | false => exact .nil _
  | true => exact establishTls_turns sockfd parsed.host (made https)

/-- Behind the connection and its session, a download gives both back. -/
theorem downloadCalls_connected {world : World} {url filePath : CString} {outcome : Outcome}
    {calls : List LibraryCall} {sockfd : Nat}
    (found : (world.connected (parseUrl url)).1 = some sockfd)
    (done : downloadCalls world url filePath = .done (outcome, calls)) :
    ∃ more, calls = .createPathDirectories filePath :: (world.connected (parseUrl url)).2 ++
        (world.secured (parseUrl url) sockfd).2 ++ more ∧
      Turns (connection (world.secured (parseUrl url) sockfd).1 sockfd) (acts more) empty := by
  simp only [downloadCalls, found] at done
  split at done
  case isTrue missing =>
    rw [Bool.and_eq_true, Bool.not_eq_true'] at missing
    cases done
    refine ⟨_, rfl, ?_⟩
    rw [missing.2]
    exact close_turns sockfd
  case isFalse =>
    rcases Exec.bind_eq_done_iff.mp done with ⟨⟨last, reads⟩, read, same⟩
    cases same
    refine ⟨_, ?_, request_turns rfl rfl read
      (buildRequest (parseUrl url).host (parseUrl url).path)⟩
    simp only [List.append_assoc]

/-- A download that comes to an end uses everything that it gets only while it
is held and ready for the use, gives it back once, and keeps nothing, whatever
fails on its way, exactly when OpenSSL makes a session on its context. -/
theorem download_gives_back_iff {world : World} {url filePath : CString} {outcome : Outcome}
    {calls : List LibraryCall}
    (done : downloadCalls world url filePath = .done (outcome, calls))
    (given : AllGiven empty (acts calls)) :
    (AllAllowed empty (acts calls) ∧ final empty (acts calls) = empty) ↔
      world.MakesSessions (parseUrl url) := by
  have connects : Turns empty (acts (world.connected (parseUrl url)).2)
      (reached (world.connected (parseUrl url)).1) := connectSocket_turns _ _ _
  unfold World.MakesSessions
  cases found : (world.connected (parseUrl url)).1 with
  | none =>
      simp only [downloadCalls, found] at done
      cases done
      rw [found] at connects
      refine iff_of_true (connects given) ?_
      intro _ impossible
      cases impossible
  | some sockfd =>
      rw [found] at connects
      rcases downloadCalls_connected found done with ⟨more, rfl, gives⟩
      have front : acts (.createPathDirectories filePath ::
          (world.connected (parseUrl url)).2 ++ (world.secured (parseUrl url) sockfd).2 ++ more) =
          acts (world.connected (parseUrl url)).2 ++
            (acts (world.secured (parseUrl url) sockfd).2 ++ acts more) := by
        rw [acts_append, acts_append, List.append_assoc]
        rfl
      rw [front] at given ⊢
      constructor
      · rintro ⟨allowed, _⟩ https _ context
        cases session : (world.tls (parseUrl url).host).session with
        | true => rfl
        | false =>
            rw [allGiven_append] at given
            rw [allAllowed_append, (connects given.1).2, World.secured, if_pos https] at allowed
            exact absurd allowed.2 (establishTls_missing sockfd _ context session _)
      · intro made
        have secures := World.secured_turns sockfd fun https => made https rfl
        exact (connects.append (secures.append gives)) given

/-- A host with two addresses, of which the second one answers, over TLS. -/
def secondAddress : World where
  resolves := fun _ _ => some [⟨some 3, false⟩, ⟨some 3, true⟩]
  tls := fun _ => ⟨true, true, true⟩
  sent := .accepted requestSize
  results := [.received (ascii "HTTP/1.1 200 OK\r\n\r\nbo"), .received (ascii "dy"), .received []]
  opens := fun _ => true
  headerBuffer := zeroBuffer
  beyond := []
  size := zeroBuffer_length

/-- The descriptor of the first address is used again for the second one. -/
theorem download_gives_back_secondAddress : ∃ outcome calls,
    downloadCalls secondAddress (CString.literal "https://host/file") (CString.literal "file") =
        .done (outcome, calls) ∧
      outcome.file = [.opened, .wrote (ascii "bo"), .wrote (ascii "dy"), .closed] ∧
      AllAllowed empty (acts calls) ∧ final empty (acts calls) = empty := by
  have runs : (downloadCalls secondAddress (CString.literal "https://host/file")
      (CString.literal "file") >>= fun run =>
        .done (run.1.file, decide (AllGiven empty (acts run.2)))) =
      .done ([.opened, .wrote (ascii "bo"), .wrote (ascii "dy"), .closed], true) := by
    decide +kernel
  rcases Exec.bind_eq_done_iff.mp runs with ⟨⟨outcome, calls⟩, done, seen⟩
  rw [Exec.done.injEq, Prod.mk.injEq, decide_eq_true_eq] at seen
  rcases seen with ⟨file, given⟩
  refine ⟨outcome, calls, done, file, (download_gives_back_iff done given).mpr ?_⟩
  intro _ _ _
  rfl

end Simulator
end Client
end NetLL
